import JavaOutline.Event
import JavaOutline.Text.Line

namespace JavaOutline

/-!
# Where log records go

Records at or above a threshold are written to the console and, if there is
one, to a log file, in which each stands after the time of its writing.
-/

/-- How records are written. -/
structure LogSettings where
  threshold : Level
  toFile : Bool
  deriving Repr, DecidableEq

namespace LogSettings

/-- A verbose program writes debugging records too. -/
def configure (verbose toFile : Bool) : LogSettings :=
  ⟨if verbose then .debug else .info, toFile⟩

/-- The number of places that records are written to. -/
def sinks (settings : LogSettings) : Nat :=
  if settings.toFile then 2 else 1

/-- A record is important enough to be written. -/
def accepts (settings : LogSettings) (record : LogRecord) : Bool :=
  settings.threshold.rank ≤ record.level.rank

end LogSettings

/-- The line of a record on the console. -/
def LogRecord.consoleLine (record : LogRecord) : String :=
  "[" ++ rootLogger ++ "] " ++ record.level.name ++ " " ++ record.message

/-- The line of a record that is written to a log file at a given time. -/
def LogRecord.fileLine (time : String) (record : LogRecord) : String :=
  time ++ " " ++ record.level.name ++ " " ++ record.logger ++ ": " ++ record.message

/-- The time, in words, at which the record at each position of a log is written. -/
abbrev Clock := Nat → String

/-- The console text of records. -/
def LogSettings.consoleText (settings : LogSettings) (records : List LogRecord) : String :=
  Text.ofLines ((records.filter settings.accepts).map LogRecord.consoleLine)

/-- The text that records add to a log file. -/
def LogSettings.fileText
    (settings : LogSettings)
    (clock : Clock)
    (records : List LogRecord) :
    String :=
  Text.ofLines ((records.filter settings.accepts).mapIdx fun position record =>
    record.fileLine (clock position))

end JavaOutline
