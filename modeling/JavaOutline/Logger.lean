import JavaOutline.Log

namespace JavaOutline

/-!
# Loggers in use

Records are addressed to loggers by dotted names. A logger stands below the
nearest logger in use whose name is its own up to a dot. Those that stand
below the logger of the program, at any depth, write as the program does. Any
other is a stray: it writes the bare message of warnings and of what is worse.
-/

/-- The parts of the program that have loggers of their own. -/
def programParts : List String :=
  ["indexer", "members", "scanning", "type_declarations"]

/-- The least important level that strays write. -/
def strayThreshold : Level := .warning

/-- The name of a logger from its last character on. -/
def backwards (name : String) : List Char :=
  name.toList.reverse

/--
A logger stands below the logger of the program. Names are read backwards: at
a dot, what remains is a name to stand below, and unless that name is in use
the character next to the dot is passed over. So of two dots in a row only the
last divides a name.
-/
def standsBelow (inUse : List (List Char)) : List Char → Bool
  | '.' :: last :: rest =>
      if last :: rest = backwards rootLogger then
        true
      else if inUse.contains (last :: rest) then
        standsBelow inUse (last :: rest)
      else
        standsBelow inUse rest
  | _ :: rest => standsBelow inUse rest
  | [] => false

/--
The loggers in use and how they write. Whether a logger takes records of a
level is settled at the first such record, and stays so until the settings
change, although other loggers that come into use may change its place.
-/
structure LogSession where
  settings : LogSettings
  inUse : List String
  settled : List ((String × Level) × Bool)
  deriving Repr, DecidableEq

namespace LogSession

/-- The loggers of the program, before any record. -/
def start (settings : LogSettings) : LogSession :=
  ⟨settings, rootLogger :: programParts.map loggerFor, []⟩

/-- Change the settings. -/
def configure (session : LogSession) (settings : LogSettings) : LogSession :=
  { session with settings := settings, settled := [] }

/-- A logger is that of the program or stands below it. -/
def isOfProgram (session : LogSession) (logger : String) : Bool :=
  logger == rootLogger ||
    standsBelow (session.inUse.map backwards) (backwards logger)

/-- A record is important enough for the place of its logger. -/
def accepts (session : LogSession) (record : LogRecord) : Bool :=
  if session.isOfProgram record.logger then
    session.settings.accepts record
  else
    strayThreshold.rank ≤ record.level.rank

/-- The logger of a record takes records of its level. -/
def takes (session : LogSession) (record : LogRecord) : Bool :=
  match session.settled.find? (fun entry => entry.1 == (record.logger, record.level)) with
  | some entry => entry.2
  | none => session.accepts record

/-- The line of a record, which depends on the place of its logger. -/
def line (session : LogSession) (record : LogRecord) : String :=
  if session.isOfProgram record.logger then record.consoleLine else record.message

/-- What a record adds to the console. -/
def consoleText (session : LogSession) (record : LogRecord) : String :=
  if session.takes record && session.accepts record then
    Text.ofLines [session.line record]
  else
    ""

/-- Take a logger into use. -/
def useLogger (session : LogSession) (logger : String) : LogSession :=
  if session.inUse.contains logger then
    session
  else
    { session with inUse := logger :: session.inUse }

/-- Settle whether the logger of a record takes records of its level. -/
def settle (session : LogSession) (record : LogRecord) : LogSession :=
  { session with
    settled := ((record.logger, record.level), session.takes record) :: session.settled }

/-- Write a record: what is added to the console, and the session from then on. -/
def write (session : LogSession) (record : LogRecord) : String × LogSession :=
  let current := session.useLogger record.logger
  (current.consoleText record, current.settle record)

end LogSession

end JavaOutline
