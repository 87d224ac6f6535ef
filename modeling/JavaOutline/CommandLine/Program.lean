import JavaOutline.CommandLine.Request
import JavaOutline.CommandLine.Sample
import JavaOutline.CommandLine.Usage
import JavaOutline.Log
import JavaOutline.Report.Export
import JavaOutline.Report.Summary
import JavaOutline.Scan

namespace JavaOutline.CommandLine

open Text (Bytes)

/-!
# The program

A run is a function of the command line and of the surroundings: the file
system, and the parser if its grammar is installed. It gives back everything
that can be seen of it afterwards.
-/

/-- What a run finds. -/
structure Surroundings where
  files : FileSystem
  clock : Clock
  parser : Option (Bytes → Option Node)

/-- Why a run breaks off. -/
inductive Fault where
  /-- A log file is asked for and not named. -/
  | logUnnamed
  /-- The path of the log file has the character zero in it. -/
  | logUnusable
  /-- The log file cannot be opened. -/
  | log (fault : FileFault) (path : String)
  | scan (fault : ScanFault Empty)
  deriving Repr, DecidableEq

/-- What a run that breaks off says. -/
def Fault.message : Fault → String
  | .logUnnamed => "the log file has no name"
  | .logUnusable => "the path of the log file holds a character that no path can hold"
  | .log fault path => fault.message path
  | .scan (.file fault path) => fault.message path
  | .scan .unusablePath => "the path holds a character that no path can hold"
  | .scan (.interrupted .unencodable) => "the source holds a surrogate"
  | .scan (.interrupted .noTree) => "no tree for the source"
  | .scan (.interrupted (.listenerFailed fault)) => fault.elim

/-- How a run ends. -/
inductive Ending where
  /-- With an exit code, after its work is done. -/
  | exited (code : Nat)
  /-- With an exit code, after help or a usage error. -/
  | usage (code : Nat)
  | brokenOff (fault : Fault)
  deriving Repr, DecidableEq

/-- Everything that can be seen of a run. -/
structure Run where
  output : String
  console : String
  ending : Ending
  files : FileSystem

/-- The package for files that declare none. -/
def Arguments.fallbackPackage (arguments : Arguments) : String :=
  match arguments.package with
  | .text package => package
  | .nothing => ""

/-- How the export writes that a class is in no package. -/
def Arguments.noPackage (arguments : Arguments) : NoPackage :=
  match arguments.package with
  | .text _ => .emptyText
  | .nothing => .emptyList

/-- Outline what the arguments name, or the sample if they name nothing. -/
def collect
    (disk : Disk)
    (parse? : Bytes → Option Node)
    (arguments : Arguments) :
    Traced (ScanFault Empty) Catalog :=
  let indexer : Indexer (List SyntaxIssue) Empty := ⟨parse?, .collecting⟩
  let config := ScanConfig.standard arguments.fallbackPackage
  match arguments.path.getD "" with
  | "" => do
      let outcome ← (indexer.index sampleSource samplePath config.defaultPackage).mapFault
        .interrupted
      return Catalog.empty.put samplePath outcome
  | path => indexPath indexer config disk path

/-- The report that the arguments ask for. -/
def reportText (arguments : Arguments) (catalog : Catalog) : String :=
  if arguments.json then catalog.exportText arguments.noPackage ++ "\n" else catalog.summary

/-- What is told of a catalog in which some files failed. -/
def failureEvents (catalog : Catalog) : List Event :=
  if catalog.failures = 0 then
    []
  else
    [.runIncomplete catalog.failures catalog.entries.length]

/-- The work of a run: what it prints, what it tells, and how it ends. -/
structure Work where
  output : String
  events : List Event
  ending : Ending

/-- Do the work of a run, once its log is set up. -/
def work
    (disk : Disk)
    (parser : Option (Bytes → Option Node))
    (arguments : Arguments) :
    Work :=
  match parser with
  | none => ⟨"", [.grammarMissing], .exited 2⟩
  | some parse? =>
      let collected := collect disk parse? arguments
      match collected.outcome with
      | .error fault => ⟨"", collected.events, .brokenOff (.scan fault)⟩
      | .ok catalog => {
          output := reportText arguments catalog
          events := collected.events ++ failureEvents catalog
          ending := .exited (if catalog.failures = 0 then 0 else 1)
        }

/-- A file system, and the place of the log file in it if there is one. -/
structure Prepared where
  files : FileSystem
  log : Option (List String)

/-- Open the log file, if one is asked for. Its path is taken in normal form. -/
def openLog (files : FileSystem) (arguments : Arguments) : Except Fault Prepared :=
  match arguments.logFile with
  | none => .ok ⟨files, none⟩
  | some .nothing => .error .logUnnamed
  | some (.text path) =>
      let target := Path.absolute files.workingDirectory path
      if Path.hasZero target then
        .error .logUnusable
      else
        match files.openToAppend target with
        | .ok opened => .ok ⟨opened.2, some opened.1⟩
        | .error fault => .error (.log fault target)

/-- The files of a run: each event that is told is at once written to the log. -/
def Prepared.disk (prepared : Prepared) (settings : LogSettings) (clock : Clock) : Disk :=
  match prepared.log with
  | none => .still prepared.files
  | some place => fun told =>
      prepared.files.append place
        (Text.encode (settings.fileText clock (told.map Event.record)))

/-- Carry out a run with given arguments. -/
def execute (surroundings : Surroundings) (arguments : Arguments) : Run :=
  match openLog surroundings.files arguments with
  | .error fault => ⟨"", "", .brokenOff fault, surroundings.files⟩
  | .ok prepared =>
      let settings := LogSettings.configure arguments.verbose prepared.log.isSome
      let disk := prepared.disk settings surroundings.clock
      let done := work disk surroundings.parser arguments
      {
        output := done.output
        console := settings.consoleText (done.events.map Event.record)
        ending := done.ending
        files := disk done.events
      }

/-- Carry out what a command line asks for. -/
def run (surroundings : Surroundings) (words : List String) : Run :=
  match request words with
  | .error fault => ⟨"", fault.report, .usage 2, surroundings.files⟩
  | .ok .help => ⟨helpText, "", .usage 0, surroundings.files⟩
  | .ok (.run arguments) => execute surroundings arguments

end JavaOutline.CommandLine
