import JavaOutline.File.Folder
import JavaOutline.File.Kind
import JavaOutline.Indexer
import JavaOutline.Text.Line

namespace JavaOutline

open Text (Bytes)

/-!
# Scanning files and directories

A file given by its path has to be readable. In a directory, a file that
cannot be read is told of and left out, and the scan goes on. Files are read
one after the other, and what has been told in the meantime may already stand
in one of them, if it is the log.
-/

/-- Why a scan has no result. -/
inductive ScanFault (Fault : Type) where
  | file (fault : FileFault) (path : String)
  /-- The path has the character zero in it. -/
  | unusablePath
  | interrupted (cause : Interruption Fault)
  deriving Repr, DecidableEq

/-- The files as they are once the given events have been told. -/
abbrev Disk := List Event → FileSystem

/-- Files that stay the same whatever is told. -/
def Disk.still (system : FileSystem) : Disk :=
  fun _ => system

/-- What reading the file at a path gives once the given events have been told. -/
abbrev Reader := List Event → String → Except FileFault Bytes

/-- Read from a disk. -/
def Disk.reader (disk : Disk) : Reader :=
  fun told path => (disk told).read path

/-- The text in a file, with all its line ends written alike. -/
def textOfFile (bytes : Bytes) : String :=
  String.ofList (Text.unifyNewlines (Text.decodeChars bytes))

variable {State Fault : Type}

/-- The text that the file at a path has, from the outcome of reading it. -/
def textOfContent
    (path : String)
    (content : Except FileFault Bytes) :
    Except (ScanFault Fault) String :=
  match content with
  | .ok bytes => .ok (textOfFile bytes)
  | .error fault => .error (.file fault path)

/-- Read the text of the file at a path. -/
def readText (system : FileSystem) (path : String) : Except (ScanFault Fault) String :=
  if Path.hasZero path then
    .error .unusablePath
  else
    textOfContent path (system.read path)

/-- Outline a file, if it is of a kind that can be, from the outcome of reading its text. -/
def indexContent
    (indexer : Indexer State Fault)
    (config : ScanConfig)
    (path : String)
    (content : Except (ScanFault Fault) String) :
    Traced (ScanFault Fault) (Option FileOutcome) :=
  match config.classify path with
  | .extractable =>
      match content with
      | .error fault => throw fault
      | .ok text => do
          .tell (.indexing path)
          let outcome ← (indexer.index text path config.defaultPackage).mapFault .interrupted
          return some outcome
  | .notImplemented => do
      .tell (.noExtractor path)
      return none
  | .nonSource => return none
  | .unknown => return none

/-- Outline the file at a path. Only a file that is read needs a usable path. -/
def indexFile
    (indexer : Indexer State Fault)
    (config : ScanConfig)
    (disk : Disk)
    (path : String) :
    Traced (ScanFault Fault) (Option FileOutcome) :=
  indexContent indexer config path (readText (disk []) path)

/-- Tell of a file that cannot be read instead of failing with it. -/
def skipUnreadable
    (path : String)
    (computation : Traced (ScanFault Fault) (Option FileOutcome)) :
    Traced (ScanFault Fault) (Option FileOutcome) :=
  match computation.outcome with
  | .error (.file fault _) =>
      ⟨computation.events ++ [.unreadable path (fault.message path)], .ok none⟩
  | _ => computation

/-- Enter the outcome of a file into a catalog, if there is one. -/
def Catalog.putOptional
    (catalog : Catalog)
    (path : String)
    (outcome? : Option FileOutcome) :
    Catalog :=
  match outcome? with
  | some outcome => catalog.put path outcome
  | none => catalog

/-- Outline files one after the other, adding to a catalog; `told` are the events so far. -/
def indexAll
    (indexer : Indexer State Fault)
    (config : ScanConfig)
    (reader : Reader)
    (told : List Event)
    (catalog : Catalog) :
    List String → Traced (ScanFault Fault) Catalog
  | [] => pure catalog
  | path :: rest =>
      let indexed := skipUnreadable path
        (indexContent indexer config path (textOfContent path (reader told path)))
      indexed >>= fun outcome? =>
        indexAll indexer config reader (told ++ indexed.events)
          (catalog.putOptional path outcome?) rest

/-- Outline every file in a folder, in the order of names. -/
def indexFolder
    (indexer : Indexer State Fault)
    (config : ScanConfig)
    (reader : Reader)
    (path : String)
    (folder : Folder) :
    Traced (ScanFault Fault) Catalog :=
  indexAll indexer config reader [] .empty (folder.sorted.paths path)

/-- Outline every file below the directory at a path; no directory gives no outcome. -/
def indexDirectory
    (indexer : Indexer State Fault)
    (config : ScanConfig)
    (disk : Disk)
    (path : String) :
    Traced (ScanFault Fault) Catalog :=
  if Path.hasZero path then
    throw .unusablePath
  else
    match Folder.ofPath? (disk []) path with
    | some folder => indexFolder indexer config disk.reader path folder
    | none => pure .empty

/-- Outline the file, or every file below the directory, at a path. -/
def indexPath
    (indexer : Indexer State Fault)
    (config : ScanConfig)
    (disk : Disk)
    (path : String) :
    Traced (ScanFault Fault) Catalog :=
  match Folder.ofPath? (disk []) path with
  | some folder => indexFolder indexer config disk.reader path folder
  | none => do
      let outcome? ← indexFile indexer config disk path
      return Catalog.empty.putOptional path outcome?

end JavaOutline
