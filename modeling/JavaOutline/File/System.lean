import JavaOutline.File.Path
import JavaOutline.Text.Quoted
import JavaOutline.Text.Utf8

namespace JavaOutline

open Text (Bytes)

/-!
# File systems

A file system is a finite tree of regular files, directories and symbolic
links, with a working directory somewhere in it. Paths that do not begin with
a slash lead from there. A file may be there and still not open.
-/

/-- Why a file cannot be opened. -/
inductive FileFault where
  | notFound
  | permissionDenied
  | notDirectory
  | isDirectory
  | nameTooLong
  | tooManyLinks
  /-- A fault of another kind, as the system reports it. -/
  | other (number : Nat) (words : String)
  deriving Repr, DecidableEq

namespace FileFault

/-- The number by which systems report the fault. -/
def code : FileFault → Nat
  | notFound => 2
  | permissionDenied => 13
  | notDirectory => 20
  | isDirectory => 21
  | nameTooLong => 36
  | tooManyLinks => 40
  | other number _ => number

/-- The fault in words. -/
def description : FileFault → String
  | notFound => "No such file or directory"
  | permissionDenied => "Permission denied"
  | notDirectory => "Not a directory"
  | isDirectory => "Is a directory"
  | nameTooLong => "File name too long"
  | tooManyLinks => "Too many levels of symbolic links"
  | other _ words => words

/-- The fault together with the path that was to be opened. -/
def message (fault : FileFault) (path : String) : String :=
  "[Errno " ++ toString fault.code ++ "] " ++ fault.description ++ ": " ++ Text.quote path

end FileFault

/-- A file, a link or a directory. Links name their target relative to their own directory. -/
inductive FileEntry where
  | file (bytes : Bytes)
  /-- A file that fails whenever it is opened. -/
  | closed (fault : FileFault)
  | link (target : String)
  | directory (entries : List (String × FileEntry))

/-- What a directory holds. -/
abbrev Listing := List (String × FileEntry)

/-- The entry of a name. -/
def Listing.get? (listing : Listing) (name : String) : Option FileEntry :=
  (listing.find? (fun entry => entry.1 == name)).map Prod.snd

/-- Replace the entry of a name, or add it. -/
def Listing.put (listing : Listing) (name : String) (entry : FileEntry) : Listing :=
  listing.filter (fun other => other.1 != name) ++ [(name, entry)]

/-- The entry at a place, given by the names that lead to it. -/
def FileEntry.at? (entry : FileEntry) : List String → Option FileEntry
  | [] => some entry
  | name :: rest =>
      match entry with
      | .directory entries => (Listing.get? entries name).bind (fun inner => inner.at? rest)
      | _ => none

/-- Put an entry at a place, making the directories that lead to it where there is nothing. -/
def Listing.place (entry : FileEntry) : List String → Listing → Listing
  | [], listing => listing
  | [name], listing => listing.put name entry
  | name :: rest, listing =>
      match listing.get? name with
      | none => listing.put name (.directory (Listing.place entry rest []))
      | some (.directory inner) =>
          listing.put name (.directory (Listing.place entry rest inner))
      | some _ => listing

/-- The tree below the root directory, and the names that lead to the working directory. -/
structure FileSystem where
  listing : Listing
  workingDirectory : List String

/-- Where a path leads. -/
inductive Place where
  /-- To an entry that is not a link. -/
  | existing (names : List String)
  /-- To a name that an existing directory does not hold. -/
  | vacant (directory : List String) (name : String)
  deriving Repr, DecidableEq

/-- What a path is followed for. -/
inductive Purpose where
  /-- To find what is there. -/
  | find
  /-- To find a file, or to make it if it is not there. -/
  | create
  deriving Repr, DecidableEq

/-- Nothing but slashes comes after a name, and at least one. -/
def onlySlashes (rest : List String) : Bool :=
  !rest.isEmpty && rest.all (fun component => component == "")

namespace FileSystem

/-- A file system with a working directory and nothing in it. -/
def bare (workingDirectory : List String) : FileSystem :=
  ⟨Listing.place (.directory []) workingDirectory [], workingDirectory⟩

/-- The root directory. -/
def root (system : FileSystem) : FileEntry :=
  .directory system.listing

/-- At most this many links are followed on the way along one path. -/
def linkLimit : Nat := 40

/--
Follow the parts of a path from a place that is not a link. Every part needs a
directory to start from, also an empty one, so `a/` is not a file; nor is a
file made at a name with a slash after it. A link is replaced by the parts of
its target. The directory above the root is the root.
-/
def follow
    (system : FileSystem)
    (purpose : Purpose)
    (links : Nat)
    (names components : List String) :
    Except FileFault Place :=
  match components with
  | [] => .ok (.existing names)
  | component :: rest =>
      match system.root.at? names with
      | some (.directory entries) =>
          if component = "" || component = "." then
            system.follow purpose links names rest
          else if component = ".." then
            system.follow purpose links names.dropLast rest
          else if purpose = .create && onlySlashes rest then
            .error .isDirectory
          else if Path.isNameTooLong component then
            .error .nameTooLong
          else
            match Listing.get? entries component with
            | none => if rest.isEmpty then .ok (.vacant names component) else .error .notFound
            | some (.link target) =>
                match links with
                | 0 => .error .tooManyLinks
                | fewer + 1 =>
                    let start := if Path.isAbsolute target then [] else names
                    system.follow purpose fewer start (Path.components target ++ rest)
            | some _ => system.follow purpose links (names ++ [component]) rest
      | _ => .error .notDirectory
  termination_by (links, components.length)

/-- The place that a path is followed from. -/
def start (system : FileSystem) (path : String) : List String :=
  if Path.isAbsolute path then [] else system.workingDirectory

/-- Where a path leads. -/
def locate
    (system : FileSystem)
    (purpose : Purpose)
    (path : String) :
    Except FileFault Place :=
  if path = "" then
    .error .notFound
  else if Path.isTooLong path then
    .error .nameTooLong
  else
    system.follow purpose linkLimit (system.start path) (Path.components path)

/-- The contents of the file at a place. -/
def readPlace (system : FileSystem) (place : Place) : Except FileFault Bytes :=
  match place with
  | .vacant _ _ => .error .notFound
  | .existing names =>
      match system.root.at? names with
      | some (.file bytes) => .ok bytes
      | some (.closed fault) => .error fault
      | some (.directory _) => .error .isDirectory
      | _ => .error .notFound

/-- The contents of the file that a path leads to. -/
def read (system : FileSystem) (path : String) : Except FileFault Bytes :=
  (system.locate .find path).bind system.readPlace

/-- What is in the directory that a path leads to. -/
def directory? (system : FileSystem) (path : String) : Option Listing :=
  match system.locate .find path with
  | .ok (.existing names) =>
      match system.root.at? names with
      | some (.directory entries) => some entries
      | _ => none
  | _ => none

/-- Set the entry at a place. -/
def put (system : FileSystem) (names : List String) (entry : FileEntry) : FileSystem :=
  { system with listing := Listing.place entry names system.listing }

/-- Make a directory where the parts of a path lead to a vacant name. -/
def makeDirectory (system : FileSystem) (start components : List String) : FileSystem :=
  match system.follow .find linkLimit start components with
  | .ok (.vacant directory name) => system.put (directory ++ [name]) (.directory [])
  | _ => system

/-- Make the directories that are missing on the way along the parts of a path. -/
def makeWay
    (system : FileSystem)
    (start passed : List String) :
    List String → FileSystem
  | [] => system
  | component :: rest =>
      let reached := passed ++ [component]
      (system.makeDirectory start reached).makeWay start reached rest

/-- Make a directory and those that lead to it. -/
def addDirectory (system : FileSystem) (path : String) : FileSystem :=
  system.makeWay (system.start path) [] (Path.components path)

/-- Make the directories that lead to a file. -/
def addParents (system : FileSystem) (path : String) : FileSystem :=
  system.makeWay (system.start path) [] (Path.components path).dropLast

/-- Set the entry where a path leads, unless a directory is there. -/
def store (system : FileSystem) (path : String) (entry : FileEntry) : FileSystem :=
  match system.locate .create path with
  | .ok (.vacant directory name) => system.put (directory ++ [name]) entry
  | .ok (.existing names) =>
      match system.root.at? names with
      | some (.file _) => system.put names entry
      | _ => system
  | .error _ => system

/-- Write a file, following links and making the directories that lead to it. -/
def addFile (system : FileSystem) (path : String) (bytes : Bytes) : FileSystem :=
  (system.addParents path).store path (.file bytes)

/-- Make a link and the directories that lead to it. -/
def addLink (system : FileSystem) (path target : String) : FileSystem :=
  (system.addParents path).store path (.link target)

/-- Open a file for appending: the place of an existing file, or of a new empty one. -/
def openToAppend
    (system : FileSystem)
    (path : String) :
    Except FileFault (List String × FileSystem) := do
  match ← system.locate .create path with
  | .vacant directory name =>
      .ok (directory ++ [name], system.put (directory ++ [name]) (.file []))
  | .existing names =>
      match system.root.at? names with
      | some (.file _) => .ok (names, system)
      | some (.closed fault) => .error fault
      | _ => .error .isDirectory

/-- Add bytes at the end of the file at a place. -/
def append (system : FileSystem) (names : List String) (bytes : Bytes) : FileSystem :=
  match system.root.at? names with
  | some (.file old) => system.put names (.file (old ++ bytes))
  | _ => system

end FileSystem

end JavaOutline
