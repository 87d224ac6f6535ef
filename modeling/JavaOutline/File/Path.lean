namespace JavaOutline

/-!
# Paths

A path is a text in which slashes separate the names of directories and files.
Paths are taken as they are written and never put into a normal form, except
where a function says so.
-/

namespace Path

/-- The parts of a list of characters between slashes; there is always at least one. -/
def splitChars : List Char → List (List Char)
  | [] => [[]]
  | character :: rest =>
      if character = '/' then
        [] :: splitChars rest
      else
        match splitChars rest with
        | [] => [[character]]
        | first :: others => (character :: first) :: others

/-- The parts of a path between slashes; doubled or final slashes give empty parts. -/
def components (path : String) : List String :=
  (splitChars path.toList).map String.ofList

/-- A path that does not start from the working directory. -/
def isAbsolute (path : String) : Bool :=
  path.toList.head? == some '/'

/-- The most bytes that the name of a file can have. -/
def nameLimit : Nat := 255

/-- The most bytes that a path can have. -/
def lengthLimit : Nat := 4095

/-- A name that no file can have. -/
def isNameTooLong (name : String) : Bool :=
  nameLimit < name.utf8ByteSize

/-- A path that is not followed at all. -/
def isTooLong (path : String) : Bool :=
  lengthLimit < path.utf8ByteSize

/-- A path with the character zero in it, which cannot even be tried. -/
def hasZero (path : String) : Bool :=
  path.toList.contains '\x00'

/-- The path of a name in a directory. A final slash of the directory is not doubled. -/
def join (directory name : String) : String :=
  if directory = "" || directory.toList.getLast? == some '/' then
    directory ++ name
  else
    directory ++ "/" ++ name

/-- The characters after the last slash. -/
def lastComponent (path : List Char) : List Char :=
  (path.reverse.takeWhile (fun character => character != '/')).reverse

/-- The characters of a file name after its last dot. -/
def afterLastDot (name : List Char) : List Char :=
  (name.reverse.takeWhile (fun character => character != '.')).reverse

/-- The characters of a file name before its last dot; none if it has no dot. -/
def beforeLastDot (name : List Char) : List Char :=
  ((name.reverse.dropWhile (fun character => character != '.')).drop 1).reverse

/--
The extension of a path, with its dot. Dots at the beginning of a file name do
not start an extension.
-/
def extensionChars (path : List Char) : List Char :=
  let name := lastComponent path
  if (beforeLastDot name).any (fun character => character != '.') then
    '.' :: afterLastDot name
  else
    []

/-- The extension of a path, with its dot. -/
def extension (path : String) : String :=
  String.ofList (extensionChars path.toList)

/-- One step of removing the parts of a path that lead nowhere or back. -/
def normalStep (seen : List String) (component : String) : List String :=
  if component = "" || component = "." then
    seen
  else if component = ".." then
    seen.dropLast
  else
    seen ++ [component]

/-- The parts of a path that remain once `.` and `..` are worked out by their text alone. -/
def normalComponents (components : List String) : List String :=
  components.foldl normalStep []

/-- The slashes at the beginning of an absolute path: exactly two are kept, more become one. -/
def leadingSlashes (path : String) : String :=
  match path.toList with
  | '/' :: '/' :: '/' :: _ => "/"
  | '/' :: '/' :: _ => "//"
  | _ => "/"

/-- A path in normal form that does not depend on the working directory. -/
def absolute (workingDirectory : List String) (path : String) : String :=
  let start := if isAbsolute path then [] else workingDirectory
  leadingSlashes path ++ "/".intercalate (normalComponents (start ++ components path))

end Path

end JavaOutline
