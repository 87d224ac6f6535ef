import JavaOutline.File.Sorting
import JavaOutline.File.System

namespace JavaOutline

/-!
# What a scan sees

A scan enters directories but not links to directories, and finds files by
their names, readable or not. The order in which a directory lists its entries
is of no consequence.
-/

/-- The names of the files of a directory, and the directories to be entered from it. -/
inductive Folder where
  | mk (files : List String) (folders : List (String × Folder))

namespace Folder

/-- The names of files in the listing of the directory at a path; a link is one unless it
leads to a directory. -/
def filesIn (system : FileSystem) (path : String) (listing : Listing) : List String :=
  listing.filterMap fun entry =>
    match entry.2 with
    | .file _ => some entry.1
    | .closed _ => some entry.1
    | .link _ =>
        if (system.directory? (Path.join path entry.1)).isSome then none else some entry.1
    | .directory _ => none

mutual

/-- What a scan sees from the entry at a path, if it is a directory and not too far down. -/
def seen? (system : FileSystem) (path : String) : FileEntry → Option Folder
  | .directory entries =>
      if Path.isTooLong path then
        none
      else
        some (.mk (filesIn system path entries) (foldersIn system path entries))
  | .file _ => none
  | .closed _ => none
  | .link _ => none

/-- The directories in the listing of the directory at a path. -/
def foldersIn
    (system : FileSystem)
    (path : String) :
    List (String × FileEntry) → List (String × Folder)
  | [] => []
  | (name, entry) :: rest =>
      match seen? system (Path.join path name) entry with
      | some folder => (name, folder) :: foldersIn system path rest
      | none => foldersIn system path rest

end

/-- What a scan sees from the directory that a path leads to. -/
def ofPath? (system : FileSystem) (path : String) : Option Folder :=
  (system.directory? path).bind fun listing => seen? system path (.directory listing)

end Folder

mutual

/-- The folder with files and folders in the order of their names, at every level. -/
def Folder.sorted : Folder → Folder
  | .mk files folders => .mk (sortNames files) (sortByName (sortedFolders folders))

/-- Every one of the folders in the order of names. -/
def sortedFolders : List (String × Folder) → List (String × Folder)
  | [] => []
  | (name, folder) :: rest => (name, folder.sorted) :: sortedFolders rest

end

mutual

/-- The paths of the files below a path: those of the folder itself, then those of each of
its folders. -/
def Folder.paths (path : String) : Folder → List String
  | .mk files folders => files.map (Path.join path) ++ folderPaths path folders

/-- The paths of the files below each of the folders in the directory at a path. -/
def folderPaths (path : String) : List (String × Folder) → List String
  | [] => []
  | (name, folder) :: rest => folder.paths (Path.join path name) ++ folderPaths path rest

end

end JavaOutline
