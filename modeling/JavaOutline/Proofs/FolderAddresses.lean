import JavaOutline.File.Folder
import JavaOutline.Proofs.BracketedText
import JavaOutline.Proofs.NameOrder

namespace JavaOutline

/-!
# Addresses of files

The address of a file below a directory names the folders on the way and then
the file. In the order of addresses, the files of a directory come first and
what is in its folders after them, both by name. The paths of a sorted folder
are those of its addresses in this order. As long as no name contains a slash,
different addresses have different paths.
-/

/-- The way from a directory to a file below it. -/
inductive Address where
  | file (name : String)
  | inside (folder : String) (inner : Address)
  deriving Repr, DecidableEq

namespace Address

/-- The names along the way. -/
def names : Address → List String
  | file name => [name]
  | inside folder inner => folder :: inner.names

/-- The path of the file, below the directory at a path. -/
def path (directory : String) : Address → String
  | file name => Path.join directory name
  | inside folder inner => inner.path (Path.join directory folder)

/-- Files come before folders, and either by name. -/
inductive Before : Address → Address → Prop
  | files {first second : String} :
      first < second →
      Before (file first) (file second)
  | fileFirst (name folder : String) (inner : Address) :
      Before (file name) (inside folder inner)
  | folders {first second : String} (firstInner secondInner : Address) :
      first < second →
      Before (inside first firstInner) (inside second secondInner)
  | within {first second : Address} (folder : String) :
      Before first second →
      Before (inside folder first) (inside folder second)

theorem Before.asymm
    {first second : Address}
    (before : first.Before second) :
    ¬second.Before first := by
  induction before with
  | files less =>
      rintro (more | _)
      exact String.lt_asymm less more
  | fileFirst name folder inner =>
      rintro (_ | _)
  | folders firstInner secondInner less =>
      rintro (_ | _ | ⟨_, _, more⟩ | _)
      · exact String.lt_asymm less more
      · exact String.lt_irrefl _ less
  | within folder before inductionHypothesis =>
      rintro (_ | _ | ⟨_, _, more⟩ | ⟨_, after⟩)
      · exact String.lt_irrefl _ more
      · exact inductionHypothesis after

theorem nodup_of_pairwise_before
    {addresses : List Address}
    (ordered : addresses.Pairwise Before) :
    addresses.Nodup := by
  rw [List.Nodup]
  apply ordered.imp
  rintro first _ before rfl
  exact before.asymm before

/-- Addresses in order are determined by which they are. -/
theorem eq_of_pairwise_before
    {first second : List Address}
    (firstOrdered : first.Pairwise Before)
    (secondOrdered : second.Pairwise Before)
    (same : ∀ address, address ∈ first ↔ address ∈ second) :
    first = second := by
  have permuted : first.Perm second :=
    (List.perm_ext_iff_of_nodup (nodup_of_pairwise_before firstOrdered)
      (nodup_of_pairwise_before secondOrdered)).mpr same
  exact permuted.eq_of_pairwise
    (fun _ _ _ _ before after => (before.asymm after).elim) firstOrdered secondOrdered

end Address

/-! ## The addresses of a folder -/

mutual

/-- The addresses of the files below a folder, in the order of its paths. -/
def Folder.addresses : Folder → List Address
  | .mk files folders => files.map Address.file ++ folderAddresses folders

/-- The addresses of the files below each of the folders. -/
def folderAddresses : List (String × Folder) → List Address
  | [] => []
  | (name, folder) :: rest =>
      folder.addresses.map (Address.inside name) ++ folderAddresses rest

end

mutual

theorem Folder.paths_eq_map (path : String) :
    ∀ folder : Folder, folder.paths path = folder.addresses.map (Address.path path)
  | .mk files folders => by
      rw [Folder.paths, Folder.addresses, List.map_append, List.map_map,
        folderPaths_eq_map path folders]
      rfl

theorem folderPaths_eq_map (path : String) :
    ∀ folders : List (String × Folder),
      folderPaths path folders = (folderAddresses folders).map (Address.path path)
  | [] => rfl
  | (name, folder) :: rest => by
      rw [folderPaths, folderAddresses, List.map_append, List.map_map,
        folder.paths_eq_map (Path.join path name), folderPaths_eq_map path rest]
      rfl

end

theorem folderAddresses_eq_flatMap (folders : List (String × Folder)) :
    folderAddresses folders =
      folders.flatMap (fun named => named.2.addresses.map (Address.inside named.1)) := by
  induction folders with
  | nil =>
      rfl
  | cons named rest inductionHypothesis =>
      rw [folderAddresses, List.flatMap_cons, inductionHypothesis]

theorem sortedFolders_eq_map (folders : List (String × Folder)) :
    sortedFolders folders = folders.map (fun named => (named.1, named.2.sorted)) := by
  induction folders with
  | nil =>
      rfl
  | cons named rest inductionHypothesis =>
      rw [sortedFolders, List.map_cons, inductionHypothesis]

namespace Folder

/-- A folder has a file at an address. -/
def Holds : Folder → Address → Prop
  | .mk files _, .file name => name ∈ files
  | .mk _ folders, .inside name inner =>
      ∃ folder, (name, folder) ∈ folders ∧ folder.Holds inner

theorem mem_addresses_iff
    {folder : Folder}
    {address : Address} :
    address ∈ folder.addresses ↔ folder.Holds address := by
  induction address generalizing folder with
  | file name =>
      rcases folder with ⟨files, folders⟩
      simp [addresses, Holds, folderAddresses_eq_flatMap]
  | inside name inner inductionHypothesis =>
      rcases folder with ⟨files, folders⟩
      simp [addresses, Holds, folderAddresses_eq_flatMap, inductionHypothesis]

theorem holds_sorted_iff
    {folder : Folder}
    {address : Address} :
    folder.sorted.Holds address ↔ folder.Holds address := by
  induction address generalizing folder with
  | file name =>
      rcases folder with ⟨files, folders⟩
      exact (sortBy_perm files).mem_iff
  | inside name inner inductionHypothesis =>
      rcases folder with ⟨files, folders⟩
      have sameFolders (entered : Folder) :
          (name, entered) ∈ sortByName (sortedFolders folders) ↔
            ∃ folder, (name, folder) ∈ folders ∧ folder.sorted = entered := by
        rw [sortByName, (sortBy_perm _).mem_iff, sortedFolders_eq_map]
        simp
      simp only [sorted, Holds, sameFolders]
      constructor
      · rintro ⟨entered, ⟨folder, present, rfl⟩, holds⟩
        exact ⟨folder, present, inductionHypothesis.mp holds⟩
      · rintro ⟨folder, present, holds⟩
        exact ⟨folder.sorted, ⟨folder, present, rfl⟩, inductionHypothesis.mpr holds⟩

theorem mem_sorted_addresses_iff
    {folder : Folder}
    {address : Address} :
    address ∈ folder.sorted.addresses ↔ folder.Holds address :=
  mem_addresses_iff.trans holds_sorted_iff

/-- At every level, files have different names, and so have folders. -/
inductive Distinct : Folder → Prop
  | mk {files : List String} {folders : List (String × Folder)} :
      files.Nodup →
      (folders.map Prod.fst).Nodup →
      (∀ named ∈ folders, Distinct named.2) →
      Distinct (.mk files folders)

/-- Sorting puts the addresses in order. -/
theorem Distinct.pairwise_before
    {folder : Folder}
    (distinct : folder.Distinct) :
    folder.sorted.addresses.Pairwise Address.Before := by
  induction distinct with
  | @mk files folders filesDistinct foldersDistinct below inductionHypothesis =>
      rw [sorted, addresses, folderAddresses_eq_flatMap, List.pairwise_append]
      refine ⟨?_, List.pairwise_flatMap.mpr ⟨?_, ?_⟩, ?_⟩
      · have filesSorted : (sortNames files).Pairwise (· < ·) :=
          sortBy_pairwise (by simpa using filesDistinct)
        exact List.pairwise_map.mpr (filesSorted.imp .files)
      · intro named present
        rw [sortByName, (sortBy_perm _).mem_iff, sortedFolders_eq_map, List.mem_map] at present
        obtain ⟨original, inFolders, rfl⟩ := present
        exact List.pairwise_map.mpr
          ((inductionHypothesis original inFolders).imp (.within original.1))
      · have namesDistinct : ((sortedFolders folders).map Prod.fst).Nodup := by
          rw [sortedFolders_eq_map, List.map_map]
          exact foldersDistinct
        refine (sortBy_pairwise namesDistinct).imp fun {first second} less => ?_
        intro address inFirst other inSecond
        obtain ⟨firstInner, _, rfl⟩ := List.mem_map.mp inFirst
        obtain ⟨secondInner, _, rfl⟩ := List.mem_map.mp inSecond
        exact .folders firstInner secondInner less
      · intro address isFile other isInside
        obtain ⟨name, _, rfl⟩ := List.mem_map.mp isFile
        obtain ⟨named, _, inNamed⟩ := List.mem_flatMap.mp isInside
        obtain ⟨inner, _, rfl⟩ := List.mem_map.mp inNamed
        exact .fileFirst name named.1 inner

end Folder

/-! ## The paths of addresses -/

namespace Path

/-- A name that a directory can list. -/
structure IsName (name : String) : Prop where
  notBlank : name ≠ ""
  noSlash : '/' ∉ name.toList
  noZero : '\x00' ∉ name.toList

/-- The characters of the path of a directory up to where the names in it begin. -/
def opened (directory : String) : List Char :=
  if directory = "" || directory.toList.getLast? == some '/' then
    directory.toList
  else
    directory.toList ++ ['/']

theorem toList_join (directory name : String) :
    (join directory name).toList = opened directory ++ name.toList := by
  rw [join, opened]
  split <;> simp

theorem opened_join
    {name : String}
    (isName : IsName name)
    (directory : String) :
    opened (join directory name) = opened directory ++ name.toList ++ ['/'] := by
  have notEmpty : name.toList ≠ [] := by
    simpa using isName.notBlank
  have joinedNotEmpty : join directory name ≠ "" := by
    intro empty
    have nothing := congrArg String.toList empty
    rw [toList_join] at nothing
    exact notEmpty (List.append_eq_nil_iff.mp nothing).2
  have endsOpen : (join directory name).toList.getLast? ≠ some '/' := by
    rw [toList_join, List.getLast?_append_of_ne_nil _ notEmpty]
    intro slash
    exact isName.noSlash (List.mem_of_getLast? slash)
  rw [← toList_join, opened]
  simp [joinedNotEmpty, endsOpen]

theorem hasZero_eq_false_iff {path : String} :
    hasZero path = false ↔ '\x00' ∉ path.toList := by
  simp [hasZero]

/-- A directory of zero-free path opens to zero-free characters. -/
theorem not_mem_opened
    {directory : String}
    (usable : hasZero directory = false) :
    '\x00' ∉ opened directory := by
  have absent := hasZero_eq_false_iff.mp usable
  rw [opened]
  split
  · exact absent
  · simpa using absent

theorem isTooLong_join
    {directory : String}
    (tooLong : isTooLong directory = true)
    (name : String) :
    isTooLong (join directory name) = true := by
  rw [isTooLong, decide_eq_true_eq] at tooLong ⊢
  rw [join]
  split
  · rw [String.utf8ByteSize_append]
    omega
  · rw [String.utf8ByteSize_append, String.utf8ByteSize_append]
    omega

end Path

namespace Address

/-- Every name along the way is one that a directory can list. -/
def Valid (address : Address) : Prop :=
  ∀ name ∈ address.names, Path.IsName name

/-- The names along the way, each but the last with a slash after it. -/
def text : Address → List Char
  | file name => name.toList
  | inside folder inner => folder.toList ++ '/' :: inner.text

theorem Valid.folder
    {folder : String}
    {inner : Address}
    (valid : (inside folder inner).Valid) :
    Path.IsName folder :=
  valid folder List.mem_cons_self

theorem Valid.inner
    {folder : String}
    {inner : Address}
    (valid : (inside folder inner).Valid) :
    inner.Valid :=
  fun name present => valid name (List.mem_cons_of_mem folder present)

theorem toList_path
    {address : Address}
    (valid : address.Valid)
    (directory : String) :
    (address.path directory).toList = Path.opened directory ++ address.text := by
  induction address generalizing directory with
  | file name =>
      exact Path.toList_join directory name
  | inside folder inner inductionHypothesis =>
      rw [path, inductionHypothesis valid.inner, Path.opened_join valid.folder, text]
      simp

theorem Valid.text_inj
    {first second : Address}
    (firstValid : first.Valid)
    (secondValid : second.Valid)
    (same : first.text = second.text) :
    first = second := by
  induction first generalizing second with
  | file name =>
      have noSlash : '/' ∉ name.toList := (firstValid name List.mem_cons_self).noSlash
      cases second with
      | file other =>
          rw [String.toList_inj.mp same]
      | inside folder inner =>
          exact (ne_append_of_not_mem noSlash folder.toList inner.text same).elim
  | inside folder inner inductionHypothesis =>
      cases second with
      | file other =>
          have noSlash : '/' ∉ other.toList := (secondValid other List.mem_cons_self).noSlash
          exact (ne_append_of_not_mem noSlash folder.toList inner.text same.symm).elim
      | inside otherFolder otherInner =>
          obtain ⟨sameFolder, sameInner⟩ :=
            append_separator_inj
              (ne_append_of_not_mem firstValid.folder.noSlash otherFolder.toList)
              (ne_append_of_not_mem secondValid.folder.noSlash folder.toList) same
          rw [String.toList_inj.mp sameFolder,
            inductionHypothesis firstValid.inner secondValid.inner sameInner]

/-- Different addresses have different paths. -/
theorem Valid.path_inj
    {first second : Address}
    (firstValid : first.Valid)
    (secondValid : second.Valid)
    {directory : String}
    (same : first.path directory = second.path directory) :
    first = second := by
  have sameChars := congrArg String.toList same
  rw [toList_path firstValid, toList_path secondValid] at sameChars
  exact firstValid.text_inj secondValid (List.append_cancel_left sameChars)

theorem Valid.not_mem_text
    {address : Address}
    (valid : address.Valid) :
    '\x00' ∉ address.text := by
  induction address with
  | file name =>
      exact (valid name List.mem_cons_self).noZero
  | inside folder inner inductionHypothesis =>
      have folderFree := valid.folder.noZero
      have innerFree := inductionHypothesis valid.inner
      simp [text, folderFree, innerFree]

/-- Below a usable path all paths are usable. -/
theorem Valid.hasZero_path
    {address : Address}
    (valid : address.Valid)
    {directory : String}
    (usable : Path.hasZero directory = false) :
    Path.hasZero (address.path directory) = false := by
  rw [Path.hasZero_eq_false_iff, toList_path valid, List.mem_append]
  rintro (inDirectory | inText)
  · exact Path.not_mem_opened usable inDirectory
  · exact valid.not_mem_text inText

/-- Below a path that is too long all paths are. -/
theorem isTooLong_path
    {directory : String}
    (tooLong : Path.isTooLong directory = true)
    (address : Address) :
    Path.isTooLong (address.path directory) = true := by
  induction address generalizing directory with
  | file name =>
      exact Path.isTooLong_join tooLong name
  | inside folder inner inductionHypothesis =>
      exact inductionHypothesis (Path.isTooLong_join tooLong folder)

end Address

end JavaOutline
