import JavaOutline.Proofs.Relisting

namespace JavaOutline

open Text (Bytes)

/-!
# What a scan sees of a tree

A scan enters every directory whose path is not too long and takes for a file
what is not a directory and no link to one. So it sees every file that can be
read, wherever it is. It sees the same, and in the same order, however the
directories list their entries.
-/

/-- A directory holds a file at an address: its names lead to what is not a directory. -/
def Listing.HoldsFile (listing : Listing) (address : Address) : Prop :=
  ∃ entry,
    (FileEntry.directory listing).at? address.names = some entry ∧ entry.listing? = none

/-- A scan takes the entry at a path for a file. -/
def FileEntry.IsFileAt (system : FileSystem) (path : String) : FileEntry → Prop
  | .directory _ => False
  | .link _ => system.directory? path = none
  | .file _ => True
  | .closed _ => True

theorem FileEntry.at?_names_eq_none
    {entry : FileEntry}
    (notDirectory : entry.listing? = none)
    (address : Address) :
    entry.at? address.names = none := by
  cases entry with
  | directory entries =>
      cases notDirectory
  | file bytes =>
      cases address <;> rfl
  | closed fault =>
      cases address <;> rfl
  | link target =>
      cases address <;> rfl

namespace Folder

variable {system other : FileSystem} {path name : String}

theorem mem_filesIn_iff {listing : Listing} :
    name ∈ filesIn system path listing ↔
      ∃ entry, (name, entry) ∈ listing ∧ entry.IsFileAt system (Path.join path name) := by
  rw [filesIn, List.mem_filterMap]
  constructor
  · rintro ⟨⟨listed, entry⟩, present, taken⟩
    cases entry with
    | directory entries =>
        cases taken
    | link target =>
        obtain ⟨noDirectory, isName⟩ := Option.ite_none_left_eq_some.mp taken
        cases isName
        exact ⟨.link target, present, by simpa [FileEntry.IsFileAt] using noDirectory⟩
    | file bytes =>
        cases taken
        exact ⟨.file bytes, present, trivial⟩
    | closed fault =>
        cases taken
        exact ⟨.closed fault, present, trivial⟩
  · rintro ⟨entry, present, isFile⟩
    refine ⟨(name, entry), present, ?_⟩
    cases entry with
    | directory entries =>
        cases isFile
    | link target =>
        replace isFile : system.directory? (Path.join path name) = none := isFile
        simp [isFile]
    | file bytes =>
        rfl
    | closed fault =>
        rfl

theorem filesIn_sublist (listing : Listing) :
    (filesIn system path listing).Sublist (listing.map Prod.fst) := by
  induction listing with
  | nil =>
      exact .slnil
  | cons named rest inductionHypothesis =>
      rw [filesIn] at inductionHypothesis
      rcases named with ⟨name, entry⟩
      cases entry with
      | directory entries =>
          exact inductionHypothesis.cons name
      | link target =>
          by_cases leads : (system.directory? (Path.join path name)).isSome
          · simp only [filesIn, List.filterMap_cons, leads, ↓reduceIte]
            exact inductionHypothesis.cons name
          · simp only [filesIn, List.filterMap_cons, leads]
            exact inductionHypothesis.cons_cons name
      | file bytes =>
          exact inductionHypothesis.cons_cons name
      | closed fault =>
          exact inductionHypothesis.cons_cons name

theorem foldersIn_eq_filterMap (listing : Listing) :
    foldersIn system path listing =
      listing.filterMap (fun named =>
        (seen? system (Path.join path named.1) named.2).map (fun folder => (named.1, folder))) := by
  induction listing with
  | nil =>
      rw [foldersIn, List.filterMap_nil]
  | cons named rest inductionHypothesis =>
      rw [foldersIn, List.filterMap_cons, inductionHypothesis]
      cases seen? system (Path.join path named.1) named.2 <;> rfl

theorem mem_foldersIn_iff {listing : Listing} {folder : Folder} :
    (name, folder) ∈ foldersIn system path listing ↔
      ∃ entry, (name, entry) ∈ listing ∧
        seen? system (Path.join path name) entry = some folder := by
  simp [foldersIn_eq_filterMap]

theorem foldersIn_sublist (listing : Listing) :
    ((foldersIn system path listing).map Prod.fst).Sublist (listing.map Prod.fst) := by
  induction listing with
  | nil =>
      rw [foldersIn]
      exact .slnil
  | cons named rest inductionHypothesis =>
      rw [foldersIn]
      split
      · exact inductionHypothesis.cons_cons named.1
      · exact inductionHypothesis.cons named.1

theorem seen?_directory
    (short : Path.isTooLong path = false)
    (entries : List (String × FileEntry)) :
    seen? system path (.directory entries) =
      some (.mk (filesIn system path entries) (foldersIn system path entries)) := by
  simp [seen?, short]

theorem seen?_eq_none
    {entry : FileEntry}
    (notDirectory : entry.listing? = none) :
    seen? system path entry = none := by
  cases entry with
  | directory entries =>
      cases notDirectory
  | file bytes =>
      rfl
  | closed fault =>
      rfl
  | link target =>
      rfl

/-- What is entered is a directory. -/
theorem exists_directory_of_seen
    {entry : FileEntry}
    {folder : Folder}
    (seen : seen? system path entry = some folder) :
    ∃ entries, entry = .directory entries := by
  cases isListing : entry.listing? with
  | none =>
      rw [seen?_eq_none isListing] at seen
      cases seen
  | some entries =>
      exact ⟨entries, FileEntry.listing?_eq_some isListing⟩

theorem eq_mk_of_seen
    {entries : List (String × FileEntry)}
    {folder : Folder}
    (seen : seen? system path (.directory entries) = some folder) :
    folder = .mk (filesIn system path entries) (foldersIn system path entries) := by
  rw [seen?] at seen
  obtain ⟨-, isFolder⟩ := Option.ite_none_left_eq_some.mp seen
  exact (Option.some.inj isFolder).symm

/-- Different names of entries are different names of files, and of folders. -/
theorem distinct_of_wellFormed
    {entry : FileEntry}
    (wellFormed : entry.WellFormed)
    {folder : Folder}
    (seen : seen? system path entry = some folder) :
    folder.Distinct := by
  induction wellFormed generalizing path folder with
  | file bytes =>
      cases seen
  | closed fault =>
      cases seen
  | link target =>
      cases seen
  | @directory entries distinct names below inductionHypothesis =>
      obtain rfl := eq_mk_of_seen seen
      refine .mk ?_ ?_ ?_
      · exact (filesIn_sublist entries).nodup distinct
      · exact (foldersIn_sublist entries).nodup distinct
      · rintro ⟨name, inner⟩ present
        obtain ⟨entry, listed, entered⟩ := mem_foldersIn_iff.mp present
        exact inductionHypothesis (name, entry) listed entered

section Seen

variable
  {entries : List (String × FileEntry)}
  {folder : Folder}
  (wellFormed : (FileEntry.directory entries).WellFormed)
  (seen : seen? system path (.directory entries) = some folder)

include wellFormed seen

theorem holds_file_iff :
    folder.Holds (.file name) ↔
      ∃ entry,
        Listing.get? entries name = some entry ∧
          entry.IsFileAt system (Path.join path name) := by
  obtain rfl := eq_mk_of_seen seen
  cases wellFormed with
  | directory distinct names below =>
      simp only [Listing.get?_eq_some_iff distinct]
      exact mem_filesIn_iff

theorem holds_inside_iff {inner : Address} :
    folder.Holds (.inside name inner) ↔
      ∃ entered,
        (Listing.get? entries name).bind (seen? system (Path.join path name)) =
            some entered ∧
          entered.Holds inner := by
  obtain rfl := eq_mk_of_seen seen
  cases wellFormed with
  | directory distinct names below =>
      simp only [Holds, mem_foldersIn_iff, Option.bind_eq_some_iff,
        Listing.get?_eq_some_iff distinct]

/-- Every name on the way to a file that is seen is listed. -/
theorem valid_of_holds
    {address : Address}
    (holds : folder.Holds address) :
    address.Valid := by
  induction address generalizing path entries folder with
  | file name =>
      obtain ⟨entry, found, -⟩ := (holds_file_iff wellFormed seen).mp holds
      exact List.forall_mem_singleton.mpr (wellFormed.get? found).1
  | inside name inner inductionHypothesis =>
      obtain ⟨entered, isEntered, holds⟩ := (holds_inside_iff wellFormed seen).mp holds
      obtain ⟨entry, found, isEntered⟩ := Option.bind_eq_some_iff.mp isEntered
      obtain ⟨isName, entryWellFormed⟩ := wellFormed.get? found
      obtain ⟨further, rfl⟩ := exists_directory_of_seen isEntered
      exact List.forall_mem_cons.mpr
        ⟨isName, inductionHypothesis entryWellFormed isEntered holds⟩

/-- Of what can be read, exactly the files are seen. -/
theorem holds_iff_of_read
    {address : Address}
    {bytes : Bytes}
    (read : system.read (address.path path) = .ok bytes) :
    folder.Holds address ↔ Listing.HoldsFile entries address := by
  induction address generalizing path entries folder with
  | file name =>
      rw [holds_file_iff wellFormed seen]
      have noDirectory := FileSystem.directory?_eq_none_of_read read
      rw [Address.path] at noDirectory
      have isFile (entry : FileEntry) :
          entry.IsFileAt system (Path.join path name) ↔ entry.listing? = none := by
        cases entry <;> simp [FileEntry.IsFileAt, FileEntry.listing?, noDirectory]
      simp [Listing.HoldsFile, Address.names, FileEntry.at?, isFile]
  | inside name inner inductionHypothesis =>
      rw [holds_inside_iff wellFormed seen, Listing.HoldsFile, Address.names, FileEntry.at?_cons]
      have short : Path.isTooLong (Path.join path name) = false := by
        have pathShort := FileSystem.not_isTooLong_of_read read
        by_contra tooLong
        rw [Address.path, Address.isTooLong_path (by simpa using tooLong) inner] at pathShort
        cases pathShort
      cases found : Listing.get? entries name with
      | none =>
          simp
      | some entry =>
          cases isListing : entry.listing? with
          | none =>
              simp [seen?_eq_none isListing, FileEntry.at?_names_eq_none isListing]
          | some further =>
              obtain rfl := FileEntry.listing?_eq_some isListing
              have entered :
                  seen? system (Path.join path name) (.directory further) = some _ :=
                seen?_directory short further
              have below := inductionHypothesis (wellFormed.get? found).2 entered read
              simpa [entered, Listing.HoldsFile] using below

end Seen

/-! ## Listings in another order -/

/-- Two folders hold files at the same addresses. -/
def SameFiles (first second : Folder) : Prop :=
  ∀ address, first.Holds address ↔ second.Holds address

/-- Folders with the same files are sorted into the same addresses. -/
theorem SameFiles.sorted_addresses_eq
    {first second : Folder}
    (same : first.SameFiles second)
    (firstDistinct : first.Distinct)
    (secondDistinct : second.Distinct) :
    first.sorted.addresses = second.sorted.addresses := by
  apply Address.eq_of_pairwise_before firstDistinct.pairwise_before
    secondDistinct.pairwise_before
  intro address
  rw [mem_sorted_addresses_iff, mem_sorted_addresses_iff]
  exact same address

theorem exists_holds_iff_of_rel
    {first? second? : Option Folder}
    (related : Option.Rel SameFiles first? second?)
    {address : Address} :
    (∃ folder, first? = some folder ∧ folder.Holds address) ↔
      ∃ folder, second? = some folder ∧ folder.Holds address := by
  cases related with
  | none =>
      simp
  | some same =>
      simp [same address]

theorem seen?_rel_of_not_directory
    {entry otherEntry : FileEntry}
    (alike : entry.Alike otherEntry)
    (notDirectory : entry.listing? = none) :
    Option.Rel SameFiles (seen? system path entry) (seen? other path otherEntry) := by
  have related := alike.listing_rel
  rw [notDirectory] at related
  cases isListing : otherEntry.listing? with
  | none =>
      rw [seen?_eq_none notDirectory, seen?_eq_none isListing]
      exact .none
  | some others =>
      rw [isListing] at related
      cases related

section Relisted

variable (relisted : system.Relisted other) (wellFormed : system.root.WellFormed)

include relisted wellFormed

theorem isFileAt_iff_of_alike
    {entry otherEntry : FileEntry}
    (alike : entry.Alike otherEntry) :
    entry.IsFileAt system path ↔ otherEntry.IsFileAt other path := by
  have sameOutside : some entry.outside = some otherEntry.outside := alike []
  have sameDirectory : system.directory? path = none ↔ other.directory? path = none := by
    have related := relisted.directory?_rel wellFormed path
    generalize system.directory? path = listing?, other.directory? path = other? at related ⊢
    cases related <;> simp
  cases entry with
  | link target =>
      cases otherEntry <;> cases sameOutside
      exact sameDirectory
  | directory entries =>
      cases otherEntry <;> cases sameOutside
      exact Iff.rfl
  | file bytes =>
      cases otherEntry <;> cases sameOutside
      exact Iff.rfl
  | closed fault =>
      cases otherEntry <;> cases sameOutside
      exact Iff.rfl

/-- Trees that show the same are seen alike. -/
theorem seen?_rel
    {entry otherEntry : FileEntry}
    (entryWellFormed : entry.WellFormed)
    (otherWellFormed : otherEntry.WellFormed)
    (alike : entry.Alike otherEntry) :
    Option.Rel SameFiles (seen? system path entry) (seen? other path otherEntry) := by
  induction entryWellFormed generalizing path otherEntry with
  | file bytes =>
      exact seen?_rel_of_not_directory alike rfl
  | closed fault =>
      exact seen?_rel_of_not_directory alike rfl
  | link target =>
      exact seen?_rel_of_not_directory alike rfl
  | @directory entries distinct names below inductionHypothesis =>
      have entriesWellFormed : (FileEntry.directory entries).WellFormed :=
        .directory distinct names below
      obtain ⟨others, rfl⟩ := alike.directory
      cases short : Path.isTooLong path with
      | true =>
          rw [seen?, seen?, short]
          exact .none
      | false =>
          have seen : seen? system path (.directory entries) = some _ :=
            seen?_directory short entries
          have seenOther : seen? other path (.directory others) = some _ :=
            seen?_directory short others
          rw [seen, seenOther]
          refine .some fun address => ?_
          cases address with
          | file name =>
              rw [holds_file_iff entriesWellFormed seen, holds_file_iff otherWellFormed seenOther]
              have related := alike.get?_rel name
              generalize Listing.get? entries name = found?,
                Listing.get? others name = other? at related ⊢
              cases related with
              | none =>
                  simp
              | some alike =>
                  simp [isFileAt_iff_of_alike relisted wellFormed alike]
          | inside name inner =>
              rw [holds_inside_iff entriesWellFormed seen,
                holds_inside_iff otherWellFormed seenOther]
              apply exists_holds_iff_of_rel
              have related := alike.get?_rel name
              generalize found : Listing.get? entries name = found?,
                foundOther : Listing.get? others name = other? at related ⊢
              cases related with
              | none =>
                  exact .none
              | some alike =>
                  have present := (Listing.get?_eq_some_iff distinct).mp found
                  have otherInner := (otherWellFormed.get? foundOther).2
                  exact inductionHypothesis _ present otherInner alike

/-- What a path leads to is sorted into the same addresses. -/
theorem ofPath?_rel :
    Option.Rel
      (fun folder otherFolder => folder.sorted.addresses = otherFolder.sorted.addresses)
      (ofPath? system path)
      (ofPath? other path) := by
  have otherRoot := relisted.root.wellFormed wellFormed
  have related := relisted.directory?_rel wellFormed path
  rw [ofPath?, ofPath?]
  generalize found : system.directory? path = found?,
    foundOther : other.directory? path = other? at related ⊢
  cases related with
  | none =>
      exact .none
  | @some listing others alike =>
      have listingWellFormed := FileSystem.wellFormed_of_directory? wellFormed found
      have othersWellFormed := FileSystem.wellFormed_of_directory? otherRoot foundOther
      have sameFiles :
          Option.Rel SameFiles
            (seen? system path (.directory listing))
            (seen? other path (.directory others)) :=
        seen?_rel relisted wellFormed listingWellFormed othersWellFormed alike
      rw [Option.bind_some, Option.bind_some]
      generalize seen : seen? system path (.directory listing) = folder?,
        seenOther : seen? other path (.directory others) = otherFolder? at sameFiles ⊢
      cases sameFiles with
      | none =>
          exact .none
      | some same =>
          exact .some (same.sorted_addresses_eq
            (distinct_of_wellFormed listingWellFormed seen)
            (distinct_of_wellFormed othersWellFormed seenOther))

end Relisted

end Folder

end JavaOutline
