import JavaOutline.Proofs.FolderAddresses

namespace JavaOutline

open Text (Bytes)

/-!
# File trees

A file tree is well formed if every directory in it lists different names, and
only such as files can have. A path that leads to a file or a directory of such
a tree is made of these names.
-/

namespace Listing

theorem get?_cons (named : String × FileEntry) (rest : Listing) (name : String) :
    Listing.get? (named :: rest) name =
      if named.1 = name then some named.2 else Listing.get? rest name := by
  by_cases same : named.1 = name
  · simp [Listing.get?, same]
  · simp [Listing.get?, same]

theorem get?_eq_some_iff
    {listing : Listing}
    (distinct : (listing.map Prod.fst).Nodup)
    {name : String}
    {entry : FileEntry} :
    listing.get? name = some entry ↔ (name, entry) ∈ listing := by
  induction listing with
  | nil =>
      simp [Listing.get?]
  | cons named rest inductionHypothesis =>
      obtain ⟨fresh, restDistinct⟩ := List.nodup_cons.mp distinct
      rw [get?_cons, List.mem_cons]
      split
      case isTrue same =>
        have absent : (name, entry) ∉ rest := by
          intro present
          exact fresh (List.mem_map.mpr ⟨(name, entry), present, same.symm⟩)
        simp [absent, Prod.ext_iff, same, eq_comm]
      case isFalse different =>
        have notFirst : (name, entry) ≠ named := by
          rintro rfl
          exact different rfl
        simp [notFirst, inductionHypothesis restDistinct]

end Listing

namespace FileEntry

/-- What a directory holds. -/
def listing? : FileEntry → Option Listing
  | .directory entries => some entries
  | _ => none

theorem listing?_eq_some
    {entry : FileEntry}
    {listing : Listing}
    (isListing : entry.listing? = some listing) :
    entry = .directory listing := by
  cases entry <;> cases isListing
  rfl

/-- Every directory lists different names, each one that a file can have. -/
inductive WellFormed : FileEntry → Prop
  | file (bytes : Bytes) : WellFormed (.file bytes)
  | closed (fault : FileFault) : WellFormed (.closed fault)
  | link (target : String) : WellFormed (.link target)
  | directory {entries : List (String × FileEntry)} :
      (entries.map Prod.fst).Nodup →
      (∀ named ∈ entries, Path.IsName named.1) →
      (∀ named ∈ entries, WellFormed named.2) →
      WellFormed (.directory entries)

theorem at?_cons (entries : List (String × FileEntry)) (name : String) (rest : List String) :
    (directory entries).at? (name :: rest) =
      (Listing.get? entries name).bind (fun inner => inner.at? rest) := by
  rw [at?]

theorem at?_append (entry : FileEntry) (first second : List String) :
    entry.at? (first ++ second) = (entry.at? first).bind (fun inner => inner.at? second) := by
  induction first generalizing entry with
  | nil =>
      rw [List.nil_append, at?, Option.bind_some]
  | cons name rest inductionHypothesis =>
      cases entry with
      | directory entries =>
          rw [List.cons_append, at?_cons, at?_cons, Option.bind_assoc]
          exact congrArg _ (funext fun inner => inductionHypothesis inner)
      | file bytes =>
          rfl
      | closed fault =>
          rfl
      | link target =>
          rfl

theorem WellFormed.get?
    {entries : List (String × FileEntry)}
    (wellFormed : (FileEntry.directory entries).WellFormed)
    {name : String}
    {entry : FileEntry}
    (found : Listing.get? entries name = some entry) :
    Path.IsName name ∧ entry.WellFormed := by
  cases wellFormed with
  | directory distinct names below =>
      have present := (Listing.get?_eq_some_iff distinct).mp found
      exact ⟨names _ present, below _ present⟩

theorem WellFormed.at?
    {entry inner : FileEntry}
    (wellFormed : entry.WellFormed)
    {names : List String}
    (found : entry.at? names = some inner) :
    inner.WellFormed := by
  induction names generalizing entry with
  | nil =>
      cases found
      exact wellFormed
  | cons name rest inductionHypothesis =>
      cases entry with
      | directory entries =>
          rw [at?_cons] at found
          obtain ⟨next, isNext, found⟩ := Option.bind_eq_some_iff.mp found
          exact inductionHypothesis (wellFormed.get? isNext).2 found
      | file bytes =>
          cases found
      | closed fault =>
          cases found
      | link target =>
          cases found

end FileEntry

/-- A character of a path is a slash or in a part of it. -/
theorem Path.exists_mem_splitChars
    {character : Char}
    (notSlash : character ≠ '/')
    {text : List Char}
    (present : character ∈ text) :
    ∃ part ∈ splitChars text, character ∈ part := by
  fun_induction splitChars text with
  | case1 =>
      exact absurd present List.not_mem_nil
  | case2 rest inductionHypothesis =>
      rcases List.mem_cons.mp present with rfl | inRest
      · exact (notSlash rfl).elim
      · obtain ⟨part, inParts, inPart⟩ := inductionHypothesis inRest
        exact ⟨part, List.mem_cons_of_mem [] inParts, inPart⟩
  | case3 first rest isSlash noParts inductionHypothesis =>
      rcases List.mem_cons.mp present with rfl | inRest
      · exact ⟨[character], List.mem_cons_self, List.mem_cons_self⟩
      · obtain ⟨part, inParts, -⟩ := inductionHypothesis inRest
        rw [noParts] at inParts
        exact absurd inParts List.not_mem_nil
  | case4 first rest isSlash part others parts inductionHypothesis =>
      rcases List.mem_cons.mp present with rfl | inRest
      · exact ⟨character :: part, List.mem_cons_self, List.mem_cons_self⟩
      · obtain ⟨found, inParts, inFound⟩ := inductionHypothesis inRest
        rw [parts] at inParts
        rcases List.mem_cons.mp inParts with rfl | inOthers
        · exact ⟨first :: found, List.mem_cons_self, List.mem_cons_of_mem first inFound⟩
        · exact ⟨found, List.mem_cons_of_mem (first :: part) inOthers, inFound⟩

theorem Path.exists_mem_components
    {character : Char}
    (notSlash : character ≠ '/')
    {path : String}
    (present : character ∈ path.toList) :
    ∃ component ∈ components path, character ∈ component.toList := by
  obtain ⟨part, inParts, inPart⟩ := exists_mem_splitChars notSlash present
  refine ⟨String.ofList part, List.mem_map_of_mem inParts, ?_⟩
  rwa [String.toList_ofList]

namespace FileSystem

variable {system : FileSystem}

theorem directory?_eq (path : String) :
    system.directory? path =
      match system.locate .find path with
      | .ok (.existing names) => (system.root.at? names).bind FileEntry.listing?
      | _ => none := by
  rw [directory?]
  rcases system.locate .find path with fault | names | ⟨directory, name⟩
  · rfl
  · dsimp only
    rcases system.root.at? names with _ | (_ | _ | _ | _)
    all_goals rfl
  · rfl

theorem locate_eq_ok
    {purpose : Purpose}
    {path : String}
    {place : Place}
    (located : system.locate purpose path = .ok place) :
    Path.isTooLong path = false ∧
      system.follow purpose linkLimit (system.start path) (Path.components path) = .ok place := by
  rw [locate] at located
  split at located
  · cases located
  · split at located
    case isTrue =>
      cases located
    case isFalse short =>
      exact ⟨Bool.eq_false_iff.mpr short, located⟩

theorem read_eq_ok
    {path : String}
    {bytes : Bytes}
    (read : system.read path = .ok bytes) :
    ∃ names,
      system.locate .find path = .ok (.existing names) ∧
        system.root.at? names = some (.file bytes) := by
  rw [FileSystem.read] at read
  cases located : system.locate .find path with
  | error fault =>
      rw [located] at read
      cases read
  | ok place =>
      rw [located] at read
      cases place with
      | vacant directory name =>
          cases read
      | existing names =>
          refine ⟨names, rfl, ?_⟩
          replace read : system.readPlace (.existing names) = .ok bytes := read
          rw [readPlace] at read
          split at read
          case h_1 found =>
            cases read
            exact found
          all_goals cases read

theorem directory?_eq_some
    {path : String}
    {listing : Listing}
    (found : system.directory? path = some listing) :
    ∃ names,
      system.locate .find path = .ok (.existing names) ∧
        system.root.at? names = some (.directory listing) := by
  rw [directory?_eq] at found
  split at found
  case h_1 names located =>
    obtain ⟨entry, there, isListing⟩ := Option.bind_eq_some_iff.mp found
    rw [FileEntry.listing?_eq_some isListing] at there
    exact ⟨names, located, there⟩
  case h_2 =>
    cases found

theorem wellFormed_of_directory?
    (wellFormed : system.root.WellFormed)
    {path : String}
    {listing : Listing}
    (found : system.directory? path = some listing) :
    (FileEntry.directory listing).WellFormed := by
  obtain ⟨names, -, there⟩ := directory?_eq_some found
  exact wellFormed.at? there

/-- What can be read is not a directory. -/
theorem directory?_eq_none_of_read
    {path : String}
    {bytes : Bytes}
    (read : system.read path = .ok bytes) :
    system.directory? path = none := by
  obtain ⟨names, located, found⟩ := read_eq_ok read
  rw [directory?_eq, located]
  simp [found, FileEntry.listing?]

theorem not_isTooLong_of_read
    {path : String}
    {bytes : Bytes}
    (read : system.read path = .ok bytes) :
    Path.isTooLong path = false := by
  obtain ⟨names, located, -⟩ := read_eq_ok read
  exact (locate_eq_ok located).1

/-- A path that leads somewhere is made of names that are there. -/
theorem not_mem_of_follow
    (wellFormed : system.root.WellFormed)
    {purpose : Purpose}
    {links : Nat}
    {names components reached : List String}
    (followed : system.follow purpose links names components = .ok (.existing reached)) :
    ∀ component ∈ components, '\x00' ∉ component.toList := by
  fun_induction FileSystem.follow system purpose links names components with
  | case1 links names =>
      exact fun component present => absurd present List.not_mem_nil
  | case2 links names component rest entries found here inductionHypothesis =>
      have free : '\x00' ∉ component.toList := by
        rcases (Bool.or_eq_true _ _).mp here with blank | dot
        · rw [of_decide_eq_true blank]
          decide
        · rw [of_decide_eq_true dot]
          decide
      exact List.forall_mem_cons.mpr ⟨free, inductionHypothesis followed⟩
  | case3 links names rest entries found notHere inductionHypothesis =>
      exact List.forall_mem_cons.mpr ⟨by decide, inductionHypothesis followed⟩
  | case9 names component rest entries found _ _ _ _ target isLink fewer start inductionHypothesis =>
      have isName := ((wellFormed.at? found).get? isLink).1
      have restFree := (List.forall_mem_append.mp (inductionHypothesis followed)).2
      exact List.forall_mem_cons.mpr ⟨isName.noZero, restFree⟩
  | case10 links names component rest entries found _ _ _ _ entry _ isEntry inductionHypothesis =>
      have isName := ((wellFormed.at? found).get? isEntry).1
      exact List.forall_mem_cons.mpr ⟨isName.noZero, inductionHypothesis followed⟩
  | case4 | case5 | case6 | case7 | case8 | case11 =>
      cases followed

theorem hasZero_of_directory?
    (wellFormed : system.root.WellFormed)
    {path : String}
    {listing : Listing}
    (found : system.directory? path = some listing) :
    Path.hasZero path = false := by
  obtain ⟨names, located, -⟩ := directory?_eq_some found
  have free := not_mem_of_follow wellFormed (locate_eq_ok located).2
  rw [Path.hasZero_eq_false_iff]
  intro present
  obtain ⟨component, inPath, inComponent⟩ := Path.exists_mem_components (by decide) present
  exact free component inPath inComponent

end FileSystem

end JavaOutline
