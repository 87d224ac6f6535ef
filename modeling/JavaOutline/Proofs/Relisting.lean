import JavaOutline.Proofs.FileTree

namespace JavaOutline

open Text (Bytes)

/-!
# Listings in another order

Trees that differ only in the order in which their directories list the entries
show the same entries at the same places, as long as names differ. So paths
lead to the same places, and reading gives the same.
-/

/-- Looking up a name does not depend on the order of the entries. -/
theorem Listing.get?_perm
    {listing other : Listing}
    (distinct : (listing.map Prod.fst).Nodup)
    (permuted : listing.Perm other)
    (name : String) :
    listing.get? name = other.get? name := by
  have otherDistinct : (other.map Prod.fst).Nodup := (permuted.map Prod.fst).nodup distinct
  apply Option.ext
  intro entry
  rw [Listing.get?_eq_some_iff distinct, Listing.get?_eq_some_iff otherDistinct, permuted.mem_iff]

namespace FileEntry

/-- One tree becomes another by permuting the listings of directories in it. -/
inductive Relisted : FileEntry → FileEntry → Prop
  | permuted {entries others : List (String × FileEntry)} :
      entries.Perm others →
      Relisted (.directory entries) (.directory others)
  | within {entry other : FileEntry} (before after : Listing) (name : String) :
      Relisted entry other →
      Relisted
        (.directory (before ++ (name, entry) :: after))
        (.directory (before ++ (name, other) :: after))
  | trans {first second third : FileEntry} :
      Relisted first second →
      Relisted second third →
      Relisted first third

/-- What a listing shows of an entry: what a directory holds is not seen from outside. -/
def outside : FileEntry → FileEntry
  | .directory _ => .directory []
  | entry => entry

/-- Two trees show the same at every place. -/
def Alike (first second : FileEntry) : Prop :=
  ∀ names, (first.at? names).map outside = (second.at? names).map outside

/-- Trees that show the same have at each place trees that show the same, or nothing. -/
theorem Alike.at?_rel
    {first second : FileEntry}
    (alike : first.Alike second)
    (names : List String) :
    Option.Rel Alike (first.at? names) (second.at? names) := by
  have here := alike names
  have further (rest : List String) := alike (names ++ rest)
  simp only [at?_append] at further
  cases found : first.at? names with
  | none =>
      cases foundOther : second.at? names with
      | none =>
          exact .none
      | some other =>
          simp [found, foundOther] at here
  | some entry =>
      cases foundOther : second.at? names with
      | none =>
          simp [found, foundOther] at here
      | some other =>
          refine .some fun rest => ?_
          simpa only [found, foundOther, Option.bind_some] using further rest

theorem Alike.get?_rel
    {entries others : List (String × FileEntry)}
    (alike : (FileEntry.directory entries).Alike (.directory others))
    (name : String) :
    Option.Rel Alike (Listing.get? entries name) (Listing.get? others name) := by
  have there := alike.at?_rel [name]
  simpa [at?_cons, at?] using there

/-- Of two trees that show the same, both are directories or none is. -/
theorem Alike.listing_rel
    {first second : FileEntry}
    (alike : first.Alike second) :
    Option.Rel
      (fun entries others => (FileEntry.directory entries).Alike (.directory others))
      first.listing?
      second.listing? := by
  have same : some first.outside = some second.outside := alike []
  cases first with
  | directory entries =>
      cases second with
      | directory others =>
          exact .some alike
      | file bytes =>
          cases same
      | closed fault =>
          cases same
      | link target =>
          cases same
  | file bytes =>
      cases second <;> cases same
      exact .none
  | closed fault =>
      cases second <;> cases same
      exact .none
  | link target =>
      cases second <;> cases same
      exact .none

theorem Alike.directory
    {entries : List (String × FileEntry)}
    {other : FileEntry}
    (alike : (FileEntry.directory entries).Alike other) :
    ∃ others, other = .directory others := by
  have related := alike.listing_rel
  cases isListing : other.listing? with
  | none =>
      rw [isListing] at related
      cases related
  | some others =>
      exact ⟨others, listing?_eq_some isListing⟩

theorem Relisted.wellFormed
    {entry other : FileEntry}
    (relisted : entry.Relisted other)
    (wellFormed : entry.WellFormed) :
    other.WellFormed := by
  induction relisted with
  | permuted permuted =>
      cases wellFormed with
      | directory distinct names below =>
          refine .directory ((permuted.map Prod.fst).nodup distinct) ?_ ?_
          · exact fun named present => names named (permuted.mem_iff.mpr present)
          · exact fun named present => below named (permuted.mem_iff.mpr present)
  | @within entry other before after name relisted inductionHypothesis =>
      cases wellFormed with
      | directory distinct names below =>
          simp only [List.mem_append, List.mem_cons] at names below
          refine .directory (by simpa using distinct) ?_ ?_
          · simp only [List.mem_append, List.mem_cons]
            rintro named (present | rfl | present)
            · exact names named (.inl present)
            · exact names (name, entry) (.inr (.inl rfl))
            · exact names named (.inr (.inr present))
          · simp only [List.mem_append, List.mem_cons]
            rintro named (present | rfl | present)
            · exact below named (.inl present)
            · exact inductionHypothesis (below (name, entry) (.inr (.inl rfl)))
            · exact below named (.inr (.inr present))
  | trans first second firstHypothesis secondHypothesis =>
      exact secondHypothesis (firstHypothesis wellFormed)

theorem Relisted.alike
    {entry other : FileEntry}
    (relisted : entry.Relisted other)
    (wellFormed : entry.WellFormed) :
    entry.Alike other := by
  induction relisted with
  | permuted permuted =>
      intro names
      cases names with
      | nil =>
          rfl
      | cons name rest =>
          cases wellFormed with
          | directory distinct _ _ =>
              rw [at?_cons, at?_cons, Listing.get?_perm distinct permuted]
  | @within entry other before after name relisted inductionHypothesis =>
      intro names
      cases names with
      | nil =>
          rfl
      | cons sought rest =>
          have inner : entry.Alike other := by
            cases wellFormed with
            | directory _ _ below =>
                exact inductionHypothesis (below (name, entry) (by simp))
          -- only the lookup of the changed entry itself goes through the tree that changed
          rw [at?_cons, at?_cons, Listing.get?, Listing.get?, List.find?_append,
            List.find?_append]
          cases before.find? (fun named => named.1 == sought) with
          | some named =>
              rfl
          | none =>
              by_cases same : name = sought
              · simpa [same] using inner rest
              · simp [same]
  | trans first second firstHypothesis secondHypothesis =>
      intro names
      have middle := first.wellFormed wellFormed
      exact (firstHypothesis wellFormed names).trans (secondHypothesis middle names)

end FileEntry

namespace FileSystem

/-- The same files, with the listings of directories in another order. -/
structure Relisted (system other : FileSystem) : Prop where
  workingDirectory : other.workingDirectory = system.workingDirectory
  root : system.root.Relisted other.root

/-- What the entry at a place shows. -/
def shown? (system : FileSystem) (names : List String) : Option FileEntry :=
  (system.root.at? names).map FileEntry.outside

variable {system other : FileSystem}

theorem shown?_concat
    {names : List String}
    {entries : List (String × FileEntry)}
    (found : system.root.at? names = some (.directory entries))
    (name : String) :
    system.shown? (names ++ [name]) = (Listing.get? entries name).map FileEntry.outside := by
  rw [shown?, FileEntry.at?_append, found, Option.bind_some, FileEntry.at?_cons]
  simp [FileEntry.at?]

/-- Following a path looks at places only for what they show. -/
theorem follow_cons
    (purpose : Purpose)
    (links : Nat)
    (names : List String)
    (component : String)
    (rest : List String) :
    system.follow purpose links names (component :: rest) =
      match system.shown? names with
      | some (.directory _) =>
          if component = "" || component = "." then
            system.follow purpose links names rest
          else if component = ".." then
            system.follow purpose links names.dropLast rest
          else if purpose = .create && onlySlashes rest then
            .error .isDirectory
          else if Path.isNameTooLong component then
            .error .nameTooLong
          else
            match system.shown? (names ++ [component]) with
            | none => if rest.isEmpty then .ok (.vacant names component) else .error .notFound
            | some (.link target) =>
                match links with
                | 0 => .error .tooManyLinks
                | fewer + 1 =>
                    system.follow purpose fewer (if Path.isAbsolute target then [] else names)
                      (Path.components target ++ rest)
            | some _ => system.follow purpose links (names ++ [component]) rest
      | _ => .error .notDirectory := by
  rw [follow]
  cases found : system.root.at? names with
  | none =>
      simp [shown?, found]
  | some entry =>
      cases entry with
      | directory entries =>
          rw [shown?_concat found]
          simp only [shown?, found, Option.map_some, FileEntry.outside]
          cases Listing.get? entries component with
          | none =>
              rfl
          | some entry =>
              cases entry <;> rfl
      | file bytes =>
          simp [shown?, found, FileEntry.outside]
      | closed fault =>
          simp [shown?, found, FileEntry.outside]
      | link target =>
          simp [shown?, found, FileEntry.outside]

theorem follow_of_alike
    (alike : system.root.Alike other.root)
    (purpose : Purpose)
    (links : Nat)
    (names components : List String) :
    other.follow purpose links names components =
      system.follow purpose links names components := by
  have sameShown (place : List String) : other.shown? place = system.shown? place :=
    (alike place).symm
  -- a link takes one from the count, everything else one part from the path
  induction links generalizing names components with
  | zero =>
      induction components generalizing names with
      | nil =>
          rw [follow, follow]
      | cons component rest restHypothesis =>
          simp only [follow_cons, sameShown, restHypothesis]
  | succ fewer linkHypothesis =>
      induction components generalizing names with
      | nil =>
          rw [follow, follow]
      | cons component rest restHypothesis =>
          simp only [follow_cons, sameShown, restHypothesis, linkHypothesis]

theorem readPlace_existing (names : List String) :
    system.readPlace (.existing names) =
      match system.shown? names with
      | some (.file bytes) => .ok bytes
      | some (.closed fault) => .error fault
      | some (.directory _) => .error .isDirectory
      | _ => .error .notFound := by
  rw [readPlace, shown?]
  cases system.root.at? names with
  | none =>
      rfl
  | some entry =>
      cases entry <;> rfl

section Relisted

variable (relisted : system.Relisted other) (wellFormed : system.root.WellFormed)

include relisted wellFormed

theorem Relisted.locate_eq (purpose : Purpose) (path : String) :
    other.locate purpose path = system.locate purpose path := by
  have alike := relisted.root.alike wellFormed
  rw [locate, locate, start, start, relisted.workingDirectory]
  simp only [follow_of_alike alike]

theorem Relisted.read_eq (path : String) :
    other.read path = system.read path := by
  have sameShown (names : List String) : other.shown? names = system.shown? names :=
    (relisted.root.alike wellFormed names).symm
  have samePlace (place : Place) : other.readPlace place = system.readPlace place := by
    cases place with
    | vacant directory name =>
        rfl
    | existing names =>
        rw [readPlace_existing, readPlace_existing, sameShown]
  rw [FileSystem.read, FileSystem.read, relisted.locate_eq wellFormed, funext samePlace]

/-- Paths lead to directories in both, and these show the same. -/
theorem Relisted.directory?_rel (path : String) :
    Option.Rel
      (fun listing others => (FileEntry.directory listing).Alike (.directory others))
      (system.directory? path)
      (other.directory? path) := by
  rw [directory?_eq, directory?_eq, relisted.locate_eq wellFormed]
  cases system.locate .find path with
  | error fault =>
      exact .none
  | ok place =>
      cases place with
      | vacant directory name =>
          exact .none
      | existing names =>
          have there := (relisted.root.alike wellFormed).at?_rel names
          dsimp only
          generalize system.root.at? names = here?, other.root.at? names = there? at there ⊢
          cases there with
          | none =>
              exact .none
          | some alike =>
              exact alike.listing_rel

end Relisted

end FileSystem

end JavaOutline
