import Mathlib.Data.List.Nodup
import JavaOutline.Scan
import JavaOutline.Proofs.Containment
import JavaOutline.Proofs.Outcomes
import JavaOutline.Proofs.SeenFiles

namespace JavaOutline

open Text (Bytes)

/-!
# Scanning a directory

A scan of a directory ends with a catalog of exactly the files that can be
outlined and read, each under its own path and with the outcome that it has on
its own. They come in the order of their addresses, however the directories
list their entries.
-/

variable {State Fault : Type} {indexer : Indexer State Fault} {config : ScanConfig}

/-- Every text of characters has an outcome. -/
def Indexer.Answers (indexer : Indexer State Fault) : Prop :=
  ∀ text path fallbackPackage : String,
    ∃ outcome, (indexer.index text path fallbackPackage).outcome = .ok outcome

theorem Indexer.answers_of_rejectsOnly
    (rejects : indexer.listener.RejectsOnly)
    (total : ∀ source, ∃ tree, indexer.parse? source = some tree) :
    indexer.Answers := by
  intro text path fallbackPackage
  obtain ⟨tree, parsed⟩ := total (Text.encode text)
  have contains : indexer.Contains text path fallbackPackage tree :=
    Indexer.contains_of_rejectsOnly rejects parsed
  obtain ⟨outcome, ended, -⟩ := contains
  exact ⟨outcome, ended⟩

/-- The outcome of a file of which this was read, if it is one to be outlined. -/
def Indexer.outcomeOf?
    (indexer : Indexer State Fault)
    (config : ScanConfig)
    (path : String)
    (content : Except FileFault Bytes) :
    Option FileOutcome :=
  match config.classify path, content with
  | .extractable, .ok bytes =>
      (indexer.index (textOfFile bytes) path config.defaultPackage).outcome.toOption
  | _, _ => none

theorem skipUnreadable_of_ok
    {computation : Traced (ScanFault Fault) (Option FileOutcome)}
    {outcome? : Option FileOutcome}
    (ended : computation.outcome = .ok outcome?)
    (path : String) :
    skipUnreadable path computation = computation := by
  simp [skipUnreadable, ended]

/-- What a run over paths enters into a catalog. -/
def Indexer.putAll
    (indexer : Indexer State Fault)
    (config : ScanConfig)
    (read : String → Except FileFault Bytes)
    (catalog : Catalog)
    (paths : List String) :
    Catalog :=
  paths.foldl
    (fun catalog path => catalog.putOptional path (indexer.outcomeOf? config path (read path)))
    catalog

section Answers

variable (answers : indexer.Answers)

include answers

theorem Indexer.isSome_outcomeOf?_iff
    {path : String}
    {content : Except FileFault Bytes} :
    (indexer.outcomeOf? config path content).isSome ↔
      config.classify path = .extractable ∧ ∃ bytes, content = .ok bytes := by
  cases kind : config.classify path with
  | extractable =>
      cases content with
      | ok bytes =>
          obtain ⟨outcome, ended⟩ := answers (textOfFile bytes) path config.defaultPackage
          simp [outcomeOf?, kind, ended, Except.toOption]
      | error fault =>
          simp [outcomeOf?, kind]
  | notImplemented =>
      simp [outcomeOf?, kind]
  | nonSource =>
      simp [outcomeOf?, kind]
  | unknown =>
      simp [outcomeOf?, kind]

/-- Once a file is read, outlining it does not fail. -/
theorem indexContent_ok (path : String) (bytes : Bytes) :
    (indexContent indexer config path (.ok (textOfFile bytes))).outcome =
      .ok (indexer.outcomeOf? config path (.ok bytes)) := by
  obtain ⟨outcome, ended⟩ := answers (textOfFile bytes) path config.defaultPackage
  cases kind : config.classify path with
  | extractable =>
      simp only [indexContent, kind, Traced.outcome_bind, Traced.outcome_tell, Traced.mapFault,
        ended, Indexer.outcomeOf?]
      rfl
  | notImplemented =>
      simp only [indexContent, kind, Indexer.outcomeOf?]
      rfl
  | nonSource =>
      simp only [indexContent, kind, Indexer.outcomeOf?]
      rfl
  | unknown =>
      simp only [indexContent, kind, Indexer.outcomeOf?]
      rfl

/-- One step of a scan: whatever comes of reading the file, there is no fault. -/
theorem skipUnreadable_indexContent
    (path : String)
    (content : Except FileFault Bytes) :
    (skipUnreadable path
      (indexContent indexer config path (textOfContent path content))).outcome =
      .ok (indexer.outcomeOf? config path content) := by
  cases content with
  | ok bytes =>
      rw [textOfContent, skipUnreadable_of_ok (indexContent_ok answers path bytes)]
      exact indexContent_ok answers path bytes
  | error fault =>
      cases kind : config.classify path <;>
        simp only [textOfContent, indexContent, kind, Indexer.outcomeOf?] <;>
        rfl

/-- A run enters the outcomes of its paths one after the other. -/
theorem indexAll_outcome
    (read : String → Except FileFault Bytes)
    (told : List Event)
    (catalog : Catalog)
    (paths : List String) :
    (indexAll indexer config (fun _ path => read path) told catalog paths).outcome =
      .ok (indexer.putAll config read catalog paths) := by
  induction paths generalizing told catalog with
  | nil =>
      rfl
  | cons path rest inductionHypothesis =>
      rw [indexAll, Traced.outcome_bind, skipUnreadable_indexContent answers]
      exact inductionHypothesis _ _

end Answers

/-! ## The entries of a catalog -/

theorem Catalog.putEntry_of_fresh
    {path : String}
    {entries : List (String × FileOutcome)}
    (fresh : path ∉ entries.map Prod.fst)
    (outcome : FileOutcome) :
    putEntry path outcome entries = entries ++ [(path, outcome)] := by
  induction entries with
  | nil =>
      rfl
  | cons entry rest inductionHypothesis =>
      have different : path ≠ entry.1 := List.ne_of_not_mem_cons fresh
      have restFresh : path ∉ rest.map Prod.fst := List.not_mem_of_not_mem_cons fresh
      rw [putEntry, if_neg (Ne.symm different), inductionHypothesis restFresh, List.cons_append]

/-- The entry of a path, if it has an outcome. -/
def Indexer.entryOf?
    (indexer : Indexer State Fault)
    (config : ScanConfig)
    (read : String → Except FileFault Bytes)
    (path : String) :
    Option (String × FileOutcome) :=
  (indexer.outcomeOf? config path (read path)).map (fun outcome => (path, outcome))

/-- Different paths are all entered at the end. -/
theorem Indexer.putAll_entries
    {read : String → Except FileFault Bytes}
    {catalog : Catalog}
    {paths : List String}
    (distinct : paths.Nodup)
    (fresh : ∀ path ∈ paths, path ∉ catalog.entries.map Prod.fst) :
    (indexer.putAll config read catalog paths).entries =
      catalog.entries ++ paths.filterMap (indexer.entryOf? config read) := by
  induction paths generalizing catalog with
  | nil =>
      exact (List.append_nil _).symm
  | cons path rest inductionHypothesis =>
      obtain ⟨notLater, restDistinct⟩ := List.nodup_cons.mp distinct
      obtain ⟨pathFresh, restFresh⟩ := List.forall_mem_cons.mp fresh
      rw [putAll, List.foldl_cons, ← putAll]
      cases ended : indexer.outcomeOf? config path (read path) with
      | none =>
          have skipped : indexer.entryOf? config read path = none := by
            rw [entryOf?, ended, Option.map_none]
          rw [List.filterMap_cons_none skipped]
          exact inductionHypothesis restDistinct restFresh
      | some outcome =>
          have entered : indexer.entryOf? config read path = some (path, outcome) := by
            rw [entryOf?, ended, Option.map_some]
          have grown :
              (catalog.put path outcome).entries = catalog.entries ++ [(path, outcome)] :=
            Catalog.putEntry_of_fresh pathFresh outcome
          rw [List.filterMap_cons_some entered]
          refine (inductionHypothesis restDistinct ?_).trans ?_
          · intro later present
            have different : later ≠ path := fun same => notLater (same ▸ present)
            rw [Catalog.putOptional, grown]
            simpa [different] using restFresh later present
          · rw [Catalog.putOptional, grown, List.append_assoc, List.singleton_append]

/-- The paths that are entered are those with an outcome. -/
theorem Indexer.keys_eq_filter
    (read : String → Except FileFault Bytes)
    (paths : List String) :
    (paths.filterMap (indexer.entryOf? config read)).map Prod.fst =
      paths.filter (fun path => (indexer.outcomeOf? config path (read path)).isSome) := by
  induction paths with
  | nil =>
      rfl
  | cons path rest inductionHypothesis =>
      cases ended : indexer.outcomeOf? config path (read path) with
      | none =>
          simpa [entryOf?, ended] using inductionHypothesis
      | some outcome =>
          simpa [entryOf?, ended] using inductionHypothesis

theorem Indexer.mem_filterMap_entryOf?
    {read : String → Except FileFault Bytes}
    {paths : List String}
    {path : String}
    {outcome : FileOutcome}
    (present : (path, outcome) ∈ paths.filterMap (indexer.entryOf? config read)) :
    path ∈ paths ∧ indexer.outcomeOf? config path (read path) = some outcome := by
  obtain ⟨original, inPaths, entered⟩ := List.mem_filterMap.mp present
  obtain ⟨found, ended, same⟩ := Option.map_eq_some_iff.mp entered
  cases same
  exact ⟨inPaths, ended⟩

/-! ## The whole scan -/

section Scan

variable {system : FileSystem} {path : String} {listing : Listing} {folder : Folder}

/-- A file that can be read has the same outcome on its own. -/
theorem indexPath_of_outcomeOf?
    (answers : indexer.Answers)
    (usable : Path.hasZero path = false)
    {outcome : FileOutcome}
    (ended : indexer.outcomeOf? config path (system.read path) = some outcome) :
    (indexPath indexer config (.still system) path).outcome = .ok ⟨[(path, outcome)]⟩ := by
  have isSome := Option.isSome_of_eq_some ended
  obtain ⟨extractable, bytes, read⟩ := (Indexer.isSome_outcomeOf?_iff answers).mp isSome
  have noFolder : Folder.ofPath? system path = none := by
    rw [Folder.ofPath?, FileSystem.directory?_eq_none_of_read read, Option.bind_none]
  rw [read] at ended
  have indexed : (indexFile indexer config (.still system) path).outcome = .ok (some outcome) := by
    rw [indexFile, readText, usable, if_neg Bool.false_ne_true, ← ended,
      ← indexContent_ok answers path bytes, Disk.still, read, textOfContent]
  rw [indexPath, Disk.still, noFolder]
  change (indexFile indexer config (.still system) path >>= _).outcome = _
  rw [Traced.outcome_bind, indexed]
  rfl

/-- A directory that a path leads to is seen. -/
theorem exists_seen_of_directory?
    (found : system.directory? path = some listing) :
    ∃ folder,
      Folder.seen? system path (.directory listing) = some folder ∧
        Folder.ofPath? system path = some folder := by
  obtain ⟨names, located, -⟩ := FileSystem.directory?_eq_some found
  have seen : Folder.seen? system path (.directory listing) = some _ :=
    Folder.seen?_directory (FileSystem.locate_eq_ok located).1 listing
  refine ⟨_, seen, ?_⟩
  rw [Folder.ofPath?, found, Option.bind_some, seen]

/-- The files below a directory have different paths. -/
theorem nodup_paths_of_seen
    (wellFormed : (FileEntry.directory listing).WellFormed)
    (seen : Folder.seen? system path (.directory listing) = some folder) :
    (folder.sorted.addresses.map (Address.path path)).Nodup := by
  have ordered := (Folder.distinct_of_wellFormed wellFormed seen).pairwise_before
  have valid {address : Address} (present : address ∈ folder.sorted.addresses) :
      address.Valid :=
    Folder.valid_of_holds wellFormed seen (Folder.mem_sorted_addresses_iff.mp present)
  refine List.Nodup.map_on ?_ (Address.nodup_of_pairwise_before ordered)
  intro first firstPresent second secondPresent same
  exact (valid firstPresent).path_inj (valid secondPresent) same

/-- Files that are seen and have an outcome are those that are there, to be outlined and
readable. -/
theorem mem_addresses_and_isSome_iff
    (answers : indexer.Answers)
    (wellFormed : (FileEntry.directory listing).WellFormed)
    (seen : Folder.seen? system path (.directory listing) = some folder)
    {address : Address} :
    address ∈ folder.sorted.addresses ∧
        (indexer.outcomeOf? config (address.path path)
          (system.read (address.path path))).isSome ↔
      listing.HoldsFile address ∧
        config.classify (address.path path) = .extractable ∧
        ∃ bytes, system.read (address.path path) = .ok bytes := by
  rw [Folder.mem_sorted_addresses_iff, Indexer.isSome_outcomeOf?_iff answers]
  apply and_congr_left
  rintro ⟨-, bytes, read⟩
  exact Folder.holds_iff_of_read wellFormed seen read

/-- A scan of a directory is a run over the addresses of the folder that is seen. -/
theorem indexDirectory_still :
    indexDirectory indexer config (.still system) path =
      if Path.hasZero path then
        throw .unusablePath
      else
        match Folder.ofPath? system path with
        | some folder =>
            indexAll indexer config (fun _ file => system.read file) [] .empty
              (folder.sorted.addresses.map (Address.path path))
        | none => pure .empty := by
  rw [indexDirectory, Disk.still]
  cases Folder.ofPath? system path with
  | none =>
      rfl
  | some folder =>
      dsimp only
      rw [← Folder.paths_eq_map]
      rfl

/-- The order of listings does not show in a scan, nor in what it tells. -/
theorem indexDirectory_of_relisted
    {other : FileSystem}
    (wellFormed : system.root.WellFormed)
    (relisted : system.Relisted other) :
    indexDirectory indexer config (.still other) path =
      indexDirectory indexer config (.still system) path := by
  have sameRead : other.read = system.read := funext (relisted.read_eq wellFormed)
  have related :
      Option.Rel
        (fun folder otherFolder => folder.sorted.addresses = otherFolder.sorted.addresses)
        (Folder.ofPath? system path)
        (Folder.ofPath? other path) :=
    Folder.ofPath?_rel relisted wellFormed
  rw [indexDirectory_still, indexDirectory_still, sameRead]
  generalize Folder.ofPath? system path = folder?,
    Folder.ofPath? other path = otherFolder? at related ⊢
  cases related with
  | none =>
      rfl
  | some sameAddresses =>
      simp only [sameAddresses]

end Scan

/--
A scan of the directory at a path, with this listing, ends with this catalog:
exactly the files that are to be outlined and can be read, in the order of
their addresses. Each has the outcome that it has on its own among any other
files. The order of the listings has no influence.
-/
structure ScansDirectory
    (indexer : Indexer State Fault)
    (config : ScanConfig)
    (system : FileSystem)
    (path : String)
    (listing : Listing)
    (catalog : Catalog) :
    Prop where
  ended : (indexDirectory indexer config (.still system) path).outcome = .ok catalog
  keys :
    ∃ addresses : List Address,
      addresses.Pairwise Address.Before ∧
        (∀ address,
          address ∈ addresses ↔
            listing.HoldsFile address ∧
              config.classify (address.path path) = .extractable ∧
              ∃ bytes, system.read (address.path path) = .ok bytes) ∧
        catalog.entries.map Prod.fst = addresses.map (Address.path path)
  once : (catalog.entries.map Prod.fst).Nodup
  alone :
    ∀ key outcome,
      (key, outcome) ∈ catalog.entries →
      ∀ other : FileSystem,
        other.read key = system.read key →
        (indexPath indexer config (.still other) key).outcome = .ok ⟨[(key, outcome)]⟩
  relisted :
    ∀ other : FileSystem,
      system.Relisted other →
      indexDirectory indexer config (.still other) path =
        indexDirectory indexer config (.still system) path

/-- Scans are complete, keep files apart and do not depend on the order of listings. -/
theorem indexDirectory_scans_every_file
    (parse : Bytes → Node)
    (config : ScanConfig)
    (system : FileSystem)
    (path : String)
    (listing : Listing)
    (wellFormed : system.root.WellFormed)
    (found : system.directory? path = some listing) :
    ∃ catalog,
      ScansDirectory ⟨fun source => some (parse source), .collecting⟩ config system path listing
        catalog := by
  let indexer : Indexer (List SyntaxIssue) Empty :=
    ⟨fun source => some (parse source), .collecting⟩
  have answers : indexer.Answers :=
    Indexer.answers_of_rejectsOnly Listener.collecting_rejectsOnly
      (fun source => ⟨parse source, rfl⟩)
  have usable := FileSystem.hasZero_of_directory? wellFormed found
  have listingWellFormed := FileSystem.wellFormed_of_directory? wellFormed found
  obtain ⟨folder, seen, seenAt⟩ := exists_seen_of_directory? found
  let paths := folder.sorted.addresses.map (Address.path path)
  have distinct : paths.Nodup := nodup_paths_of_seen listingWellFormed seen
  have entries :
      (indexer.putAll config system.read .empty paths).entries =
        paths.filterMap (indexer.entryOf? config system.read) :=
    Indexer.putAll_entries distinct (fun _ _ => List.not_mem_nil)
  refine ⟨indexer.putAll config system.read .empty paths, ?_, ?_, ?_, ?_, ?_⟩
  · rw [indexDirectory_still, usable, if_neg Bool.false_ne_true, seenAt]
    exact indexAll_outcome answers system.read [] .empty paths
  · refine ⟨folder.sorted.addresses.filter (fun address =>
      (indexer.outcomeOf? config (address.path path)
        (system.read (address.path path))).isSome), ?_, ?_, ?_⟩
    · exact (Folder.distinct_of_wellFormed listingWellFormed seen).pairwise_before.filter _
    · intro address
      rw [List.mem_filter]
      exact mem_addresses_and_isSome_iff answers listingWellFormed seen
    · rw [entries, Indexer.keys_eq_filter, List.filter_map]
      rfl
  · rw [entries, Indexer.keys_eq_filter]
    exact distinct.filter _
  · intro key outcome present other sameRead
    rw [entries] at present
    obtain ⟨inPaths, ended⟩ := Indexer.mem_filterMap_entryOf? present
    obtain ⟨address, isSeen, rfl⟩ := List.mem_map.mp inPaths
    have holds := Folder.mem_sorted_addresses_iff.mp isSeen
    have valid := Folder.valid_of_holds listingWellFormed seen holds
    rw [← sameRead] at ended
    exact indexPath_of_outcomeOf? answers (valid.hasZero_path usable) ended
  · intro other relisted
    exact indexDirectory_of_relisted wellFormed relisted

/-- A directory with a file that does not open, listed out of order. -/
def sourceListing : Listing :=
  [("lib", .directory [("A.java", .file [])]),
    ("Main.java", .file []),
    ("Locked.java", .closed .permissionDenied),
    ("latest", .link "lib")]

/-- The directory in a system of its own. -/
def sourceSystem : FileSystem :=
  ⟨[("src", .directory sourceListing)], []⟩

theorem sourceSystem_wellFormed : sourceSystem.root.WellFormed := by
  have isName {name : String}
      (valid : name ∈ ["src", "lib", "A.java", "Main.java", "Locked.java", "latest"]) :
      Path.IsName name := by
    simp only [List.mem_cons, List.not_mem_nil, or_false] at valid
    rcases valid with rfl | rfl | rfl | rfl | rfl | rfl <;>
      exact ⟨by decide, by decide, by decide⟩
  have library : (FileEntry.directory [("A.java", .file [])]).WellFormed :=
    .directory (by decide) (by simp [isName]) (by simp [FileEntry.WellFormed.file])
  have source : (FileEntry.directory sourceListing).WellFormed := by
    refine .directory (by decide) (by simp [sourceListing, isName]) ?_
    simp [sourceListing, library, FileEntry.WellFormed.file, FileEntry.WellFormed.closed,
      FileEntry.WellFormed.link]
  exact .directory (by decide) (by simp [sourceSystem, isName]) (by simp [sourceSystem, source])

theorem sourceSystem_directory? : sourceSystem.directory? "src" = some sourceListing := by
  have arrived :
      sourceSystem.follow .find FileSystem.linkLimit ["src"] [] = .ok (.existing ["src"]) := by
    rw [FileSystem.follow]
  have followed :
      sourceSystem.follow .find FileSystem.linkLimit [] ["src"] = .ok (.existing ["src"]) := by
    rw [FileSystem.follow]
    exact arrived
  have located : sourceSystem.locate .find "src" = .ok (.existing ["src"]) := followed
  rw [FileSystem.directory?, located]
  rfl

theorem sourceSystem_scans_every_file :
    sourceSystem.root.WellFormed ∧
      sourceSystem.directory? "src" = some sourceListing ∧
      ∃ catalog,
        ScansDirectory ⟨fun _ => some halfNamedUnit, .collecting⟩ (.standard "") sourceSystem
          "src" sourceListing catalog :=
  ⟨sourceSystem_wellFormed, sourceSystem_directory?,
    indexDirectory_scans_every_file (fun _ => halfNamedUnit) (.standard "") sourceSystem "src"
      sourceListing sourceSystem_wellFormed sourceSystem_directory?⟩

end JavaOutline
