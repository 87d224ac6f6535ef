import JavaOutline.Proofs.Containment
import JavaOutline.Proofs.WalkEvents

namespace JavaOutline

open Text (Bytes)

/-!
# What is written at debug level

The events of a walk are read here as they are written, as records of a logger.
A source that is outlined has one record for each of its classes, inner classes
first, and a source that cannot be outlined has those of the types that the walk
had left when it came to a node without a name.
-/

/-- A record that tells of a class, as it is written at debug level. -/
def extractedRecord (node : Node) (declared : ClassDecl) : LogRecord where
  level := .debug
  logger := "decl_index.type_declarations"
  message :=
    "extracted " ++ declared.name.qualifiedName ++ " (" ++ node.kind ++ ") with " ++
      toString declared.children.length ++ " member(s)"

/-- A record at debug level says that something has been extracted. -/
def LogRecord.isExtracted (record : LogRecord) : Bool :=
  record.level == .debug && record.logger == "decl_index.type_declarations" &&
    "extracted ".toList.isPrefixOf record.message.toList

theorem loggerFor_types :
    loggerFor "type_declarations" = "decl_index.type_declarations" := by
  decide

theorem loggerFor_indexer :
    loggerFor "indexer" = "decl_index.indexer" := by
  decide

/-- No other part of the program writes to the logger of the indexer. -/
theorem loggerFor_ne_indexer
    {part : String}
    (other : part ≠ "indexer") :
    loggerFor part ≠ "decl_index.indexer" := by
  have own : rootLogger ++ "." ++ "indexer" = "decl_index.indexer" := by
    decide
  unfold loggerFor
  split
  · decide
  · rw [← own]
    intro same
    exact other ((String.append_right_inj _).mp same)

theorem record_extractedEvent (node : Node) (declared : ClassDecl) :
    (extractedEvent node declared).record = extractedRecord node declared := by
  rw [extractedEvent, Event.record, Event.part, loggerFor_types]
  rfl

/-- Records of classes can be told from all others by what is written. -/
theorem isExtracted_record (event : Event) :
    event.record.isExtracted = event.isExtracted := by
  cases event with
  | extracted name kind members =>
      have begins :
          "extracted ".toList.isPrefixOf
            ("extracted " ++ name.qualifiedName ++ " (" ++ kind ++ ") with " ++
              toString members ++ " member(s)").toList = true := by
        simp only [String.toList_append, List.append_assoc]
        exact List.isPrefixOf_iff_prefix.mpr (List.prefix_append _ _)
      simp only [LogRecord.isExtracted, Event.record, Event.level, Event.part, loggerFor_types,
        beq_self_eq_true, Bool.true_and]
      exact begins
  | annotationSkipped name bodyLength =>
      have begins :
          "extracted ".toList.isPrefixOf
            ("skipping annotation type @" ++ name ++ " (" ++ toString bodyLength ++
              " chars of body)").toList = false := by
        simp only [String.toList_append, List.append_assoc]
        rfl
      simp only [LogRecord.isExtracted, Event.record, Event.level, Event.part, loggerFor_types,
        beq_self_eq_true, Bool.true_and]
      exact begins
  | _ =>
      simp [LogRecord.isExtracted, Event.record, Event.isExtracted, Event.level, Event.part,
        loggerFor, rootLogger]

/-- The records that tell of classes, in the order in which they are written. -/
def extractedRecords (events : List Event) : List LogRecord :=
  (events.map Event.record).filter LogRecord.isExtracted

theorem extractedRecords_eq (events : List Event) :
    extractedRecords events = (events.filter Event.isExtracted).map Event.record := by
  have same : LogRecord.isExtracted ∘ Event.record = Event.isExtracted :=
    funext isExtracted_record
  rw [extractedRecords, List.filter_map, same]

/-- A record tells of the class that a type is outlined as. -/
def Visit.RecordedBy (source : Bytes) (visit : Visit) (record : LogRecord) : Prop :=
  ∃ declared,
    visit.OutlinedAs source declared ∧ record = extractedRecord visit.node declared

theorem extractedRecords_forall₂
    {source : Bytes}
    {left : List Visit}
    {events : List Event}
    (told : List.Forall₂ (Visit.ToldBy source) left (events.filter Event.isExtracted)) :
    List.Forall₂ (Visit.RecordedBy source) left (extractedRecords events) := by
  rw [extractedRecords_eq, List.forall₂_map_right_iff]
  refine told.imp ?_
  rintro visit event ⟨declared, outlined, rfl⟩
  exact ⟨declared, outlined, record_extractedEvent visit.node declared⟩

/-- A last event of another kind adds no record of a class. -/
theorem extractedRecords_concat
    {events : List Event}
    {event : Event}
    (other : event.isExtracted = false) :
    extractedRecords (events ++ [event]) = extractedRecords events := by
  rw [extractedRecords_eq, extractedRecords_eq, List.filter_append,
    List.filter_cons_of_neg (ne_true_of_eq_false other), List.filter_nil, List.append_nil]

theorem Visit.OutlinedAs.unique
    {source : Bytes}
    {visit : Visit}
    {first second : ClassDecl}
    (isFirst : visit.OutlinedAs source first)
    (isSecond : visit.OutlinedAs source second) :
    first = second := by
  obtain ⟨scope, inScope, outlined⟩ := isFirst
  obtain ⟨other, inOther, otherOutlined⟩ := isSecond
  obtain rfl := Option.some.inj (inScope.symm.trans inOther)
  exact Option.some.inj (Except.ok.inj (outlined.symm.trans otherOutlined))

/-- What is related to the same items one by one is related through them. -/
theorem forall₂_through
    {Item First Second : Type}
    {firstRelated : Item → First → Prop}
    {secondRelated : Item → Second → Prop}
    {items : List Item}
    {first : List First}
    {second : List Second}
    (firsts : List.Forall₂ firstRelated items first)
    (seconds : List.Forall₂ secondRelated items second) :
    List.Forall₂
      (fun left right => ∃ item ∈ items, firstRelated item left ∧ secondRelated item right)
      first second := by
  induction firsts generalizing second with
  | nil =>
      cases seconds
      exact .nil
  | cons related _ inductionHypothesis =>
      cases seconds with
      | cons otherRelated others =>
          refine .cons ⟨_, List.mem_cons_self, related, otherRelated⟩ ?_
          refine (inductionHypothesis others).imp ?_
          rintro left right ⟨item, member, both⟩
          exact ⟨item, List.mem_cons_of_mem _ member, both⟩

/-- Visits go to the nodes of a unit that need a name, where they stand. -/
structure WalksUnit (root : Node) (visits : List Visit) : Prop where
  nodes : visits.map Visit.node = requiredSites root
  types : visits.filterMap Visit.typeNode? = unitTypes root
  laidOut : LaidOut root visits

namespace Indexer

variable {State Fault : Type}
variable
  (indexer : Indexer State Fault)
  (text path fallbackPackage : String)
  (tree : Node)
  (outcome : FileOutcome)

/--
Each class of an outline is told of once, with its name and the number of its
members, inner classes first. One record with the number of top-level classes
comes last.
-/
structure TellsOfClasses : Prop where
  everyClass : (outcome.declarations.flatMap ClassDecl.postWalk).Perm outcome.walk
  extracted :
    List.Forall₂
      (fun record declared =>
        ∃ visit ∈ unitVisits (Text.encode text) tree path fallbackPackage,
          visit.OutlinedAs (Text.encode text) declared ∧
            record = extractedRecord visit.node declared)
      (extractedRecords (indexer.index text path fallbackPackage).events)
      (outcome.declarations.flatMap ClassDecl.postWalk)
  last :
    ∃ earlier,
      (indexer.index text path fallbackPackage).events.map Event.record =
          earlier ++ [⟨.debug, "decl_index.indexer",
            path ++ ": " ++ toString outcome.declarations.length ++
              " top-level declaration(s)"⟩] ∧
        ∀ record ∈ earlier, record.logger ≠ "decl_index.indexer"

/--
The walk stops at the first node without a name. The types that are told of
are those that are met before that node and do not hold it, in the order in
which they are left.
-/
structure StopsAt (unnamed : Visit) (left : List Visit) : Prop where
  first :
    ∃ earlier later,
      unitVisits (Text.encode text) tree path fallbackPackage = earlier ++ unnamed :: later ∧
        unnamed.node.childByField? "name" = none ∧
        ∀ other ∈ earlier, ∃ name, other.node.childByField? "name" = some name
  blamed : ∃ missing, Blames missing unnamed.node ∧ outcome.message = some missing.message
  members : ∀ visit,
    visit ∈ left ↔
      visit ∈ unitVisits (Text.encode text) tree path fallbackPackage ∧
        visit.isType = true ∧
        ReadBefore visit.position unnamed.position ∧
        ¬ visit.position <+: unnamed.position
  order : left.Pairwise fun first second => LeftBefore first.position second.position
  extracted :
    List.Forall₂ (Visit.RecordedBy (Text.encode text)) left
      (extractedRecords (indexer.index text path fallbackPackage).events)

variable {indexer text path fallbackPackage tree outcome}

theorem eq_of_checkTree_ok
    {listener : Listener State Fault}
    {source : Bytes}
    {root : Node}
    (accepted : checkTree listener source tree = .ok root) :
    root = tree := by
  simp only [checkTree] at accepted
  split at accepted
  · cases accepted
  · split at accepted
    · exact (Except.ok.inj accepted).symm
    · cases accepted

/-- An accepted tree has the outcome of its outline. -/
theorem outlineChecked_eq_ok
    {source : Bytes}
    (ended :
      (outlineChecked source tree path fallbackPackage : Traced Fault FileOutcome).outcome =
        .ok outcome) :
    (∃ declarations,
        (outlineUnit source tree path fallbackPackage).outcome = .ok declarations ∧
          outcome = .parsed path declarations) ∨
      ∃ missing,
        (outlineUnit source tree path fallbackPackage).outcome = .error missing ∧
          outcome = incompleteOutcome path missing := by
  rw [outlineChecked] at ended
  cases unit : (outlineUnit source tree path fallbackPackage).outcome with
  | ok declarations =>
      simp only [unit] at ended
      exact .inl ⟨declarations, rfl, (Except.ok.inj ended).symm⟩
  | error missing =>
      simp only [unit] at ended
      exact .inr ⟨missing, rfl, (Except.ok.inj ended).symm⟩

/-- Unless a source is turned down for its syntax, its outcome is that of its tree. -/
theorem index_eq_outlineChecked
    (parsed : indexer.parse? (Text.encode text) = some tree)
    (ended : (indexer.index text path fallbackPackage).outcome = .ok outcome)
    (accepted : outcome.status ≠ .syntaxError) :
    indexer.index text path fallbackPackage =
      outlineChecked (Text.encode text) tree path fallbackPackage := by
  cases check : checkTree indexer.listener (Text.encode text) tree with
  | ok root =>
      rw [index_of_accepted parsed check, eq_of_checkTree_ok check]
  | error refusal =>
      cases refusal with
      | rejected issues =>
          rw [index_of_rejected parsed check] at ended
          cases ended
          exact absurd rfl accepted
      | failed fault =>
          simp [index_ofString, indexBytes, parsed, check] at ended

/-- An outline that is complete is told of in full. -/
theorem tellsOfClasses_of_ok
    {declarations : List ClassDecl}
    (run :
      indexer.index text path fallbackPackage =
        outlineChecked (Text.encode text) tree path fallbackPackage)
    (unit :
      (outlineUnit (Text.encode text) tree path fallbackPackage).outcome = .ok declarations) :
    indexer.TellsOfClasses text path fallbackPackage tree (.parsed path declarations) := by
  obtain ⟨inside, left, types, told, outlined⟩ :=
    outlineUnit_follows (Text.encode text) tree path fallbackPackage
  have events :
      (indexer.index text path fallbackPackage).events =
        (outlineUnit (Text.encode text) tree path fallbackPackage).events ++
          [.outlined path declarations.length] := by
    rw [run]
    simp only [outlineChecked, unit]
  refine ⟨?_, ?_, ?_⟩
  · exact .flatMap_left _ fun declared _ => declared.postWalk_perm_walk
  · rw [events, extractedRecords_concat rfl]
    refine (forall₂_through (extractedRecords_forall₂ told) (outlined declarations unit)).imp ?_
    rintro record declared ⟨visit, isLeft, ⟨other, otherOutlined, rfl⟩, isOutlined⟩
    have same : other = declared := otherOutlined.unique isOutlined
    rw [same]
    exact ⟨visit, ((types.members visit).mp isLeft).1, isOutlined, rfl⟩
  · refine ⟨(outlineUnit (Text.encode text) tree path fallbackPackage).events.map Event.record,
      ?_, ?_⟩
    · rw [events, List.map_append, List.map_singleton, Event.record, Event.part,
        loggerFor_indexer]
      rfl
    · intro record member
      obtain ⟨event, told, rfl⟩ := List.mem_map.mp member
      exact loggerFor_ne_indexer (inside event told)

/-- An outline that fails is told of as far as the walk has come. -/
theorem exists_stopsAt_of_error
    {missing : MissingPart}
    (run :
      indexer.index text path fallbackPackage =
        outlineChecked (Text.encode text) tree path fallbackPackage)
    (unit :
      (outlineUnit (Text.encode text) tree path fallbackPackage).outcome = .error missing) :
    ∃ unnamed left,
      indexer.StopsAt text path fallbackPackage tree (incompleteOutcome path missing)
        unnamed left := by
  obtain ⟨-, left, types, told, -⟩ :=
    outlineUnit_follows (Text.encode text) tree path fallbackPackage
  have events :
      (indexer.index text path fallbackPackage).events =
        (outlineUnit (Text.encode text) tree path fallbackPackage).events ++
          [.declarationRejected path missing] := by
    rw [run]
    simp only [outlineChecked, unit]
  have fault := outlineUnit_fault (Text.encode text) tree path fallbackPackage
  rw [unit] at fault
  obtain ⟨unnamed, found, blamed⟩ := Option.map_eq_some_iff.mp fault.symm
  refine ⟨unnamed, left, ?_, ?_, ?_, types.order, ?_⟩
  · obtain ⟨isUnnamed, earlier, later, shape, named⟩ := List.find?_eq_some_iff_append.mp found
    refine ⟨earlier, later, shape, ?_, ?_⟩
    · simpa [Visit.isUnnamed, Node.isUnnamed] using isUnnamed
    · intro other member
      have isNamed := named other member
      simpa [Visit.isUnnamed, Node.isUnnamed, ← Option.isSome_iff_exists,
        ← Option.isSome_iff_ne_none] using isNamed
  · exact ⟨missing, blames_iff.mpr blamed.symm, rfl⟩
  · intro visit
    rw [types.members, found]
    simp [LeftBehind]
  · rw [events, extractedRecords_concat rfl]
    exact extractedRecords_forall₂ told

end Indexer

/--
What is told at debug level follows the order in which types are left. A source
that is outlined has one record for each of its classes, inner classes first,
and then one of the whole. A source with a node that cannot be recorded has the
records of the types that were left before that node was met.
-/
theorem index_tells_of_types_as_they_are_left
    {State Fault : Type}
    (indexer : Indexer State Fault)
    (text path fallbackPackage : String)
    (tree : Node)
    (outcome : FileOutcome)
    (parsed : indexer.parse? (Text.encode text) = some tree)
    (ended : (indexer.index text path fallbackPackage).outcome = .ok outcome) :
    WalksUnit tree (unitVisits (Text.encode text) tree path fallbackPackage) ∧
      (outcome.status = .parsed →
        indexer.TellsOfClasses text path fallbackPackage tree outcome) ∧
      (outcome.status = .extractionError →
        ∃ unnamed left,
          indexer.StopsAt text path fallbackPackage tree outcome unnamed left) := by
  have run (status : outcome.status ≠ .syntaxError) :
      indexer.index text path fallbackPackage =
        outlineChecked (Text.encode text) tree path fallbackPackage :=
    Indexer.index_eq_outlineChecked parsed ended status
  refine ⟨⟨map_node_unitVisits tree path fallbackPackage,
    filterMap_typeNode?_unitVisits tree path fallbackPackage,
    unitVisits_laidOut tree path fallbackPackage⟩, ?_, ?_⟩
  · intro status
    have checked := run (by simp [status])
    rw [checked] at ended
    rcases Indexer.outlineChecked_eq_ok ended with ⟨declarations, unit, rfl⟩ | ⟨missing, -, rfl⟩
    · exact Indexer.tellsOfClasses_of_ok checked unit
    · cases status
  · intro status
    have checked := run (by simp [status])
    rw [checked] at ended
    rcases Indexer.outlineChecked_eq_ok ended with ⟨declarations, -, rfl⟩ | ⟨missing, unit, rfl⟩
    · cases status
    · exact Indexer.exists_stopsAt_of_error checked unit

/-- A class, and a second one with a class in it and a method without a name. -/
def openText : String :=
  "class A \x7b\x7d class B \x7b class C \x7b\x7d void () \x7b\x7d \x7d"

/-- A class of one letter whose body has the given nodes. -/
def letterClass (start stop : Nat) (members : List Node) : Node :=
  spanNode "class_declaration" none start stop [
    spanNode "identifier" (some "name") (start + 6) (start + 7) [],
    spanNode "class_body" (some "body") (start + 8) stop members]

/-- The tree of these classes, with the given nodes after the inner class. -/
def openUnit (rest : List Node) : Node :=
  spanNode "program" none 0 44 [
    letterClass 0 10 [],
    letterClass 11 44 (letterClass 21 31 [] :: rest)]

/-- The method without a name. -/
def namelessMethod : Node :=
  spanNode "method_declaration" none 32 42 []

def openIndexer (rest : List Node) : Indexer (List SyntaxIssue) Empty :=
  ⟨fun _ => some (openUnit rest), .collecting⟩

/-- Without the method all three classes are told of, with it the outer class is not. -/
theorem openUnit_told_as_left :
    (∃ outcome,
        ((openIndexer []).index openText "A.java" "p").outcome = .ok outcome ∧
          outcome.status = .parsed ∧
          (openIndexer []).TellsOfClasses openText "A.java" "p" (openUnit []) outcome) ∧
      (∃ outcome,
        ((openIndexer [namelessMethod]).index openText "A.java" "p").outcome = .ok outcome ∧
          outcome.status = .extractionError ∧
          ∃ unnamed left,
            (openIndexer [namelessMethod]).StopsAt openText "A.java" "p"
              (openUnit [namelessMethod]) outcome unnamed left) ∧
      (extractedRecords
          ((openIndexer [namelessMethod]).index openText "A.java" "p").events).map
            LogRecord.message =
        ["extracted p/A.java#A (class_declaration) with 0 member(s)",
          "extracted p/A.java#B$C (class_declaration) with 0 member(s)"] := by
  refine ⟨?_, ?_, ?_⟩
  · obtain ⟨outcome, ended, status⟩ :
        ∃ outcome,
          ((openIndexer []).indexBytes (Text.encode openText) "A.java" "p").outcome =
              .ok outcome ∧
            outcome.status = .parsed :=
      ⟨_, rfl, rfl⟩
    rw [← Indexer.index_ofString] at ended
    exact ⟨outcome, ended, status,
      (index_tells_of_types_as_they_are_left (openIndexer []) openText "A.java" "p"
        (openUnit []) outcome rfl ended).2.1 status⟩
  · obtain ⟨outcome, ended, status⟩ :
        ∃ outcome,
          ((openIndexer [namelessMethod]).indexBytes
            (Text.encode openText) "A.java" "p").outcome = .ok outcome ∧
            outcome.status = .extractionError :=
      ⟨_, rfl, rfl⟩
    rw [← Indexer.index_ofString] at ended
    exact ⟨outcome, ended, status,
      (index_tells_of_types_as_they_are_left (openIndexer [namelessMethod]) openText "A.java" "p"
        (openUnit [namelessMethod]) outcome rfl ended).2.2 status⟩
  · rw [Indexer.index_ofString]
    decide +kernel

end JavaOutline
