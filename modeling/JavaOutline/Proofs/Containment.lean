import JavaOutline.Indexer
import JavaOutline.Proofs.BodyWalk
import JavaOutline.Proofs.IssueSearch

namespace JavaOutline

open Text (Bytes CodePoint CodePoints)

/-!
# Bad files are contained

Whatever tree a parser hands over, indexing a text of characters ends with an
outcome. It is one of three: the source is turned down for its syntax, or a
declaration cannot be recorded, or the outline is complete. A failed source
shows nothing of what had been recorded before the failure, and is worth
exactly one warning. A text with a surrogate in it is not contained: it has no
UTF-8 form, and it interrupts before the parser is asked for a tree.
-/

namespace Traced

variable {Fault Value Result : Type}

/-- A computation tells only what is of interest when debugging. -/
def Quiet (computation : Traced Fault Value) : Prop :=
  ∀ event ∈ computation.events, event.level = .debug

namespace Quiet

theorem pure (value : Value) :
    (Pure.pure value : Traced Fault Value).Quiet := by
  intro event member
  exact absurd member List.not_mem_nil

theorem ofExcept (outcome : Except Fault Value) :
    (Traced.ofExcept outcome).Quiet := by
  intro event member
  exact absurd member List.not_mem_nil

theorem tell
    {event : Event}
    (level : event.level = .debug) :
    (Traced.tell event : Traced Fault Unit).Quiet := by
  intro told member
  rw [List.mem_singleton.mp member]
  exact level

/-- Computations in a row are quiet if each of them is. -/
theorem bind
    {first : Traced Fault Value}
    {next : Value → Traced Fault Result}
    (firstQuiet : first.Quiet)
    (nextQuiet : ∀ value, (next value).Quiet) :
    (first >>= next).Quiet := by
  rcases first with ⟨events, outcome⟩
  cases outcome with
  | error fault =>
      exact firstQuiet
  | ok value =>
      intro event member
      rcases List.mem_append.mp member with early | late
      · exact firstQuiet event early
      · exact nextQuiet value event late

end Quiet

end Traced

section Walk

variable {source : Bytes}

theorem methodOf_quiet (owner : ClassName) (node : Node) :
    (methodOf source owner node).Quiet := by
  refine .bind (.ofExcept _) fun name => .bind (.ofExcept _) fun arguments => ?_
  refine .bind ?_ fun _ => .pure _
  unfold tellThrown
  split
  · exact .pure _
  · exact .tell rfl

/-- Recording a type is quiet if recording its members is. -/
theorem outlineType_quiet
    {node : Node}
    (members : ∀ owner body,
      node.childByField? bodyField = some body →
      (membersOf source owner body.children).Quiet)
    (scope : Scope) :
    (outlineType source scope node).Quiet := by
  by_cases skipped : node.kind = annotationKind
  · rw [outlineType_skipped skipped]
    exact .bind (.tell rfl) fun _ => .pure _
  · rw [outlineType_recorded skipped]
    refine .bind (.ofExcept _) fun identifier => .bind ?_ fun children => ?_
    · unfold typeMembers
      cases found : node.childByField? bodyField with
      | none =>
          exact .pure _
      | some body =>
          exact members _ body found
    · exact .bind (.tell rfl) fun _ => .pure _

theorem membersOf_cons_quiet
    {owner : ClassName}
    {node : Node}
    {rest : List Node}
    (first : (memberOf source owner node).Quiet)
    (others : (membersOf source owner rest).Quiet) :
    (membersOf source owner (node :: rest)).Quiet := by
  rw [membersOf_cons]
  exact .bind first fun _ => .bind others fun _ => .pure _

/-- The walk through a body is quiet. -/
theorem membersOf_quiet (owner : ClassName) (nodes : List Node) :
    (membersOf source owner nodes).Quiet := by
  induction nodes using bodyInduction generalizing owner with
  | nil =>
      rw [membersOf_nil]
      exact .pure _
  | passedOver node rest role inductionHypothesis =>
      refine membersOf_cons_quiet ?_ (inductionHypothesis owner)
      rw [memberOf_passedOver role]
      exact .pure _
  | callable node rest role inductionHypothesis =>
      refine membersOf_cons_quiet ?_ (inductionHypothesis owner)
      rw [memberOf_callable role]
      exact .bind (methodOf_quiet owner node) fun _ => .pure _
  | fields node rest role inductionHypothesis =>
      refine membersOf_cons_quiet ?_ (inductionHypothesis owner)
      rw [memberOf_fields role]
      exact .bind (.ofExcept _) fun _ => .pure _
  | constant node rest role inductionHypothesis =>
      refine membersOf_cons_quiet ?_ (inductionHypothesis owner)
      rw [memberOf_constant role]
      exact .bind (.ofExcept _) fun _ => .pure _
  | bodyPart node rest role inPart inductionHypothesis =>
      refine membersOf_cons_quiet ?_ (inductionHypothesis owner)
      rw [memberOf_bodyPart role]
      exact inPart owner
  | type node rest role inBody inductionHypothesis =>
      refine membersOf_cons_quiet ?_ (inductionHypothesis owner)
      rw [memberOf_type role]
      exact .bind
        (outlineType_quiet (fun nested body found => inBody body found nested) _)
        fun _ => .pure _

/-- Outlining a unit is quiet, whether it succeeds or not. -/
theorem outlineUnit_quiet
    (source : Bytes)
    (root : Node)
    (file fallbackPackage : String) :
    (outlineUnit source root file fallbackPackage).Quiet := by
  unfold outlineUnit
  induction root.children with
  | nil =>
      exact .pure _
  | cons node rest inductionHypothesis =>
      by_cases type : node.info.isNamedOneOf typeDeclarationKinds = true
      · rw [outlineTypes_type type]
        exact .bind
          (outlineType_quiet (fun owner body _ => membersOf_quiet owner _) _)
          fun _ => .bind inductionHypothesis fun _ => .pure _
      · rw [outlineTypes_passedOver (eq_false_of_ne_true type)]
        exact inductionHypothesis

end Walk

/-- The log records of events that are warnings. -/
def warningRecords (events : List Event) : List LogRecord :=
  (events.map Event.record).filter (fun record => record.level == .warning)

theorem warningRecords_append (first second : List Event) :
    warningRecords (first ++ second) = warningRecords first ++ warningRecords second := by
  simp [warningRecords]

theorem warningRecords_of_quiet
    {Fault Value : Type}
    {computation : Traced Fault Value}
    (quiet : computation.Quiet) :
    warningRecords computation.events = [] := by
  rw [warningRecords, List.filter_eq_nil_iff]
  intro record member
  obtain ⟨event, told, rfl⟩ := List.mem_map.mp member
  have level : event.record.level = .debug := quiet event told
  simp [level]

/-- The summary of at least one issue counts the issues and shows the first. -/
theorem summarizeIssues_cons (first : SyntaxIssue) (rest : List SyntaxIssue) :
    summarizeIssues (first :: rest) =
      toString (first :: rest).length ++ " syntax error(s): " ++ first.describe := by
  have joined : " syntax error(s)" ++ ": " = " syntax error(s): " := by
    decide
  simp only [summarizeIssues, ← joined, String.append_assoc]

variable {State Fault : Type}

/-- A listener refuses only by turning the source down for issues that it names. -/
def Listener.RejectsOnly (listener : Listener State Fault) : Prop :=
  ∀ {state issue refusal},
    (listener.hear state issue).2 = some refusal →
    ∃ first rest, refusal = .rejected (first :: rest)

theorem Listener.collecting_rejectsOnly :
    Listener.collecting.RejectsOnly := by
  intro state issue refusal refused
  simp [Listener.collecting] at refused

theorem Listener.failFast_rejectsOnly :
    Listener.failFast.RejectsOnly := by
  intro state issue refusal refused
  simp only [Listener.failFast, Option.some.injEq] at refused
  exact ⟨issue, [], refused.symm⟩

/-- A tree with issues is rejected for some, if the listener only rejects. -/
theorem checkTree_of_issues
    {listener : Listener State Fault}
    (rejects : listener.RejectsOnly)
    {source : Bytes}
    {root : Node}
    (found : (findIssues listener source root).issues ≠ []) :
    ∃ first rest,
      checkTree listener source root = .error (.rejected (first :: rest)) := by
  -- the listener has refused along the way, or the issues are counted at the end
  cases answer : (findIssues listener source root).refusal with
  | some refusal =>
      have told := answer
      rw [findIssues_eq_tellIssues] at told
      obtain ⟨state, issue, given⟩ := exists_hear_of_refusal told
      obtain ⟨first, rest, shape⟩ := rejects given
      exact ⟨first, rest, by simp [checkTree, answer, shape]⟩
  | none =>
      obtain ⟨first, rest, shape⟩ := List.exists_cons_of_ne_nil found
      exact ⟨first, rest, by simp [checkTree, answer, shape]⟩

namespace Indexer

variable
  (indexer : Indexer State Fault)
  (text path fallbackPackage : String)
  (tree : Node)
  (outcome : FileOutcome)

/-- The source is turned down for its syntax. -/
structure SyntaxFailure : Prop where
  found : (findIssues indexer.listener (Text.encode text) tree).issues ≠ []
  status : outcome.status = .syntaxError
  declarations : outcome.declarations = []
  raised :
    checkTree indexer.listener (Text.encode text) tree =
      .error (.rejected outcome.issues)
  message :
    ∃ first rest,
      outcome.issues = first :: rest ∧
        outcome.message =
          some (toString outcome.issues.length ++ " syntax error(s): " ++ first.describe)
  warnings :
    (warningRecords (indexer.index text path fallbackPackage).events).length = 1

/-- The source is in order, and it has a declaration that cannot be recorded. -/
structure ExtractionFailure : Prop where
  clean : (findIssues indexer.listener (Text.encode text) tree).issues = []
  status : outcome.status = .extractionError
  declarations : outcome.declarations = []
  issues : outcome.issues = []
  raised :
    ∃ missing,
      (outlineUnit (Text.encode text) tree path fallbackPackage).outcome = .error missing ∧
        outcome.message = some missing.message
  warnings :
    (warningRecords (indexer.index text path fallbackPackage).events).length = 1

/-- The source is in order and outlined. -/
structure Completion : Prop where
  clean : (findIssues indexer.listener (Text.encode text) tree).issues = []
  status : outcome.status = .parsed
  issues : outcome.issues = []
  message : outcome.message = none
  returned :
    (outlineUnit (Text.encode text) tree path fallbackPackage).outcome =
      .ok outcome.declarations
  warnings :
    warningRecords (indexer.index text path fallbackPackage).events = []

/--
A source ends with an outcome of exactly one of the three kinds. Its status
alone tells a file that declares nothing from one that failed.
-/
def Contains : Prop :=
  ∃ outcome,
    (indexer.index text path fallbackPackage).outcome = .ok outcome ∧
      outcome.file = path ∧
      (indexer.SyntaxFailure text path fallbackPackage tree outcome ∨
        indexer.ExtractionFailure text path fallbackPackage tree outcome ∨
        indexer.Completion text path fallbackPackage tree outcome) ∧
      (outcome.status = .syntaxError ↔
        indexer.SyntaxFailure text path fallbackPackage tree outcome) ∧
      (outcome.status = .extractionError ↔
        indexer.ExtractionFailure text path fallbackPackage tree outcome) ∧
      (outcome.status = .parsed ↔
        indexer.Completion text path fallbackPackage tree outcome)

variable {indexer text path fallbackPackage tree}

theorem index_of_rejected
    {issues : List SyntaxIssue}
    (parsed : indexer.parse? (Text.encode text) = some tree)
    (rejected :
      checkTree indexer.listener (Text.encode text) tree = .error (.rejected issues)) :
    indexer.index text path fallbackPackage =
      ⟨[.syntaxRejected path issues], .ok (rejectedOutcome path issues)⟩ := by
  simp [index_ofString, indexBytes, parsed, rejected]

theorem index_of_accepted
    {root : Node}
    (parsed : indexer.parse? (Text.encode text) = some tree)
    (accepted : checkTree indexer.listener (Text.encode text) tree = .ok root) :
    indexer.index text path fallbackPackage =
      outlineChecked (Text.encode text) root path fallbackPackage := by
  simp [index_ofString, indexBytes, parsed, accepted]

/-- The three kinds have different statuses, so one of them is enough. -/
theorem contains_of_case
    (outcome : FileOutcome)
    (ended : (indexer.index text path fallbackPackage).outcome = .ok outcome)
    (file : outcome.file = path)
    (cases :
      indexer.SyntaxFailure text path fallbackPackage tree outcome ∨
        indexer.ExtractionFailure text path fallbackPackage tree outcome ∨
        indexer.Completion text path fallbackPackage tree outcome) :
    indexer.Contains text path fallbackPackage tree := by
  refine ⟨outcome, ended, file, cases, ?_, ?_, ?_⟩
  all_goals
    rcases cases with rejected | incomplete | complete
  · exact ⟨fun _ => rejected, fun _ => rejected.status⟩
  · exact ⟨fun other => by simp [incomplete.status] at other, fun other => other.status⟩
  · exact ⟨fun other => by simp [complete.status] at other, fun other => other.status⟩
  · exact ⟨fun other => by simp [rejected.status] at other, fun other => other.status⟩
  · exact ⟨fun _ => incomplete, fun _ => incomplete.status⟩
  · exact ⟨fun other => by simp [complete.status] at other, fun other => other.status⟩
  · exact ⟨fun other => by simp [rejected.status] at other, fun other => other.status⟩
  · exact ⟨fun other => by simp [incomplete.status] at other, fun other => other.status⟩
  · exact ⟨fun _ => complete, fun _ => complete.status⟩

/-- A tree with issues: the source is turned down, and nothing else happens. -/
theorem contains_of_issues
    (rejects : indexer.listener.RejectsOnly)
    (parsed : indexer.parse? (Text.encode text) = some tree)
    (found : (findIssues indexer.listener (Text.encode text) tree).issues ≠ []) :
    indexer.Contains text path fallbackPackage tree := by
  obtain ⟨first, rest, raised⟩ := checkTree_of_issues rejects found
  have run :
      indexer.index text path fallbackPackage =
        ⟨[.syntaxRejected path (first :: rest)],
          .ok (rejectedOutcome path (first :: rest))⟩ :=
    index_of_rejected parsed raised
  refine contains_of_case (rejectedOutcome path (first :: rest)) ?_ rfl (.inl ?_)
  · rw [run]
  · exact {
      found := found
      status := rfl
      declarations := rfl
      raised := raised
      message := ⟨first, rest, rfl, congrArg some (summarizeIssues_cons first rest)⟩
      warnings := by
        rw [run]
        rfl
    }

/-- A tree without issues: the outline decides. -/
theorem contains_of_clean
    (parsed : indexer.parse? (Text.encode text) = some tree)
    (clean : (findIssues indexer.listener (Text.encode text) tree).issues = []) :
    indexer.Contains text path fallbackPackage tree := by
  have accepted : checkTree indexer.listener (Text.encode text) tree = .ok tree :=
    checkTree_of_no_issues (findIssues_issues_eq_nil_iff.mp clean)
  have run :
      indexer.index text path fallbackPackage =
        outlineChecked (Text.encode text) tree path fallbackPackage :=
    index_of_accepted parsed accepted
  have quiet := warningRecords_of_quiet
    (outlineUnit_quiet (Text.encode text) tree path fallbackPackage)
  cases unit : (outlineUnit (Text.encode text) tree path fallbackPackage).outcome with
  | error missing =>
      refine contains_of_case (incompleteOutcome path missing) ?_ rfl (.inr (.inl ?_))
      · simp [run, outlineChecked, unit]
      · exact {
          clean := clean
          status := rfl
          declarations := rfl
          issues := rfl
          raised := ⟨missing, unit, rfl⟩
          warnings := by
            simp only [run, outlineChecked, unit, warningRecords_append, quiet]
            rfl
        }
  | ok declarations =>
      refine contains_of_case (.parsed path declarations) ?_ rfl (.inr (.inr ?_))
      · simp [run, outlineChecked, unit]
      · exact {
          clean := clean
          status := rfl
          issues := rfl
          message := rfl
          returned := unit
          warnings := by
            simp only [run, outlineChecked, unit, warningRecords_append, quiet]
            rfl
        }

theorem contains_of_rejectsOnly
    (rejects : indexer.listener.RejectsOnly)
    (parsed : indexer.parse? (Text.encode text) = some tree) :
    indexer.Contains text path fallbackPackage tree := by
  by_cases clean : (findIssues indexer.listener (Text.encode text) tree).issues = []
  · exact contains_of_clean parsed clean
  · exact contains_of_issues rejects parsed clean

/-- Texts of characters are contained, and nothing at all is done with any other text. -/
structure ContainsEncodable
    (indexer : Indexer State Fault)
    (text : CodePoints)
    (path fallbackPackage : String)
    (tree : Node) :
    Prop where
  encodable :
    (∀ point ∈ text, ¬ point.IsSurrogate) →
    ∃ characters : String,
      text = characters ∧ indexer.Contains characters path fallbackPackage tree
  interrupted :
    (∃ point ∈ text, point.IsSurrogate) →
    indexer.index text path fallbackPackage = ⟨[], .error .unencodable⟩

/-- Nothing is told of a text with a surrogate in it, and it has no outcome. -/
theorem index_of_surrogate
    {points : CodePoints}
    (present : ∃ point ∈ points, point.IsSurrogate) :
    indexer.index points path fallbackPackage = ⟨[], .error .unencodable⟩ := by
  rw [Indexer.index, CodePoints.encode?_of_surrogate present]

theorem containsEncodable_of_rejectsOnly
    {points : CodePoints}
    (rejects : indexer.listener.RejectsOnly)
    (parsed :
      ∀ characters : String,
        points = characters →
        indexer.parse? (Text.encode characters) = some tree) :
    indexer.ContainsEncodable points path fallbackPackage tree where
  encodable noSurrogate := by
    obtain ⟨characters, rfl⟩ := CodePoints.exists_eq_ofString noSurrogate
    exact ⟨characters, rfl, contains_of_rejectsOnly rejects (parsed characters rfl)⟩
  interrupted present := index_of_surrogate present

end Indexer

/--
Both a listener that collects and one that fails fast leave bad files
contained, as long as there is no surrogate in the text. With one in it, the
text is never parsed and has no outcome, whichever of them listens.
-/
theorem index_contains_encodable_texts
    (parse? : Bytes → Option Node)
    (text : CodePoints)
    (path fallbackPackage : String)
    (tree : Node)
    (parsed :
      ∀ characters : String,
        text = characters →
        parse? (Text.encode characters) = some tree) :
    (Indexer.mk parse? .collecting).ContainsEncodable text path fallbackPackage tree ∧
      (Indexer.mk parse? .failFast).ContainsEncodable text path fallbackPackage tree :=
  ⟨Indexer.containsEncodable_of_rejectsOnly Listener.collecting_rejectsOnly parsed,
    Indexer.containsEncodable_of_rejectsOnly Listener.failFast_rejectsOnly parsed⟩

/-- Two classes, the second without a name. -/
def halfNamedText : String :=
  "class A \x7b\x7d class \x7b\x7d"

/-- The tree of these classes. -/
def halfNamedUnit : Node :=
  .mk ⟨"program", true, false, false, none, 0, 19, ⟨0, 0⟩⟩ [
    .mk ⟨"class_declaration", true, false, false, none, 0, 10, ⟨0, 0⟩⟩ [
      .mk ⟨"identifier", true, false, false, some "name", 6, 7, ⟨0, 6⟩⟩ []],
    .mk ⟨"class_declaration", true, false, false, none, 11, 19, ⟨0, 11⟩⟩ []]

/-- The class before the failure is complete and does not show in the outcome. -/
theorem index_contains_halfNamedUnit :
    (outlineUnit (Text.encode halfNamedText) halfNamedUnit "A.java" "").outcome =
        .error ⟨"class_declaration", ⟨0, 11⟩, "name"⟩ ∧
      (Indexer.mk (fun _ => some halfNamedUnit) .collecting).ContainsEncodable
        halfNamedText "A.java" "" halfNamedUnit ∧
      (Indexer.mk (fun _ => some halfNamedUnit) .failFast).ContainsEncodable
        halfNamedText "A.java" "" halfNamedUnit :=
  ⟨rfl, index_contains_encodable_texts (fun _ => some halfNamedUnit)
    halfNamedText "A.java" "" halfNamedUnit (fun _ _ => rfl)⟩

/-- A comment with nothing in it but a surrogate. -/
def surrogateComment : CodePoints :=
  CodePoints.ofString "// " ++ [⟨0xD800, by decide⟩]

/-- A unit that is a comment and nothing else. -/
def commentUnit : Node :=
  .mk ⟨"program", true, false, false, none, 0, 6, ⟨0, 0⟩⟩ [
    .mk ⟨"line_comment", true, false, false, none, 0, 6, ⟨0, 0⟩⟩ []]

/-- A comment is enough to interrupt, although there is nothing wrong with the tree. -/
theorem index_surrogateComment_not_contained :
    (∀ source, checkTree .collecting source commentUnit = .ok commentUnit) ∧
      (¬ ∃ outcome,
        ((Indexer.mk (fun _ => some commentUnit) .collecting).index
          surrogateComment "A.java" "").outcome = .ok outcome) ∧
      ¬ ∃ outcome,
        ((Indexer.mk (fun _ => some commentUnit) .failFast).index
          surrogateComment "A.java" "").outcome = .ok outcome := by
  have present : ∃ point ∈ surrogateComment, point.IsSurrogate :=
    ⟨⟨0xD800, by decide⟩, by decide, by decide⟩
  refine ⟨fun _ => rfl, ?_, ?_⟩
  all_goals
    rintro ⟨outcome, ended⟩
    rw [Indexer.index_of_surrogate present] at ended
    cases ended

end JavaOutline
