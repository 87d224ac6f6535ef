import JavaOutline.Proofs.ListenerChoice

namespace JavaOutline

open Text (Bytes)

/-!
# The calls of a listener

The issues of a tree are given by a recursion that knows nothing of stacks and
listeners. A listener is called with these issues in their order: with all of
them if it refuses none, and otherwise with those up to the first it refuses.
-/

variable {State Fault : Type}

/--
The answers that a listener would give to issues told one after the other,
whether or not it has refused before.
-/
def Listener.answersFrom
    (listener : Listener State Fault)
    (state : State) :
    List SyntaxIssue → List (Option (Refusal Fault))
  | [] => []
  | issue :: rest =>
      let answer := listener.hear state issue
      answer.2 :: listener.answersFrom answer.1 rest

/-- The answers of a listener that has heard nothing yet. -/
def Listener.answers
    (listener : Listener State Fault)
    (issues : List SyntaxIssue) :
    List (Option (Refusal Fault)) :=
  listener.answersFrom listener.initial issues

theorem Listener.answersFrom_cons
    (listener : Listener State Fault)
    (state : State)
    (issue : SyntaxIssue)
    (rest : List SyntaxIssue) :
    listener.answersFrom state (issue :: rest) =
      (listener.hear state issue).2 ::
        listener.answersFrom (listener.hear state issue).1 rest :=
  rfl

theorem Listener.length_answersFrom
    (listener : Listener State Fault)
    (state : State)
    (issues : List SyntaxIssue) :
    (listener.answersFrom state issues).length = issues.length := by
  induction issues generalizing state with
  | nil =>
      rfl
  | cons issue rest inductionHypothesis =>
      rw [answersFrom_cons, List.length_cons, List.length_cons, inductionHypothesis]

/-- A listener that never refuses answers nothing else. -/
theorem Listener.NeverRefuses.answersFrom
    {listener : Listener State Fault}
    (neverRefuses : listener.NeverRefuses)
    (state : State)
    (issues : List SyntaxIssue) :
    ∀ answer ∈ listener.answersFrom state issues, answer = none := by
  induction issues generalizing state with
  | nil =>
      exact List.forall_mem_nil _
  | cons issue rest inductionHypothesis =>
      exact List.forall_mem_cons.mpr ⟨neverRefuses state issue, inductionHypothesis _⟩

/--
The telling ends with the first issue whose answer is a refusal. The induction
is on the issues still to be told, for any state and any issues told before.
-/
theorem tellIssues_eq_take
    (listener : Listener State Fault)
    (state : State)
    (found issues : List SyntaxIssue) :
    (tellIssues listener state found issues).issues =
        found ++
          issues.take ((listener.answersFrom state issues).findIdx Option.isSome + 1) ∧
      (tellIssues listener state found issues).refusal =
        (listener.answersFrom state issues).findSome? id := by
  induction issues generalizing state found with
  | nil =>
      simp [tellIssues, Listener.answersFrom]
  | cons issue rest inductionHypothesis =>
      rw [Listener.answersFrom_cons, tellIssues, List.findIdx_cons, List.findSome?_cons]
      cases answer : (listener.hear state issue).2 with
      | some refusal =>
          exact ⟨rfl, rfl⟩
      | none =>
          obtain ⟨told, refused⟩ :=
            inductionHypothesis (listener.hear state issue).1 (found ++ [issue])
          refine ⟨?_, refused⟩
          rw [told, List.append_assoc]
          rfl

/-- The issues of trees, by recursion: one case for each of the three sorts of nodes. -/
structure IssueRecursion
    (source : Bytes)
    (issuesOf : Node → List SyntaxIssue) : Prop where
  missing :
    ∀ node,
      node.info.missing = true →
      issuesOf node = [⟨node.info.point, "missing '" ++ node.kind ++ "'"⟩]
  unexpected :
    ∀ node,
      node.info.missing = false →
      node.kind = "ERROR" →
      issuesOf node =
        [⟨node.info.point,
          "unexpected input near '" ++
            String.ofList (excerptChars (node.text source).toList) ++ "'"⟩]
  inner :
    ∀ node,
      node.info.missing = false →
      node.kind ≠ "ERROR" →
      issuesOf node =
        (node.children.filter (fun child => child.info.hasError)).flatMap issuesOf

theorem Node.issues_recursion (source : Bytes) :
    IssueRecursion source (Node.issues source) where
  missing node missing := by
    have isIssue :
        node.info.issue? source =
          some ⟨node.info.point, "missing '" ++ node.kind ++ "'"⟩ := by
      rw [NodeInfo.issue?, if_pos missing]
      rfl
    exact Node.issues_of_issue isIssue
  unexpected node present unexpected := by
    have isIssue :
        node.info.issue? source =
          some ⟨node.info.point,
            "unexpected input near '" ++
              String.ofList (excerptChars (node.text source).toList) ++ "'"⟩ := by
      have isUnexpected : node.info.kind = unexpectedKind := unexpected
      rw [NodeInfo.issue?, if_neg (by simp [present]), if_pos isUnexpected]
      rfl
    exact Node.issues_of_issue isIssue
  inner node present expected := by
    have whole : ¬ node.IsBroken := by
      intro broken
      rcases broken with missing | unexpected
      · simp [present] at missing
      · exact expected unexpected
    rw [Node.issues_of_none (issue?_eq_none_iff.mpr whole), flaggedIssues_eq]

/-- The recursion leaves no choice, by induction on the tree. -/
theorem IssueRecursion.eq_issues
    {source : Bytes}
    {issuesOf : Node → List SyntaxIssue}
    (recursion : IssueRecursion source issuesOf) :
    issuesOf = Node.issues source := by
  funext node
  induction node using Node.childInduction with
  | step node inductionHypothesis =>
      have standard := Node.issues_recursion source
      by_cases missing : node.info.missing = true
      · rw [recursion.missing node missing, standard.missing node missing]
      · have present : node.info.missing = false := Bool.eq_false_iff.mpr missing
        by_cases unexpected : node.kind = "ERROR"
        · rw [recursion.unexpected node present unexpected,
            standard.unexpected node present unexpected]
        · rw [recursion.inner node present unexpected, standard.inner node present unexpected]
          refine List.flatMap_congr ?_
          intro child flagged
          exact inductionHypothesis child (List.mem_of_mem_filter flagged)

/-- A search ends with the given issues, after one call of the listener for each. -/
structure ToldEntirely
    (listener : Listener State Fault)
    (source : Bytes)
    (root : Node)
    (issues : List SyntaxIssue) : Prop where
  found : (findIssues listener source root).issues = issues
  unrefused : (findIssues listener source root).refusal = none
  calls : listener.heard source root = issues

/-- A search tells a listener of the given issues, in order and until it refuses. -/
structure ToldInOrder
    (listener : Listener State Fault)
    (source : Bytes)
    (root : Node)
    (issues : List SyntaxIssue) : Prop where
  neverRefused :
    listener.NeverRefuses →
    ToldEntirely listener source root issues
  /-- It is enough that none of these issues is refused. -/
  accepted :
    (∀ answer ∈ listener.answers issues, answer = none) →
    ToldEntirely listener source root issues
  /-- A refusal after `count` accepted issues comes through, and no issue is told after it. -/
  refused :
    ∀ count refusal later,
      listener.answers issues = List.replicate count none ++ some refusal :: later →
      (findIssues listener source root).refusal = some refusal ∧
        checkTree listener source root = .error refusal ∧
        listener.heard source root = issues.take (count + 1) ∧
        count < issues.length

/-- If no answer is a refusal, none comes first. -/
theorem findIdx_isSome_of_accepted
    {answers : List (Option (Refusal Fault))}
    (accepted : ∀ answer ∈ answers, answer = none) :
    answers.findIdx Option.isSome = answers.length ∧ answers.findSome? id = none := by
  constructor
  · rw [List.findIdx_eq_length]
    intro answer member
    rw [accepted answer member]
    rfl
  · exact List.findSome?_eq_none_iff.mpr accepted

/-- The first refusal is the one that only accepting answers come before. -/
theorem findIdx_isSome_of_refused
    (count : Nat)
    (refusal : Refusal Fault)
    (later : List (Option (Refusal Fault))) :
    (List.replicate count none ++ some refusal :: later).findIdx Option.isSome = count ∧
      (List.replicate count none ++ some refusal :: later).findSome? id = some refusal := by
  induction count with
  | zero =>
      exact ⟨rfl, rfl⟩
  | succ count inductionHypothesis =>
      obtain ⟨index, first⟩ := inductionHypothesis
      rw [List.replicate_succ, List.cons_append, List.findIdx_cons, List.findSome?_cons, index]
      exact ⟨rfl, first⟩

/-- A search tells exactly the issues of a flagged root. -/
theorem toldInOrder_issues
    (listener : Listener State Fault)
    (source : Bytes)
    (root : Node) :
    ToldInOrder listener source root
      (if root.info.hasError then root.issues source else []) := by
  have expected :
      flaggedIssues source [root] =
        if root.info.hasError then root.issues source else [] := by
    rw [flaggedIssues, flaggedIssues, List.append_nil]
  rw [← expected]
  obtain ⟨told, ended⟩ :=
    tellIssues_eq_take listener listener.initial [] (flaggedIssues source [root])
  rw [← findIssues_eq_tellIssues, List.nil_append, ← Listener.answers] at told
  rw [← findIssues_eq_tellIssues, ← Listener.answers] at ended
  have counted :
      (listener.answers (flaggedIssues source [root])).length =
        (flaggedIssues source [root]).length :=
    listener.length_answersFrom listener.initial _
  have entirely
      (accepted :
        ∀ answer ∈ listener.answers (flaggedIssues source [root]), answer = none) :
      ToldEntirely listener source root (flaggedIssues source [root]) := by
    obtain ⟨index, none⟩ := findIdx_isSome_of_accepted accepted
    have all : (findIssues listener source root).issues = flaggedIssues source [root] := by
      rw [told, index, counted]
      exact List.take_of_length_le (Nat.le_succ _)
    exact ⟨all, ended.trans none, (listener.heard_eq source root).trans all⟩
  refine ⟨?_, entirely, ?_⟩
  · intro neverRefuses
    exact entirely (neverRefuses.answersFrom listener.initial _)
  · intro count refusal later answers
    obtain ⟨index, first⟩ := findIdx_isSome_of_refused count refusal later
    rw [answers] at told ended counted
    have refused := ended.trans first
    refine ⟨refused, ?_, ?_, ?_⟩
    · simp only [checkTree, refused]
    · rw [listener.heard_eq, told, index]
    · rw [← counted, List.length_append, List.length_replicate, List.length_cons]
      omega

/--
One function on trees satisfies the recursion, and a search tells a listener
of the issues that it gives for a flagged root, whatever the flags of the
other nodes. If the listener accepts them all, they are the result of the
search and the calls of the listener, one for each. If it refuses an issue
after it has accepted `count` of them, the refusal is the outcome and the
first `count + 1` issues are the calls.
-/
theorem findIssues_follows_recursion
    (listener : Listener State Fault)
    (source : Bytes)
    (root : Node) :
    ∃ issuesOf : Node → List SyntaxIssue,
      IssueRecursion source issuesOf ∧
        (∀ other, IssueRecursion source other → other = issuesOf) ∧
        ToldInOrder listener source root
          (if root.info.hasError then issuesOf root else []) :=
  ⟨Node.issues source, Node.issues_recursion source,
    fun _ recursion => recursion.eq_issues,
    toldInOrder_issues listener source root⟩

/--
Flags that contradict the tree: unexpected input that is not flagged, a flagged
node with nothing wrong in it, and a missing node of the kind for unexpected
input.
-/
def tangledUnit : Node :=
  flaggedNode "program" true false true [
    flaggedNode "ERROR" true false false [],
    flaggedNode "block" true false true [],
    flaggedNode "ERROR" true true true [flaggedNode "(" false true true []],
    flaggedNode "," false false true [flaggedNode ";" false true true []],
    flaggedNode "\x7d" false true true []]

/-- A listener that refuses the second of three issues is not told of the third. -/
theorem findIssues_tangledUnit_follows_recursion :
    (tangledUnit.issues []).length = 3 ∧
      checkTree (.bounded 2) [] tangledUnit =
        .error (.rejected [⟨⟨0, 0⟩, "missing 'ERROR'"⟩, ⟨⟨0, 0⟩, "missing ';'"⟩]) ∧
      (Listener.bounded 2).heard [] tangledUnit =
        [⟨⟨0, 0⟩, "missing 'ERROR'"⟩, ⟨⟨0, 0⟩, "missing ';'"⟩] := by
  obtain ⟨issuesOf, -, unique, told⟩ :=
    findIssues_follows_recursion (.bounded 2) [] tangledUnit
  obtain rfl := unique (Node.issues []) (Node.issues_recursion [])
  have answers :
      (Listener.bounded 2).answers (tangledUnit.issues []) =
        List.replicate 1 none ++
          some (.rejected [⟨⟨0, 0⟩, "missing 'ERROR'"⟩, ⟨⟨0, 0⟩, "missing ';'"⟩]) ::
            [some (.rejected (tangledUnit.issues []))] := by
    decide
  obtain ⟨-, rejected, calls, -⟩ := told.refused 1 _ _ answers
  exact ⟨by decide, rejected, calls.trans (by decide)⟩

end JavaOutline
