import JavaOutline.Listener

namespace JavaOutline

open Text (Bytes)

/-!
# The search for issues as a recursion

The search keeps a stack and talks to a listener while it goes. Here both are
taken apart: the issues of a tree are given by recursion, and the search turns
out to tell exactly these, in order, until the listener refuses.
-/

mutual

/-- The issues of a tree, in reading order. Below an issue nothing is looked for. -/
def Node.issues (source : Bytes) : Node → List SyntaxIssue
  | .mk info children =>
      match info.issue? source with
      | some issue => [issue]
      | none => flaggedIssues source children

/-- The issues of those trees whose flag says that they have any. -/
def flaggedIssues (source : Bytes) : List Node → List SyntaxIssue
  | [] => []
  | node :: rest =>
      if node.info.hasError then
        node.issues source ++ flaggedIssues source rest
      else
        flaggedIssues source rest

end

/-- A node that is an issue hides what is below it. -/
theorem Node.issues_of_issue
    {source : Bytes}
    {node : Node}
    {issue : SyntaxIssue}
    (isIssue : node.info.issue? source = some issue) :
    node.issues source = [issue] := by
  cases node
  simp only [Node.info_mk] at isIssue
  rw [Node.issues, isIssue]

/-- Any other node has the issues of its flagged children. -/
theorem Node.issues_of_none
    {source : Bytes}
    {node : Node}
    (noIssue : node.info.issue? source = none) :
    node.issues source = flaggedIssues source node.children := by
  cases node
  simp only [Node.info_mk] at noIssue
  rw [Node.issues, noIssue]
  rfl

/-- Trees without a flag have no part in the issues of a list. -/
theorem flaggedIssues_eq (source : Bytes) (nodes : List Node) :
    flaggedIssues source nodes =
      (nodes.filter (fun node => node.info.hasError)).flatMap (Node.issues source) := by
  induction nodes with
  | nil =>
      rfl
  | cons node rest inductionHypothesis =>
      rw [flaggedIssues]
      by_cases flagged : node.info.hasError = true
      · rw [if_pos flagged, List.filter_cons, if_pos flagged, List.flatMap_cons,
          inductionHypothesis]
      · rw [if_neg flagged, List.filter_cons, if_neg flagged, inductionHypothesis]

/-- The issues of trees come one tree after the other. -/
theorem flaggedIssues_cons (source : Bytes) (node : Node) (rest : List Node) :
    flaggedIssues source (node :: rest) =
      flaggedIssues source [node] ++ flaggedIssues source rest := by
  simp only [flaggedIssues_eq, ← List.flatMap_append, ← List.filter_append,
    List.singleton_append]

variable {State Fault : Type}

/-- Tell a listener of issues until it refuses; `found` have been told before. -/
def tellIssues
    (listener : Listener State Fault)
    (state : State)
    (found : List SyntaxIssue) :
    List SyntaxIssue → Report State Fault
  | [] => ⟨found, state, none⟩
  | issue :: rest =>
      let answer := listener.hear state issue
      match answer.2 with
      | some refusal => ⟨found ++ [issue], answer.1, some refusal⟩
      | none => tellIssues listener answer.1 (found ++ [issue]) rest

/--
The search tells the issues of the trees on its stack, one tree after the
other from the top. The invariant is that an entered tree may be replaced by
its flagged children, which have the same issues in the same order.
-/
theorem searchStack_eq_tellIssues
    (listener : Listener State Fault)
    (source : Bytes)
    (stack : List Node)
    (state : State)
    (found : List SyntaxIssue) :
    searchStack listener source stack state found =
      tellIssues listener state found (stack.flatMap (Node.issues source)) := by
  fun_induction searchStack listener source stack state found with
  | case1 state found =>
      rfl
  | case2 state found node rest issue isIssue answer refusal refused =>
      rw [List.flatMap_cons, Node.issues_of_issue isIssue, List.singleton_append,
        tellIssues, refused]
  | case3 state found node rest issue isIssue answer accepted inductionHypothesis =>
      rw [List.flatMap_cons, Node.issues_of_issue isIssue, List.singleton_append,
        tellIssues, accepted, inductionHypothesis]
  | case4 state found node rest noIssue inductionHypothesis =>
      rw [inductionHypothesis, List.flatMap_append, List.flatMap_cons,
        Node.issues_of_none noIssue, flaggedIssues_eq]
      rfl

/-- A search through a whole tree tells the issues of that tree. -/
theorem findIssues_eq_tellIssues
    (listener : Listener State Fault)
    (source : Bytes)
    (root : Node) :
    findIssues listener source root =
      tellIssues listener listener.initial [] (flaggedIssues source [root]) := by
  rw [findIssues, flaggedIssues]
  by_cases flagged : root.info.hasError = true
  · rw [if_pos flagged, if_pos flagged, searchStack_eq_tellIssues]
    rfl
  · rw [if_neg flagged, if_neg flagged]
    rfl

/-- What has been found is never taken back. -/
theorem prefix_tellIssues
    (listener : Listener State Fault)
    (state : State)
    (found issues : List SyntaxIssue) :
    found <+: (tellIssues listener state found issues).issues := by
  induction issues generalizing state found with
  | nil =>
      exact List.prefix_refl found
  | cons issue rest inductionHypothesis =>
      have extended : found <+: found ++ [issue] := List.prefix_append found [issue]
      rw [tellIssues]
      cases (listener.hear state issue).2 with
      | some refusal =>
          exact extended
      | none =>
          exact extended.trans (inductionHypothesis _ _)

/-- A search is refused only with an answer that the listener has given. -/
theorem exists_hear_of_refusal
    {listener : Listener State Fault}
    {state : State}
    {found issues : List SyntaxIssue}
    {refusal : Refusal Fault}
    (refused : (tellIssues listener state found issues).refusal = some refusal) :
    ∃ known issue, (listener.hear known issue).2 = some refusal := by
  induction issues generalizing state found with
  | nil =>
      simp [tellIssues] at refused
  | cons issue rest inductionHypothesis =>
      rw [tellIssues] at refused
      cases answer : (listener.hear state issue).2 with
      | none =>
          simp only [answer] at refused
          exact inductionHypothesis refused
      | some given =>
          simp only [answer, Option.some.injEq] at refused
          subst refused
          exact ⟨state, issue, answer⟩

/-- A search finds something exactly if the tree has issues, whatever the listener does. -/
theorem findIssues_issues_eq_nil_iff
    {listener : Listener State Fault}
    {source : Bytes}
    {root : Node} :
    (findIssues listener source root).issues = [] ↔ flaggedIssues source [root] = [] := by
  rw [findIssues_eq_tellIssues]
  cases flaggedIssues source [root] with
  | nil =>
      simp [tellIssues]
  | cons issue rest =>
      have found : [issue] <+:
          (tellIssues listener listener.initial [] (issue :: rest)).issues := by
        rw [tellIssues]
        cases (listener.hear listener.initial issue).2 with
        | some refusal =>
            exact List.prefix_refl [issue]
        | none =>
            exact prefix_tellIssues listener _ [issue] rest
      simp only [reduceCtorEq, iff_false]
      intro none
      rw [none] at found
      simp at found

/-- A tree without issues is accepted by every listener, none of which is told anything. -/
theorem checkTree_of_no_issues
    {listener : Listener State Fault}
    {source : Bytes}
    {root : Node}
    (none : flaggedIssues source [root] = []) :
    checkTree listener source root = .ok root := by
  simp [checkTree, findIssues_eq_tellIssues, none, tellIssues]

/-- A listener never ends a search. -/
def Listener.NeverRefuses (listener : Listener State Fault) : Prop :=
  ∀ state issue, (listener.hear state issue).2 = none

theorem Listener.collecting_neverRefuses : Listener.collecting.NeverRefuses :=
  fun _ _ => rfl

/-- A listener that never refuses is told everything. -/
theorem tellIssues_of_neverRefuses
    {listener : Listener State Fault}
    (neverRefuses : listener.NeverRefuses)
    (state : State)
    (found issues : List SyntaxIssue) :
    (tellIssues listener state found issues).issues = found ++ issues ∧
      (tellIssues listener state found issues).refusal = none := by
  induction issues generalizing state found with
  | nil =>
      simp [tellIssues]
  | cons issue rest inductionHypothesis =>
      simp only [tellIssues, neverRefuses state issue]
      have later := inductionHypothesis (listener.hear state issue).1 (found ++ [issue])
      simpa using later

/-- If a listener never refuses, a tree is turned down for all of its issues, if it has any. -/
theorem checkTree_of_neverRefuses
    {listener : Listener State Fault}
    (neverRefuses : listener.NeverRefuses)
    (source : Bytes)
    (root : Node) :
    checkTree listener source root =
      if (flaggedIssues source [root]).isEmpty then
        .ok root
      else
        .error (.rejected (flaggedIssues source [root])) := by
  obtain ⟨issues, refusal⟩ :=
    tellIssues_of_neverRefuses neverRefuses listener.initial []
      (flaggedIssues source [root])
  simp only [checkTree, findIssues_eq_tellIssues, refusal, issues, List.nil_append]

end JavaOutline
