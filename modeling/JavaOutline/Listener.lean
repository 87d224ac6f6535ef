import JavaOutline.Issue

namespace JavaOutline

/-!
# Listeners and the search for issues

A listener is told each issue as it is found. It is a state machine: hearing
an issue changes its state and may end the search with a refusal. `findIssues`
visits the tree with an explicit stack, and keeps its own list of what it has
found, whatever the listener does.
-/

/-- Why a listener ends the search. -/
inductive Refusal (Fault : Type) where
  /-- The source is turned down for these issues. -/
  | rejected (issues : List SyntaxIssue)
  /-- The listener fails, whatever the source. -/
  | failed (fault : Fault)
  deriving Repr, DecidableEq

/-- Receives issues one at a time. It may fail with one of the faults in `Fault`. -/
structure Listener (State Fault : Type) where
  initial : State
  hear : State → SyntaxIssue → State × Option (Refusal Fault)

/-- The fault of a listener that does not handle issues. -/
inductive Unsupported where
  | unsupported
  deriving Repr, DecidableEq

namespace Listener

/-- Keeps every issue. -/
def collecting : Listener (List SyntaxIssue) Empty where
  initial := []
  hear heard issue := (heard ++ [issue], none)

/-- Turns the source down at the first issue. -/
def failFast : Listener Unit Empty where
  initial := ()
  hear _ issue := ((), some (.rejected [issue]))

/-- Handles no issue. -/
def unhandled : Listener Unit Unsupported where
  initial := ()
  hear _ _ := ((), some (.failed .unsupported))

/-- Keeps every issue and turns the source down once it has heard `limit` of them. -/
def bounded (limit : Nat) : Listener (List SyntaxIssue) Empty where
  initial := []
  hear heard issue :=
    let issues := heard ++ [issue]
    (issues, if limit ≤ issues.length then some (.rejected issues) else none)

end Listener

mutual

/-- The number of nodes in a tree. -/
def Node.size : Node → Nat
  | .mk _ children => 1 + nodesSize children

/-- The number of nodes in a list of trees. -/
def nodesSize : List Node → Nat
  | [] => 0
  | node :: rest => node.size + nodesSize rest

end

theorem nodesSize_append (first second : List Node) :
    nodesSize (first ++ second) = nodesSize first + nodesSize second := by
  induction first with
  | nil =>
      simp [nodesSize]
  | cons node rest inductionHypothesis =>
      simp [nodesSize, inductionHypothesis, Nat.add_assoc]

theorem nodesSize_filter_le (keep : Node → Bool) (nodes : List Node) :
    nodesSize (nodes.filter keep) ≤ nodesSize nodes := by
  induction nodes with
  | nil =>
      simp
  | cons node rest inductionHypothesis =>
      by_cases kept : keep node <;> simp [kept, nodesSize] <;> omega

theorem Node.size_eq (node : Node) :
    node.size = 1 + nodesSize node.children := by
  cases node
  simp [Node.size]

/-- The children in which, by their flags, an issue may be found. -/
def Node.flaggedChildren (node : Node) : List Node :=
  node.children.filter (fun child => child.info.hasError)

variable {State Fault : Type}

/-- What a search for issues has come to. -/
structure Report (State Fault : Type) where
  issues : List SyntaxIssue
  state : State
  refusal : Option (Refusal Fault)

/--
Visit the trees on a stack, from its top. A tree whose root is an issue is not
entered; of any other only the flagged children are visited.
-/
def searchStack
    (listener : Listener State Fault)
    (source : Text.Bytes)
    (stack : List Node)
    (state : State)
    (found : List SyntaxIssue) :
    Report State Fault :=
  match stack with
  | [] => ⟨found, state, none⟩
  | node :: rest =>
      match node.info.issue? source with
      | some issue =>
          let answer := listener.hear state issue
          match answer.2 with
          | some refusal => ⟨found ++ [issue], answer.1, some refusal⟩
          | none => searchStack listener source rest answer.1 (found ++ [issue])
      | none => searchStack listener source (node.flaggedChildren ++ rest) state found
  termination_by nodesSize stack
  decreasing_by
    · have positive := Node.size_eq node
      simp only [nodesSize]
      omega
    · have smaller := nodesSize_filter_le (fun child => child.info.hasError) node.children
      have size := Node.size_eq node
      simp only [nodesSize, nodesSize_append, Node.flaggedChildren]
      omega

/-- Search a whole tree; one whose root is not flagged has no issue. -/
def findIssues
    (listener : Listener State Fault)
    (source : Text.Bytes)
    (root : Node) :
    Report State Fault :=
  if root.info.hasError then
    searchStack listener source [root] listener.initial []
  else
    ⟨[], listener.initial, none⟩

/-- Accept a tree only if the search neither is refused nor finds an issue. -/
def checkTree
    (listener : Listener State Fault)
    (source : Text.Bytes)
    (root : Node) :
    Except (Refusal Fault) Node :=
  let report := findIssues listener source root
  match report.refusal with
  | some refusal => .error refusal
  | none => if report.issues.isEmpty then .ok root else .error (.rejected report.issues)

end JavaOutline
