import Mathlib.Data.List.Forall2
import JavaOutline.Proofs.IssueSearch
import JavaOutline.Proofs.TreePosition

namespace JavaOutline

open Text (Bytes)

/-!
# No issue is missed

A search enters only flagged nodes and stops at every issue. If the flags of a
tree are right, it still reports every broken node that is not inside another
one, once each and in reading order. So a tree passes exactly if nothing in it
is broken.
-/

/-- A node is missing or holds unexpected input. -/
def Node.IsBroken (node : Node) : Prop :=
  node.info.missing = true ∨ node.kind = "ERROR"

/-- There is a broken node at a position. -/
def BrokenAt (root : Node) (position : List Nat) : Prop :=
  ∃ node, root.descend? position = some node ∧ node.IsBroken

/-- There is a broken node at a position, and none on the way to it. -/
def OutermostAt (root : Node) (position : List Nat) : Prop :=
  BrokenAt root position ∧
    ∀ above, above <+: position → above ≠ position → ¬ BrokenAt root above

/-- Every node is flagged exactly if it is broken or has a broken node below it. -/
def ConsistentFlags (root : Node) : Prop :=
  ∀ position node,
    root.descend? position = some node →
    (node.info.hasError = true ↔ ∃ below, BrokenAt node below)

/-- An issue says where a broken node starts and what is wrong with it. -/
structure Reports
    (source : Bytes)
    (node : Node)
    (issue : SyntaxIssue) : Prop where
  point : issue.point = node.info.point
  missing :
    node.info.missing = true →
    issue.message = "missing '" ++ node.kind ++ "'"
  unexpected :
    node.info.missing = false →
    issue.message =
      "unexpected input near '" ++
        String.ofList (excerptChars (node.text source).toList) ++ "'"

/-- An issue reports the node at a position. -/
def IssueAt
    (source : Bytes)
    (root : Node)
    (position : List Nat)
    (issue : SyntaxIssue) : Prop :=
  ∃ node, root.descend? position = some node ∧ Reports source node issue

/-- Exactly the nodes that are not broken stand for no issue. -/
theorem issue?_eq_none_iff
    {source : Bytes}
    {node : Node} :
    node.info.issue? source = none ↔ ¬ node.IsBroken := by
  unfold NodeInfo.issue? Node.IsBroken Node.kind unexpectedKind
  by_cases missing : node.info.missing = true
  · simp [missing]
  · by_cases unexpected : node.info.kind = "ERROR" <;> simp [missing, unexpected]

/-- The issue that a node stands for reports it. -/
theorem reports_of_issue?
    {source : Bytes}
    {node : Node}
    {issue : SyntaxIssue}
    (isIssue : node.info.issue? source = some issue) :
    Reports source node issue := by
  unfold NodeInfo.issue? at isIssue
  by_cases missing : node.info.missing = true
  · rw [if_pos missing] at isIssue
    obtain rfl := Option.some.inj isIssue
    exact ⟨rfl, fun _ => rfl, fun present => by simp [missing] at present⟩
  · rw [if_neg missing] at isIssue
    split at isIssue
    · obtain rfl := Option.some.inj isIssue
      exact ⟨rfl, fun absent => absurd absent missing, fun _ => rfl⟩
    · contradiction

section Positions

variable {node : Node} {index : Nat} {position : List Nat}

theorem brokenAt_nil :
    BrokenAt node [] ↔ node.IsBroken := by
  simp [BrokenAt]

/-- What is broken below a node is broken in one of its children. -/
theorem brokenAt_cons :
    BrokenAt node (index :: position) ↔
      ∃ child, node.children[index]? = some child ∧ BrokenAt child position := by
  simp only [BrokenAt, Node.descend?_cons_eq_some_iff]
  constructor
  · rintro ⟨found, ⟨child, isChild, reached⟩, broken⟩
    exact ⟨child, isChild, found, reached, broken⟩
  · rintro ⟨child, isChild, found, reached, broken⟩
    exact ⟨found, ⟨child, isChild, reached⟩, broken⟩

/-- A broken node hides everything below it. -/
theorem outermostAt_of_broken
    (broken : node.IsBroken) :
    OutermostAt node position ↔ position = [] := by
  constructor
  · rintro ⟨-, noneAbove⟩
    by_contra notRoot
    exact noneAbove [] List.nil_prefix (Ne.symm notRoot) (brokenAt_nil.mpr broken)
  · rintro rfl
    refine ⟨brokenAt_nil.mpr broken, ?_⟩
    intro above isPrefix different
    exact absurd (List.prefix_nil.mp isPrefix) different

theorem not_outermostAt_nil
    (whole : ¬ node.IsBroken) :
    ¬ OutermostAt node [] :=
  fun outermost => whole (brokenAt_nil.mp outermost.1)

/-- Below a node that is not broken, outermost means outermost in a child. -/
theorem outermostAt_cons
    (whole : ¬ node.IsBroken) :
    OutermostAt node (index :: position) ↔
      ∃ child, node.children[index]? = some child ∧ OutermostAt child position := by
  constructor
  · rintro ⟨broken, noneAbove⟩
    obtain ⟨child, isChild, brokenBelow⟩ := brokenAt_cons.mp broken
    refine ⟨child, isChild, brokenBelow, ?_⟩
    intro above isPrefix different brokenAbove
    refine noneAbove (index :: above) (by simpa using isPrefix) (by simpa using different) ?_
    exact brokenAt_cons.mpr ⟨child, isChild, brokenAbove⟩
  · rintro ⟨child, isChild, brokenBelow, noneAbove⟩
    refine ⟨brokenAt_cons.mpr ⟨child, isChild, brokenBelow⟩, ?_⟩
    intro above isPrefix different brokenAbove
    -- a position above is the root, which is whole, or above in the same child
    cases above with
    | nil =>
        exact whole (brokenAt_nil.mp brokenAbove)
    | cons first rest =>
        obtain ⟨rfl, restPrefix⟩ := List.cons_prefix_cons.mp isPrefix
        obtain ⟨other, isOther, otherBroken⟩ := brokenAt_cons.mp brokenAbove
        obtain rfl := Option.some.inj (isOther.symm.trans isChild)
        exact noneAbove rest restPrefix (by simpa using different) otherBroken

/-- Every broken node is outermost or lies below one that is. -/
theorem BrokenAt.exists_outermost
    (broken : BrokenAt node position) :
    ∃ above, above <+: position ∧ OutermostAt node above := by
  induction position generalizing node with
  | nil =>
      exact ⟨[], List.nil_prefix,
        (outermostAt_of_broken (brokenAt_nil.mp broken)).mpr rfl⟩
  | cons index rest inductionHypothesis =>
      by_cases rootBroken : node.IsBroken
      · exact ⟨[], List.nil_prefix, (outermostAt_of_broken rootBroken).mpr rfl⟩
      · obtain ⟨child, isChild, brokenBelow⟩ := brokenAt_cons.mp broken
        obtain ⟨above, isPrefix, outermost⟩ := inductionHypothesis brokenBelow
        exact ⟨index :: above, by simpa using isPrefix,
          (outermostAt_cons rootBroken).mpr ⟨child, isChild, outermost⟩⟩

end Positions

mutual

/-- The positions of the outermost broken nodes of a tree, in reading order. -/
def Node.outermostPositions : Node → List (List Nat)
  | .mk info children =>
      if info.missing || info.kind == "ERROR" then [[]] else outermostFrom 0 children

/-- The same for trees that are children of one node, numbered from `start` on. -/
def outermostFrom : Nat → List Node → List (List Nat)
  | _, [] => []
  | start, node :: rest =>
      node.outermostPositions.map (List.cons start) ++ outermostFrom (start + 1) rest

end

theorem outermostPositions_of_broken
    {node : Node}
    (broken : node.IsBroken) :
    node.outermostPositions = [[]] := by
  cases node with
  | mk info children =>
      have condition : (info.missing || info.kind == "ERROR") = true := by
        simpa [Node.IsBroken, Node.kind] using broken
      rw [Node.outermostPositions, if_pos condition]

theorem outermostPositions_of_whole
    {node : Node}
    (whole : ¬ node.IsBroken) :
    node.outermostPositions = outermostFrom 0 node.children := by
  cases node with
  | mk info children =>
      have condition : ¬ (info.missing || info.kind == "ERROR") = true := by
        simpa [Node.IsBroken, Node.kind] using whole
      rw [Node.outermostPositions, if_neg condition]
      rfl

/-- A listed position goes through one of the children. -/
theorem mem_outermostFrom
    {start : Nat}
    {nodes : List Node}
    {position : List Nat} :
    position ∈ outermostFrom start nodes ↔
      ∃ index rest child,
        position = (start + index) :: rest ∧
          nodes[index]? = some child ∧
          rest ∈ child.outermostPositions := by
  induction nodes generalizing start with
  | nil =>
      simp [outermostFrom]
  | cons node others inductionHypothesis =>
      rw [outermostFrom, List.mem_append, List.mem_map, inductionHypothesis]
      constructor
      · rintro (⟨rest, member, rfl⟩ | ⟨index, rest, child, rfl, isChild, member⟩)
        · exact ⟨0, rest, node, rfl, rfl, member⟩
        · have sameIndex : start + 1 + index = start + (index + 1) := by omega
          exact ⟨index + 1, rest, child, by rw [sameIndex], isChild, member⟩
      · rintro ⟨index, rest, child, rfl, isChild, member⟩
        cases index with
        | zero =>
            obtain rfl := Option.some.inj isChild
            exact Or.inl ⟨rest, member, rfl⟩
        | succ index =>
            have sameIndex : start + (index + 1) = start + 1 + index := by omega
            exact Or.inr ⟨index, rest, child, by rw [sameIndex], isChild, member⟩

/-- The listed positions are those of the outermost broken nodes. -/
theorem mem_outermostPositions
    {node : Node}
    {position : List Nat} :
    position ∈ node.outermostPositions ↔ OutermostAt node position := by
  induction node using Node.childInduction generalizing position with
  | step node inductionHypothesis =>
      by_cases broken : node.IsBroken
      · rw [outermostPositions_of_broken broken, outermostAt_of_broken broken,
          List.mem_singleton]
      · rw [outermostPositions_of_whole broken, mem_outermostFrom]
        cases position with
        | nil =>
            simp [not_outermostAt_nil broken]
        | cons first rest =>
            rw [outermostAt_cons broken]
            constructor
            · rintro ⟨index, tail, child, shape, isChild, member⟩
              obtain ⟨rfl, rfl⟩ := List.cons.inj shape
              refine ⟨child, by simpa using isChild, ?_⟩
              exact (inductionHypothesis child (List.mem_of_getElem? isChild)).mp member
            · rintro ⟨child, isChild, outermost⟩
              refine ⟨first, rest, child, by simp, isChild, ?_⟩
              exact (inductionHypothesis child (List.mem_of_getElem? isChild)).mpr outermost

/-- Something in a tree is broken exactly if a position is listed. -/
theorem exists_brokenAt_iff
    {node : Node} :
    (∃ position, BrokenAt node position) ↔ node.outermostPositions ≠ [] := by
  constructor
  · rintro ⟨position, broken⟩
    obtain ⟨above, -, outermost⟩ := broken.exists_outermost
    exact List.ne_nil_of_mem (mem_outermostPositions.mpr outermost)
  · intro someListed
    obtain ⟨position, listed⟩ := List.exists_mem_of_ne_nil _ someListed
    exact ⟨position, (mem_outermostPositions.mp listed).1⟩

/-- Positions are listed in reading order if they are for each child. -/
theorem outermostFrom_pairwise
    {nodes : List Node}
    (each : ∀ node ∈ nodes, node.outermostPositions.Pairwise ReadBefore)
    (start : Nat) :
    (outermostFrom start nodes).Pairwise ReadBefore := by
  induction nodes generalizing start with
  | nil =>
      simp [outermostFrom]
  | cons node rest inductionHypothesis =>
      rw [outermostFrom, List.pairwise_append]
      refine ⟨?_, ?_, ?_⟩
      · rw [List.pairwise_map]
        exact (each node (by simp)).imp (fun before => List.Lex.cons before)
      · exact inductionHypothesis (fun other member => each other (by simp [member])) _
      · intro first firstMember second secondMember
        obtain ⟨tail, -, rfl⟩ := List.mem_map.mp firstMember
        obtain ⟨index, other, child, rfl, -, -⟩ := mem_outermostFrom.mp secondMember
        exact List.Lex.rel (by omega)

/-- Positions are listed in reading order, so each is listed once. -/
theorem outermostPositions_pairwise (node : Node) :
    node.outermostPositions.Pairwise ReadBefore := by
  induction node using Node.childInduction with
  | step node inductionHypothesis =>
      by_cases broken : node.IsBroken
      · rw [outermostPositions_of_broken broken]
        exact List.pairwise_singleton _ _
      · rw [outermostPositions_of_whole broken]
        exact outermostFrom_pairwise inductionHypothesis 0

/-- The flags of a tree are consistent if they are below the root and its own is right. -/
theorem consistentFlags_of_children
    {node : Node}
    (flag : node.info.hasError = true ↔ node.outermostPositions ≠ [])
    (each : ∀ child ∈ node.children, ConsistentFlags child) :
    ConsistentFlags node := by
  intro position found reached
  cases position with
  | nil =>
      obtain rfl := Option.some.inj reached
      rw [exists_brokenAt_iff]
      exact flag
  | cons index rest =>
      obtain ⟨child, isChild, reachedBelow⟩ := Node.descend?_cons_eq_some_iff.mp reached
      exact each child (List.mem_of_getElem? isChild) rest found reachedBelow

/-- The children of a tree with consistent flags have consistent flags. -/
theorem ConsistentFlags.child
    {node child : Node}
    (consistent : ConsistentFlags node)
    (member : child ∈ node.children) :
    ConsistentFlags child := by
  obtain ⟨index, isChild⟩ := List.getElem?_of_mem member
  intro position found reached
  exact consistent (index :: position) found
    (Node.descend?_cons_eq_some_iff.mpr ⟨child, isChild, reached⟩)

/-- The issue of a child is found at its number. -/
def ChildIssueAt
    (source : Bytes)
    (start : Nat)
    (nodes : List Node)
    (position : List Nat)
    (issue : SyntaxIssue) : Prop :=
  ∃ index rest child,
    position = (start + index) :: rest ∧
      nodes[index]? = some child ∧
      IssueAt source child rest issue

/-- Positions and issues of children go together if they do in each child. -/
theorem outermostFrom_issues
    {source : Bytes}
    {nodes : List Node}
    (each : ∀ node ∈ nodes,
      List.Forall₂ (IssueAt source node)
        node.outermostPositions (flaggedIssues source [node]))
    (start : Nat) :
    List.Forall₂ (ChildIssueAt source start nodes)
      (outermostFrom start nodes) (flaggedIssues source nodes) := by
  induction nodes generalizing start with
  | nil =>
      exact List.Forall₂.nil
  | cons node rest inductionHypothesis =>
      rw [outermostFrom, flaggedIssues_cons]
      refine List.rel_append ?_ ?_
      · rw [List.forall₂_map_left_iff]
        refine (each node (by simp)).imp ?_
        intro position issue isIssue
        exact ⟨0, position, node, rfl, rfl, isIssue⟩
      · refine (inductionHypothesis (fun other member => each other (by simp [member]))
          (start + 1)).imp ?_
        rintro position issue ⟨index, tail, child, rfl, isChild, isIssue⟩
        have sameIndex : start + 1 + index = start + (index + 1) := by omega
        exact ⟨index + 1, tail, child, by rw [sameIndex], isChild, isIssue⟩

/--
With consistent flags, the issues of a tree are those of its outermost broken
nodes. A tree without a flag has neither, so nothing is lost by not entering it.
-/
theorem flaggedIssues_of_consistent
    (source : Bytes)
    {node : Node}
    (consistent : ConsistentFlags node) :
    List.Forall₂ (IssueAt source node)
      node.outermostPositions (flaggedIssues source [node]) := by
  induction node using Node.childInduction with
  | step node inductionHypothesis =>
      have flag := consistent [] node rfl
      -- the flag decides whether the search enters, being broken where it stops
      by_cases flagged : node.info.hasError = true
      · have issues : flaggedIssues source [node] = node.issues source := by
          simp [flaggedIssues, flagged]
        rw [issues]
        by_cases broken : node.IsBroken
        · obtain ⟨issue, isIssue⟩ : ∃ issue, node.info.issue? source = some issue :=
            Option.ne_none_iff_exists'.mp (fun none => issue?_eq_none_iff.mp none broken)
          rw [outermostPositions_of_broken broken, Node.issues_of_issue isIssue]
          exact List.Forall₂.cons ⟨node, rfl, reports_of_issue? isIssue⟩ List.Forall₂.nil
        · rw [outermostPositions_of_whole broken,
            Node.issues_of_none (issue?_eq_none_iff.mpr broken)]
          refine (outermostFrom_issues (fun child member =>
            inductionHypothesis child member (consistent.child member)) 0).imp ?_
          rintro position issue ⟨index, rest, child, rfl, isChild, found, reached, isIssue⟩
          refine ⟨found, Node.descend?_cons_eq_some_iff.mpr ⟨child, ?_, reached⟩, isIssue⟩
          simpa using isChild
      · have noneBroken : node.outermostPositions = [] := by
          by_contra someListed
          exact flagged (flag.mpr (exists_brokenAt_iff.mpr someListed))
        have noIssues : flaggedIssues source [node] = [] := by
          simp [flaggedIssues, flagged]
        rw [noneBroken, noIssues]
        exact List.Forall₂.nil

/-- Every issue has the position of its node. -/
theorem exists_position_of_issue
    {source : Bytes}
    {root : Node}
    {positions : List (List Nat)}
    {issues : List SyntaxIssue}
    (located : List.Forall₂ (IssueAt source root) positions issues)
    {issue : SyntaxIssue}
    (member : issue ∈ issues) :
    ∃ position ∈ positions, IssueAt source root position issue := by
  induction located with
  | nil =>
      simp at member
  | @cons position first laterPositions laterIssues isIssue later inductionHypothesis =>
      rcases List.mem_cons.mp member with isFirst | inLater
      · subst isFirst
        exact ⟨position, by simp, isIssue⟩
      · obtain ⟨other, otherMember, otherIssue⟩ := inductionHypothesis inLater
        exact ⟨other, by simp [otherMember], otherIssue⟩

/-- With consistent flags, a tree has issues exactly if something in it is broken. -/
theorem exists_brokenAt_iff_issues
    (source : Bytes)
    {root : Node}
    (consistent : ConsistentFlags root) :
    (∃ position, BrokenAt root position) ↔ flaggedIssues source [root] ≠ [] := by
  have located := flaggedIssues_of_consistent source consistent
  rw [exists_brokenAt_iff, ← List.length_pos_iff, located.length_eq, List.length_pos_iff]

/-- A point is not after another in a source. -/
def Point.AtOrBefore (first second : Point) : Prop :=
  first.row < second.row ∨ first.row = second.row ∧ first.column ≤ second.column

/-- Nodes that are met later when a tree is read do not start earlier. -/
def PointsAscend (root : Node) : Prop :=
  ∀ first second firstNode secondNode,
    ReadBefore first second →
    root.descend? first = some firstNode →
    root.descend? second = some secondNode →
    firstNode.info.point.AtOrBefore secondNode.info.point

/-- If points ascend, issues at positions in reading order do so as well. -/
theorem points_of_issues_ascend
    {source : Bytes}
    {root : Node}
    {positions : List (List Nat)}
    {issues : List SyntaxIssue}
    (ascend : PointsAscend root)
    (ordered : positions.Pairwise ReadBefore)
    (located : List.Forall₂ (IssueAt source root) positions issues) :
    issues.Pairwise (fun first second => first.point.AtOrBefore second.point) := by
  induction located with
  | nil =>
      exact List.Pairwise.nil
  | @cons position issue laterPositions laterIssues isIssue later inductionHypothesis =>
      obtain ⟨before, laterOrdered⟩ := List.pairwise_cons.mp ordered
      refine List.Pairwise.cons ?_ (inductionHypothesis laterOrdered)
      intro other member
      obtain ⟨otherPosition, otherMember, otherIssue⟩ :=
        exists_position_of_issue later member
      obtain ⟨node, reached, reports⟩ := isIssue
      obtain ⟨otherNode, otherReached, otherReports⟩ := otherIssue
      rw [reports.point, otherReports.point]
      exact ascend position otherPosition node otherNode
        (before otherPosition otherMember) reached otherReached

/--
The issues of a tree, each with the position of the node that it reports: the
outermost broken nodes, once each and in reading order.
-/
structure OutermostReport
    (source : Bytes)
    (root : Node)
    (positions : List (List Nat))
    (issues : List SyntaxIssue) : Prop where
  outermost : ∀ position, position ∈ positions ↔ OutermostAt root position
  readingOrder : positions.Pairwise ReadBefore
  located : List.Forall₂ (IssueAt source root) positions issues
  covering :
    ∀ position,
      BrokenAt root position →
      ∃ reported ∈ positions, reported <+: position
  sorted :
    PointsAscend root →
    issues.Pairwise (fun first second => first.point.AtOrBefore second.point)

theorem outermostReport_of_consistent
    (source : Bytes)
    {root : Node}
    (consistent : ConsistentFlags root) :
    OutermostReport source root root.outermostPositions (flaggedIssues source [root]) := by
  have located := flaggedIssues_of_consistent source consistent
  have ordered := outermostPositions_pairwise root
  refine ⟨fun _ => mem_outermostPositions, ordered, located, ?_,
    fun ascend => points_of_issues_ascend ascend ordered located⟩
  intro position broken
  obtain ⟨above, isPrefix, outermost⟩ := broken.exists_outermost
  exact ⟨above, mem_outermostPositions.mpr outermost, isPrefix⟩

/--
A tree with consistent flags is rejected exactly if something in it is broken.
The issues are those of the outermost broken nodes, once each and in reading
order; every other broken node lies below one of these. If nodes start in
reading order, the issues are sorted by their points.
-/
theorem checkTree_reports_outermost_broken_nodes
    (source : Bytes)
    (root : Node)
    (consistent : ConsistentFlags root) :
    ∃ (positions : List (List Nat)) (issues : List SyntaxIssue),
      OutermostReport source root positions issues ∧
        ∀ refusal,
          checkTree .collecting source root = .error refusal ↔
            refusal = .rejected issues ∧ ∃ position, BrokenAt root position := by
  refine ⟨_, _, outermostReport_of_consistent source consistent, ?_⟩
  intro refusal
  rw [exists_brokenAt_iff_issues source consistent,
    checkTree_of_neverRefuses Listener.collecting_neverRefuses]
  by_cases noIssues : flaggedIssues source [root] = []
  · simp [noIssues]
  · have notEmpty : ¬ (flaggedIssues source [root]).isEmpty = true := by
      simpa using noIssues
    rw [if_neg notEmpty]
    constructor
    · intro rejected
      exact ⟨(Except.error.inj rejected).symm, noIssues⟩
    · rintro ⟨rfl, -⟩
      rfl

/-- A node with the given kind and flags that starts and ends at offset zero. -/
def flaggedNode
    (kind : String)
    (named missing hasError : Bool)
    (children : List Node) :
    Node :=
  .mk ⟨kind, named, missing, hasError, none, 0, 0, ⟨0, 0⟩⟩ children

/-- A class without its semicolon, a comment, and unexpected input inside unexpected input. -/
def brokenUnit : Node :=
  flaggedNode "program" true false true [
    flaggedNode "class_declaration" true false true [flaggedNode ";" false true true []],
    flaggedNode "line_comment" true false false [],
    flaggedNode "ERROR" true false true [flaggedNode "ERROR" true false true []]]

/-- The inner unexpected input is not reported a second time. -/
theorem checkTree_reports_brokenUnit :
    ConsistentFlags brokenUnit ∧
      brokenUnit.outermostPositions = [[0, 0], [2]] ∧
      ∃ (positions : List (List Nat)) (issues : List SyntaxIssue),
        OutermostReport [] brokenUnit positions issues ∧
          ∀ refusal,
            checkTree .collecting [] brokenUnit = .error refusal ↔
              refusal = .rejected issues ∧ ∃ position, BrokenAt brokenUnit position := by
  have semicolon : ConsistentFlags (flaggedNode ";" false true true []) :=
    consistentFlags_of_children (by decide) (List.forall_mem_nil _)
  have inner : ConsistentFlags (flaggedNode "ERROR" true false true []) :=
    consistentFlags_of_children (by decide) (List.forall_mem_nil _)
  have consistent : ConsistentFlags brokenUnit := by
    refine consistentFlags_of_children (by decide) ?_
    refine List.forall_mem_cons.mpr ⟨?_, List.forall_mem_cons.mpr ⟨?_, ?_⟩⟩
    · exact consistentFlags_of_children (by decide) (List.forall_mem_singleton.mpr semicolon)
    · exact consistentFlags_of_children (by decide) (List.forall_mem_nil _)
    · refine List.forall_mem_singleton.mpr ?_
      exact consistentFlags_of_children (by decide) (List.forall_mem_singleton.mpr inner)
  exact ⟨consistent, by decide, checkTree_reports_outermost_broken_nodes [] brokenUnit consistent⟩

end JavaOutline
