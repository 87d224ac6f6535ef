import JavaOutline.Proofs.VisitedNodes

namespace JavaOutline

open Text (Bytes)

/-!
# The order in which types are left

A reader meets outer types first and leaves inner types first. Both orders can
be read off positions: what lies around a position is met before it and left
after it, and of two positions that part somewhere the one on the left is first
in either way. When the walk through a unit stops at a node without a name, the
types that it has left are those that are met before that node and do not hold
it.
-/

/-- A position is met before another and is none of those around it. -/
def LeftBehind (first second : List Nat) : Prop :=
  ReadBefore first second ∧ ¬ first <+: second

/-- A position is left before another: it lies inside the other, or is behind it. -/
def LeftBefore (first second : List Nat) : Prop :=
  LeftBehind first second ∨ second <+: first ∧ first ≠ second

section Positions

variable {first second : List Nat} {index other : Nat}

theorem readBefore_cons_iff :
    ReadBefore (index :: first) (other :: second) ↔
      index < other ∨ index = other ∧ ReadBefore first second :=
  List.cons_lex_cons_iff

theorem leftBehind_cons_iff :
    LeftBehind (index :: first) (other :: second) ↔
      index < other ∨ index = other ∧ LeftBehind first second := by
  rw [LeftBehind, LeftBehind, readBefore_cons_iff, List.cons_prefix_cons]
  constructor
  · rintro ⟨smaller | ⟨same, before⟩, notAround⟩
    · exact .inl smaller
    · exact .inr ⟨same, before, fun around => notAround ⟨same, around⟩⟩
  · rintro (smaller | ⟨same, before, notAround⟩)
    · exact ⟨.inl smaller, fun around => absurd around.1 (Nat.ne_of_lt smaller)⟩
    · exact ⟨.inr ⟨same, before⟩, fun around => notAround around.2⟩

/-- The root is around every position. -/
theorem not_leftBehind_of_nil : ¬ LeftBehind [] second :=
  fun behind => behind.2 List.nil_prefix

/-- Nothing is met before the root. -/
theorem not_leftBehind_nil : ¬ LeftBehind first [] :=
  fun behind => List.not_lex_nil behind.1

theorem LeftBehind.asymm
    (behind : LeftBehind first second) :
    ¬ LeftBehind second first := by
  induction first generalizing second with
  | nil =>
      exact absurd behind not_leftBehind_of_nil
  | cons index rest inductionHypothesis =>
      cases second with
      | nil =>
          exact absurd behind not_leftBehind_nil
      | cons other others =>
          rw [leftBehind_cons_iff] at behind ⊢
          rintro (larger | ⟨same, back⟩)
          · omega
          · rcases behind with smaller | ⟨-, onward⟩
            · omega
            · exact inductionHypothesis onward back

theorem leftBefore_cons_iff :
    LeftBefore (index :: first) (index :: second) ↔ LeftBefore first second := by
  simp [LeftBefore, leftBehind_cons_iff]

end Positions

section Found

variable {visit : Node → List Visit} {chosen : Node → Bool} {node : Node}

/-- Visits below a node are to its descendants, in reading order. -/
structure LaidOut (root : Node) (visits : List Visit) : Prop where
  found : ∀ visit ∈ visits, root.descend? visit.position = some visit.node
  inOrder : visits.Pairwise fun first second => ReadBefore first.position second.position

theorem LaidOut.nil (node : Node) : LaidOut node [] :=
  ⟨List.forall_mem_nil _, .nil⟩

theorem LaidOut.self (node : Node) (scope? : Option Scope) :
    LaidOut node [⟨[], scope?, node⟩] :=
  ⟨List.forall_mem_singleton.mpr rfl, List.pairwise_singleton _ _⟩

/-- A node is met before everything below it. -/
theorem LaidOut.self_append
    {visits : List Visit}
    (laidOut : LaidOut node visits)
    (deeper : ∀ visit ∈ visits, visit.position ≠ [])
    (scope? : Option Scope) :
    LaidOut node (⟨[], scope?, node⟩ :: visits) where
  found := List.forall_mem_cons.mpr ⟨rfl, laidOut.found⟩
  inOrder := by
    refine List.pairwise_cons.mpr ⟨?_, laidOut.inOrder⟩
    intro seen member
    obtain ⟨index, rest, shape⟩ := List.exists_cons_of_ne_nil (deeper seen member)
    rw [shape]
    exact List.Lex.nil

theorem LaidOut.below
    {child : Node}
    {visits : List Visit}
    {index : Nat}
    (laidOut : LaidOut child visits)
    (isChild : node.children[index]? = some child) :
    LaidOut node (visits.map (.below index)) where
  found := by
    intro seen member
    obtain ⟨inner, isInner, rfl⟩ := List.mem_map.mp member
    exact Node.descend?_cons_eq_some_iff.mpr ⟨child, isChild, laidOut.found inner isInner⟩
  inOrder := by
    rw [List.pairwise_map]
    exact laidOut.inOrder.imp fun before => List.Lex.cons before

/-- Whatever is visited in a node is behind what is visited in the nodes after it. -/
theorem leftBehind_visitsFrom
    {start : Nat}
    {node : Node}
    {rest : List Node}
    {first second : Visit}
    (isFirst : first ∈ (visit node).map (.below start))
    (isSecond : second ∈ visitsFrom visit (start + 1) rest) :
    LeftBehind first.position second.position := by
  obtain ⟨inner, -, rfl⟩ := List.mem_map.mp isFirst
  obtain ⟨offset, child, other, -, -, rfl⟩ := mem_visitsFrom.mp isSecond
  exact leftBehind_cons_iff.mpr (.inl (by omega))

theorem visitsFrom_pairwise
    {nodes : List Node}
    (each : ∀ node ∈ nodes, LaidOut node (visit node))
    (start : Nat) :
    (visitsFrom visit start nodes).Pairwise
      fun first second => ReadBefore first.position second.position := by
  induction nodes generalizing start with
  | nil =>
      exact .nil
  | cons node rest inductionHypothesis =>
      obtain ⟨first, others⟩ := List.forall_mem_cons.mp each
      rw [visitsFrom, List.pairwise_append, List.pairwise_map]
      refine ⟨first.inOrder.imp fun before => List.Lex.cons before,
        inductionHypothesis others (start + 1), ?_⟩
      intro seen isFirst later isLater
      exact (leftBehind_visitsFrom isFirst isLater).1

theorem LaidOut.ofChildren
    (each : ∀ child ∈ node.children, LaidOut child (visit child)) :
    LaidOut node (visitsFrom visit 0 node.children) where
  found := by
    intro seen member
    obtain ⟨offset, child, inner, isChild, isInner, rfl⟩ := mem_visitsFrom.mp member
    have laidOut := (each child (List.mem_of_getElem? isChild)).below isChild
    rw [Nat.zero_add]
    exact laidOut.found _ (List.mem_map_of_mem isInner)
  inOrder := visitsFrom_pairwise each 0

theorem LaidOut.ofFirst
    (each : ∀ child, node.children.find? chosen = some child → LaidOut child (visit child)) :
    LaidOut node (firstVisits chosen visit 0 node.children) := by
  cases found : node.children.find? chosen with
  | none =>
      rw [firstVisits_of_not_found found]
      exact .nil node
  | some child =>
      obtain ⟨offset, isChild, visits⟩ := firstVisits_of_find? visit found 0
      rw [Nat.zero_add] at visits
      rw [visits]
      exact (each child found).below isChild

/-- The visits to a chosen child are below the node. -/
theorem position_ne_nil_of_mem_firstVisits
    {nodes : List Node}
    {start : Nat}
    {seen : Visit}
    (member : seen ∈ firstVisits chosen visit start nodes) :
    seen.position ≠ [] := by
  cases found : nodes.find? chosen with
  | none =>
      rw [firstVisits_of_not_found found] at member
      cases member
  | some child =>
      obtain ⟨offset, -, visits⟩ := firstVisits_of_find? visit found start
      rw [visits] at member
      obtain ⟨inner, -, rfl⟩ := List.mem_map.mp member
      exact List.cons_ne_nil _ _

end Found

section LaidOutUnit

variable {source : Bytes} {node : Node}

theorem callableVisits_laidOut (node : Node) :
    LaidOut node (callableVisits node) := by
  refine LaidOut.self_append (.ofFirst ?_) (fun _ => position_ne_nil_of_mem_firstVisits) none
  intro parameters _
  refine .ofChildren ?_
  intro parameter _
  unfold parameterVisits
  split
  · split
    · exact .self parameter none
    · exact .ofFirst fun declarator _ => .self declarator none
    · exact .nil parameter
  · exact .nil parameter

theorem declaratorVisits_laidOut (node : Node) :
    LaidOut node (declaratorVisits node) := by
  refine .ofChildren ?_
  intro child _
  split
  · exact .self child none
  · exact .nil child

/-- The visits in a type are laid out if those to the nodes of its body are. -/
theorem typeVisits_laidOut
    (members : ∀ owner body,
      node.childByField? bodyField = some body →
      ∀ member ∈ body.children, LaidOut member (memberVisits source owner member))
    (scope : Scope) :
    LaidOut node (typeVisits source scope node) := by
  unfold typeVisits
  split
  · exact .nil node
  · refine LaidOut.self_append (.ofFirst ?_) (fun _ => position_ne_nil_of_mem_firstVisits) _
    intro body found
    exact .ofChildren (members _ body found)

theorem memberVisits_laidOut (owner : ClassName) (nodes : List Node) :
    ∀ node ∈ nodes, LaidOut node (memberVisits source owner node) := by
  induction nodes using bodyInduction generalizing owner with
  | nil =>
      exact List.forall_mem_nil _
  | passedOver node rest role inductionHypothesis =>
      refine List.forall_mem_cons.mpr ⟨?_, inductionHypothesis owner⟩
      rw [memberVisits_passedOver role]
      exact .nil node
  | callable node rest role inductionHypothesis =>
      refine List.forall_mem_cons.mpr ⟨?_, inductionHypothesis owner⟩
      rw [memberVisits_callable role]
      exact callableVisits_laidOut node
  | fields node rest role inductionHypothesis =>
      refine List.forall_mem_cons.mpr ⟨?_, inductionHypothesis owner⟩
      rw [memberVisits_fields role]
      exact declaratorVisits_laidOut node
  | constant node rest role inductionHypothesis =>
      refine List.forall_mem_cons.mpr ⟨?_, inductionHypothesis owner⟩
      rw [memberVisits_constant role]
      exact .self node none
  | bodyPart node rest role inPart inductionHypothesis =>
      refine List.forall_mem_cons.mpr ⟨?_, inductionHypothesis owner⟩
      rw [memberVisits_bodyPart role]
      exact .ofChildren (inPart owner)
  | type node rest role inBody inductionHypothesis =>
      refine List.forall_mem_cons.mpr ⟨?_, inductionHypothesis owner⟩
      rw [memberVisits_type role]
      exact typeVisits_laidOut (fun nested body found => inBody body found nested) _

theorem unitVisits_laidOut (root : Node) (file fallbackPackage : String) :
    LaidOut root (unitVisits source root file fallbackPackage) := by
  refine .ofChildren ?_
  intro child _
  unfold topLevelVisits
  split
  · exact typeVisits_laidOut (fun owner body _ => memberVisits_laidOut owner _) _
  · exact .nil child

end LaidOutUnit

/--
The types among visits that the walk has left when it comes to the first node
without a name, or to the end, in the order in which it has left them.
-/
structure LeftTypes (visits left : List Visit) : Prop where
  order : left.Pairwise fun first second => LeftBefore first.position second.position
  members : ∀ visit,
    visit ∈ left ↔
      visit ∈ visits ∧ visit.isType = true ∧
        ∀ unnamed,
          visits.find? Visit.isUnnamed = some unnamed →
          LeftBehind visit.position unnamed.position

namespace LeftTypes

variable {visits others left leftOthers : List Visit}

theorem of_noTypes
    (noTypes : ∀ visit ∈ visits, visit.isType = false) :
    LeftTypes visits [] where
  order := .nil
  members := by
    intro visit
    constructor
    · intro member
      cases member
    · rintro ⟨member, isType, -⟩
      rw [noTypes visit member] at isType
      cases isType

theorem below
    (types : LeftTypes visits left)
    (index : Nat) :
    LeftTypes (visits.map (.below index)) (left.map (.below index)) where
  order := by
    rw [List.pairwise_map]
    exact types.order.imp leftBefore_cons_iff.mpr
  members := by
    have search :
        (visits.map (.below index)).find? Visit.isUnnamed =
          (visits.find? Visit.isUnnamed).map (.below index) :=
      List.find?_map
    intro visit
    simp only [List.mem_map, search, Option.map_eq_some_iff]
    constructor
    · rintro ⟨inner, member, rfl⟩
      obtain ⟨isVisit, isType, behind⟩ := (types.members inner).mp member
      refine ⟨⟨inner, isVisit, rfl⟩, isType, ?_⟩
      rintro - ⟨unnamed, found, rfl⟩
      exact leftBehind_cons_iff.mpr (.inr ⟨rfl, behind unnamed found⟩)
    · rintro ⟨⟨inner, isVisit, rfl⟩, isType, behind⟩
      refine ⟨inner, (types.members inner).mpr ⟨isVisit, isType, ?_⟩, rfl⟩
      intro unnamed found
      rcases leftBehind_cons_iff.mp (behind _ ⟨unnamed, found, rfl⟩) with smaller | ⟨-, inside⟩
      · exact absurd smaller (Nat.lt_irrefl _)
      · exact inside

/-- If all visited nodes have names, the types of later visits are left after theirs. -/
theorem append
    (types : LeftTypes visits left)
    (otherTypes : LeftTypes others leftOthers)
    (named : visits.find? Visit.isUnnamed = none)
    (apart : ∀ first ∈ visits, ∀ second ∈ others,
      LeftBehind first.position second.position) :
    LeftTypes (visits ++ others) (left ++ leftOthers) where
  order := by
    refine List.pairwise_append.mpr ⟨types.order, otherTypes.order, ?_⟩
    intro first isFirst second isSecond
    exact .inl (apart first ((types.members first).mp isFirst).1 second
      ((otherTypes.members second).mp isSecond).1)
  members := by
    have search :
        (visits ++ others).find? Visit.isUnnamed = others.find? Visit.isUnnamed := by
      rw [List.find?_append, named, Option.none_or]
    intro visit
    rw [List.mem_append, List.mem_append, types.members, otherTypes.members, search]
    constructor
    · rintro (⟨isVisit, isType, -⟩ | ⟨isVisit, isType, behind⟩)
      · refine ⟨.inl isVisit, isType, ?_⟩
        intro unnamed found
        exact apart visit isVisit unnamed (List.mem_of_find?_eq_some found)
      · exact ⟨.inr isVisit, isType, behind⟩
    · rintro ⟨isVisit | isVisit, isType, behind⟩
      · refine .inl ⟨isVisit, isType, ?_⟩
        rw [named]
        exact fun unnamed found => nomatch found
      · exact .inr ⟨isVisit, isType, behind⟩

/-- Once a node without a name is met, later visits no longer count. -/
theorem append_unnamed
    {unnamed : Visit}
    (types : LeftTypes visits left)
    (found : visits.find? Visit.isUnnamed = some unnamed)
    (apart : ∀ first ∈ visits, ∀ second ∈ others,
      LeftBehind first.position second.position) :
    LeftTypes (visits ++ others) left where
  order := types.order
  members := by
    have search : (visits ++ others).find? Visit.isUnnamed = some unnamed := by
      rw [List.find?_append, found, Option.some_or]
    intro visit
    rw [types.members, List.mem_append, search, found]
    constructor
    · rintro ⟨isVisit, isType, behind⟩
      exact ⟨.inl isVisit, isType, behind⟩
    · rintro ⟨isVisit | isLater, isType, behind⟩
      · exact ⟨isVisit, isType, behind⟩
      · -- what comes later is ahead of the node that ends the walk, not behind it
        have ahead := apart unnamed (List.mem_of_find?_eq_some found) visit isLater
        exact absurd (behind unnamed rfl) ahead.asymm

section Self

variable {scope? : Option Scope} {node : Node}

theorem find?_cons_named
    (named : node.isUnnamed = false) :
    List.find? Visit.isUnnamed (⟨[], scope?, node⟩ :: visits) =
      visits.find? Visit.isUnnamed :=
  List.find?_cons_of_neg (ne_true_of_eq_false named)

/-- A type without a name ends the walk before anything in it is visited. -/
theorem self_unnamed
    (unnamed : node.isUnnamed = true) :
    LeftTypes (⟨[], scope?, node⟩ :: visits) [] where
  order := .nil
  members := by
    intro visit
    constructor
    · intro member
      cases member
    · rintro ⟨-, -, behind⟩
      exact absurd (behind _ (List.find?_cons_of_pos unnamed)) not_leftBehind_nil

/-- A type is not left if the walk ends inside it. -/
theorem self_open
    {unnamed : Visit}
    (types : LeftTypes visits left)
    (named : node.isUnnamed = false)
    (found : visits.find? Visit.isUnnamed = some unnamed) :
    LeftTypes (⟨[], scope?, node⟩ :: visits) left where
  order := types.order
  members := by
    have search :
        List.find? Visit.isUnnamed (⟨[], scope?, node⟩ :: visits) = some unnamed :=
      (find?_cons_named named).trans found
    intro visit
    rw [types.members, search, found, List.mem_cons]
    constructor
    · rintro ⟨isVisit, isType, behind⟩
      exact ⟨.inr isVisit, isType, behind⟩
    · rintro ⟨isSelf | isVisit, isType, behind⟩
      · -- the type is around the node that ends the walk
        subst isSelf
        exact absurd (behind unnamed rfl) not_leftBehind_of_nil
      · exact ⟨isVisit, isType, behind⟩

/-- A type is left after everything in it, if all of it has names. -/
theorem self_left
    {scope : Scope}
    (types : LeftTypes visits left)
    (named : node.isUnnamed = false)
    (allNamed : visits.find? Visit.isUnnamed = none)
    (deeper : ∀ visit ∈ visits, visit.position ≠ []) :
    LeftTypes (⟨[], some scope, node⟩ :: visits) (left ++ [⟨[], some scope, node⟩]) where
  order := by
    refine List.pairwise_append.mpr ⟨types.order, List.pairwise_singleton _ _, ?_⟩
    intro visit isLeft self isSelf
    obtain rfl := List.mem_singleton.mp isSelf
    exact .inr ⟨List.nil_prefix, deeper visit ((types.members visit).mp isLeft).1⟩
  members := by
    have search :
        List.find? Visit.isUnnamed (⟨[], some scope, node⟩ :: visits) = none :=
      (find?_cons_named named).trans allNamed
    intro visit
    rw [List.mem_append, types.members, search, allNamed, List.mem_singleton, List.mem_cons]
    constructor
    · rintro (⟨isVisit, isType, behind⟩ | isSelf)
      · exact ⟨.inr isVisit, isType, behind⟩
      · subst isSelf
        exact ⟨.inl rfl, rfl, fun unnamed found => nomatch found⟩
    · rintro ⟨isSelf | isVisit, isType, behind⟩
      · exact .inr isSelf
      · exact .inl ⟨isVisit, isType, behind⟩

end Self

end LeftTypes

end JavaOutline
