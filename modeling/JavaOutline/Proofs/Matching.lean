import Mathlib.Data.List.Forall2
import JavaOutline.Proofs.BodyWalk

namespace JavaOutline

/-!
# Trees that match as far as they are read

An outline reads a tree from its root down, and where a node stands decides what
is looked for below it: a method is asked for its name, its parameters and its
type, and what is held as its body is left alone. Two trees that stand alike match
if their nodes agree one by one, except below those whose children nobody reads.
-/

/-- Where a node stands, as far as that decides what is read below it. -/
inductive Standing where
  /-- The root of a compilation unit. -/
  | unit
  /-- A type that is recorded. -/
  | type
  /-- A body of a type, or the later part of an enum body. -/
  | body
  /-- A method or a constructor. -/
  | callable
  /-- A list of parameters. -/
  | parameters
  /-- A parameter of variable arity. -/
  | spread
  /-- A declaration of fields or constants. -/
  | fields
  /-- A declarator or an enum constant, of which the name is read. -/
  | declarator
  /-- Whatever may be read to the end. -/
  | whole
  /-- A node of which at most the text is read. -/
  | unread
  deriving Repr, DecidableEq

namespace Standing

/-- How a node of a given kind stands in a body. -/
def ofMember (kind : String) : Standing :=
  match kind with
  | "method_declaration" => .callable
  | "constructor_declaration" => .callable
  | "field_declaration" => .fields
  | "constant_declaration" => .fields
  | "enum_constant" => .declarator
  | "enum_body_declarations" => .body
  | "class_declaration" => .type
  | "interface_declaration" => .type
  | "enum_declaration" => .type
  | "record_declaration" => .type
  | _ => .unread

/-- How the nodes of a role stand, but for annotation types. -/
def ofRole : MemberRole → Standing
  | .callable => .callable
  | .fields => .fields
  | .constant => .declarator
  | .bodyPart => .body
  | .type => .type

theorem ofMember_eq_ofRole
    {info : NodeInfo}
    {role : MemberRole}
    (played : info.memberRole? = some role)
    (recorded : role = .type → info.kind ≠ annotationKind) :
    ofMember info.kind = ofRole role := by
  have listed := (NodeInfo.memberRole?_eq_some_iff.mp played).2
  cases role with
  | callable =>
      rcases (by simpa [MemberRole.kinds] using listed) with kind | kind <;>
        simp [kind, ofMember, ofRole]
  | fields =>
      rcases (by simpa [MemberRole.kinds] using listed) with kind | kind <;>
        simp [kind, ofMember, ofRole]
  | constant =>
      simp [List.mem_singleton.mp listed, ofMember, ofRole]
  | bodyPart =>
      simp [List.mem_singleton.mp listed, ofMember, ofRole]
  | type =>
      have isRecorded := mem_recordedTypeKinds_iff.mpr ⟨listed, recorded rfl⟩
      rcases (by simpa [recordedTypeKinds] using isRecorded) with kind | kind | kind | kind <;>
        simp [kind, ofMember, ofRole]

/-- How a child stands, given how its parent does. -/
def below (standing : Standing) (child : NodeInfo) : Standing :=
  match standing with
  | .unit =>
      if child.kind = "annotation_type_declaration" then .unread
      else if child.kind ∈ recordedTypeKinds then .type
      else .whole
  | .type => if child.field = some "body" then .body else .whole
  | .body => .ofMember child.kind
  | .callable =>
      if child.field = some "body" then .unread
      else if child.field = some "parameters" then .parameters
      else .whole
  | .parameters => if child.kind = "spread_parameter" then .spread else .whole
  | .spread => if child.kind = "variable_declarator" then .declarator else .whole
  | .fields => if child.field = some "declarator" then .declarator else .whole
  | .declarator => .unread
  | .whole => .whole
  | .unread => .unread

end Standing

mutual

/-- Two trees that stand alike agree node by node, as far as they are read. -/
def MatchAt (agree : NodeInfo → NodeInfo → Prop) : Standing → Node → Node → Prop
  | standing, .mk first firstChildren, .mk second secondChildren =>
      agree first second ∧
        (standing = .unread ∨ MatchBelow agree standing firstChildren secondChildren)

/-- The children of two nodes that stand alike match one by one. -/
def MatchBelow (agree : NodeInfo → NodeInfo → Prop) : Standing → List Node → List Node → Prop
  | _, [], [] => True
  | standing, first :: firstRest, second :: secondRest =>
      MatchAt agree (standing.below first.info) first second ∧
        MatchBelow agree standing firstRest secondRest
  | _, [], _ :: _ => False
  | _, _ :: _, [] => False

end

section Deciding

variable (agree : NodeInfo → NodeInfo → Prop) [DecidableRel agree]

mutual

def decideMatchAt :
    (standing : Standing) → (first second : Node) → Decidable (MatchAt agree standing first second)
  | standing, .mk first firstChildren, .mk second secondChildren =>
      have := decideMatchBelow standing firstChildren secondChildren
      inferInstanceAs (Decidable (agree first second ∧
        (standing = .unread ∨ MatchBelow agree standing firstChildren secondChildren)))

def decideMatchBelow :
    (standing : Standing) →
    (first second : List Node) →
    Decidable (MatchBelow agree standing first second)
  | _, [], [] => .isTrue trivial
  | standing, first :: firstRest, second :: secondRest =>
      have := decideMatchAt (standing.below first.info) first second
      have := decideMatchBelow standing firstRest secondRest
      inferInstanceAs (Decidable (MatchAt agree (standing.below first.info) first second ∧
        MatchBelow agree standing firstRest secondRest))
  | _, [], _ :: _ => .isFalse id
  | _, _ :: _, [] => .isFalse id

end

instance (standing : Standing) (first second : Node) :
    Decidable (MatchAt agree standing first second) :=
  decideMatchAt agree standing first second

end Deciding

section Matching

variable {agree other : NodeInfo → NodeInfo → Prop} {standing : Standing} {first second : Node}

theorem matchBelow_iff
    {firstNodes secondNodes : List Node} :
    MatchBelow agree standing firstNodes secondNodes ↔
      List.Forall₂ (fun first second => MatchAt agree (standing.below first.info) first second)
        firstNodes secondNodes := by
  induction firstNodes generalizing secondNodes with
  | nil =>
      cases secondNodes <;> simp [MatchBelow]
  | cons node rest inductionHypothesis =>
      cases secondNodes <;> simp [MatchBelow, inductionHypothesis]

theorem MatchAt.info
    (matching : MatchAt agree standing first second) :
    agree first.info second.info := by
  cases first
  cases second
  rw [MatchAt] at matching
  exact matching.1

/-- Members of matching bodies match as their role has it. -/
theorem MatchAt.of_role
    {role : MemberRole}
    (matching : MatchAt agree (Standing.body.below first.info) first second)
    (played : first.info.memberRole? = some role)
    (recorded : role = .type → first.kind ≠ annotationKind) :
    MatchAt agree (Standing.ofRole role) first second := by
  have standing : Standing.body.below first.info = .ofRole role :=
    Standing.ofMember_eq_ofRole played recorded
  exact standing ▸ matching

/-- Where children are read, they match as they stand. -/
theorem MatchAt.children
    (matching : MatchAt agree standing first second)
    (read : standing ≠ .unread) :
    List.Forall₂ (fun first second => MatchAt agree (standing.below first.info) first second)
      first.children second.children := by
  cases first
  cases second
  rw [MatchAt] at matching
  exact matchBelow_iff.mp (matching.2.resolve_left read)

mutual

/-- Trees that match as a whole match wherever they stand, also if less is agreed on. -/
theorem MatchAt.relax
    (weaker : ∀ {first second}, agree first second → other first second) :
    ∀ {finer coarser : Standing} {first second : Node},
      finer = .whole ∨ finer = coarser →
      MatchAt agree finer first second →
      MatchAt other coarser first second
  | finer, coarser, .mk first firstChildren, .mk second secondChildren, standings, matching => by
      rw [MatchAt] at matching ⊢
      refine ⟨weaker matching.1, ?_⟩
      rcases matching.2 with unread | below
      · subst unread
        rcases standings with isWhole | same
        · cases isWhole
        · exact .inl same.symm
      · exact .inr (MatchBelow.relax weaker standings below)

theorem MatchBelow.relax
    (weaker : ∀ {first second}, agree first second → other first second) :
    ∀ {finer coarser : Standing} {first second : List Node},
      finer = .whole ∨ finer = coarser →
      MatchBelow agree finer first second →
      MatchBelow other coarser first second
  | _, _, [], [], _, _ => by
      rw [MatchBelow]
      trivial
  | finer, coarser, first :: firstRest, second :: secondRest, standings, matching => by
      rw [MatchBelow] at matching ⊢
      have childStandings :
          finer.below first.info = .whole ∨
            finer.below first.info = coarser.below first.info := by
        rcases standings with isWhole | same
        · subst isWhole
          exact .inl rfl
        · exact .inr (congrArg (fun standing => standing.below first.info) same)
      exact ⟨MatchAt.relax weaker childStandings matching.1,
        MatchBelow.relax weaker standings matching.2⟩
  | _, _, [], _ :: _, _, matching => by
      rw [MatchBelow] at matching
      exact matching.elim
  | _, _, _ :: _, [], _, matching => by
      rw [MatchBelow] at matching
      exact matching.elim

end

end Matching

/-- Lookups in lists that match find nodes that match, or nothing in either list. -/
theorem find?_of_forall₂
    {related : Node → Node → Prop}
    {firstNodes secondNodes : List Node}
    (wanted : Node → Bool)
    (same : ∀ first second, related first second → wanted first = wanted second)
    (matching : List.Forall₂ related firstNodes secondNodes) :
    Option.Rel (fun first second => wanted first = true ∧ related first second)
      (firstNodes.find? wanted) (secondNodes.find? wanted) := by
  induction matching with
  | nil =>
      exact .none
  | @cons first second _ _ nodes _ inductionHypothesis =>
      have wantedAlike := same first second nodes
      cases isWanted : wanted first with
      | true =>
          rw [List.find?_cons_of_pos isWanted,
            List.find?_cons_of_pos (wantedAlike.symm.trans isWanted)]
          exact .some ⟨isWanted, nodes⟩
      | false =>
          rw [List.find?_cons, List.find?_cons, isWanted, ← wantedAlike, isWanted]
          exact inductionHypothesis

end JavaOutline
