import JavaOutline.Proofs.BodyWalk

namespace JavaOutline

/-!
# The nodes that records are made from

The members of a body are its named nodes of the right kinds, where the later
part of an enum body is replaced by its own members. Each of them gives one
record, except that fields give one for each declarator and annotation types
give none. So a list of records can be read beside the list of nodes that they
are made from.
-/

/-- The kinds of nodes that are members of a body. -/
def memberKinds : List String :=
  ["method_declaration", "constructor_declaration", "field_declaration",
    "constant_declaration", "enum_constant", "class_declaration",
    "interface_declaration", "enum_declaration", "record_declaration",
    "annotation_type_declaration"]

mutual

/-- The members that a node in a body stands for: itself, or those inside it. -/
def Node.flatMember : Node → List Node
  | .mk info children =>
      if info.kind = "enum_body_declarations" then
        flatMembers children
      else if memberKinds.contains info.kind then
        [.mk info children]
      else
        []

/-- The members of a body with these children, in order. -/
def flatMembers : List Node → List Node
  | [] => []
  | node :: rest =>
      if node.info.named then node.flatMember ++ flatMembers rest else flatMembers rest

end

/-- A member, once for each of its records. -/
def recordsOf (node : Node) : List Node :=
  match node.kind with
  | "field_declaration" => (node.childrenByField "declarator").map (fun _ => node)
  | "constant_declaration" => (node.childrenByField "declarator").map (fun _ => node)
  | "annotation_type_declaration" => []
  | _ => [node]

/-- The nodes that the records of a body are made from, one for each record. -/
def bodyRecords (nodes : List Node) : List Node :=
  (flatMembers nodes).flatMap recordsOf

/-- The nodes that the records of a type declaration are made from. -/
def typeRecords (node : Node) : List Node :=
  match node.childByField? "body" with
  | some body => bodyRecords body.children
  | none => []

section Members

variable {node : Node} {role : MemberRole}

/-- The members are the nodes with a role, but for the later part of an enum body. -/
theorem mem_memberKinds_iff
    {kind : String} :
    kind ∈ memberKinds ↔ ∃ role : MemberRole, role ≠ .bodyPart ∧ kind ∈ role.kinds := by
  constructor
  · intro listed
    simp only [memberKinds, List.mem_cons, List.not_mem_nil, or_false] at listed
    rcases listed with rfl | rfl | rfl | rfl | rfl | rfl | rfl | rfl | rfl | rfl
    · exact ⟨.callable, by decide, by decide⟩
    · exact ⟨.callable, by decide, by decide⟩
    · exact ⟨.fields, by decide, by decide⟩
    · exact ⟨.fields, by decide, by decide⟩
    · exact ⟨.constant, by decide, by decide⟩
    all_goals
      exact ⟨.type, by decide, by decide⟩
  · rintro ⟨role, notPart, listed⟩
    cases role <;> simp_all [MemberRole.kinds, memberKinds]
    all_goals
      rcases listed with rfl | rfl <;> simp

/-- A node without a role is no member. -/
theorem flatMembers_passedOver
    (noRole : node.info.memberRole? = none)
    (rest : List Node) :
    flatMembers (node :: rest) = flatMembers rest := by
  rw [flatMembers]
  by_cases named : node.info.named = true
  · have unlisted := NodeInfo.not_mem_kinds named noRole
    have noMember : node.flatMember = [] := by
      cases node with
      | mk info children =>
          have notPart : info.kind ≠ "enum_body_declarations" := by
            simpa [MemberRole.kinds] using unlisted .bodyPart
          have notMember : ¬ memberKinds.contains info.kind = true := by
            rw [List.contains_iff_mem, mem_memberKinds_iff]
            rintro ⟨other, -, listed⟩
            exact unlisted other listed
          rw [Node.flatMember, if_neg notPart, if_neg notMember]
    rw [if_pos named, noMember, List.nil_append]
  · rw [if_neg named]

/-- The later part of an enum body is replaced by its members. -/
theorem flatMembers_bodyPart
    (played : node.info.memberRole? = some .bodyPart)
    (rest : List Node) :
    flatMembers (node :: rest) = flatMembers node.children ++ flatMembers rest := by
  obtain ⟨named, kind⟩ := NodeInfo.memberRole?_eq_some_iff.mp played
  cases node with
  | mk info children =>
      have isPart : info.kind = "enum_body_declarations" := by
        simpa [MemberRole.kinds] using kind
      rw [flatMembers, if_pos named, Node.flatMember, if_pos isPart]
      rfl

/-- Any other node with a role is a member. -/
theorem flatMembers_member
    (played : node.info.memberRole? = some role)
    (notPart : role ≠ .bodyPart)
    (rest : List Node) :
    flatMembers (node :: rest) = node :: flatMembers rest := by
  obtain ⟨named, kind⟩ := NodeInfo.memberRole?_eq_some_iff.mp played
  cases node with
  | mk info children =>
      have otherKind : info.kind ≠ "enum_body_declarations" := by
        intro isPart
        rw [Node.info_mk, isPart] at kind
        cases role <;> simp_all [MemberRole.kinds]
      have isMember : memberKinds.contains info.kind = true :=
        List.contains_iff_mem.mpr (mem_memberKinds_iff.mpr ⟨role, notPart, kind⟩)
      rw [flatMembers, if_pos named, Node.flatMember, if_neg otherKind, if_pos isMember]
      rfl

end Members

section Records

variable {node : Node}

/-- Fields are recorded once for each declarator. -/
theorem recordsOf_fields
    (kind : node.kind ∈ MemberRole.fields.kinds) :
    recordsOf node = (node.childrenByField "declarator").map (fun _ => node) := by
  rcases (by simpa [MemberRole.kinds] using kind) with field | constant
  · simp only [recordsOf, field]
  · simp only [recordsOf, constant]

/-- Annotation types are not recorded. -/
theorem recordsOf_skipped
    (kind : node.kind = annotationKind) :
    recordsOf node = [] := by
  simp only [recordsOf, kind, annotationKind]

/-- All else is recorded once. -/
theorem recordsOf_single
    {role : MemberRole}
    (played : node.info.memberRole? = some role)
    (notFields : role ≠ .fields)
    (recorded : node.kind ≠ annotationKind) :
    recordsOf node = [node] := by
  have otherKind : node.kind ∉ MemberRole.fields.kinds :=
    NodeInfo.not_mem_kinds_of_ne played notFields
  unfold recordsOf
  split
  · simp_all [MemberRole.kinds]
  · simp_all [MemberRole.kinds]
  · contradiction
  · rfl

/-- Whatever is no type is no annotation type. -/
theorem kind_ne_annotationKind
    {role : MemberRole}
    (played : node.info.memberRole? = some role)
    (notType : role ≠ .type) :
    node.kind ≠ annotationKind := by
  intro skipped
  have listed : node.kind ∈ MemberRole.type.kinds := by
    rw [skipped]
    decide
  exact NodeInfo.not_mem_kinds_of_ne played notType listed

@[simp] theorem bodyRecords_nil :
    bodyRecords [] = [] := by
  rw [bodyRecords, flatMembers, List.flatMap_nil]

theorem bodyRecords_passedOver
    (noRole : node.info.memberRole? = none)
    (rest : List Node) :
    bodyRecords (node :: rest) = bodyRecords rest := by
  rw [bodyRecords, flatMembers_passedOver noRole, bodyRecords]

theorem bodyRecords_bodyPart
    (played : node.info.memberRole? = some .bodyPart)
    (rest : List Node) :
    bodyRecords (node :: rest) = bodyRecords node.children ++ bodyRecords rest := by
  rw [bodyRecords, flatMembers_bodyPart played, List.flatMap_append, bodyRecords, bodyRecords]

theorem bodyRecords_member
    {role : MemberRole}
    (played : node.info.memberRole? = some role)
    (notPart : role ≠ .bodyPart)
    (rest : List Node) :
    bodyRecords (node :: rest) = recordsOf node ++ bodyRecords rest := by
  rw [bodyRecords, flatMembers_member played notPart, List.flatMap_cons, bodyRecords]

end Records

end JavaOutline
