import JavaOutline.Declaration

namespace JavaOutline

/-!
# Classes inside classes

A class encloses itself and every class declared in it, however deep. The walk
over a class visits exactly the classes that it encloses. Statements about all
classes of an outline use the relation where they descend, and the walk where
order and repetition matter.
-/

namespace ClassDecl

/-- A class is the other one, or the other one is declared in it at some depth. -/
inductive Encloses : ClassDecl → ClassDecl → Prop where
  | self (declared : ClassDecl) :
      Encloses declared declared
  | deeper
      {outer middle inner : ClassDecl}
      (member : .nested middle ∈ outer.children)
      (encloses : Encloses middle inner) :
      Encloses outer inner

@[simp] theorem mem_innerClasses
    {outer inner : ClassDecl} :
    inner ∈ outer.innerClasses ↔ .nested inner ∈ outer.children := by
  rw [innerClasses, List.mem_filterMap]
  constructor
  · rintro ⟨declaration, member, isNested⟩
    cases declaration with
    | nested declared =>
        cases isNested
        exact member
    | method declared =>
        cases isNested
    | field declared =>
        cases isNested
  · intro member
    exact ⟨.nested inner, member, rfl⟩

end ClassDecl

mutual

/-- Induction over classes: a statement about a class may use it of its nested classes. -/
theorem ClassDecl.innerInduction
    {motive : ClassDecl → Prop}
    (step : ∀ declared : ClassDecl,
      (∀ inner, .nested inner ∈ declared.children → motive inner) → motive declared) :
    ∀ declared : ClassDecl, motive declared
  | .mk head children =>
      step (.mk head children) (innerInduction_members step children)

theorem innerInduction_members
    {motive : ClassDecl → Prop}
    (step : ∀ declared : ClassDecl,
      (∀ inner, .nested inner ∈ declared.children → motive inner) → motive declared) :
    ∀ (children : List Declaration) (inner : ClassDecl),
      .nested inner ∈ children → motive inner
  | .nested declared :: rest, inner, member => by
      rcases List.mem_cons.mp member with isFirst | inRest
      · cases isFirst
        exact declared.innerInduction step
      · exact innerInduction_members step rest inner inRest
  | .method _ :: rest, inner, member => by
      refine innerInduction_members step rest inner ?_
      simpa using member
  | .field _ :: rest, inner, member => by
      refine innerInduction_members step rest inner ?_
      simpa using member

end

theorem walkMembers_eq (children : List Declaration) :
    walkMembers children =
      (children.filterMap Declaration.nested?).flatMap ClassDecl.walk := by
  induction children with
  | nil =>
      rw [walkMembers]
      rfl
  | cons declaration rest inductionHypothesis =>
      cases declaration <;>
        simp [walkMembers, List.filterMap_cons, Declaration.nested?, inductionHypothesis]

namespace ClassDecl

/-- A walk visits the class, then walks its nested classes in order. -/
theorem walk_eq (declared : ClassDecl) :
    declared.walk = declared :: declared.innerClasses.flatMap walk := by
  cases declared with
  | mk head children =>
      rw [walk, walkMembers_eq]
      rfl

/-- A walk visits exactly the classes that are enclosed. -/
theorem mem_walk_iff
    {outer inner : ClassDecl} :
    inner ∈ outer.walk ↔ outer.Encloses inner := by
  induction outer using innerInduction with
  | step outer inductionHypothesis =>
      rw [walk_eq, List.mem_cons, List.mem_flatMap]
      constructor
      · rintro (isOuter | ⟨middle, member, visited⟩)
        · rw [isOuter]
          exact .self outer
        · have isMember := mem_innerClasses.mp member
          exact .deeper isMember ((inductionHypothesis middle isMember).mp visited)
      · intro encloses
        cases encloses with
        | self =>
            exact .inl rfl
        | deeper member encloses =>
            have visited := (inductionHypothesis _ member).mpr encloses
            exact .inr ⟨_, mem_innerClasses.mpr member, visited⟩

end ClassDecl

end JavaOutline
