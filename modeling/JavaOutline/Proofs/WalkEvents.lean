import Mathlib.Data.List.Perm.Basic
import JavaOutline.Proofs.LeavingOrder

namespace JavaOutline

open Text (Bytes)

/-!
# What the walk tells of classes

A class is told of when the walk leaves its type. So a computation that goes
along a list of visits tells of the types among them that it has left, in the
order in which it leaves them: inner types first. This is kept when computations
are put in a row and when a type is put around its body, and hence by the whole
walk, whether it ends with an outline or with a fault.
-/

mutual

/-- The class and every class nested in it, inner classes first, in source order. -/
def ClassDecl.postWalk : ClassDecl → List ClassDecl
  | .mk head children => postWalkMembers children ++ [.mk head children]

/-- The classes among members and every class nested in them. -/
def postWalkMembers : List Declaration → List ClassDecl
  | [] => []
  | .nested declared :: rest => declared.postWalk ++ postWalkMembers rest
  | .method _ :: rest => postWalkMembers rest
  | .field _ :: rest => postWalkMembers rest

end

theorem postWalkMembers_eq (children : List Declaration) :
    postWalkMembers children =
      (children.filterMap Declaration.nested?).flatMap ClassDecl.postWalk := by
  induction children with
  | nil =>
      rw [postWalkMembers]
      rfl
  | cons declaration rest inductionHypothesis =>
      cases declaration <;>
        simp [postWalkMembers, List.filterMap_cons, Declaration.nested?, inductionHypothesis]

namespace ClassDecl

/-- Everything nested in a class comes before it. -/
theorem postWalk_eq (declared : ClassDecl) :
    declared.postWalk = declared.innerClasses.flatMap postWalk ++ [declared] := by
  cases declared with
  | mk head children =>
      rw [postWalk, postWalkMembers_eq]
      rfl

/-- Both walks visit the same classes, each as often. -/
theorem postWalk_perm_walk (declared : ClassDecl) :
    declared.postWalk.Perm declared.walk := by
  induction declared using innerInduction with
  | step outer inductionHypothesis =>
      have inner :
          (outer.innerClasses.flatMap postWalk).Perm (outer.innerClasses.flatMap walk) :=
        .flatMap_left _ fun middle member =>
          inductionHypothesis middle (mem_innerClasses.mp member)
      rw [postWalk_eq, walk_eq]
      exact (inner.append_right [outer]).trans (List.perm_append_singleton outer _)

end ClassDecl

/-- An event tells of a class that has been recorded. -/
def Event.isExtracted : Event → Bool
  | .extracted _ _ _ => true
  | _ => false

/-- A class is the outline of a type where it is visited. -/
def Visit.OutlinedAs (source : Bytes) (visit : Visit) (declared : ClassDecl) : Prop :=
  ∃ scope,
    visit.scope? = some scope ∧
      (outlineType source scope visit.node).outcome = .ok (some declared)

/-- The event that tells of a class made from a node. -/
def extractedEvent (node : Node) (declared : ClassDecl) : Event :=
  .extracted declared.name node.kind declared.children.length

/-- An event tells of the class that a type is outlined as. -/
def Visit.ToldBy (source : Bytes) (visit : Visit) (event : Event) : Prop :=
  ∃ declared,
    visit.OutlinedAs source declared ∧ event = extractedEvent visit.node declared

/-- Putting a value in other terms tells nothing. -/
theorem Traced.bind_return
    {Fault Value Result : Type}
    (computation : Traced Fault Value)
    (convert : Value → Result) :
    (do
      let value ← computation
      return convert value) =
      ⟨computation.events, computation.outcome.map convert⟩ := by
  rcases computation with ⟨events, outcome⟩
  cases outcome with
  | error fault =>
      rfl
  | ok value =>
      rw [Traced.ok_bind, Traced.pure_eq, List.append_nil]
      rfl

/-- A walk ends with a fault exactly if it comes to a node without a name. -/
theorem firstComplaint?_map_node (visits : List Visit) :
    firstComplaint? (visits.map Visit.node) =
      (visits.find? Visit.isUnnamed).map (fun visit => visit.node.withoutName) := by
  rw [firstComplaint?, List.find?_map, Option.map_map]
  rfl

/--
A computation that goes along visits tells of the types that it has left. If it
ends with a value, these are the classes of that value, inner classes first.
-/
structure Follows
    {Value : Type}
    (source : Bytes)
    (visits : List Visit)
    (classes : Value → List ClassDecl)
    (computation : Traced MissingPart Value) :
    Prop where
  inside : ∀ event ∈ computation.events, event.part ≠ "indexer"
  told :
    ∃ left,
      LeftTypes visits left ∧
        List.Forall₂ (Visit.ToldBy source) left
          (computation.events.filter Event.isExtracted) ∧
        ∀ value,
          computation.outcome = .ok value →
          List.Forall₂ (Visit.OutlinedAs source) left (classes value)

namespace Follows

variable {Value Result : Type} {source : Bytes} {visits others : List Visit}

/-- Nothing is told where no type is visited. -/
theorem of_noTypes
    {classes : Value → List ClassDecl}
    {computation : Traced MissingPart Value}
    (noTypes : ∀ visit ∈ visits, visit.isType = false)
    (inside : ∀ event ∈ computation.events, event.part ≠ "indexer")
    (silent : computation.events.filter Event.isExtracted = [])
    (noClasses : ∀ value, computation.outcome = .ok value → classes value = []) :
    Follows source visits classes computation := by
  refine ⟨inside, [], .of_noTypes noTypes, ?_, ?_⟩
  · rw [silent]
    exact .nil
  · intro value ended
    rw [noClasses value ended]
    exact .nil

theorem of_error
    {classes : Value → List ClassDecl}
    {events : List Event}
    {missing : MissingPart}
    {left : List Visit}
    (inside : ∀ event ∈ events, event.part ≠ "indexer")
    (types : LeftTypes visits left)
    (told : List.Forall₂ (Visit.ToldBy source) left (events.filter Event.isExtracted)) :
    Follows source visits classes ⟨events, .error missing⟩ := by
  refine ⟨inside, left, types, told, ?_⟩
  intro value ended
  cases ended

theorem pure_nil
    {classes : Value → List ClassDecl}
    {value : Value}
    (noClasses : classes value = []) :
    Follows source [] classes (pure value) := by
  refine .of_noTypes (List.forall_mem_nil _) (List.forall_mem_nil _) rfl ?_
  intro other ended
  cases ended
  exact noClasses

theorem below
    {classes : Value → List ClassDecl}
    {computation : Traced MissingPart Value}
    (follows : Follows source visits classes computation)
    (index : Nat) :
    Follows source (visits.map (.below index)) classes computation := by
  obtain ⟨inside, left, types, told, outlined⟩ := follows
  refine ⟨inside, left.map (.below index), types.below index, ?_, ?_⟩
  · exact List.forall₂_map_left_iff.mpr told
  · intro value ended
    exact List.forall₂_map_left_iff.mpr (outlined value ended)

/-- A value may be put in other terms that hold the same classes. -/
theorem map
    {classes : Value → List ClassDecl}
    {otherClasses : Result → List ClassDecl}
    {computation : Traced MissingPart Value}
    {convert : Value → Result}
    (follows : Follows source visits classes computation)
    (same : ∀ value, otherClasses (convert value) = classes value) :
    Follows source visits otherClasses (do
      let value ← computation
      return convert value) := by
  obtain ⟨inside, left, types, told, outlined⟩ := follows
  rw [Traced.bind_return]
  refine ⟨inside, left, types, told, ?_⟩
  intro result ended
  obtain ⟨value, valueEnded, rfl⟩ := map_eq_ok_iff.mp ended
  rw [same]
  exact outlined value valueEnded

/-- Computations in a row go along their visits in a row, as far as they come. -/
theorem append
    {Other : Type}
    {classes : Value → List ClassDecl}
    {otherClasses : Other → List ClassDecl}
    {allClasses : Result → List ClassDecl}
    {first : Traced MissingPart Value}
    {second : Traced MissingPart Other}
    {join : Value → Other → Result}
    (follows : Follows source visits classes first)
    (othersFollow : Follows source others otherClasses second)
    (fault : faultOf? first.outcome = firstComplaint? (visits.map Visit.node))
    (apart : ∀ early ∈ visits, ∀ late ∈ others, LeftBehind early.position late.position)
    (joined : ∀ value other,
      allClasses (join value other) = classes value ++ otherClasses other) :
    Follows source (visits ++ others) allClasses (do
      let value ← first
      let other ← second
      return join value other) := by
  obtain ⟨inside, left, types, told, outlined⟩ := follows
  obtain ⟨othersInside, leftOthers, otherTypes, othersTold, othersOutlined⟩ := othersFollow
  simp only [Traced.bind_return]
  rw [firstComplaint?_map_node] at fault
  -- the second computation runs only if the first has met no node without a name
  rcases first with ⟨events, outcome⟩
  cases outcome with
  | error missing =>
      obtain ⟨unnamed, found, -⟩ := Option.map_eq_some_iff.mp fault.symm
      exact .of_error inside (types.append_unnamed found apart) told
  | ok value =>
      have named : visits.find? Visit.isUnnamed = none :=
        Option.map_eq_none_iff.mp fault.symm
      rw [Traced.ok_bind]
      refine ⟨?_, left ++ leftOthers, types.append otherTypes named apart, ?_, ?_⟩
      · exact List.forall_mem_append.mpr ⟨inside, othersInside⟩
      · rw [List.filter_append]
        exact List.rel_append told othersTold
      · intro result ended
        obtain ⟨other, otherEnded, rfl⟩ := map_eq_ok_iff.mp ended
        rw [joined]
        exact List.rel_append (outlined value rfl) (othersOutlined other otherEnded)

end Follows

section Walk

variable {source : Bytes}

/-- A method tells of its thrown types at most. -/
theorem methodOf_part (owner : ClassName) (node : Node) :
    ∀ event ∈ (methodOf source owner node).events, event.part = "members" := by
  have thrownPart (name : String) :
      ∀ event ∈ (tellThrown owner name (thrownTypes source node)).events,
        event.part = "members" := by
    unfold tellThrown
    split
    · exact List.forall_mem_nil _
    · exact List.forall_mem_singleton.mpr rfl
  rw [methodOf]
  cases node.requiredName source with
  | error missing =>
      exact List.forall_mem_nil _
  | ok name =>
      cases argumentsOf source (node.childByField? "parameters") with
      | error missing =>
          exact List.forall_mem_nil _
      | ok arguments =>
          intro event member
          simp only [Traced.ofExcept, Traced.ok_bind, Traced.bind_return, List.nil_append] at member
          exact thrownPart name event member

/-- A member that is no type tells nothing of classes. -/
theorem Follows.of_member
    {Value : Type}
    {computation : Traced MissingPart Value}
    {visits : List Visit}
    {convert : Value → List Declaration}
    (noTypes : visits.filterMap Visit.typeNode? = [])
    (part : ∀ event ∈ computation.events, event.part = "members")
    (noClasses : ∀ value, postWalkMembers (convert value) = []) :
    Follows source visits postWalkMembers (do
      let value ← computation
      return convert value) := by
  rw [Traced.bind_return]
  refine .of_noTypes ?_ ?_ ?_ ?_
  · intro visit member
    have none := List.filterMap_eq_nil_iff.mp noTypes visit member
    rw [Visit.typeNode?, Option.map_eq_none_iff] at none
    rw [Visit.isType, none]
    rfl
  · intro event member
    rw [part event member]
    decide
  · refine List.filter_eq_nil_iff.mpr ?_
    intro event member extracted
    have elsewhere := part event member
    cases event with
    | extracted name kind members =>
        exact absurd elsewhere (by decide : "type_declarations" ≠ "members")
    | _ =>
        cases extracted
  · intro value ended
    obtain ⟨inner, -, rfl⟩ := map_eq_ok_iff.mp ended
    exact noClasses inner

theorem memberOf_fault (owner : ClassName) (node : Node) :
    faultOf? (memberOf source owner node).outcome =
      firstComplaint? ((memberVisits source owner node).map Visit.node) := by
  have sites :
      [node].flatMap (fun member => (memberVisits source owner member).map Visit.node) =
        bodySites [node] :=
    flatMap_map_node_memberVisits owner [node]
  have alone :
      faultOf? (membersOf source owner [node]).outcome = firstComplaint? (bodySites [node]) :=
    membersOf_fault owner [node]
  rw [membersOf_cons, Traced.outcome_bind, faultOf?_bind_ok (fun _ => rfl), ← sites,
    List.flatMap_singleton] at alone
  exact alone

theorem typeMembers_fault (owner : ClassName) (node : Node) :
    faultOf? (typeMembers source owner node).outcome =
      firstComplaint? ((typeBodyVisits source owner node).map Visit.node) := by
  rw [typeMembers, typeBodyVisits, map_node_firstVisits, Node.childByField?]
  cases node.children.find? (fun child => child.info.field == some bodyField) with
  | none =>
      rfl
  | some body =>
      simp only [membersOf_fault, map_node_visitsFrom, flatMap_map_node_memberVisits]

/-- The body of a type is followed if its nodes are. -/
theorem typeMembers_follows
    {node : Node}
    (members : ∀ owner body,
      node.childByField? bodyField = some body →
      Follows source (visitsFrom (memberVisits source owner) 0 body.children) postWalkMembers
        (membersOf source owner body.children))
    (owner : ClassName) :
    Follows source (typeBodyVisits source owner node) postWalkMembers
      (typeMembers source owner node) := by
  rw [typeMembers, typeBodyVisits]
  cases found : node.childByField? bodyField with
  | none =>
      rw [firstVisits_of_not_found found]
      exact .pure_nil rfl
  | some body =>
      obtain ⟨offset, -, visits⟩ := firstVisits_of_find?
        (fun body => visitsFrom (memberVisits source owner) 0 body.children) found 0
      rw [visits]
      exact (members owner body found).below _

/-- Once a type is named, its members are recorded, and then it is told of. -/
theorem outlineType_named
    {scope : Scope}
    {node : Node}
    {identifier : String}
    (recorded : node.kind ≠ annotationKind)
    (name : node.requiredName source = .ok identifier) :
    outlineType source scope node = do
      let children ← typeMembers source (scope.className identifier) node
      let declared := ClassDecl.mk (typeHead source scope node identifier) children
      .tell (extractedEvent node declared)
      return some declared := by
  rw [outlineType_recorded recorded, name]
  rfl

/-- A named type is told of after everything in it, if the walk comes to its end. -/
theorem outlineType_named_follows
    {scope : Scope}
    {node : Node}
    {body : List Visit}
    {identifier : String}
    (recorded : node.kind ≠ annotationKind)
    (name : node.requiredName source = .ok identifier)
    (named : node.isUnnamed = false)
    (members : Follows source body postWalkMembers
      (typeMembers source (scope.className identifier) node))
    (fault :
      faultOf? (typeMembers source (scope.className identifier) node).outcome =
        firstComplaint? (body.map Visit.node))
    (deeper : ∀ visit ∈ body, visit.position ≠ []) :
    Follows source (⟨[], some scope, node⟩ :: body)
      (fun declared? => declared?.toList.flatMap ClassDecl.postWalk)
      (outlineType source scope node) := by
  obtain ⟨inside, left, types, told, outlined⟩ := members
  have run : outlineType source scope node = _ := outlineType_named recorded name
  rw [firstComplaint?_map_node] at fault
  generalize typeMembers source (scope.className identifier) node = walk at *
  rcases walk with ⟨events, outcome⟩
  cases outcome with
  | error missing =>
      obtain ⟨unnamed, found, -⟩ := Option.map_eq_some_iff.mp fault.symm
      rw [run]
      exact .of_error inside (types.self_open named found) told
  | ok children =>
      have allNamed : body.find? Visit.isUnnamed = none :=
        Option.map_eq_none_iff.mp fault.symm
      let declared : ClassDecl := .mk (typeHead source scope node identifier) children
      have isOutlined : Visit.OutlinedAs source ⟨[], some scope, node⟩ declared :=
        ⟨scope, rfl, congrArg Traced.outcome run⟩
      rw [run]
      refine ⟨?_, left ++ [⟨[], some scope, node⟩], types.self_left named allNamed deeper, ?_, ?_⟩
      · have last : ∀ event ∈ [extractedEvent node declared], event.part ≠ "indexer" :=
          List.forall_mem_singleton.mpr (by decide : "type_declarations" ≠ "indexer")
        exact List.forall_mem_append.mpr ⟨inside, last⟩
      · change List.Forall₂ _ _
          ((events ++ [extractedEvent node declared]).filter Event.isExtracted)
        rw [List.filter_append]
        exact List.rel_append told (.cons ⟨declared, isOutlined, rfl⟩ .nil)
      · intro declared? ended
        cases ended
        rw [Option.toList_some, List.flatMap_singleton, ClassDecl.postWalk]
        exact List.rel_append (outlined children rfl) (.cons isOutlined .nil)

/-- The outline of a type follows the visits in it, if the walk through its body does. -/
theorem outlineType_follows
    {node : Node}
    (members : ∀ owner body,
      node.childByField? bodyField = some body →
      Follows source (visitsFrom (memberVisits source owner) 0 body.children) postWalkMembers
        (membersOf source owner body.children))
    (scope : Scope) :
    Follows source (typeVisits source scope node)
      (fun declared? => declared?.toList.flatMap ClassDecl.postWalk)
      (outlineType source scope node) := by
  by_cases skipped : node.kind = annotationKind
  · rw [outlineType_skipped skipped, typeVisits, if_pos skipped, Traced.bind_return]
    refine .of_noTypes (List.forall_mem_nil _) ?_ rfl ?_
    · exact List.forall_mem_singleton.mpr (by decide : "type_declarations" ≠ "indexer")
    · intro declared? ended
      cases ended
      rfl
  · rw [typeVisits, if_neg skipped]
    rcases requiredName_cases source node with ⟨unnamed, missing, noName⟩ | ⟨named, name⟩
    · rw [outlineType_recorded skipped, noName]
      exact .of_error (List.forall_mem_nil _) (.self_unnamed unnamed) .nil
    · exact outlineType_named_follows skipped name named
        (typeMembers_follows members _) (typeMembers_fault _ node)
        fun _ => position_ne_nil_of_mem_firstVisits

/-- The nodes of a body are followed one after the other. -/
theorem membersOf_cons_follows
    {owner : ClassName}
    {node : Node}
    {rest : List Node}
    {start : Nat}
    (first :
      Follows source (memberVisits source owner node) postWalkMembers
        (memberOf source owner node))
    (others :
      Follows source (visitsFrom (memberVisits source owner) (start + 1) rest) postWalkMembers
        (membersOf source owner rest)) :
    Follows source (visitsFrom (memberVisits source owner) start (node :: rest)) postWalkMembers
      (membersOf source owner (node :: rest)) := by
  rw [membersOf_cons, visitsFrom]
  refine (first.below start).append others ?_ ?_ ?_
  · rw [List.map_map]
    exact memberOf_fault owner node
  · exact fun early isEarly late isLate => leftBehind_visitsFrom isEarly isLate
  · intro early late
    simp only [postWalkMembers_eq, List.filterMap_append, List.flatMap_append]

/-- The walk through a body follows the visits in it. -/
theorem membersOf_follows (owner : ClassName) (start : Nat) (nodes : List Node) :
    Follows source (visitsFrom (memberVisits source owner) start nodes) postWalkMembers
      (membersOf source owner nodes) := by
  -- for every start: the nodes of an inner body are numbered anew, those of the rest go on
  induction nodes using bodyInduction generalizing owner start with
  | nil =>
      rw [membersOf_nil]
      exact .pure_nil rfl
  | passedOver node rest role inductionHypothesis =>
      refine membersOf_cons_follows ?_ (inductionHypothesis owner (start + 1))
      rw [memberVisits_passedOver role, memberOf_passedOver role]
      exact .pure_nil rfl
  | callable node rest role inductionHypothesis =>
      refine membersOf_cons_follows ?_ (inductionHypothesis owner (start + 1))
      rw [memberVisits_callable role, memberOf_callable role]
      exact .of_member (filterMap_typeNode?_callableVisits node) (methodOf_part owner node)
        fun _ => rfl
  | fields node rest role inductionHypothesis =>
      refine membersOf_cons_follows ?_ (inductionHypothesis owner (start + 1))
      rw [memberVisits_fields role, memberOf_fields role]
      refine .of_member (filterMap_typeNode?_declaratorVisits node) (List.forall_mem_nil _) ?_
      intro fields
      simp [postWalkMembers_eq, List.filterMap_map, Function.comp_def, Declaration.nested?]
  | constant node rest role inductionHypothesis =>
      refine membersOf_cons_follows ?_ (inductionHypothesis owner (start + 1))
      rw [memberVisits_constant role, memberOf_constant role]
      exact .of_member rfl (List.forall_mem_nil _) fun _ => rfl
  | bodyPart node rest role inPart inductionHypothesis =>
      refine membersOf_cons_follows ?_ (inductionHypothesis owner (start + 1))
      rw [memberVisits_bodyPart role, memberOf_bodyPart role]
      exact inPart owner 0
  | type node rest role inBody inductionHypothesis =>
      refine membersOf_cons_follows ?_ (inductionHypothesis owner (start + 1))
      rw [memberVisits_type role, memberOf_type role]
      refine (outlineType_follows (fun nested body found => inBody body found nested 0) _).map ?_
      intro nested?
      cases nested? with
      | none =>
          rfl
      | some declared =>
          simp [postWalkMembers_eq, Declaration.nested?]

/-- Types of a unit are followed one after the other. -/
theorem outlineTypes_follows (scope : Scope) (start : Nat) (nodes : List Node) :
    Follows source (visitsFrom (topLevelVisits source scope) start nodes)
      (fun classes => classes.flatMap ClassDecl.postWalk)
      (outlineTypes source scope nodes) := by
  induction nodes generalizing start with
  | nil =>
      exact .pure_nil rfl
  | cons node rest inductionHypothesis =>
      have others := inductionHypothesis (start + 1)
      by_cases type : node.info.isNamedOneOf typeDeclarationKinds = true
      · have visits : topLevelVisits source scope node = typeVisits source scope node :=
          if_pos type
        have kind : node.kind ∈ MemberRole.type.kinds :=
          List.contains_iff_mem.mp (Bool.and_eq_true_iff.mp type).2
        have first :
            Follows source (typeVisits source scope node) _ (outlineType source scope node) :=
          outlineType_follows (fun owner body _ => membersOf_follows owner 0 _) scope
        have fault :
            faultOf? (outlineType source scope node).outcome = firstComplaint? (typeSites node) :=
          outlineType_fault kind (fun owner body _ => membersOf_fault owner _) scope
        rw [outlineTypes_type type, visitsFrom, visits]
        refine (first.below start).append others ?_ ?_ (fun first? classes => List.flatMap_append)
        · rw [fault, List.map_map, ← map_node_typeVisits kind
            (fun owner body _ => flatMap_map_node_memberVisits owner body.children) scope]
          rfl
        · rw [← visits]
          exact fun early isEarly late isLate => leftBehind_visitsFrom isEarly isLate
      · have visits : topLevelVisits source scope node = [] := if_neg type
        rw [outlineTypes_passedOver (eq_false_of_ne_true type), visitsFrom, visits]
        exact others

/-- The outline of a unit follows the visits in it. -/
theorem outlineUnit_follows
    (source : Bytes)
    (root : Node)
    (file fallbackPackage : String) :
    Follows source (unitVisits source root file fallbackPackage)
      (fun classes => classes.flatMap ClassDecl.postWalk)
      (outlineUnit source root file fallbackPackage) :=
  outlineTypes_follows _ 0 root.children

theorem outlineUnit_fault
    (source : Bytes)
    (root : Node)
    (file fallbackPackage : String) :
    faultOf? (outlineUnit source root file fallbackPackage).outcome =
      ((unitVisits source root file fallbackPackage).find? Visit.isUnnamed).map
        (fun visit => visit.node.withoutName) := by
  rw [← firstComplaint?_map_node, map_node_unitVisits, outlineUnit, outlineTypes_fault]
  rfl

end Walk

end JavaOutline
