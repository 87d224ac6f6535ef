import Mathlib.Data.List.Nodup
import JavaOutline.Proofs.Grafting
import JavaOutline.Proofs.Ownership

namespace JavaOutline

open Text (Bytes)

/-!
# Names of classes in one file

A class is told from all others of its file by its chain of identifiers: two
classes have different chains because they part ways at some scope, where their
identifiers differ. The short name joins the chain by `$`, so it can be taken
apart again if no identifier contains that character, and the qualified name
adds to it what is the same for the whole file.
-/

namespace ClassName

theorem identifiers_ne_nil (name : ClassName) :
    name.identifiers ≠ [] := by
  cases name with
  | topLevel origin identifier =>
      exact List.cons_ne_nil identifier []
  | nested parent identifier =>
      exact List.append_ne_nil_of_right_ne_nil _ (List.cons_ne_nil identifier [])

theorem identifiers_of_topLevel
    {name : ClassName}
    (top : name.parent? = none) :
    name.identifiers = [] ++ [name.identifier] := by
  cases name with
  | topLevel origin identifier =>
      rfl
  | nested parent identifier =>
      cases top

theorem identifiers_of_parent
    {name outer : ClassName}
    (parent : name.parent? = some outer) :
    name.identifiers = outer.identifiers ++ [name.identifier] := by
  cases name with
  | topLevel origin identifier =>
      cases parent
  | nested around identifier =>
      cases parent
      rfl

/-- A nested class has a longer chain than any top-level one. -/
theorem identifiers_nested_ne (outer : ClassName) (identifier other : String) :
    outer.identifiers ++ [identifier] ≠ [other] := by
  intro same
  have lengths := congrArg List.length same
  have notEmpty := List.length_pos_of_ne_nil outer.identifiers_ne_nil
  simp only [List.length_append, List.length_singleton] at lengths
  omega

/-- A class is given by its chain of identifiers and the origin of its outermost class. -/
theorem eq_of_identifiers
    {first second : ClassName}
    (origin : first.origin = second.origin)
    (same : first.identifiers = second.identifiers) :
    first = second := by
  induction first generalizing second with
  | topLevel firstOrigin identifier =>
      cases second with
      | topLevel secondOrigin other =>
          cases origin
          cases same
          rfl
      | nested outer other =>
          exact (identifiers_nested_ne outer other identifier same.symm).elim
  | nested outer identifier inductionHypothesis =>
      cases second with
      | topLevel secondOrigin other =>
          exact (identifiers_nested_ne outer identifier other same).elim
      | nested otherOuter other =>
          obtain ⟨sameOuter, sameLast⟩ := List.append_inj' same rfl
          have outerSame : outer = otherOuter := inductionHypothesis origin sameOuter
          have lastSame : identifier = other := List.singleton_inj.mp sameLast
          rw [outerSame, lastSame]

/-- A short name joins the chain of identifiers. -/
theorem shortName_eq_intercalate (name : ClassName) :
    name.shortName = "$".intercalate name.identifiers := by
  induction name with
  | topLevel origin identifier =>
      rw [shortName, identifiers, String.intercalate_singleton]
  | nested outer identifier inductionHypothesis =>
      rw [shortName, identifiers, inductionHypothesis,
        String.intercalate_append_of_ne_nil outer.identifiers_ne_nil
          (List.cons_ne_nil identifier []),
        String.intercalate_singleton]

/-- No identifier of a class or of those around it contains the delimiter. -/
def Undelimited (name : ClassName) : Prop :=
  ∀ identifier ∈ name.identifiers, '$' ∉ identifier.toList

/-- Without delimiters in it, the chain is read back from the short name. -/
theorem Undelimited.split_shortName
    {name : ClassName}
    (undelimited : name.Undelimited) :
    name.shortName.toList.splitOn '$' = name.identifiers.map String.toList := by
  have joined :
      name.shortName.toList = ['$'].intercalate (name.identifiers.map String.toList) := by
    rw [shortName_eq_intercalate, String.toList_intercalate]
    rfl
  have free : ∀ part ∈ name.identifiers.map String.toList, '$' ∉ part := by
    intro part present
    obtain ⟨identifier, inChain, rfl⟩ := List.mem_map.mp present
    exact undelimited identifier inChain
  have notEmpty : name.identifiers.map String.toList ≠ [] := by
    simpa using name.identifiers_ne_nil
  rw [joined, List.splitOn_intercalate '$' free notEmpty]

theorem Undelimited.identifiers_eq
    {first second : ClassName}
    (firstUndelimited : first.Undelimited)
    (secondUndelimited : second.Undelimited)
    (same : first.shortName = second.shortName) :
    first.identifiers = second.identifiers := by
  have sameParts :
      first.identifiers.map String.toList = second.identifiers.map String.toList := by
    rw [← firstUndelimited.split_shortName, ← secondUndelimited.split_shortName, same]
  exact List.map_injective_iff.mpr (fun _ _ => String.toList_inj.mp) sameParts

/-- In one file the short name decides, whatever the identifiers are. -/
theorem qualifiedName_eq_iff
    {first second : ClassName}
    (origin : first.origin = second.origin) :
    first.qualifiedName = second.qualifiedName ↔ first.shortName = second.shortName := by
  rw [qualifiedName, qualifiedName, origin]
  constructor
  · intro same
    exact String.append_right_inj _ |>.mp same
  · intro same
    rw [same]

end ClassName

namespace ClassDecl

/-- The chain of identifiers of a class. -/
def chain (declared : ClassDecl) : List String :=
  declared.name.identifiers

/-- Throughout a class, nested classes are named below the classes around them. -/
def NamesNest (top : ClassDecl) : Prop :=
  ∀ outer inner,
    top.Encloses outer →
    .nested inner ∈ outer.children →
    inner.name.parent? = some outer.name

variable {top middle declared : ClassDecl}

theorem NamesNest.nested
    (nest : top.NamesNest)
    (present : .nested middle ∈ top.children) :
    middle.NamesNest := by
  intro outer inner encloses
  exact nest outer inner (.deeper present encloses)

theorem NamesNest.chain_nested
    (nest : top.NamesNest)
    (present : .nested middle ∈ top.children) :
    middle.chain = top.chain ++ [middle.name.identifier] :=
  ClassName.identifiers_of_parent (nest top middle (.self top) present)

/-- The chain of a class begins with that of every class around it. -/
theorem NamesNest.chain_begins
    (nest : top.NamesNest)
    (encloses : top.Encloses declared) :
    top.chain <+: declared.chain := by
  induction encloses with
  | self =>
      exact List.prefix_rfl
  | deeper present encloses inductionHypothesis =>
      have step := nest.chain_nested present
      have further := inductionHypothesis (nest.nested present)
      rw [step] at further
      exact (List.prefix_append _ _).trans further

/-- If no class has a delimiter in its own identifier, none has one in its chain. -/
theorem NamesNest.undelimited
    (nest : top.NamesNest)
    (own : ∀ inner, top.Encloses inner → '$' ∉ inner.name.identifier.toList)
    (above : top.name.Undelimited)
    (encloses : top.Encloses declared) :
    declared.name.Undelimited := by
  induction encloses with
  | self =>
      exact above
  | @deeper outer middle inner present encloses inductionHypothesis =>
      refine inductionHypothesis (nest.nested present) ?_ ?_
      · intro inner enclosed
        exact own inner (.deeper present enclosed)
      · intro identifier inChain
        rw [show middle.name.identifiers = _ from nest.chain_nested present] at inChain
        rcases List.mem_append.mp inChain with inOuter | isLast
        · exact above identifier inOuter
        · rw [List.mem_singleton.mp isLast]
          exact own middle (.deeper present (.self middle))

/--
Classes that stand side by side have no chain in common, nor have the classes in
them, if their own identifiers differ.
-/
theorem chains_nodup_of_siblings
    {siblings : List ClassDecl}
    (above : List String)
    (nest : ∀ sibling ∈ siblings, sibling.NamesNest)
    (chains : ∀ sibling ∈ siblings, sibling.chain = above ++ [sibling.name.identifier])
    (inside : ∀ sibling ∈ siblings, (sibling.walk.map chain).Nodup)
    (distinct : (siblings.map fun sibling => sibling.name.identifier).Nodup) :
    ((siblings.flatMap walk).map chain).Nodup := by
  rw [List.map_flatMap, List.nodup_flatMap]
  refine ⟨inside, ?_⟩
  rw [List.Nodup, List.pairwise_map] at distinct
  refine distinct.imp_of_mem ?_
  intro first second firstPresent secondPresent different shared inFirst inSecond
  obtain ⟨firstInner, firstVisited, firstChain⟩ := List.mem_map.mp inFirst
  obtain ⟨secondInner, secondVisited, secondChain⟩ := List.mem_map.mp inSecond
  -- both siblings have chains of one length that begin the shared one
  have firstPrefix := (nest first firstPresent).chain_begins (mem_walk_iff.mp firstVisited)
  have secondPrefix := (nest second secondPresent).chain_begins (mem_walk_iff.mp secondVisited)
  rw [firstChain, chains first firstPresent] at firstPrefix
  rw [secondChain, chains second secondPresent] at secondPrefix
  have sameLength :
      (above ++ [first.name.identifier]).length = (above ++ [second.name.identifier]).length := by
    simp only [List.length_append, List.length_singleton]
  have samePrefix :=
    (List.prefix_of_prefix_length_le firstPrefix secondPrefix
      (Nat.le_of_eq sameLength)).eq_of_length sameLength
  exact different (List.singleton_inj.mp (List.append_cancel_left samePrefix))

/-- No chain is met twice in a walk, if nested classes side by side differ. -/
theorem chains_nodup
    (nest : top.NamesNest)
    (distinct : ∀ outer, top.Encloses outer →
      (outer.innerClasses.map fun inner => inner.name.identifier).Nodup) :
    (top.walk.map chain).Nodup := by
  induction top using innerInduction with
  | step top inductionHypothesis =>
      have inner :
          ((top.innerClasses.flatMap walk).map chain).Nodup := by
        refine chains_nodup_of_siblings top.chain ?_ ?_ ?_ (distinct top (.self top))
        · intro sibling present
          exact nest.nested (mem_innerClasses.mp present)
        · intro sibling present
          exact nest.chain_nested (mem_innerClasses.mp present)
        · intro sibling present
          have isMember := mem_innerClasses.mp present
          refine inductionHypothesis sibling isMember (nest.nested isMember) ?_
          intro outer enclosed
          exact distinct outer (.deeper isMember enclosed)
      have fresh : top.chain ∉ (top.innerClasses.flatMap walk).map chain := by
        intro visited
        obtain ⟨declared, inInner, sameChain⟩ := List.mem_map.mp visited
        obtain ⟨sibling, present, further⟩ := List.mem_flatMap.mp inInner
        have isMember := mem_innerClasses.mp present
        have longer :=
          ((nest.nested isMember).chain_begins (mem_walk_iff.mp further)).length_le
        rw [nest.chain_nested isMember, sameChain, List.length_append] at longer
        exact Nat.not_succ_le_self _ longer
      rw [walk_eq, List.map_cons]
      exact List.nodup_cons.mpr ⟨fresh, inner⟩

end ClassDecl

section Units

variable {source : Bytes} {origin : Origin} {top : ClassDecl}

theorem OutlinedIn.namesNest
    (outlined : OutlinedIn source (.file origin) top) :
    top.NamesNest := by
  intro outer inner encloses present
  exact ((outlined.placedIn encloses).members.nested inner present).parent

theorem OutlinedIn.chain_eq
    (outlined : OutlinedIn source (.file origin) top) :
    top.chain = [] ++ [top.name.identifier] := by
  have placed := outlined.placedIn (.self top)
  exact ClassName.identifiers_of_topLevel (placed.topLevel.mpr rfl)

variable
  {classes : List ClassDecl}
  (outlined : ∀ top ∈ classes, OutlinedIn source (.file origin) top)

include outlined

theorem origin_of_visited
    {declared : ClassDecl}
    (visited : declared ∈ classes.flatMap ClassDecl.walk) :
    declared.name.origin = origin := by
  obtain ⟨top, present, inWalk⟩ := List.mem_flatMap.mp visited
  exact ((outlined top present).placedIn (ClassDecl.mem_walk_iff.mp inWalk)).origin

theorem undelimited_of_visited
    (own : ∀ declared ∈ classes.flatMap ClassDecl.walk,
      '$' ∉ declared.name.identifier.toList)
    {declared : ClassDecl}
    (visited : declared ∈ classes.flatMap ClassDecl.walk) :
    declared.name.Undelimited := by
  obtain ⟨top, present, inWalk⟩ := List.mem_flatMap.mp visited
  have ownInside : ∀ inner, top.Encloses inner → '$' ∉ inner.name.identifier.toList := by
    intro inner encloses
    exact own inner (List.mem_flatMap.mpr ⟨top, present, ClassDecl.mem_walk_iff.mpr encloses⟩)
  have topUndelimited : top.name.Undelimited := by
    intro identifier inChain
    have isOwn : identifier ∈ [top.name.identifier] := by
      rw [← List.nil_append [_], ← (outlined top present).chain_eq]
      exact inChain
    rw [List.mem_singleton.mp isOwn]
    exact ownInside top (.self top)
  exact (outlined top present).namesNest.undelimited ownInside topUndelimited
    (ClassDecl.mem_walk_iff.mp inWalk)

theorem chains_nodup_of_outlined
    (distinctTop : (classes.map fun top => top.name.identifier).Nodup)
    (distinctInner : ∀ declared ∈ classes.flatMap ClassDecl.walk,
      (declared.innerClasses.map fun inner => inner.name.identifier).Nodup) :
    ((classes.flatMap ClassDecl.walk).map ClassDecl.chain).Nodup := by
  refine ClassDecl.chains_nodup_of_siblings [] ?_ ?_ ?_ distinctTop
  · intro top present
    exact (outlined top present).namesNest
  · intro top present
    exact (outlined top present).chain_eq
  · intro top present
    refine ClassDecl.chains_nodup (outlined top present).namesNest ?_
    intro outer encloses
    exact distinctInner outer
      (List.mem_flatMap.mpr ⟨top, present, ClassDecl.mem_walk_iff.mpr encloses⟩)

end Units

/--
If no identifier contains the delimiter, and types side by side are called
differently, then all classes of a unit have different qualified names, and
their short names tell them apart as well as their structured names do.
-/
theorem outlineUnit_qualifiedNames_nodup
    {source : Bytes}
    {root : Node}
    {file fallbackPackage : String}
    {classes : List ClassDecl}
    (ended : (outlineUnit source root file fallbackPackage).outcome = .ok classes)
    (undelimited : ∀ declared ∈ classes.flatMap ClassDecl.walk,
      '$' ∉ declared.name.identifier.toList)
    (distinctTop : (classes.map fun top => top.name.identifier).Nodup)
    (distinctInner : ∀ declared ∈ classes.flatMap ClassDecl.walk,
      (declared.innerClasses.map fun inner => inner.name.identifier).Nodup) :
    ((classes.flatMap ClassDecl.walk).map fun declared =>
        declared.name.qualifiedName).Nodup ∧
      ∀ first ∈ classes.flatMap ClassDecl.walk,
        ∀ second ∈ classes.flatMap ClassDecl.walk,
          (first.name.qualifiedName = second.name.qualifiedName ↔
              first.name.shortName = second.name.shortName) ∧
            (first.name.shortName = second.name.shortName ↔ first.name = second.name) := by
  have outlined := fun top (present : top ∈ classes) =>
    outlinedIn_of_mem_outlineTypes ended present
  have sameOrigin : ∀ first ∈ classes.flatMap ClassDecl.walk,
      ∀ second ∈ classes.flatMap ClassDecl.walk,
        first.name.origin = second.name.origin := by
    intro first firstVisited second secondVisited
    rw [origin_of_visited outlined firstVisited, origin_of_visited outlined secondVisited]
  have sameChain : ∀ first ∈ classes.flatMap ClassDecl.walk,
      ∀ second ∈ classes.flatMap ClassDecl.walk,
        first.name.shortName = second.name.shortName → first.chain = second.chain := by
    intro first firstVisited second secondVisited
    exact (undelimited_of_visited outlined undelimited firstVisited).identifiers_eq
      (undelimited_of_visited outlined undelimited secondVisited)
  constructor
  · have chains := chains_nodup_of_outlined outlined distinctTop distinctInner
    rw [List.Nodup, List.pairwise_map] at chains ⊢
    refine chains.imp_of_mem ?_
    intro first second firstVisited secondVisited different sameName
    have origin := sameOrigin first firstVisited second secondVisited
    have shortSame := (ClassName.qualifiedName_eq_iff origin).mp sameName
    exact different (sameChain first firstVisited second secondVisited shortSame)
  · intro first firstVisited second secondVisited
    have origin := sameOrigin first firstVisited second secondVisited
    refine ⟨ClassName.qualifiedName_eq_iff origin, ?_, fun same => by rw [same]⟩
    intro shortSame
    exact ClassName.eq_of_identifiers origin
      (sameChain first firstVisited second secondVisited shortSame)

/-- Classes of one name in several scopes. -/
def repeatedText : String :=
  "class A \x7b class X \x7b\x7d \x7d " ++
    "class B \x7b class X \x7b\x7d class Y \x7b class X \x7b\x7d \x7d \x7d"

def repeatedUnit : Node :=
  spanNode "program" none 0 68 [
    spanNode "class_declaration" none 0 22 [
      spanNode "identifier" (some "name") 6 7 [],
      spanNode "class_body" (some "body") 8 22 [
        spanNode "class_declaration" none 10 20 [
          spanNode "identifier" (some "name") 16 17 [],
          spanNode "class_body" (some "body") 18 20 []]]],
    spanNode "class_declaration" none 23 68 [
      spanNode "identifier" (some "name") 29 30 [],
      spanNode "class_body" (some "body") 31 68 [
        spanNode "class_declaration" none 33 43 [
          spanNode "identifier" (some "name") 39 40 [],
          spanNode "class_body" (some "body") 41 43 []],
        spanNode "class_declaration" none 44 66 [
          spanNode "identifier" (some "name") 50 51 [],
          spanNode "class_body" (some "body") 52 66 [
            spanNode "class_declaration" none 54 64 [
              spanNode "identifier" (some "name") 60 61 [],
              spanNode "class_body" (some "body") 62 64 []]]]]]]

/-- The three classes called `X` have three qualified names. -/
theorem repeatedUnit_qualifiedNames_nodup :
    ∃ classes,
      (outlineUnit (Text.encode repeatedText) repeatedUnit "A.java" "p").outcome =
          .ok classes ∧
        ((classes.flatMap ClassDecl.walk).map fun declared => declared.name.qualifiedName) =
          ["p/A.java#A", "p/A.java#A$X", "p/A.java#B", "p/A.java#B$X", "p/A.java#B$Y",
            "p/A.java#B$Y$X"] ∧
        ((classes.flatMap ClassDecl.walk).map fun declared =>
          declared.name.qualifiedName).Nodup ∧
        ∀ first ∈ classes.flatMap ClassDecl.walk,
          ∀ second ∈ classes.flatMap ClassDecl.walk,
            (first.name.qualifiedName = second.name.qualifiedName ↔
                first.name.shortName = second.name.shortName) ∧
              (first.name.shortName = second.name.shortName ↔ first.name = second.name) := by
  have ended :
      (outlineUnit (Text.encode repeatedText) repeatedUnit "A.java" "p").outcome = .ok _ :=
    rfl
  exact ⟨_, ended, rfl, outlineUnit_qualifiedNames_nodup ended (by decide +kernel)
    (by decide +kernel) (by decide +kernel)⟩

end JavaOutline
