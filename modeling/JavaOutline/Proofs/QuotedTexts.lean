import JavaOutline.Proofs.Decoding
import JavaOutline.Proofs.DeclarationNodes
import JavaOutline.Proofs.OverloadKey

namespace JavaOutline

open Text (Bytes)

/-!
# Outlines quote their source

A tree gives its texts by offsets into bytes, and a source is a text. Where the
offsets of a node are those of two places between characters, the text of the
node is what stands between these places in the source. If this is so throughout
a tree, every name, snippet and header of its outline stands in the source, word
for word.
-/

/-- The characters of a text from one place between characters up to another. -/
def excerptOf (text : String) (first last : Nat) : String :=
  String.ofList ((text.toList.take last).drop first)

/-- The number of bytes before a place between characters. -/
def byteOffset (text : String) (place : Nat) : Nat :=
  (Text.encode (excerptOf text 0 place)).length

/-- The offsets of all places between characters, both ends included. -/
def boundaries (text : String) : List Nat :=
  (List.range (text.length + 1)).map (byteOffset text)

/-- A node begins and ends between characters. -/
def OnBoundaries (text : String) (info : NodeInfo) : Prop :=
  info.start ∈ boundaries text ∧ info.stop ∈ boundaries text

instance (text : String) (info : NodeInfo) : Decidable (OnBoundaries text info) :=
  inferInstanceAs (Decidable (_ ∧ _))

/-- A text stands in another one, word for word. -/
def Quotes (text part : String) : Prop :=
  part.toList <:+: text.toList

section Slices

theorem encodeChars_split (characters : List Char) (place : Nat) :
    Text.encodeChars characters =
      Text.encodeChars (characters.take place) ++ Text.encodeChars (characters.drop place) := by
  have parts := List.take_append_drop place characters
  rw [Text.encodeChars, Text.encodeChars, Text.encodeChars, ← List.flatMap_append, parts]

theorem byteOffset_eq (text : String) (place : Nat) :
    byteOffset text place = (Text.encodeChars (text.toList.take place)).length := by
  rw [byteOffset, excerptOf, Text.encode, String.toList_ofList, List.drop_zero]

/-- The bytes before a place are those of the characters before it. -/
theorem take_encodeChars (characters : List Char) (place : Nat) :
    (Text.encodeChars characters).take (Text.encodeChars (characters.take place)).length =
      Text.encodeChars (characters.take place) := by
  conv =>
    lhs
    rw [encodeChars_split characters place]
  exact List.take_left

theorem drop_encodeChars (characters : List Char) (place : Nat) :
    (Text.encodeChars characters).drop (Text.encodeChars (characters.take place)).length =
      Text.encodeChars (characters.drop place) := by
  conv =>
    lhs
    rw [encodeChars_split characters place]
  exact List.drop_left

/-- Cutting the bytes at places between characters is cutting the characters there. -/
theorem slice_encodeChars (characters : List Char) (first last : Nat) :
    Text.slice (Text.encodeChars characters)
        (Text.encodeChars (characters.take first)).length
        (Text.encodeChars (characters.take last)).length =
      Text.encodeChars ((characters.take last).drop first) := by
  rw [Text.slice, take_encodeChars]
  rcases Nat.le_total first last with inOrder | reversed
  · have sameStart : characters.take first = (characters.take last).take first := by
      rw [List.take_take, Nat.min_eq_left inOrder]
    rw [sameStart, drop_encodeChars]
  · have nothing : (characters.take last).drop first = [] :=
      List.drop_eq_nil_of_le ((List.length_take_le last characters).trans reversed)
    have longer := encodeChars_split (characters.take first) last
    rw [List.take_take, Nat.min_eq_left reversed] at longer
    rw [nothing, longer, List.length_append]
    exact List.drop_eq_nil_of_le (Nat.le_add_right ..)

/-- The text of a node between two places is what stands there in the source. -/
theorem text_eq_excerptOf
    {text : String}
    {info : NodeInfo}
    {first last : Nat}
    (starts : info.start = byteOffset text first)
    (stops : info.stop = byteOffset text last) :
    info.text (Text.encode text) = excerptOf text first last := by
  rw [NodeInfo.text, starts, stops, byteOffset_eq, byteOffset_eq, Text.encode,
    slice_encodeChars, Text.decode, Text.decodeChars_encodeChars, excerptOf]

theorem quotes_excerptOf (text : String) (first last : Nat) :
    Quotes text (excerptOf text first last) := by
  rw [Quotes, excerptOf, String.toList_ofList]
  exact (List.drop_suffix first _).isInfix.trans (List.take_prefix last _).isInfix

theorem quotes_text_of_onBoundaries
    {text : String}
    {info : NodeInfo}
    (onBoundaries : OnBoundaries text info) :
    Quotes text (info.text (Text.encode text)) := by
  obtain ⟨first, -, starts⟩ := List.mem_map.mp onBoundaries.1
  obtain ⟨last, -, stops⟩ := List.mem_map.mp onBoundaries.2
  rw [text_eq_excerptOf starts.symm stops.symm]
  exact quotes_excerptOf text first last

end Slices

/-- The texts that a method takes over stand in the source. -/
structure MethodDecl.QuotedFrom (method : MethodDecl) (text : String) : Prop where
  name : Quotes text method.name.name
  snippet : Quotes text method.snippet.text
  arguments : ∀ argument ∈ method.arguments, Quotes text argument.name

/-- The texts that a field takes over stand in the source. -/
structure FieldDecl.QuotedFrom (field : FieldDecl) (text : String) : Prop where
  name : Quotes text field.name.name
  snippet : Quotes text field.snippet.text

/-- The texts that a class and its own methods and fields take over stand in the source. -/
structure ClassDecl.QuotedFrom (declared : ClassDecl) (text : String) : Prop where
  name : Quotes text declared.name.identifier
  header : Quotes text declared.head.header.text
  methods : ∀ method, .method method ∈ declared.children → method.QuotedFrom text
  fields : ∀ field, .field field ∈ declared.children → field.QuotedFrom text

/-- The texts of all nodes of a tree stand in the source. -/
def Node.QuotesThroughout (node : Node) (source : Bytes) (text : String) : Prop :=
  ∀ below ∈ node.subtrees, Quotes text (below.text source)

theorem quotes_empty (text : String) :
    Quotes text "" :=
  List.nil_infix

section Records

variable {source : Bytes} {text : String} {node : Node}

theorem Node.QuotesThroughout.below
    {inner : Node}
    (quoted : node.QuotesThroughout source text)
    (isBelow : inner ∈ node.subtrees) :
    inner.QuotesThroughout source text :=
  fun _ further => quoted _ (Node.mem_subtrees_trans further isBelow)

theorem Node.QuotesThroughout.child
    {child : Node}
    (quoted : node.QuotesThroughout source text)
    (isChild : child ∈ node.children) :
    child.QuotesThroughout source text :=
  quoted.below (Node.mem_subtrees_of_child isChild child.mem_subtrees_self)

theorem Node.QuotesThroughout.own
    (quoted : node.QuotesThroughout source text) :
    Quotes text (node.text source) :=
  quoted node node.mem_subtrees_self

theorem requiredName_quotes
    {name : String}
    (quoted : node.QuotesThroughout source text)
    (read : node.requiredName source = .ok name) :
    Quotes text name := by
  obtain ⟨child, found, rfl⟩ := requiredName_eq_ok read
  exact (quoted.child (List.mem_of_find?_eq_some found)).own

theorem formalArgument_quotes
    {argument : Argument}
    (quoted : node.QuotesThroughout source text)
    (read : formalArgument source node = .ok argument) :
    Quotes text argument.name := by
  obtain ⟨name, named, rfl⟩ := map_eq_ok_iff.mp read
  exact requiredName_quotes quoted named

/-- A variable-arity parameter without a declarator has no name, and is still read. -/
theorem spreadArgument_unnamed
    (noDeclarator : node.spreadDeclarator? = none) :
    (spreadArgument source node).map Argument.name = .ok "" := by
  rw [spreadArgument, noDeclarator]
  rfl

theorem spreadArgument_quotes
    {argument : Argument}
    (quoted : node.QuotesThroughout source text)
    (read : spreadArgument source node = .ok argument) :
    Quotes text argument.name := by
  cases found : node.spreadDeclarator? with
  | none =>
      have unnamed := @spreadArgument_unnamed source node found
      rw [read] at unnamed
      cases argument
      cases unnamed
      exact quotes_empty text
  | some declarator =>
      rw [spreadArgument, found] at read
      obtain ⟨name, named, rfl⟩ := map_eq_ok_iff.mp read
      exact requiredName_quotes (quoted.child (List.mem_of_find?_eq_some found)) named

theorem argumentsOf_quotes
    {parameters? : Option Node}
    {arguments : List Argument}
    (quoted : ∀ parameters, parameters? = some parameters →
      parameters.QuotesThroughout source text)
    (read : argumentsOf source parameters? = .ok arguments) :
    ∀ argument ∈ arguments, Quotes text argument.name := by
  cases parameters? with
  | none =>
      cases read
      exact List.forall_mem_nil _
  | some parameters =>
      have each := quoted parameters rfl
      refine readArguments_forall ?_ ?_ read
      · intro parameter isParameter _ _ argument
        exact formalArgument_quotes (each.child isParameter)
      · intro parameter isParameter _ _ argument
        exact spreadArgument_quotes (each.child isParameter)

theorem methodOf_quotedFrom
    {owner : ClassName}
    {method : MethodDecl}
    (quoted : node.QuotesThroughout source text)
    (ended : (methodOf source owner node).outcome = .ok method) :
    method.QuotedFrom text := by
  rw [methodOf_outcome] at ended
  obtain ⟨name, named, afterName⟩ := bind_eq_ok_iff.mp ended
  obtain ⟨arguments, read, same⟩ := bind_eq_ok_iff.mp afterName
  cases same
  refine ⟨requiredName_quotes quoted named, quoted.own, ?_⟩
  refine argumentsOf_quotes ?_ read
  intro parameters found
  exact quoted.child (List.mem_of_find?_eq_some found)

/-- A field takes over the name of its declarator and the text of its declaration. -/
theorem DeclaresField.quotedFrom
    {owner : ClassName}
    {declarator : Node}
    {field : FieldDecl}
    (quoted : node.QuotesThroughout source text)
    (isDeclarator : declarator ∈ node.childrenByField "declarator")
    (declares : DeclaresField source owner node declarator field) :
    field.QuotedFrom text := by
  obtain ⟨name, named, rfl⟩ := declares
  have inNode := quoted.child (List.mem_of_mem_filter isDeclarator)
  exact ⟨requiredName_quotes inNode named, quoted.own⟩

theorem constantOf_quotedFrom
    {owner : ClassName}
    {field : FieldDecl}
    (quoted : node.QuotesThroughout source text)
    (ended : constantOf source owner node = .ok field) :
    field.QuotedFrom text := by
  obtain ⟨name, named, rfl⟩ := map_eq_ok_iff.mp ended
  exact ⟨requiredName_quotes quoted named, quoted.own⟩

theorem Recorded.quotedFrom
    {owner : ClassName}
    {records : List Declaration}
    (quoted : node.QuotesThroughout source text)
    (recorded : Recorded source owner node records) :
    (∀ method, .method method ∈ records → method.QuotedFrom text) ∧
      ∀ field, .field field ∈ records → field.QuotedFrom text := by
  cases recorded with
  | method kind read =>
      have own := methodOf_quotedFrom quoted read
      simp [own]
  | fields kind each =>
      refine ⟨by simp, ?_⟩
      intro field present
      obtain ⟨other, inFields, same⟩ := List.mem_map.mp present
      cases same
      obtain ⟨declarator, isDeclarator, declares⟩ := exists_related_of_mem each inFields
      exact declares.quotedFrom quoted isDeclarator
  | constant kind read =>
      have own := constantOf_quotedFrom quoted read
      simp [own]
  | nested kind read =>
      simp
  | skipped kind =>
      simp

theorem headerOf_quotes
    (quoted : node.QuotesThroughout source text) :
    Quotes text (headerOf source node) := by
  rw [headerOf]
  split
  · exact quotes_empty text
  · rw [Quotes, Node.textBeforeBrace, NodeInfo.textBeforeBrace, String.toList_ofList]
    exact (List.takeWhile_prefix _).isInfix.trans quoted.own

/-- A class takes over nothing but texts of nodes at and below its own. -/
theorem OutlineOf.quotedFrom
    {declared : ClassDecl}
    (quoted : node.QuotesThroughout source text)
    (outlined : OutlineOf source node declared) :
    declared.QuotedFrom text := by
  have records : ∀ {declaration}, declaration ∈ declared.children →
      ∃ member ∈ node.members, ∃ records,
        Recorded source declared.name member records ∧ declaration ∈ records :=
    fun present => outlined.recordedInOrder.exists_member present
  refine ⟨requiredName_quotes quoted outlined.requiredName, ?_, ?_, ?_⟩
  · rw [outlined.header]
    exact headerOf_quotes quoted
  · intro method present
    obtain ⟨member, isMember, group, recorded, inGroup⟩ := records present
    have inNode := quoted.below (Node.mem_subtrees_of_mem_members isMember)
    exact (recorded.quotedFrom inNode).1 method inGroup
  · intro field present
    obtain ⟨member, isMember, group, recorded, inGroup⟩ := records present
    have inNode := quoted.below (Node.mem_subtrees_of_mem_members isMember)
    exact (recorded.quotedFrom inNode).2 field inGroup

end Records

/--
A node between two places of a source has the text that stands there. So if all
nodes of a tree begin and end between characters, whatever the outline takes over
stands in the source word for word, for every class at every depth. Two texts are
empty: the header of an enum, and the name of a variable-arity parameter that has
no declarator.
-/
theorem outlineUnit_quotes_source
    (text : String) :
    (∀ (info : NodeInfo) (first last : Nat),
      info.start = byteOffset text first →
      info.stop = byteOffset text last →
      info.text (Text.encode text) = excerptOf text first last) ∧
    (∀ (root : Node) (file fallbackPackage : String) (classes : List ClassDecl),
      (∀ node ∈ root.subtrees, OnBoundaries text node.info) →
      (outlineUnit (Text.encode text) root file fallbackPackage).outcome = .ok classes →
      ∀ declared ∈ classes.flatMap ClassDecl.walk,
        declared.QuotedFrom text ∧
          ∃ node ∈ unitTypes root,
            OutlineOf (Text.encode text) node declared ∧
              (node.kind = "enum_declaration" → declared.head.header.text = "")) ∧
    ∀ parameter : Node,
      parameter.spreadDeclarator? = none →
      (spreadArgument (Text.encode text) parameter).map Argument.name = .ok "" := by
  refine ⟨fun info first last => text_eq_excerptOf, ?_, fun parameter => spreadArgument_unnamed⟩
  intro root file fallbackPackage classes onBoundaries ended declared present
  obtain ⟨node, isDeclared, outlined⟩ :=
    exists_related_of_mem (outlineUnit_forall₂ ended) present
  have quoted : root.QuotesThroughout (Text.encode text) text :=
    fun below isBelow => quotes_text_of_onBoundaries (onBoundaries below isBelow)
  have inRoot := quoted.below (mem_subtrees_of_mem_unitTypes isDeclared)
  refine ⟨outlined.quotedFrom inRoot, node, isDeclared, outlined, ?_⟩
  intro isEnum
  rw [outlined.header]
  exact if_pos isEnum

section WideCharacters

/-- A method whose names need two, three and four bytes for a character. -/
def wideText : String :=
  "class Ä\x7bint ß(€ 𝑥)\x7b\x7d\x7d"

def wideUnit : Node :=
  spanNode "program" none 0 28 [
    spanNode "class_declaration" none 0 28 [
      spanNode "identifier" (some "name") 6 8 [],
      spanNode "class_body" (some "body") 8 28 [
        spanNode "method_declaration" none 9 27 [
          spanNode "integral_type" (some "type") 9 12 [],
          spanNode "identifier" (some "name") 13 15 [],
          spanNode "formal_parameters" (some "parameters") 15 25 [
            spanNode "formal_parameter" none 16 24 [
              spanNode "type_identifier" (some "type") 16 19 [],
              spanNode "identifier" (some "name") 20 24 []]],
          spanNode "block" (some "body") 25 27 []]]]]

/-- The class and its method are quoted with all their characters. -/
theorem outlineUnit_quotes_wideText :
    (∀ node ∈ wideUnit.subtrees, OnBoundaries wideText node.info) ∧
      ∃ declared : ClassDecl,
        (outlineUnit (Text.encode wideText) wideUnit "Ä.java" "").outcome = .ok [declared] ∧
          (declared.name.identifier, declared.head.header.text) = ("Ä", "class Ä") ∧
          declared.methods.map (fun method => (method.name.name, method.snippet.text)) =
            [("ß", "int ß(€ 𝑥)\x7b\x7d")] ∧
          declared.QuotedFrom wideText := by
  have onBoundaries : ∀ node ∈ wideUnit.subtrees, OnBoundaries wideText node.info := by
    decide +kernel
  have ends :
      (outlineUnit (Text.encode wideText) wideUnit "Ä.java" "").outcome.map
          (List.map fun declared =>
            ((declared.name.identifier, declared.head.header.text),
              declared.methods.map fun method => (method.name.name, method.snippet.text))) =
        .ok [(("Ä", "class Ä"), [("ß", "int ß(€ 𝑥)\x7b\x7d")])] := by
    decide +kernel
  obtain ⟨classes, ended, texts⟩ := map_eq_ok_iff.mp ends
  obtain ⟨declared, rfl, quoted⟩ := List.map_eq_singleton_iff.mp texts
  obtain ⟨ofClass, ofMethods⟩ := Prod.mk.inj quoted
  have visited : declared ∈ [declared].flatMap ClassDecl.walk := by
    rw [List.flatMap_singleton, ClassDecl.walk_eq]
    exact List.mem_cons_self
  exact ⟨onBoundaries, declared, ended, ofClass, ofMethods,
    ((outlineUnit_quotes_source wideText).2.1 wideUnit "Ä.java" "" [declared] onBoundaries
      ended declared visited).1⟩

end WideCharacters

end JavaOutline
