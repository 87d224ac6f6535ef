import JavaOutline.Text.Blank
import JavaOutline.Text.Utf8

namespace JavaOutline

open Text (Bytes)

/-!
# Concrete trees of Java sources

A parser hands over a tree whose nodes carry a kind, flags, the field under
which their parent holds them, and positions in the source. Nothing relates
these data: a tree may disagree with its source and its flags may contradict
each other, so everything below is defined for arbitrary trees.
-/

/-- A position, with row and column counted from zero. -/
structure Point where
  row : Int
  column : Int
  deriving Repr, DecidableEq, Inhabited

/-- Everything a node says about itself; its children apart. -/
structure NodeInfo where
  kind : String
  named : Bool
  missing : Bool
  hasError : Bool
  field : Option String
  start : Nat
  stop : Nat
  point : Point
  deriving Repr, DecidableEq, Inhabited

/-- The text between the offsets of a node. -/
def NodeInfo.text (source : Bytes) (info : NodeInfo) : String :=
  Text.decode (Text.slice source info.start info.stop)

/-- The text of a node without any blank. -/
def NodeInfo.compactText (source : Bytes) (info : NodeInfo) : String :=
  Text.compact (info.text source)

/-- The text of a node up to its first opening brace; all of it if there is none. -/
def NodeInfo.textBeforeBrace (source : Bytes) (info : NodeInfo) : String :=
  String.ofList ((info.text source).toList.takeWhile (fun character => character != '\x7b'))

/-- A node is named and of one of the given kinds. -/
def NodeInfo.isNamedOneOf (kinds : List String) (info : NodeInfo) : Bool :=
  info.named && kinds.contains info.kind

/-- A tree: the data of its root and the trees below it. -/
inductive Node where
  | mk (info : NodeInfo) (children : List Node)
  deriving Repr, Inhabited

namespace Node

/-- The data of the root. -/
def info : Node → NodeInfo
  | .mk info _ => info

/-- The trees directly below the root. -/
def children : Node → List Node
  | .mk _ children => children

@[simp] theorem info_mk (info : NodeInfo) (children : List Node) :
    (Node.mk info children).info = info :=
  rfl

@[simp] theorem children_mk (info : NodeInfo) (children : List Node) :
    (Node.mk info children).children = children :=
  rfl

/-- The kind of the root. -/
def kind (node : Node) : String :=
  node.info.kind

/-- The text of the root. -/
def text (source : Bytes) (node : Node) : String :=
  node.info.text source

/-- The text of the root without any blank. -/
def compactText (source : Bytes) (node : Node) : String :=
  node.info.compactText source

/-- The text of the root up to its first opening brace. -/
def textBeforeBrace (source : Bytes) (node : Node) : String :=
  node.info.textBeforeBrace source

/-- The named children. -/
def namedChildren (node : Node) : List Node :=
  node.children.filter (fun child => child.info.named)

/-- The named children of the given kinds. -/
def childrenOfKind (kinds : List String) (node : Node) : List Node :=
  node.children.filter (fun child => child.info.isNamedOneOf kinds)

/-- The first named child of one of the given kinds. -/
def childOfKind? (kinds : List String) (node : Node) : Option Node :=
  node.children.find? (fun child => child.info.isNamedOneOf kinds)

/-- The first child held under a field, named or not. -/
def childByField? (field : String) (node : Node) : Option Node :=
  node.children.find? (fun child => child.info.field == some field)

/-- All children held under a field, named or not. -/
def childrenByField (field : String) (node : Node) : List Node :=
  node.children.filter (fun child => child.info.field == some field)

/-- Follow child positions down from the root. -/
def descend? : List Nat → Node → Option Node
  | [], node => some node
  | position :: rest, node => (node.children[position]?).bind (descend? rest)

end Node

/-- A declaration lacks a part that it cannot be recorded without. -/
structure MissingPart where
  kind : String
  point : Point
  part : String
  deriving Repr, DecidableEq

/-- Names the declaration by its kind and its position, counted from one. -/
def MissingPart.message (missing : MissingPart) : String :=
  missing.kind ++ " at " ++ toString (missing.point.row + 1) ++ ":" ++
    toString (missing.point.column + 1) ++ " has no " ++ missing.part

/-- The first child held under a field that the node must have. -/
def Node.require (field : String) (node : Node) : Except MissingPart Node :=
  match node.childByField? field with
  | some child => .ok child
  | none => .error ⟨node.kind, node.info.point, field⟩

end JavaOutline
