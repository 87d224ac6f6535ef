import JavaOutline.Node
import JavaOutline.TypeName

namespace JavaOutline

open Text (Bytes)

/-!
# Types written in a source

A type node is resolved to a `TypeName`. Type arguments are folded into the
identifier, array dimensions and annotations are dropped, and whatever is
absent or not a type resolves to void.
-/

/-- The ways in which a node can stand for a type. -/
inductive TypeShape where
  | primitive
  | name
  | generic
  | array
  | annotated
  deriving Repr, DecidableEq

/-- The shape of type that a kind of node stands for. -/
def typeShape? (kind : String) : Option TypeShape :=
  match kind with
  | "integral_type" => some .primitive
  | "floating_point_type" => some .primitive
  | "boolean_type" => some .primitive
  | "void_type" => some .primitive
  | "type_identifier" => some .name
  | "scoped_type_identifier" => some .name
  | "generic_type" => some .generic
  | "array_type" => some .array
  | "annotated_type" => some .annotated
  | _ => none

/-- A node is named and stands for a type. -/
def NodeInfo.isType (info : NodeInfo) : Bool :=
  info.named && (typeShape? info.kind).isSome

/-- A node is named and gives the name of a type. -/
def NodeInfo.isTypeName (info : NodeInfo) : Bool :=
  info.named && typeShape? info.kind == some .name

/-- A node is named and holds the arguments of a generic type. -/
def NodeInfo.isTypeArguments (info : NodeInfo) : Bool :=
  info.named && info.kind == "type_arguments"

/-- A node is named and is a wildcard argument. -/
def NodeInfo.isWildcard (info : NodeInfo) : Bool :=
  info.named && info.kind == "wildcard"

/-- The primitive that a node names, or void. -/
def primitiveType (source : Bytes) (info : NodeInfo) : TypeName :=
  match Primitive.ofKeyword? (info.text source) with
  | some kind => .primitive kind
  | none => .void

/-- The name of a generic type: of several candidates the last counts. -/
def genericBase (source : Bytes) (children : List Node) : String :=
  match children.reverse.find? (fun child => child.info.isTypeName) with
  | some child => child.compactText source
  | none => ""

/-- The last keyword among the parts of a wildcard that says how it is bounded. -/
def boundKeyword? (children : List Node) : Option String :=
  (children.reverse.find? (fun child => child.kind == "extends" || child.kind == "super")).map
    Node.kind

/-- A wildcard is written with its bound if both keyword and type are there. -/
def wildcardText (keyword? : Option String) (bound? : Option TypeName) : String :=
  match keyword?, bound? with
  | some keyword, some bound => "? " ++ keyword ++ " " ++ bound.signature
  | _, _ => "?"

/-- A generic type with its arguments; without any, the bare name. -/
def genericText (base : String) (arguments : List String) : String :=
  if arguments.isEmpty then base else base ++ "<" ++ ",".intercalate arguments ++ ">"

mutual

/-- The type that a node stands for. -/
def typeOf (source : Bytes) : Node → TypeName
  | .mk info children =>
      match typeShape? info.kind with
      | none => .void
      | some .primitive => primitiveType source info
      | some .name => .reference (info.compactText source)
      | some .generic =>
          .reference
            (genericText
              (genericBase source children)
              ((lastArguments? source children).getD []))
      | some .array => elementType source children
      | some .annotated => (firstType? source children).getD .void

/-- The type of the first child held as the element of an array. -/
def elementType (source : Bytes) : List Node → TypeName
  | [] => .void
  | child :: rest =>
      if child.info.field == some "element" then typeOf source child
      else elementType source rest

/-- The type of the first named child that stands for one. -/
def firstType? (source : Bytes) : List Node → Option TypeName
  | [] => none
  | child :: rest =>
      if child.info.isType then some (typeOf source child)
      else firstType? source rest

/-- The arguments in the last argument list among the children. -/
def lastArguments? (source : Bytes) : List Node → Option (List String)
  | [] => none
  | .mk info arguments :: rest =>
      match lastArguments? source rest with
      | some later => some later
      | none =>
          if info.isTypeArguments then some (argumentTexts source arguments) else none

/-- The texts of the wildcards and types in an argument list. -/
def argumentTexts (source : Bytes) : List Node → List String
  | [] => []
  | .mk info parts :: rest =>
      if info.isWildcard then
        wildcardText (boundKeyword? parts) (firstType? source parts) ::
          argumentTexts source rest
      else if info.isType then
        (typeOf source (.mk info parts)).signature :: argumentTexts source rest
      else
        argumentTexts source rest

end

/-- The type of a node that may be absent. -/
def typeOf? (source : Bytes) (node? : Option Node) : TypeName :=
  match node? with
  | some node => typeOf source node
  | none => .void

/-- The first named child that stands for a type. -/
def Node.typeChild? (node : Node) : Option Node :=
  node.children.find? (fun child => child.info.isType)

/-- The identifier of a node read as a reference type, arguments folded in. -/
def referenceText (source : Bytes) (node : Node) : String :=
  match typeShape? node.kind with
  | some .generic =>
      genericText
        (genericBase source node.children)
        ((lastArguments? source node.children).getD [])
  | _ => node.compactText source

end JavaOutline
