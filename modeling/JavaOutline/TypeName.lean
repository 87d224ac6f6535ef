import JavaOutline.Text.Blank

namespace JavaOutline

/-!
# Names of types
-/

/-- The primitive types. -/
inductive Primitive where
  | void
  | int
  | byte
  | char
  | long
  | float
  | short
  | double
  | bool
  deriving Repr, DecidableEq

namespace Primitive

/-- Every primitive type, each once. -/
def all : List Primitive :=
  [void, int, byte, char, long, float, short, double, bool]

/-- How the outline spells a primitive type. -/
def name : Primitive → String
  | void => "void"
  | int => "int"
  | byte => "byte"
  | char => "char"
  | long => "long"
  | float => "float"
  | short => "short"
  | double => "double"
  | bool => "bool"

/--
The primitive type that a keyword names. Java writes `boolean` for what the
outline calls `bool`; both are understood. Blanks around the keyword are
ignored.
-/
def ofKeyword? (keyword : String) : Option Primitive :=
  let bare := Text.strip keyword
  if bare = "boolean" then
    some bool
  else
    all.find? (fun primitive => primitive.name == bare)

end Primitive

/-- A resolved type: a primitive, or a reference type given by its identifier. -/
inductive TypeName where
  | primitive (kind : Primitive)
  | reference (identifier : String)
  deriving Repr, DecidableEq

namespace TypeName

/-- The type of what has none. -/
def void : TypeName :=
  .primitive .void

/-- The text by which signatures refer to a type. -/
def signature : TypeName → String
  | .primitive kind => kind.name
  | .reference identifier => identifier

/-- The primitive that a type is, if it is one. -/
def primitive? : TypeName → Option Primitive
  | .primitive kind => some kind
  | .reference _ => none

/-- A type is a primitive. -/
def isPrimitive (type : TypeName) : Bool :=
  type.primitive?.isSome

/-- A type is void. -/
def isVoid (type : TypeName) : Bool :=
  type == .void

/--
The type that a written name stands for: a primitive for its keyword, void
for a blank name, and otherwise a reference type.
-/
def ofName (name : String) : TypeName :=
  match Primitive.ofKeyword? name with
  | some kind => .primitive kind
  | none =>
      let bare := Text.strip name
      if bare = "" then .void else .reference bare

end TypeName

end JavaOutline
