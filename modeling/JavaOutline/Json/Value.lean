namespace JavaOutline

/-!
# JSON values

The part of JSON that the export uses. The members of an object are kept in
order.
-/

/-- A JSON value without numbers. -/
inductive Json where
  | null
  | bool (value : Bool)
  | text (value : String)
  | list (items : List Json)
  | object (members : List (String × Json))

/-- A text, or null if there is none. -/
def Json.optionalText : Option String → Json
  | some value => .text value
  | none => .null

/-- A list of texts. -/
def Json.texts (texts : List String) : Json :=
  .list (texts.map .text)

end JavaOutline
