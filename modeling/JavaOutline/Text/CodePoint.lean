import JavaOutline.Text.Utf8

namespace JavaOutline.Text

/-!
# Texts of code points

A text that is handed over need not be made of characters alone: a surrogate
is a code point too, and may stand anywhere in it. A surrogate has no UTF-8
form, so a text with one cannot be encoded. All other texts can be, and they
are the texts of characters.
-/

/-- A character is never a surrogate. -/
theorem toNat_cases (character : Char) :
    character.toNat < 0xD800 ∨ 0xDFFF < character.toNat ∧ character.toNat < 0x110000 := by
  have valid := character.valid
  simp only [UInt32.isValidChar, Nat.isValidChar] at valid
  exact valid

theorem toNat_ofNat
    {code : Nat}
    (valid : code.isValidChar) :
    (Char.ofNat code).toNat = code := by
  rw [Char.ofNat, dif_pos valid]
  rfl

/-- The number of a character or of a surrogate. -/
structure CodePoint where
  number : Nat
  bounded : number < 0x110000
  deriving Repr, DecidableEq

namespace CodePoint

/-- A code point that is half of a pair in UTF-16 and stands for no character. -/
def IsSurrogate (point : CodePoint) : Prop :=
  0xD800 ≤ point.number ∧ point.number < 0xE000

instance (point : CodePoint) : Decidable point.IsSurrogate :=
  inferInstanceAs (Decidable (_ ∧ _))

/-- The code point of a character. -/
def ofChar (character : Char) : CodePoint :=
  ⟨character.toNat, by
    have cases := toNat_cases character
    omega⟩

/-- The character of a code point, unless it is a surrogate. -/
def char? (point : CodePoint) : Option Char :=
  if point.IsSurrogate then none else some (Char.ofNat point.number)

theorem not_isSurrogate_ofChar (character : Char) :
    ¬ (ofChar character).IsSurrogate := by
  have cases := toNat_cases character
  simp only [IsSurrogate, ofChar]
  omega

theorem char?_ofChar (character : Char) :
    (ofChar character).char? = some character := by
  rw [char?, if_neg (not_isSurrogate_ofChar character), ofChar, Char.ofNat_toNat]

/-- A code point that is no surrogate is that of a character. -/
theorem ofChar_ofNat
    {point : CodePoint}
    (isCharacter : ¬ point.IsSurrogate) :
    ofChar (Char.ofNat point.number) = point := by
  rcases point with ⟨number, bounded⟩
  have valid : number.isValidChar := by
    simp only [IsSurrogate] at isCharacter
    simp only [Nat.isValidChar]
    omega
  rw [ofChar, CodePoint.mk.injEq]
  exact toNat_ofNat valid

end CodePoint

/-- A text as a sequence of code points, surrogates included. -/
abbrev CodePoints := List CodePoint

namespace CodePoints

/-- A text of characters. -/
def ofString (text : String) : CodePoints :=
  text.toList.map .ofChar

instance : Coe String CodePoints :=
  ⟨ofString⟩

/-- The UTF-8 form of a text, unless there is a surrogate in it. -/
def encode? (points : CodePoints) : Option Bytes :=
  (points.mapM CodePoint.char?).map encodeChars

theorem mapM_char?_ofChar (characters : List Char) :
    (characters.map CodePoint.ofChar).mapM CodePoint.char? = some characters := by
  induction characters with
  | nil =>
      rfl
  | cons character rest inductionHypothesis =>
      simp [List.mapM_cons, CodePoint.char?_ofChar, inductionHypothesis]

/-- Characters can always be encoded. -/
@[simp]
theorem encode?_ofString (text : String) :
    (ofString text).encode? = some (encode text) := by
  rw [encode?, ofString, mapM_char?_ofChar]
  rfl

theorem mapM_char?_of_surrogate
    {points : CodePoints}
    {point : CodePoint}
    (member : point ∈ points)
    (surrogate : point.IsSurrogate) :
    points.mapM CodePoint.char? = none := by
  induction points with
  | nil =>
      cases member
  | cons first rest inductionHypothesis =>
      rcases List.mem_cons.mp member with rfl | inRest
      · simp [List.mapM_cons, CodePoint.char?, surrogate]
      · cases read : first.char? <;>
          simp [List.mapM_cons, read, inductionHypothesis inRest]

/-- One surrogate anywhere is enough for a text not to be encoded. -/
theorem encode?_of_surrogate
    {points : CodePoints}
    (present : ∃ point ∈ points, point.IsSurrogate) :
    points.encode? = none := by
  obtain ⟨point, member, surrogate⟩ := present
  rw [encode?, mapM_char?_of_surrogate member surrogate, Option.map_none]

/-- A text without surrogates is a text of characters. -/
theorem exists_eq_ofString
    {points : CodePoints}
    (encodable : ∀ point ∈ points, ¬ point.IsSurrogate) :
    ∃ text : String, points = ofString text := by
  refine ⟨String.ofList (points.map fun point => Char.ofNat point.number), ?_⟩
  rw [ofString, String.toList_ofList, List.map_map]
  symm
  calc
    points.map (CodePoint.ofChar ∘ fun point => Char.ofNat point.number) = points.map id :=
      List.map_congr_left fun point member => CodePoint.ofChar_ofNat (encodable point member)
    _ = points := List.map_id points

end CodePoints

end JavaOutline.Text
