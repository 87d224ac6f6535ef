import Mathlib.Algebra.Group.Nat.Defs
import Mathlib.Tactic.SplitIfs
import JavaOutline.Json.Value
import JavaOutline.Text.CodePoint

namespace JavaOutline.Json

/-!
# Texts inside JSON

The ways to write a character between quotes: as it is, by a letter after a
backslash, or by its number, which above the basic plane takes a pair of
surrogate units. The reader of characters takes all of them and nothing else.
-/

/-- The value of a hexadecimal digit of either case. -/
def hexValue? (digit : Char) : Option Nat :=
  if '0' ≤ digit ∧ digit ≤ '9' then
    some (digit.toNat - 0x30)
  else if 'a' ≤ digit ∧ digit ≤ 'f' then
    some (digit.toNat - 0x57)
  else if 'A' ≤ digit ∧ digit ≤ 'F' then
    some (digit.toNat - 0x37)
  else
    none

/-- Append a hexadecimal digit to a number. -/
def appendDigit (number : Nat) (digit : Char) : Option Nat :=
  (hexValue? digit).map (fun value => number * 16 + value)

/-- The number that hexadecimal digits stand for. -/
def hexNumber? (digits : List Char) : Option Nat :=
  digits.foldlM appendDigit 0

/-- Four hexadecimal digits stand for a sixteen-bit unit. -/
def IsUnit (digits : List Char) (unit : Nat) : Prop :=
  digits.length = 4 ∧ hexNumber? digits = some unit

/-- A unit that begins a surrogate pair. -/
def isHighUnit (unit : Nat) : Bool :=
  0xD800 ≤ unit && unit < 0xDC00

/-- A unit that ends a surrogate pair. -/
def isLowUnit (unit : Nat) : Bool :=
  0xDC00 ≤ unit && unit < 0xE000

/-- The code point of a surrogate pair. -/
def pairCode (high low : Nat) : Nat :=
  0x10000 + (high - 0xD800) * 0x400 + (low - 0xDC00)

/-- The character that a letter stands for after a backslash. -/
def escapedChar? (letter : Char) : Option Char :=
  if letter = '\x22' then some '\x22'
  else if letter = '\\' then some '\\'
  else if letter = '/' then some '/'
  else if letter = 'b' then some '\x08'
  else if letter = 'f' then some '\x0c'
  else if letter = 'n' then some '\n'
  else if letter = 'r' then some '\r'
  else if letter = 't' then some '\t'
  else none

/-- The ways to write one character inside a text. -/
inductive DerivesChar : Char → List Char → Prop where
  | plain
      {character : Char}
      (visible : 0x20 ≤ character.toNat)
      (notQuote : character ≠ '\x22')
      (notEscape : character ≠ '\\') :
      DerivesChar character [character]
  | letter
      {character letter : Char}
      (escaped : escapedChar? letter = some character) :
      DerivesChar character ['\\', letter]
  | unit
      {character : Char}
      {digits : List Char}
      (unit : IsUnit digits character.toNat) :
      DerivesChar character ('\\' :: 'u' :: digits)
  | pair
      {character : Char}
      {high low : Nat}
      {highDigits lowDigits : List Char}
      (highUnit : IsUnit highDigits high)
      (lowUnit : IsUnit lowDigits low)
      (isHigh : isHighUnit high = true)
      (isLow : isLowUnit low = true)
      (code : character.toNat = pairCode high low) :
      DerivesChar character ('\\' :: 'u' :: (highDigits ++ '\\' :: 'u' :: lowDigits))

/-- The ways to write the characters of a text, the quotes around it apart. -/
inductive DerivesText : List Char → List Char → Prop where
  | nil :
      DerivesText [] []
  | cons
      {character : Char}
      {characters written rest : List Char}
      (first : DerivesChar character written)
      (others : DerivesText characters rest) :
      DerivesText (character :: characters) (written ++ rest)

/-- Read four hexadecimal digits. -/
def readUnit? (input : List Char) : Option (Nat × List Char) :=
  if input.length < 4 then
    none
  else
    (hexNumber? (input.take 4)).map (fun unit => (unit, input.drop 4))

/-- Read the second half of a surrogate pair. -/
def readLowUnit? : List Char → Option (Nat × List Char)
  | '\\' :: 'u' :: input => (readUnit? input).filter (fun read => isLowUnit read.1)
  | _ => none

/-- Read a character that is given by its number. -/
def readNumbered? (input : List Char) : Option (Char × List Char) := do
  let (unit, rest) ← readUnit? input
  if isHighUnit unit then
    let (low, final) ← readLowUnit? rest
    return (Char.ofNat (pairCode unit low), final)
  else if isLowUnit unit then
    none
  else
    return (Char.ofNat unit, rest)

/-- Read what follows a backslash. -/
def readEscape? : List Char → Option (Char × List Char)
  | [] => none
  | letter :: rest =>
      if letter = 'u' then
        readNumbered? rest
      else
        (escapedChar? letter).map (fun character => (character, rest))

/-- Read one character of a text. -/
def readChar? : List Char → Option (Char × List Char)
  | [] => none
  | first :: rest =>
      if first = '\\' then
        readEscape? rest
      else if first = '\x22' ∨ first.toNat < 0x20 then
        none
      else
        some (first, rest)

/-- Read the characters of a text up to its closing quote. -/
def readText? : Nat → List Char → Option (List Char × List Char)
  | 0, _ => none
  | fuel + 1, input =>
      if input.head? = some '\x22' then
        some ([], input.tail)
      else do
        let (character, rest) ← readChar? input
        let (characters, final) ← readText? fuel rest
        return (character :: characters, final)

theorem hexValue?_lt
    {digit : Char}
    {value : Nat}
    (read : hexValue? digit = some value) :
    value < 16 := by
  have bound (low high : Char) (within : low ≤ digit ∧ digit ≤ high) :
      low.toNat ≤ digit.toNat ∧ digit.toNat ≤ high.toNat :=
    within
  unfold hexValue? at read
  split_ifs at read with decimal lower upper
  · have := bound '0' '9' decimal
    simp at read this
    omega
  · have := bound 'a' 'f' lower
    simp at read this
    omega
  · have := bound 'A' 'F' upper
    simp at read this
    omega

/-- Every digit makes the next power of sixteen the bound. -/
theorem foldlM_appendDigit_lt
    {digits : List Char}
    {start number : Nat}
    (read : digits.foldlM appendDigit start = some number) :
    number < (start + 1) * 16 ^ digits.length := by
  induction digits generalizing start with
  | nil =>
      simp at read
      simp [read]
  | cons digit rest inductionHypothesis =>
      obtain ⟨next, appended, later⟩ := Option.bind_eq_some_iff.mp read
      obtain ⟨value, valueOf, rfl⟩ := Option.map_eq_some_iff.mp appended
      have small := hexValue?_lt valueOf
      have bound := inductionHypothesis later
      have grown : start * 16 + value + 1 ≤ (start + 1) * 16 := by
        omega
      calc number
          < (start * 16 + value + 1) * 16 ^ rest.length := bound
        _ ≤ (start + 1) * 16 * 16 ^ rest.length := Nat.mul_le_mul_right _ grown
        _ = (start + 1) * 16 ^ (rest.length + 1) := by
          rw [Nat.pow_succ, Nat.mul_assoc, Nat.mul_comm 16]

theorem IsUnit.lt
    {digits : List Char}
    {unit : Nat}
    (isUnit : IsUnit digits unit) :
    unit < 0x10000 := by
  have bound := foldlM_appendDigit_lt isUnit.2
  rw [isUnit.1] at bound
  omega

theorem readUnit?_eq_some_iff
    {input rest : List Char}
    {unit : Nat} :
    readUnit? input = some (unit, rest) ↔
      ∃ digits, IsUnit digits unit ∧ input = digits ++ rest := by
  constructor
  · intro read
    unfold readUnit? at read
    split at read
    · cases read
    · obtain ⟨number, numberOf, same⟩ := Option.map_eq_some_iff.mp read
      cases same
      refine ⟨input.take 4, ⟨?_, numberOf⟩, (List.take_append_drop 4 input).symm⟩
      rw [List.length_take]
      omega
  · rintro ⟨digits, ⟨width, number⟩, rfl⟩
    simp [readUnit?, ← width, number]

theorem readLowUnit?_eq_some_iff
    {input rest : List Char}
    {unit : Nat} :
    readLowUnit? input = some (unit, rest) ↔
      ∃ digits,
        IsUnit digits unit ∧
          isLowUnit unit = true ∧
          input = '\\' :: 'u' :: (digits ++ rest) := by
  constructor
  · intro read
    unfold readLowUnit? at read
    split at read
    · obtain ⟨readUnit, isLow⟩ := Option.filter_eq_some_iff.mp read
      obtain ⟨digits, isUnit, rfl⟩ := readUnit?_eq_some_iff.mp readUnit
      exact ⟨digits, isUnit, isLow, rfl⟩
    · cases read
  · rintro ⟨digits, isUnit, isLow, rfl⟩
    have readUnit : readUnit? (digits ++ rest) = some (unit, rest) :=
      readUnit?_eq_some_iff.mpr ⟨digits, isUnit, rfl⟩
    simp [readLowUnit?, readUnit, isLow]

theorem toNat_ofNat_of_plain
    {unit : Nat}
    (small : unit < 0x10000)
    (notHigh : isHighUnit unit = false)
    (notLow : isLowUnit unit = false) :
    (Char.ofNat unit).toNat = unit := by
  refine Text.toNat_ofNat ?_
  simp [isHighUnit, isLowUnit] at notHigh notLow
  simp only [Nat.isValidChar]
  omega

theorem toNat_ofNat_pairCode
    {high low : Nat}
    (isHigh : isHighUnit high = true)
    (isLow : isLowUnit low = true) :
    (Char.ofNat (pairCode high low)).toNat = pairCode high low := by
  simp [isHighUnit, isLowUnit] at isHigh isLow
  have bounds : 0xDFFF < pairCode high low ∧ pairCode high low < 0x110000 := by
    unfold pairCode
    omega
  exact Text.toNat_ofNat (.inr bounds)

/-- A number that is no surrogate is a character, one above the units a pair of them. -/
theorem readNumbered?_eq_some_iff
    {input rest : List Char}
    {character : Char} :
    readNumbered? input = some (character, rest) ↔
      (∃ digits, IsUnit digits character.toNat ∧ input = digits ++ rest) ∨
        ∃ high low highDigits lowDigits,
          IsUnit highDigits high ∧
            IsUnit lowDigits low ∧
            isHighUnit high = true ∧
            isLowUnit low = true ∧
            character.toNat = pairCode high low ∧
            input = highDigits ++ '\\' :: 'u' :: (lowDigits ++ rest) := by
  constructor
  · intro read
    obtain ⟨⟨unit, afterUnit⟩, readUnit, later⟩ := Option.bind_eq_some_iff.mp read
    obtain ⟨digits, isUnit, rfl⟩ := readUnit?_eq_some_iff.mp readUnit
    dsimp only at later
    split_ifs at later with isHigh isLow
    · obtain ⟨⟨low, final⟩, readLow, same⟩ := Option.bind_eq_some_iff.mp later
      obtain ⟨lowDigits, lowUnit, isLow, rfl⟩ := readLowUnit?_eq_some_iff.mp readLow
      obtain ⟨rfl, rfl⟩ := Prod.mk.inj (Option.some.inj same)
      exact .inr ⟨unit, low, digits, lowDigits, isUnit, lowUnit, isHigh, isLow,
        toNat_ofNat_pairCode isHigh isLow, rfl⟩
    · obtain ⟨rfl, rfl⟩ := Prod.mk.inj (Option.some.inj later)
      have code := toNat_ofNat_of_plain isUnit.lt (by simpa using isHigh) (by simpa using isLow)
      exact .inl ⟨digits, by rwa [code], rfl⟩
  · rintro (⟨digits, isUnit, rfl⟩ |
      ⟨high, low, highDigits, lowDigits, highUnit, lowUnit, isHigh, isLow, code, rfl⟩)
    · have readUnit : readUnit? (digits ++ rest) = some (character.toNat, rest) :=
        readUnit?_eq_some_iff.mpr ⟨digits, isUnit, rfl⟩
      have notHigh : isHighUnit character.toNat = false := by
        have := Text.toNat_cases character
        simp [isHighUnit]
        omega
      have notLow : isLowUnit character.toNat = false := by
        have := Text.toNat_cases character
        simp [isLowUnit]
        omega
      simp [readNumbered?, readUnit, notHigh, notLow, Char.ofNat_toNat]
    · have readHigh :
          readUnit? (highDigits ++ '\\' :: 'u' :: (lowDigits ++ rest)) =
            some (high, '\\' :: 'u' :: (lowDigits ++ rest)) :=
        readUnit?_eq_some_iff.mpr ⟨highDigits, highUnit, rfl⟩
      have readLow :
          readLowUnit? ('\\' :: 'u' :: (lowDigits ++ rest)) = some (low, rest) :=
        readLowUnit?_eq_some_iff.mpr ⟨lowDigits, lowUnit, isLow, rfl⟩
      simp [readNumbered?, readHigh, readLow, isHigh, ← code, Char.ofNat_toNat]

/-- One character is read exactly from the ways to write it. -/
theorem readChar?_eq_some_iff
    {input rest : List Char}
    {character : Char} :
    readChar? input = some (character, rest) ↔
      ∃ written, DerivesChar character written ∧ input = written ++ rest := by
  constructor
  · intro read
    cases input with
    | nil =>
        cases read
    | cons first afterFirst =>
        rw [readChar?] at read
        split_ifs at read with isEscape unusable
        · subst isEscape
          cases afterFirst with
          | nil =>
              cases read
          | cons letter afterLetter =>
              rw [readEscape?] at read
              split_ifs at read with isNumber
              · subst isNumber
                rcases readNumbered?_eq_some_iff.mp read with
                  ⟨digits, isUnit, rfl⟩ |
                  ⟨high, low, highDigits, lowDigits, highUnit, lowUnit, isHigh, isLow, code,
                    rfl⟩
                · exact ⟨_, .unit isUnit, rfl⟩
                · exact ⟨_, .pair highUnit lowUnit isHigh isLow code, by simp⟩
              · obtain ⟨escaped, escapedBy, same⟩ := Option.map_eq_some_iff.mp read
                cases same
                exact ⟨_, .letter escapedBy, rfl⟩
        · obtain ⟨rfl, rfl⟩ := Prod.mk.inj (Option.some.inj read)
          have usable : first ≠ '\x22' ∧ ¬ first.toNat < 0x20 := not_or.mp unusable
          exact ⟨[first], .plain (by omega) usable.1 isEscape, rfl⟩
  · rintro ⟨written, derived, rfl⟩
    cases derived with
    | plain visible notQuote notEscape =>
        have usable : ¬ (character = '\x22' ∨ character.toNat < 0x20) :=
          not_or.mpr ⟨notQuote, by omega⟩
        simp [readChar?, notEscape, usable]
    | @letter letter escaped =>
        have notNumber : letter ≠ 'u' := by
          rintro rfl
          simp [escapedChar?] at escaped
        simp [readChar?, readEscape?, notNumber, escaped]
    | @unit digits isUnit =>
        have read : readNumbered? (digits ++ rest) = some (character, rest) :=
          readNumbered?_eq_some_iff.mpr (.inl ⟨digits, isUnit, rfl⟩)
        simpa [readChar?, readEscape?] using read
    | @pair high low highDigits lowDigits highUnit lowUnit isHigh isLow code =>
        have read :
            readNumbered? (highDigits ++ '\\' :: 'u' :: (lowDigits ++ rest)) =
              some (character, rest) :=
          readNumbered?_eq_some_iff.mpr (.inr ⟨high, low, highDigits, lowDigits,
            highUnit, lowUnit, isHigh, isLow, code, rfl⟩)
        simpa [readChar?, readEscape?] using read

/-- A written character is not empty and does not begin with a quote. -/
theorem DerivesChar.head?_ne
    {character : Char}
    {written : List Char}
    (derived : DerivesChar character written)
    (rest : List Char) :
    written ≠ [] ∧ (written ++ rest).head? ≠ some '\x22' := by
  cases derived with
  | plain visible notQuote notEscape =>
      simpa using notQuote
  | letter escaped =>
      simp
  | unit isUnit =>
      simp
  | pair highUnit lowUnit isHigh isLow code =>
      simp

theorem readText?_of_derives
    {characters written : List Char}
    (derived : DerivesText characters written)
    {fuel : Nat}
    (enough : written.length < fuel)
    (rest : List Char) :
    readText? fuel (written ++ '\x22' :: rest) = some (characters, rest) := by
  induction derived generalizing fuel with
  | nil =>
      obtain ⟨fewer, rfl⟩ := Nat.exists_eq_add_one_of_ne_zero (Nat.ne_zero_of_lt enough)
      simp [readText?]
  | @cons character characters written others first later inductionHypothesis =>
      obtain ⟨fewer, rfl⟩ := Nat.exists_eq_add_one_of_ne_zero (Nat.ne_zero_of_lt enough)
      obtain ⟨notEmpty, notQuote⟩ := first.head?_ne (others ++ '\x22' :: rest)
      have positive := List.length_pos_iff.mpr notEmpty
      rw [List.length_append] at enough
      have readFirst :
          readChar? (written ++ (others ++ '\x22' :: rest)) =
            some (character, others ++ '\x22' :: rest) :=
        readChar?_eq_some_iff.mpr ⟨written, first, rfl⟩
      have readOthers : readText? fewer (others ++ '\x22' :: rest) = some (characters, rest) :=
        inductionHypothesis (by omega)
      rw [List.append_assoc, readText?, if_neg notQuote]
      simp [readFirst, readOthers]

theorem derives_of_readText?
    {fuel : Nat}
    {input characters rest : List Char}
    (read : readText? fuel input = some (characters, rest)) :
    ∃ written, DerivesText characters written ∧ input = written ++ '\x22' :: rest := by
  induction fuel generalizing input characters with
  | zero =>
      cases read
  | succ fuel inductionHypothesis =>
      rw [readText?] at read
      split at read
      case isTrue isQuote =>
        cases input with
        | nil =>
            cases isQuote
        | cons first afterFirst =>
            cases isQuote
            cases read
            exact ⟨[], .nil, rfl⟩
      case isFalse notQuote =>
        obtain ⟨⟨character, afterFirst⟩, readFirst, later⟩ := Option.bind_eq_some_iff.mp read
        obtain ⟨⟨others, final⟩, readOthers, same⟩ := Option.bind_eq_some_iff.mp later
        cases same
        obtain ⟨written, first, rfl⟩ := readChar?_eq_some_iff.mp readFirst
        obtain ⟨writtenOthers, derived, rfl⟩ := inductionHypothesis readOthers
        exact ⟨written ++ writtenOthers, .cons first derived, by simp⟩

end JavaOutline.Json
