import Mathlib.Algebra.Group.Nat.Defs
import JavaOutline.Text.CodePoint

namespace JavaOutline.Text

/-!
# What the decoder writes

The decoder takes any bytes. Two facts say how far it can be relied on. Given the
bytes of a text, whatever follows them, it writes that text. And an ASCII byte,
whatever precedes it, stands for itself: a character that is begun and not
completed never takes such a byte, and no other bytes come to its character.
-/

section Reading

/-- The same cases as in `readLead`, told by numbers. -/
theorem readLead_eq (byte : UInt8) :
    readLead byte =
      if byte.toNat < 0x80 then
        ⟨[Char.ofNat byte.toNat], none⟩
      else if byte.toNat < 0xC2 then
        ⟨[replacement], none⟩
      else if byte.toNat < 0xE0 then
        ⟨[], some ⟨byte.toNat - 0xC0, 0, 0x80, 0xBF⟩⟩
      else if byte.toNat < 0xF0 then
        ⟨[], some {
          bits := byte.toNat - 0xE0
          later := 1
          lowest := if byte.toNat = 0xE0 then 0xA0 else 0x80
          highest := if byte.toNat = 0xED then 0x9F else 0xBF
        }⟩
      else if byte.toNat < 0xF5 then
        ⟨[], some {
          bits := byte.toNat - 0xF0
          later := 2
          lowest := if byte.toNat = 0xF0 then 0x90 else 0x80
          highest := if byte.toNat = 0xF4 then 0x8F else 0xBF
        }⟩
      else
        ⟨[replacement], none⟩ := by
  simp only [readLead, UInt8.lt_iff_toNat_lt, ← UInt8.toNat_inj]
  rfl

theorem readLead_ascii
    {byte : UInt8}
    (ascii : byte.toNat < 0x80) :
    readLead byte = ⟨[Char.ofNat byte.toNat], none⟩ := by
  rw [readLead_eq, if_pos ascii]

theorem accepts_iff {begun : Begun} {byte : UInt8} :
    begun.accepts byte = true ↔
      begun.lowest.toNat ≤ byte.toNat ∧ byte.toNat ≤ begun.highest.toNat := by
  simp [Begun.accepts, UInt8.le_iff_toNat_le]

/-- A byte that begins a character writes nothing yet. -/
theorem decodeFrom_lead
    {byte : UInt8}
    {begun : Begun}
    (leads : readLead byte = ⟨[], some begun⟩)
    (rest : Bytes) :
    decodeFrom none (byte :: rest) = decodeFrom (some begun) rest := by
  simp [decodeFrom, readByte, leads]

theorem decodeFrom_accepted
    {begun : Begun}
    {byte : UInt8}
    (accepted : begun.accepts byte = true)
    (rest : Bytes) :
    decodeFrom (some begun) (byte :: rest) =
      (begun.extend byte).written ++ decodeFrom (begun.extend byte).begun rest := by
  simp [decodeFrom, readByte, accepted]

end Reading

section Encoded

/-- A byte with six bits of a character that further bytes complete. -/
theorem decodeFrom_continued
    {bits later code : Nat}
    {lowest highest : UInt8}
    (small : code < 64)
    (notBelow : lowest.toNat ≤ code + 128)
    (notAbove : code + 128 ≤ highest.toNat)
    (rest : Bytes) :
    decodeFrom (some ⟨bits, later + 1, lowest, highest⟩) (UInt8.ofNat (code + 128) :: rest) =
      decodeFrom (some ⟨bits * 64 + code, later, 0x80, 0xBF⟩) rest := by
  have value := UInt8.toNat_ofNat_of_lt' (show code + 128 < 256 by omega)
  rw [decodeFrom_accepted (accepts_iff.mpr (by rw [value]; exact ⟨notBelow, notAbove⟩)),
    Begun.extend, value, Nat.add_sub_cancel]
  rfl

/-- A byte with the last six bits of a character. -/
theorem decodeFrom_completed
    {bits code : Nat}
    {lowest highest : UInt8}
    (small : code < 64)
    (notBelow : lowest.toNat ≤ code + 128)
    (notAbove : code + 128 ≤ highest.toNat)
    (rest : Bytes) :
    decodeFrom (some ⟨bits, 0, lowest, highest⟩) (UInt8.ofNat (code + 128) :: rest) =
      Char.ofNat (bits * 64 + code) :: decodeFrom none rest := by
  have value := UInt8.toNat_ofNat_of_lt' (show code + 128 < 256 by omega)
  rw [decodeFrom_accepted (accepts_iff.mpr (by rw [value]; exact ⟨notBelow, notAbove⟩)),
    Begun.extend, value, Nat.add_sub_cancel]
  rfl

/-- Two bytes with eleven bits. -/
theorem decodeFrom_two
    {code : Nat}
    (large : 0x80 ≤ code)
    (small : code < 0x800)
    (rest : Bytes) :
    decodeFrom none
        (UInt8.ofNat (code / 64 + 192) :: UInt8.ofNat (code % 64 + 128) :: rest) =
      Char.ofNat code :: decodeFrom none rest := by
  have value := UInt8.toNat_ofNat_of_lt' (show code / 64 + 192 < 256 by omega)
  have leads : readLead (UInt8.ofNat (code / 64 + 192)) =
      ⟨[], some ⟨code / 64, 0, 0x80, 0xBF⟩⟩ := by
    rw [readLead_eq, value, if_neg (by omega), if_neg (by omega), if_pos (by omega),
      Nat.add_sub_cancel]
  have last := Nat.mod_lt code (show 0 < 64 by decide)
  rw [decodeFrom_lead leads, decodeFrom_completed last, Nat.div_add_mod']
  · exact Nat.le_add_left ..
  · exact (show code % 64 + 128 ≤ 191 by omega)

/--
Three bytes with sixteen bits. The narrower ranges for the second byte are those
of the numbers that need a third byte and of those before the surrogates.
-/
theorem decodeFrom_three
    {code : Nat}
    (large : 0x800 ≤ code)
    (small : code < 0x10000)
    (noSurrogate : code < 0xD800 ∨ 0xDFFF < code)
    (rest : Bytes) :
    decodeFrom none
        (UInt8.ofNat (code / 4096 + 224) :: UInt8.ofNat (code / 64 % 64 + 128) ::
          UInt8.ofNat (code % 64 + 128) :: rest) =
      Char.ofNat code :: decodeFrom none rest := by
  have value := UInt8.toNat_ofNat_of_lt' (show code / 4096 + 224 < 256 by omega)
  have leads : readLead (UInt8.ofNat (code / 4096 + 224)) =
      ⟨[], some ⟨code / 4096, 1,
        if code / 4096 + 224 = 0xE0 then 0xA0 else 0x80,
        if code / 4096 + 224 = 0xED then 0x9F else 0xBF⟩⟩ := by
    rw [readLead_eq, value, if_neg (by omega), if_neg (by omega), if_neg (by omega),
      if_pos (by omega), Nat.add_sub_cancel]
  have bits : (code / 4096 * 64 + code / 64 % 64) * 64 + code % 64 = code := by
    omega
  rw [decodeFrom_lead leads, decodeFrom_continued (Nat.mod_lt _ (by decide)),
    decodeFrom_completed (Nat.mod_lt _ (by decide)), bits]
  · exact Nat.le_add_left ..
  · exact (show code % 64 + 128 ≤ 191 by omega)
  · split
    · exact (show 160 ≤ code / 64 % 64 + 128 by omega)
    · exact Nat.le_add_left ..
  · split
    · exact (show code / 64 % 64 + 128 ≤ 159 by omega)
    · exact (show code / 64 % 64 + 128 ≤ 191 by omega)

/-- Four bytes with twenty-one bits, up to the last code point. -/
theorem decodeFrom_four
    {code : Nat}
    (large : 0x10000 ≤ code)
    (small : code < 0x110000)
    (rest : Bytes) :
    decodeFrom none
        (UInt8.ofNat (code / 262144 + 240) :: UInt8.ofNat (code / 4096 % 64 + 128) ::
          UInt8.ofNat (code / 64 % 64 + 128) :: UInt8.ofNat (code % 64 + 128) :: rest) =
      Char.ofNat code :: decodeFrom none rest := by
  have value := UInt8.toNat_ofNat_of_lt' (show code / 262144 + 240 < 256 by omega)
  have leads : readLead (UInt8.ofNat (code / 262144 + 240)) =
      ⟨[], some ⟨code / 262144, 2,
        if code / 262144 + 240 = 0xF0 then 0x90 else 0x80,
        if code / 262144 + 240 = 0xF4 then 0x8F else 0xBF⟩⟩ := by
    rw [readLead_eq, value, if_neg (by omega), if_neg (by omega), if_neg (by omega),
      if_neg (by omega), if_pos (by omega), Nat.add_sub_cancel]
  have bits : ((code / 262144 * 64 + code / 4096 % 64) * 64 + code / 64 % 64) * 64 + code % 64 =
      code := by
    omega
  rw [decodeFrom_lead leads, decodeFrom_continued (Nat.mod_lt _ (by decide)),
    decodeFrom_continued (Nat.mod_lt _ (by decide)),
    decodeFrom_completed (Nat.mod_lt _ (by decide)), bits]
  · exact Nat.le_add_left ..
  · exact (show code % 64 + 128 ≤ 191 by omega)
  · exact Nat.le_add_left ..
  · exact (show code / 64 % 64 + 128 ≤ 191 by omega)
  · split
    · exact (show 144 ≤ code / 4096 % 64 + 128 by omega)
    · exact Nat.le_add_left ..
  · split
    · exact (show code / 4096 % 64 + 128 ≤ 143 by omega)
    · exact (show code / 4096 % 64 + 128 ≤ 191 by omega)

/-- The bytes of a character are decoded to it. -/
theorem decodeFrom_encodeChar
    (character : Char)
    (rest : Bytes) :
    decodeFrom none (String.utf8EncodeChar character ++ rest) =
      character :: decodeFrom none rest := by
  have isChar := Char.ofNat_toNat character
  have valid : character.toNat < 0xD800 ∨
      0xDFFF < character.toNat ∧ character.toNat < 0x110000 :=
    character.valid
  simp only [String.utf8EncodeChar, Char.toNat_val]
  generalize character.toNat = code at isChar valid ⊢
  subst isChar
  split
  case isTrue ascii =>
    have value := UInt8.toNat_ofNat_of_lt' (show code < 256 by omega)
    have leads := readLead_ascii (show (UInt8.ofNat code).toNat < 0x80 by omega)
    rw [value] at leads
    simp [decodeFrom, readByte, leads]
  case isFalse longer =>
    split
    case isTrue two =>
      rw [Nat.mod_eq_of_lt (show code / 64 < 32 by omega)]
      exact decodeFrom_two (by omega) (by omega) rest
    case isFalse longer =>
      split
      case isTrue three =>
        rw [Nat.mod_eq_of_lt (show code / 4096 < 16 by omega)]
        exact decodeFrom_three (by omega) (by omega) (by omega) rest
      case isFalse four =>
        rw [Nat.mod_eq_of_lt (show code / 262144 < 8 by omega)]
        exact decodeFrom_four (by omega) (by omega) rest

/-- What is encoded is decoded again, whatever follows it. -/
theorem decodeFrom_encodeChars
    (characters : List Char)
    (rest : Bytes) :
    decodeFrom none (encodeChars characters ++ rest) =
      characters ++ decodeFrom none rest := by
  induction characters with
  | nil =>
      rfl
  | cons character others inductionHypothesis =>
      rw [encodeChars, List.flatMap_cons, List.append_assoc, decodeFrom_encodeChar]
      exact congrArg (character :: ·) inductionHypothesis

theorem decodeChars_encodeChars (characters : List Char) :
    decodeChars (encodeChars characters) = characters := by
  have decoded := decodeFrom_encodeChars characters []
  simpa [decodeChars, decodeFrom] using decoded

end Encoded

section Ascii

/--
A begun character takes no ASCII byte and comes to no ASCII character. The value
is the one that the least bytes it can take would complete it to.
-/
structure Begun.BeyondAscii (begun : Begun) : Prop where
  lowest : 0x80 ≤ begun.lowest.toNat
  value : 0x80 ≤ (begun.bits * 64 + (begun.lowest.toNat - 0x80)) * 64 ^ begun.later

/-- The decoder has begun no character, or one beyond ASCII. -/
def BeyondAscii (begun? : Option Begun) : Prop :=
  ∀ begun, begun? = some begun → begun.BeyondAscii

theorem beyondAscii_none : BeyondAscii none := by
  intro begun isBegun
  cases isBegun

/-- Every byte that begins a character begins one beyond ASCII. -/
theorem readLead_beyondAscii (byte : UInt8) :
    BeyondAscii (readLead byte).begun := by
  intro begun isBegun
  rw [readLead_eq] at isBegun
  split at isBegun
  case isTrue ascii =>
    cases isBegun
  case isFalse notAscii =>
    split at isBegun
    case isTrue stray =>
      cases isBegun
    case isFalse notStray =>
      split at isBegun
      case isTrue two =>
        have isTwo := Option.some.inj isBegun
        subst isTwo
        exact ⟨by simp, by simp; omega⟩
      case isFalse longer =>
        split at isBegun
        case isTrue three =>
          have isThree := Option.some.inj isBegun
          subst isThree
          by_cases least : byte.toNat = 0xE0
          · exact ⟨by simp [least], by simp [least]⟩
          · exact ⟨by simp [least], by simp [least]; omega⟩
        case isFalse longest =>
          split at isBegun
          case isTrue four =>
            have isFour := Option.some.inj isBegun
            subst isFour
            by_cases least : byte.toNat = 0xF0
            · exact ⟨by simp [least], by simp [least]⟩
            · exact ⟨by simp [least], by simp [least]; omega⟩
          case isFalse beyondLast =>
            cases isBegun

/-- The bytes that a begun character takes make it no less than its least bytes do. -/
theorem Begun.BeyondAscii.extended
    {begun : Begun}
    {byte : UInt8}
    (beyond : begun.BeyondAscii)
    (accepted : begun.accepts byte = true) :
    0x80 ≤ (begun.bits * 64 + (byte.toNat - 0x80)) * 64 ^ begun.later := by
  have atLeast := (accepts_iff.mp accepted).1
  have larger :
      begun.bits * 64 + (begun.lowest.toNat - 0x80) ≤ begun.bits * 64 + (byte.toNat - 0x80) := by
    omega
  exact Nat.le_trans beyond.value (Nat.mul_le_mul_right _ larger)

theorem Begun.extend_beyondAscii
    {begun : Begun}
    {byte : UInt8}
    (beyond : begun.BeyondAscii)
    (accepted : begun.accepts byte = true) :
    Text.BeyondAscii (begun.extend byte).begun := by
  have value := beyond.extended accepted
  intro next isNext
  cases later : begun.later with
  | zero =>
      simp [extend, later] at isNext
  | succ further =>
      simp only [extend, later, Option.some.injEq] at isNext
      subst isNext
      rw [later, Nat.pow_succ'] at value
      exact ⟨by simp, by simpa [Nat.mul_assoc] using value⟩

/-- One step keeps the decoder beyond ASCII. -/
theorem readByte_beyondAscii
    {begun? : Option Begun}
    (beyond : BeyondAscii begun?)
    (byte : UInt8) :
    BeyondAscii (readByte begun? byte).begun := by
  cases begun? with
  | none =>
      exact readLead_beyondAscii byte
  | some begun =>
      by_cases accepted : begun.accepts byte = true
      · rw [readByte, if_pos accepted]
        exact Begun.extend_beyondAscii (beyond begun rfl) accepted
      · rw [readByte, if_neg accepted]
        exact readLead_beyondAscii byte

/-- An ASCII byte ends whatever is begun and stands for itself. -/
theorem decodeFrom_ascii
    {begun? : Option Begun}
    {byte : UInt8}
    (beyond : BeyondAscii begun?)
    (ascii : byte.toNat < 0x80)
    (rest : Bytes) :
    decodeFrom begun? (byte :: rest) =
      decodeFrom begun? [] ++ Char.ofNat byte.toNat :: decodeFrom none rest := by
  have leads := readLead_ascii ascii
  cases begun? with
  | none =>
      simp [decodeFrom, readByte, leads]
  | some begun =>
      have refused : ¬ begun.accepts byte = true := by
        intro accepted
        have atLeast := (accepts_iff.mp accepted).1
        have lowest := (beyond begun rfl).lowest
        omega
      simp [decodeFrom, readByte, leads, refused]

/-- Before an ASCII byte the decoder writes what it would write at the end. -/
theorem decodeFrom_append_ascii
    {begun? : Option Begun}
    {byte : UInt8}
    (beyond : BeyondAscii begun?)
    (ascii : byte.toNat < 0x80)
    (before rest : Bytes) :
    decodeFrom begun? (before ++ byte :: rest) =
      decodeFrom begun? before ++ Char.ofNat byte.toNat :: decodeFrom none rest := by
  induction before generalizing begun? with
  | nil =>
      exact decodeFrom_ascii beyond ascii rest
  | cons first others inductionHypothesis =>
      have later := inductionHypothesis (readByte_beyondAscii beyond first)
      simp only [List.cons_append, decodeFrom, later, List.append_assoc]

variable {character : Char}

theorem not_mem_replacement
    (ascii : character.toNat < 0x80) :
    character ∉ [replacement] := by
  intro isReplacement
  rw [List.mem_singleton.mp isReplacement] at ascii
  exact absurd ascii (by decide)

theorem toNat_of_mem_readLead
    {byte : UInt8}
    (ascii : character.toNat < 0x80)
    (written : character ∈ (readLead byte).written) :
    byte.toNat = character.toNat := by
  by_cases isAscii : byte.toNat < 0x80
  · have valid : byte.toNat.isValidChar := .inl (by omega)
    rw [readLead_ascii isAscii, List.mem_singleton] at written
    rw [written, toNat_ofNat valid]
  · have noAscii : (readLead byte).written ⊆ [replacement] := by
      rw [readLead_eq, if_neg isAscii]
      repeat' split
      all_goals simp
    exact (not_mem_replacement ascii (noAscii written)).elim

/-- A completed character is beyond ASCII; the number of no character gives zero. -/
theorem Begun.not_mem_extend
    {begun : Begun}
    {byte : UInt8}
    (beyond : begun.BeyondAscii)
    (accepted : begun.accepts byte = true)
    (notNull : 0 < character.toNat)
    (ascii : character.toNat < 0x80) :
    character ∉ (begun.extend byte).written := by
  have value := beyond.extended accepted
  intro written
  cases later : begun.later with
  | zero =>
      simp only [extend, later, List.mem_singleton] at written
      rw [later, Nat.pow_zero, Nat.mul_one] at value
      by_cases valid : (begun.bits * 64 + (byte.toNat - 0x80)).isValidChar
      · rw [written, toNat_ofNat valid] at ascii
        exact absurd ascii (Nat.not_lt.mpr value)
      · rw [written, Char.ofNat, dif_neg valid] at notNull
        exact Nat.lt_irrefl 0 notNull
  | succ further =>
      simp [extend, later] at written

/-- An ASCII character other than zero is written only for its own byte. -/
theorem toNat_of_mem_readByte
    {begun? : Option Begun}
    {byte : UInt8}
    (beyond : BeyondAscii begun?)
    (notNull : 0 < character.toNat)
    (ascii : character.toNat < 0x80)
    (written : character ∈ (readByte begun? byte).written) :
    byte.toNat = character.toNat := by
  cases begun? with
  | none =>
      exact toNat_of_mem_readLead ascii written
  | some begun =>
      by_cases accepted : begun.accepts byte = true
      · rw [readByte, if_pos accepted] at written
        exact (Begun.not_mem_extend (beyond begun rfl) accepted notNull ascii written).elim
      · rw [readByte, if_neg accepted] at written
        rcases List.mem_cons.mp written with isReplacement | fresh
        · exact (not_mem_replacement ascii (List.mem_singleton.mpr isReplacement)).elim
        · exact toNat_of_mem_readLead ascii fresh

/-- Every ASCII character other than zero comes from a byte of its own. -/
theorem exists_byte_of_mem_decodeFrom
    {begun? : Option Begun}
    {bytes : Bytes}
    (beyond : BeyondAscii begun?)
    (notNull : 0 < character.toNat)
    (ascii : character.toNat < 0x80)
    (present : character ∈ decodeFrom begun? bytes) :
    ∃ byte ∈ bytes, byte.toNat = character.toNat := by
  induction bytes generalizing begun? with
  | nil =>
      cases begun? with
      | none =>
          cases present
      | some begun =>
          exact (not_mem_replacement ascii present).elim
  | cons byte rest inductionHypothesis =>
      rw [decodeFrom] at present
      rcases List.mem_append.mp present with written | later
      · exact ⟨byte, List.mem_cons_self,
          toNat_of_mem_readByte beyond notNull ascii written⟩
      · obtain ⟨found, inRest, same⟩ :=
          inductionHypothesis (readByte_beyondAscii beyond byte) later
        exact ⟨found, List.mem_cons_of_mem byte inRest, same⟩

end Ascii

end JavaOutline.Text
