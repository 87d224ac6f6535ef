namespace JavaOutline.Text

/-!
# UTF-8 text in byte sequences

Source files are byte sequences, and a piece of one may begin or end inside a
character. `decode` is total on bytes: each longest run that starts some
well-formed character without completing it becomes one replacement character.
The decoder is a machine that reads one byte at a time, so what it writes for
a byte depends only on the character it has begun.
-/

/-- A sequence of bytes, such as the contents of a source file. -/
abbrev Bytes := List UInt8

/-- The UTF-8 form of a list of characters. -/
def encodeChars (characters : List Char) : Bytes :=
  characters.flatMap String.utf8EncodeChar

/-- The UTF-8 form of a text. -/
def encode (text : String) : Bytes :=
  encodeChars text.toList

/-- Stands for bytes that form no character. -/
def replacement : Char := '�'

/--
A character that has been begun and not completed.

The next byte continues it exactly when it lies between `lowest` and `highest`;
`later` continuation bytes have to follow that one.
-/
structure Begun where
  bits : Nat
  later : Nat
  lowest : UInt8
  highest : UInt8
  deriving Repr, DecidableEq

/-- What a byte writes, and the character it leaves begun, if any. -/
structure Decoded where
  written : List Char
  begun : Option Begun
  deriving Repr, DecidableEq

/--
Read a byte when no character is begun.

The narrower ranges after `E0`, `ED`, `F0` and `F4` keep out overlong forms,
surrogates and numbers above the last code point.
-/
def readLead (byte : UInt8) : Decoded :=
  if byte < 0x80 then
    ⟨[Char.ofNat byte.toNat], none⟩
  else if byte < 0xC2 then
    ⟨[replacement], none⟩
  else if byte < 0xE0 then
    ⟨[], some ⟨byte.toNat - 0xC0, 0, 0x80, 0xBF⟩⟩
  else if byte < 0xF0 then
    ⟨[], some {
      bits := byte.toNat - 0xE0
      later := 1
      lowest := if byte = 0xE0 then 0xA0 else 0x80
      highest := if byte = 0xED then 0x9F else 0xBF
    }⟩
  else if byte < 0xF5 then
    ⟨[], some {
      bits := byte.toNat - 0xF0
      later := 2
      lowest := if byte = 0xF0 then 0x90 else 0x80
      highest := if byte = 0xF4 then 0x8F else 0xBF
    }⟩
  else
    ⟨[replacement], none⟩

/-- A byte is one that can continue the begun character. -/
def Begun.accepts (begun : Begun) (byte : UInt8) : Bool :=
  begun.lowest ≤ byte && byte ≤ begun.highest

/--
Read a byte that continues the begun character. After the first continuation
byte every further one ranges over `80` to `BF`.
-/
def Begun.extend (begun : Begun) (byte : UInt8) : Decoded :=
  let bits := begun.bits * 64 + (byte.toNat - 0x80)
  match begun.later with
  | 0 => ⟨[Char.ofNat bits], none⟩
  | later + 1 => ⟨[], some ⟨bits, later, 0x80, 0xBF⟩⟩

/--
Read one byte. A byte that does not continue the begun character ends it as
ill-formed and is then read afresh.
-/
def readByte (begun? : Option Begun) (byte : UInt8) : Decoded :=
  match begun? with
  | none => readLead byte
  | some begun =>
      if begun.accepts byte then
        begun.extend byte
      else
        let fresh := readLead byte
        ⟨replacement :: fresh.written, fresh.begun⟩

/-- Decode bytes from a given state of the decoder. -/
def decodeFrom : Option Begun → Bytes → List Char
  | none, [] => []
  | some _, [] => [replacement]
  | begun?, byte :: rest =>
      let next := readByte begun? byte
      next.written ++ decodeFrom next.begun rest

/-- The characters of a byte sequence. -/
def decodeChars (bytes : Bytes) : List Char :=
  decodeFrom none bytes

/-- The text of a byte sequence. -/
def decode (bytes : Bytes) : String :=
  String.ofList (decodeChars bytes)

/--
The bytes from offset `start` up to offset `stop`. Offsets past the end are
cut back to it, and a start that is not before the stop gives nothing.
-/
def slice (bytes : Bytes) (start stop : Nat) : Bytes :=
  (bytes.take stop).drop start

end JavaOutline.Text
