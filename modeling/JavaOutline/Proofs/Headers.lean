import Mathlib.Data.List.TakeWhile
import JavaOutline.Proofs.Decoding
import JavaOutline.Proofs.DeclarationNodes

namespace JavaOutline

open Text (Bytes)

/-!
# Headers end before the first brace

A header is cut from the characters of its node, at the first opening brace. It
could be cut from the bytes just as well: an opening brace is a single byte, the
decoder writes one for that byte only, and it does so whatever it has begun to
read before it. So a header is right even where the bytes before the brace are no
whole character.
-/

/-- The bytes up to the first opening brace; all of them if there is none. -/
def cutAtBrace (bytes : Bytes) : Bytes :=
  bytes.takeWhile fun byte => byte != 0x7B

theorem not_mem_cutAtBrace (bytes : Bytes) :
    0x7B ∉ cutAtBrace bytes := by
  intro present
  have kept := List.mem_takeWhile_imp present
  simp at kept

/-- Bytes are cut at a brace, or there is none in them. -/
theorem cutAtBrace_cases (bytes : Bytes) :
    bytes = cutAtBrace bytes ∨ ∃ rest, bytes = cutAtBrace bytes ++ 0x7B :: rest := by
  have parts : cutAtBrace bytes ++ bytes.dropWhile (fun byte => byte != 0x7B) = bytes :=
    List.takeWhile_append_dropWhile
  cases dropped : bytes.dropWhile (fun byte => byte != 0x7B) with
  | nil =>
      rw [dropped, List.append_nil] at parts
      exact .inl parts.symm
  | cons byte rest =>
      have isBrace : byte = 0x7B := by
        have stopped := List.head_dropWhile_not (fun byte => byte != 0x7B)
          (List.ne_nil_of_mem (dropped ▸ List.mem_cons_self))
        simpa [dropped] using stopped
      rw [dropped, isBrace] at parts
      exact .inr ⟨rest, parts.symm⟩

/-- No opening brace is written for bytes without one. -/
theorem brace_not_mem_decodeChars
    {bytes : Bytes}
    (absent : 0x7B ∉ bytes) :
    '\x7b' ∉ Text.decodeChars bytes := by
  intro present
  obtain ⟨byte, inBytes, value⟩ :=
    Text.exists_byte_of_mem_decodeFrom Text.beyondAscii_none (by decide) (by decide) present
  have isBrace : byte = 0x7B := UInt8.toNat_inj.mp value
  exact absent (isBrace ▸ inBytes)

/-- What stands before a brace is decoded as if nothing followed. -/
theorem decodeChars_append_brace (before rest : Bytes) :
    Text.decodeChars (before ++ 0x7B :: rest) =
      Text.decodeChars before ++ '\x7b' :: Text.decodeChars rest :=
  Text.decodeFrom_append_ascii Text.beyondAscii_none (by decide) before rest

/-- What is kept of a text that is cut at its first brace, in bytes and in characters. -/
structure EndsBeforeBrace (source : Bytes) (info : NodeInfo) : Prop where
  bytes :
    info.textBeforeBrace source =
      Text.decode (cutAtBrace (Text.slice source info.start info.stop))
  noBrace : '\x7b' ∉ (info.textBeforeBrace source).toList
  begins : (info.textBeforeBrace source).toList <+: (info.text source).toList
  next :
    info.textBeforeBrace source ≠ info.text source →
    ∃ rest, (info.text source).toList = (info.textBeforeBrace source).toList ++ '\x7b' :: rest

/-- Cutting the bytes and cutting the characters give the same. -/
theorem takeWhile_decodeChars (bytes : Bytes) :
    (Text.decodeChars bytes).takeWhile (fun character => character != '\x7b') =
      Text.decodeChars (cutAtBrace bytes) := by
  have kept : ∀ character ∈ Text.decodeChars (cutAtBrace bytes),
      (character != '\x7b') = true := by
    intro character present
    have absent := brace_not_mem_decodeChars (not_mem_cutAtBrace bytes)
    exact bne_iff_ne.mpr fun isBrace => absent (isBrace ▸ present)
  rcases cutAtBrace_cases bytes with whole | ⟨rest, cut⟩
  · rw [← whole] at kept ⊢
    exact List.takeWhile_eq_self_iff.mpr kept
  · have decoded := decodeChars_append_brace (cutAtBrace bytes) rest
    rw [← cut] at decoded
    rw [decoded, List.takeWhile_append_of_pos kept, List.takeWhile_cons_of_neg (by decide),
      List.append_nil]

theorem endsBeforeBrace (source : Bytes) (info : NodeInfo) :
    EndsBeforeBrace source info := by
  generalize slice : Text.slice source info.start info.stop = bytes
  have text : (info.text source).toList = Text.decodeChars bytes := by
    rw [NodeInfo.text, slice, Text.decode, String.toList_ofList]
  have header : info.textBeforeBrace source = Text.decode (cutAtBrace bytes) := by
    rw [NodeInfo.textBeforeBrace, text, takeWhile_decodeChars, Text.decode]
  have headerChars :
      (info.textBeforeBrace source).toList = Text.decodeChars (cutAtBrace bytes) := by
    rw [header, Text.decode, String.toList_ofList]
  refine ⟨by rw [header, slice], ?_, ?_, ?_⟩
  · rw [headerChars]
    exact brace_not_mem_decodeChars (not_mem_cutAtBrace bytes)
  · rw [NodeInfo.textBeforeBrace, String.toList_ofList]
    exact List.takeWhile_prefix _
  · intro different
    rcases cutAtBrace_cases bytes with whole | ⟨rest, cut⟩
    · rw [← whole, ← text] at headerChars
      exact (different (String.toList_inj.mp headerChars)).elim
    · have decoded := decodeChars_append_brace (cutAtBrace bytes) rest
      rw [← cut, ← text, ← headerChars] at decoded
      exact ⟨_, decoded⟩

/--
A header ends before the first brace byte of its node, wherever that is and
whatever bytes precede it. The classes of an outline, at every depth and in
order, have the header of their own node, and enums have none.
-/
theorem headers_end_before_first_brace
    (source : Bytes) :
    (∀ info, EndsBeforeBrace source info) ∧
      ∀ (root : Node) (file fallbackPackage : String) (classes : List ClassDecl),
        (outlineUnit source root file fallbackPackage).outcome = .ok classes →
        List.Forall₂
          (fun node declared =>
            OutlineOf source node declared ∧
              declared.head.header.text =
                if node.kind = "enum_declaration" then "" else node.textBeforeBrace source)
          (unitTypes root)
          (classes.flatMap ClassDecl.walk) := by
  refine ⟨endsBeforeBrace source, ?_⟩
  intro root file fallbackPackage classes ended
  refine (outlineUnit_forall₂ ended).imp ?_
  intro node declared outlined
  exact ⟨outlined, outlined.header⟩

section TornHeader

/-- A class with two of the three bytes of a character before its body, which holds an enum. -/
def tornBytes : Bytes :=
  Text.encode "class A" ++ [0xE2, 0x82] ++ Text.encode "\x7benum E\x7b\x7d\x7d"

def tornUnit : Node :=
  spanNode "program" none 0 19 [
    spanNode "class_declaration" none 0 19 [
      spanNode "identifier" (some "name") 6 7 [],
      spanNode "class_body" (some "body") 9 19 [
        spanNode "enum_declaration" none 10 18 [
          spanNode "identifier" (some "name") 15 16 [],
          spanNode "enum_body" (some "body") 16 18 []]]]]

/-- The torn character is replaced and the header still ends before the brace. -/
theorem tornUnit_headers_end_before_first_brace :
    ∃ classes,
      (outlineUnit tornBytes tornUnit "A.java" "").outcome = .ok classes ∧
        (classes.flatMap ClassDecl.walk).map (fun declared => declared.head.header.text) =
          ["class A\uFFFD", ""] ∧
        (unitTypes tornUnit).map Node.kind = ["class_declaration", "enum_declaration"] ∧
        List.Forall₂
          (fun node declared =>
            OutlineOf tornBytes node declared ∧
              declared.head.header.text =
                if node.kind = "enum_declaration" then "" else node.textBeforeBrace tornBytes)
          (unitTypes tornUnit)
          (classes.flatMap ClassDecl.walk) := by
  have headers :
      (outlineUnit tornBytes tornUnit "A.java" "").outcome.map
          (fun classes =>
            (classes.flatMap ClassDecl.walk).map fun declared => declared.head.header.text) =
        .ok ["class A\uFFFD", ""] := by
    decide +kernel
  obtain ⟨classes, ended, texts⟩ := map_eq_ok_iff.mp headers
  exact ⟨classes, ended, texts, by decide +kernel,
    (headers_end_before_first_brace tornBytes).2 tornUnit "A.java" "" classes ended⟩

end TornHeader

end JavaOutline
