import JavaOutline.Proofs.ExportedClasses
import JavaOutline.Proofs.JsonGrammar

namespace JavaOutline

/-!
# The export reads back

What is written is derived by the grammar, so the reader finds in it exactly
the value that was written, with every character of every text restored. Two
catalogs with the same export therefore say the same.
-/

namespace Json

section Characters

theorem hexValue?_hexDigit
    {value : Nat}
    (small : value < 16) :
    hexValue? (Text.hexDigit value) = some value := by
  revert value
  decide

theorem length_hexDigits (width value : Nat) :
    (Text.hexDigits width value).length = width := by
  induction width generalizing value with
  | zero =>
      rfl
  | succ width inductionHypothesis =>
      simp [Text.hexDigits, inductionHypothesis]

theorem hexNumber?_hexDigits
    {width value : Nat}
    (fits : value < 16 ^ width) :
    hexNumber? (Text.hexDigits width value) = some value := by
  induction width generalizing value with
  | zero =>
      have zero : value = 0 := by
        simpa using fits
      rw [zero]
      rfl
  | succ width inductionHypothesis =>
      have leading : hexNumber? (Text.hexDigits width (value / 16)) = some (value / 16) := by
        refine inductionHypothesis ?_
        rw [Nat.pow_succ] at fits
        exact Nat.div_lt_of_lt_mul (by omega)
      have last := hexValue?_hexDigit (Nat.mod_lt value (by decide : 0 < 16))
      rw [hexNumber?] at leading ⊢
      rw [Text.hexDigits, List.foldlM_append, leading]
      simp [appendDigit, last]
      omega

theorem isUnit_hexDigits
    {unit : Nat}
    (small : unit < 0x10000) :
    IsUnit (Text.hexDigits 4 unit) unit :=
  ⟨length_hexDigits 4 unit, hexNumber?_hexDigits small⟩

theorem escapedChar?_of_shortEscape?
    {character letter : Char}
    (short : shortEscape? character = some letter) :
    escapedChar? letter = some character := by
  unfold shortEscape? at short
  split_ifs at short with quote backslash newline returned tab feed back
  all_goals
    cases short
    subst character
    rfl

theorem derivesChar_unitEscapes
    {character : Char}
    {high low : Nat}
    (isHigh : isHighUnit high = true)
    (isLow : isLowUnit low = true)
    (code : character.toNat = pairCode high low) :
    DerivesChar character (unitEscape high ++ unitEscape low) := by
  have smallHigh : high < 0x10000 := by
    simp [isHighUnit] at isHigh
    omega
  have smallLow : low < 0x10000 := by
    simp [isLowUnit] at isLow
    omega
  exact .pair (isUnit_hexDigits smallHigh) (isUnit_hexDigits smallLow) isHigh isLow code

/-- Ten bits for each of the two units. -/
theorem surrogates_of_bits
    {upper lower : Nat}
    (smallUpper : upper < 0x400)
    (smallLower : lower < 0x400) :
    isHighUnit (0xD800 + upper) = true ∧
      isLowUnit (0xDC00 + lower) = true ∧
      pairCode (0xD800 + upper) (0xDC00 + lower) = 0x10000 + upper * 0x400 + lower := by
  refine ⟨?_, ?_, ?_⟩
  · simp [isHighUnit]
    omega
  · simp [isLowUnit]
    omega
  · unfold pairCode
    rw [Nat.add_sub_cancel_left, Nat.add_sub_cancel_left]

theorem derivesChar_numberEscape (character : Char) :
    DerivesChar character (numberEscape character.toNat) := by
  unfold numberEscape
  split_ifs with basic
  · exact .unit (isUnit_hexDigits basic)
  · have valid := Text.toNat_cases character
    have smallUpper : (character.toNat - 0x10000) / 0x400 < 0x400 := by
      omega
    have smallLower : (character.toNat - 0x10000) % 0x400 < 0x400 :=
      Nat.mod_lt _ (by decide)
    obtain ⟨isHigh, isLow, code⟩ := surrogates_of_bits smallUpper smallLower
    refine derivesChar_unitEscapes isHigh isLow (Eq.trans ?_ code.symm)
    omega

/-- Every way of writing a character is one that the grammar knows. -/
theorem derivesChar_writeChar (character : Char) :
    DerivesChar character (writeChar character) := by
  unfold writeChar
  split
  case isTrue plain =>
    simp only [isPlain, Bool.and_eq_true, decide_eq_true_eq, bne_iff_ne] at plain
    obtain ⟨⟨⟨visible, -⟩, notQuote⟩, notEscape⟩ := plain
    exact .plain visible notQuote notEscape
  case isFalse =>
    split
    case h_1 letter short =>
      exact .letter (escapedChar?_of_shortEscape? short)
    case h_2 =>
      exact derivesChar_numberEscape character

theorem derivesText_writeChars (characters : List Char) :
    DerivesText characters (characters.flatMap writeChar) := by
  induction characters with
  | nil =>
      exact .nil
  | cons character rest inductionHypothesis =>
      exact .cons (derivesChar_writeChar character) inductionHypothesis

end Characters

section Values

theorem spaces_newLine (level : Nat) :
    Spaces (newLine level) := by
  intro character member
  rcases List.mem_cons.mp member with isNewLine | isIndent
  · rw [isNewLine]
    rfl
  · rw [List.eq_of_mem_replicate isIndent]
    rfl

theorem spaces_nil : Spaces [] :=
  fun _ member => absurd member List.not_mem_nil

theorem spaces_blank : Spaces [' '] := by
  simp [Spaces, isSpace]

mutual

/-- A value is written as the grammar derives it, at any level. -/
theorem derives_write (level : Nat) :
    ∀ value : Json, Derives (.value value) (write level value)
  | .null => by
      rw [write]
      exact .literalNull
  | .bool true => by
      rw [write]
      exact .literalTrue
  | .bool false => by
      rw [write]
      exact .literalFalse
  | .text value => by
      rw [write, writeText]
      exact .text (derivesText_writeChars value.toList)
  | .list [] => by
      rw [write]
      exact .emptyList spaces_nil
  | .list (item :: rest) => by
      have items := derives_writeItems (level + 1) item rest (spaces_newLine level)
        (derives_write (level + 1) item)
      simpa [write] using Derives.list items
  | .object [] => by
      rw [write]
      exact .emptyObject spaces_nil
  | .object ((key, value) :: rest) => by
      have members := derives_writeMembers (level + 1) key value rest (spaces_newLine level)
        (derives_write (level + 1) value)
      simpa [write, writeText] using Derives.object members

/-- The items after the first carry the blanks before the closing bracket along. -/
theorem derives_writeItems
    (level : Nat)
    (item : Json) :
    ∀ (rest : List Json) {closing : List Char},
      Spaces closing →
      Derives (.value item) (write level item) →
      Derives (.items (item :: rest))
        (newLine level ++ (write level item ++ (writeItems level rest ++ closing)))
  | [], closing, blank, derived => by
      simpa [writeItems] using Derives.lastItem (spaces_newLine level) derived blank
  | next :: rest, closing, blank, derived => by
      have others := derives_writeItems level next rest blank (derives_write level next)
      simpa [writeItems] using Derives.item (spaces_newLine level) derived spaces_nil others

theorem derives_writeMembers
    (level : Nat)
    (key : String)
    (value : Json) :
    ∀ (rest : List (String × Json)) {closing : List Char},
      Spaces closing →
      Derives (.value value) (write level value) →
      Derives (.members ((key, value) :: rest))
        (newLine level ++ (writeText key ++ ([':', ' '] ++
          (write level value ++ (writeMembers level rest ++ closing)))))
  | [], closing, blank, derived => by
      have member := Derives.lastMember (spaces_newLine level)
        (derivesText_writeChars key.toList) spaces_nil spaces_blank derived blank
      simpa [writeMembers, writeText] using member
  | (nextKey, next) :: rest, closing, blank, derived => by
      have others := derives_writeMembers level nextKey next rest blank (derives_write level next)
      have member := Derives.member (spaces_newLine level)
        (derivesText_writeChars key.toList) spaces_nil spaces_blank derived spaces_nil others
      simpa [writeMembers, writeText] using member

end

theorem denotes_render (value : Json) :
    Denotes value.render.toList value := by
  refine ⟨[], write 0 value, [], spaces_nil, derives_write 0 value, spaces_nil, ?_⟩
  simp [render]

end Values

section Layout

/-- Characters that are visible, spaces, or ends of lines. -/
def Printable (characters : List Char) : Prop :=
  ∀ character ∈ characters,
    character = '\n' ∨ 0x20 ≤ character.toNat ∧ character.toNat ≤ 0x7E

theorem printable_append
    {first second : List Char} :
    Printable (first ++ second) ↔ Printable first ∧ Printable second :=
  List.forall_mem_append

theorem printable_cons
    {character : Char}
    {rest : List Char} :
    Printable (character :: rest) ↔
      (character = '\n' ∨ 0x20 ≤ character.toNat ∧ character.toNat ≤ 0x7E) ∧
        Printable rest :=
  List.forall_mem_cons

theorem printable_nil : Printable [] :=
  List.forall_mem_nil _

theorem printable_hexDigits (width value : Nat) :
    Printable (Text.hexDigits width value) := by
  have visible :
      ∀ digit < 16,
        0x20 ≤ (Text.hexDigit digit).toNat ∧ (Text.hexDigit digit).toNat ≤ 0x7E := by
    decide
  induction width generalizing value with
  | zero =>
      exact printable_nil
  | succ width inductionHypothesis =>
      have last := visible (value % 16) (Nat.mod_lt _ (by decide))
      exact printable_append.mpr ⟨inductionHypothesis (value / 16),
        printable_cons.mpr ⟨.inr last, printable_nil⟩⟩

theorem printable_unitEscape (unit : Nat) :
    Printable (unitEscape unit) := by
  refine printable_append.mpr ⟨?_, printable_hexDigits 4 unit⟩
  simp [Printable]

theorem printable_writeChar (character : Char) :
    Printable (writeChar character) := by
  unfold writeChar
  split
  case isTrue plain =>
    simp only [isPlain, Bool.and_eq_true, decide_eq_true_eq] at plain
    exact printable_cons.mpr ⟨.inr plain.1.1, printable_nil⟩
  case isFalse =>
    split
    case h_1 letter short =>
      unfold shortEscape? at short
      split_ifs at short
      all_goals
        cases short
        simp [Printable]
    case h_2 =>
      unfold numberEscape
      split
      · exact printable_unitEscape _
      · exact printable_append.mpr ⟨printable_unitEscape _, printable_unitEscape _⟩

theorem printable_writeText (text : String) :
    Printable (writeText text) := by
  have body : Printable (text.toList.flatMap writeChar) := by
    intro character member
    obtain ⟨source, -, written⟩ := List.mem_flatMap.mp member
    exact printable_writeChar source character written
  simpa [writeText, printable_cons, printable_append, printable_nil] using body

theorem printable_newLine (level : Nat) :
    Printable (newLine level) := by
  refine printable_cons.mpr ⟨.inl rfl, ?_⟩
  intro character member
  rw [List.eq_of_mem_replicate member]
  simp

mutual

/-- Nothing else than visible characters and the layout is ever written. -/
theorem printable_write (level : Nat) :
    ∀ value : Json, Printable (write level value)
  | .null => by
      simp [write, Printable]
  | .bool true => by
      simp [write, Printable]
  | .bool false => by
      simp [write, Printable]
  | .text value => by
      rw [write]
      exact printable_writeText value
  | .list [] => by
      simp [write, Printable]
  | .list (item :: rest) => by
      simp [write, printable_cons, printable_append, printable_nil, printable_newLine,
        printable_write (level + 1) item, printable_writeItems (level + 1) rest]
  | .object [] => by
      simp [write, Printable]
  | .object ((key, value) :: rest) => by
      simp [write, printable_cons, printable_append, printable_nil, printable_newLine,
        printable_writeText, printable_write (level + 1) value,
        printable_writeMembers (level + 1) rest]

theorem printable_writeItems (level : Nat) :
    ∀ items : List Json, Printable (writeItems level items)
  | [] => by
      simp [writeItems, printable_nil]
  | item :: rest => by
      simp [writeItems, printable_cons, printable_append, printable_newLine,
        printable_write level item, printable_writeItems level rest]

theorem printable_writeMembers (level : Nat) :
    ∀ members : List (String × Json), Printable (writeMembers level members)
  | [] => by
      simp [writeMembers, printable_nil]
  | (key, value) :: rest => by
      simp [writeMembers, printable_cons, printable_append, printable_newLine,
        printable_writeText, printable_write level value, printable_writeMembers level rest]

end

end Layout

theorem texts_inj
    {first second : List String}
    (same : texts first = texts second) :
    first = second :=
  (List.map_inj_right fun _ _ => Json.text.inj).mp (Json.list.inj same)

theorem optionalText_inj
    {first second : Option String}
    (same : optionalText first = optionalText second) :
    first = second := by
  cases first with
  | none =>
      cases second with
      | none =>
          rfl
      | some value =>
          cases same
  | some value =>
      cases second with
      | none =>
          cases same
      | some other =>
          cases same
          rfl

end Json

theorem Status.name_inj
    {first second : Status}
    (same : first.name = second.name) :
    first = second := by
  revert same
  cases first <;> cases second <;> decide

/-- What the export tells of a file: its classes are dictionaries of their own. -/
structure ExportedFile where
  path : String
  status : Status
  message : Option String
  issues : List String
  classes : List Json

/-- An exported file tells of the outcome at a path, and its dictionaries show the classes. -/
structure ExportedFile.TellsOf
    (noPackage : NoPackage)
    (entry : String × FileOutcome)
    (file : ExportedFile) :
    Prop where
  path : file.path = entry.1
  status : file.status = entry.2.status
  message : file.message = entry.2.message
  issues : file.issues = entry.2.issues.map SyntaxIssue.describe
  classes : List.Forall₂ (ExportsClass noPackage) entry.2.declarations file.classes

namespace ExportedFile

/-- The dictionary of a file. -/
def toJson (file : ExportedFile) : Json :=
  .object [
    ("path", .text file.path),
    ("status", .text file.status.name),
    ("message", .optionalText file.message),
    ("issues", .texts file.issues),
    ("classes", .list file.classes)]

theorem toJson_inj
    {first second : ExportedFile}
    (same : first.toJson = second.toJson) :
    first = second := by
  simp only [toJson, Json.object.injEq, List.cons.injEq, Prod.mk.injEq, Json.text.injEq,
    Json.list.injEq, true_and, and_true] at same
  obtain ⟨path, status, message, issues, classes⟩ := same
  cases first
  cases second
  cases path
  cases Status.name_inj status
  cases Json.optionalText_inj message
  cases Json.texts_inj issues
  cases classes
  rfl

end ExportedFile

/-- The files of a catalog as the export tells of them, in order. -/
def Catalog.exported (noPackage : NoPackage) (catalog : Catalog) : List ExportedFile :=
  catalog.entries.map fun entry => {
    path := entry.1
    status := entry.2.status
    message := entry.2.message
    issues := entry.2.issues.map SyntaxIssue.describe
    classes := entry.2.declarations.map (ClassDecl.toJson noPackage)
  }

/-- One exported file tells of each outcome, in the order of the catalog. -/
theorem Catalog.exported_tellsOf (noPackage : NoPackage) (catalog : Catalog) :
    List.Forall₂ (ExportedFile.TellsOf noPackage)
      catalog.entries (catalog.exported noPackage) := by
  rw [exported, List.forall₂_map_right_iff]
  refine List.forall₂_same.mpr fun entry _ => ⟨rfl, rfl, rfl, rfl, ?_⟩
  rw [List.forall₂_map_right_iff]
  exact List.forall₂_same.mpr fun declared _ => exportsClass_toJson noPackage declared

theorem Catalog.toJson_eq (noPackage : NoPackage) (catalog : Catalog) :
    catalog.toJson noPackage =
      .object [("files", .list ((catalog.exported noPackage).map ExportedFile.toJson))] := by
  rw [exported, List.map_map]
  rfl

theorem Catalog.exported_of_toJson
    {noPackage otherNoPackage : NoPackage}
    {catalog other : Catalog}
    (same : catalog.toJson noPackage = other.toJson otherNoPackage) :
    catalog.exported noPackage = other.exported otherNoPackage := by
  simp only [toJson_eq, Json.object.injEq, List.cons.injEq, Prod.mk.injEq,
    Json.list.injEq, true_and, and_true] at same
  exact (List.map_inj_right fun _ _ => ExportedFile.toJson_inj).mp same

/--
The export of a catalog is plain ASCII without control characters, the ends of
its lines apart. As JSON it stands for the dictionary of its files and for
nothing else, and the reader finds it. Each file tells of one outcome and shows
its classes. So the export determines what it tells.
-/
theorem exportText_reads_back
    (noPackage : NoPackage)
    (catalog : Catalog) :
    (∀ character ∈ (catalog.exportText noPackage).toList,
        character = '\n' ∨ 0x20 ≤ character.toNat ∧ character.toNat ≤ 0x7E) ∧
      (∀ value,
        Json.Denotes (catalog.exportText noPackage).toList value ↔
          value = catalog.toJson noPackage) ∧
      Json.read? (catalog.exportText noPackage).toList =
        some (.object [
          ("files", .list ((catalog.exported noPackage).map ExportedFile.toJson))]) ∧
      List.Forall₂ (ExportedFile.TellsOf noPackage)
        catalog.entries (catalog.exported noPackage) ∧
      ∀ otherNoPackage other,
        catalog.exportText noPackage = Catalog.exportText otherNoPackage other →
        catalog.exported noPackage = other.exported otherNoPackage := by
  have denotes : Json.Denotes (catalog.exportText noPackage).toList (catalog.toJson noPackage) :=
    Json.denotes_render _
  refine ⟨?_, fun value => ⟨fun other => other.unique denotes, fun same => same ▸ denotes⟩,
    ?_, catalog.exported_tellsOf noPackage, ?_⟩
  · have printable := Json.printable_write 0 (catalog.toJson noPackage)
    simpa [Catalog.exportText, Json.render, Json.Printable] using printable
  · rw [← Catalog.toJson_eq]
    exact Json.read?_eq_some_iff.mpr denotes
  · intro otherNoPackage other sameText
    have otherDenotes :
        Json.Denotes (other.exportText otherNoPackage).toList (other.toJson otherNoPackage) :=
      Json.denotes_render _
    rw [← sameText] at otherDenotes
    exact Catalog.exported_of_toJson (denotes.unique otherDenotes)

end JavaOutline
