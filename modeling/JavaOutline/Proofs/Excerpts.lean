import Mathlib.Data.List.DropRight
import JavaOutline.Proofs.IssueCalls

namespace JavaOutline

open Text (Bytes)

/-!
# The excerpts of unexpected input

An issue about unexpected input quotes the beginning of it. Whatever bytes the
source is made of, the quotation is a clean beginning of one line. This rests on
one relation between two classes of characters: whatever ends a line is blank,
so a text that has lost the blanks at its ends cannot begin with the end of a
line.
-/

namespace Text

/-- Whatever ends a line is blank; the converse fails, for a space among others. -/
theorem isBlank_of_isLineBreak
    {character : Char}
    (lineBreak : isLineBreak character = true) :
    isBlank character = true := by
  simp only [isLineBreak, isBlank, Bool.or_eq_true, Bool.and_eq_true, decide_eq_true_eq,
    beq_iff_eq] at lineBreak ⊢
  omega

/-- A text without the blanks at its ends, and nothing else lost. -/
structure IsStripped (text stripped : List Char) : Prop where
  framed :
    ∃ front back,
      text = front ++ stripped ++ back ∧
        (∀ character ∈ front, isBlank character = true) ∧
        ∀ character ∈ back, isBlank character = true
  first : ∀ character, stripped.head? = some character → isBlank character = false
  last : ∀ character, stripped.getLast? = some character → isBlank character = false

section Stripping

variable {text : List Char}

/-- What is left once leading blanks are dropped begins with none. -/
theorem head?_dropWhile_isBlank
    {character : Char}
    (first : (text.dropWhile isBlank).head? = some character) :
    isBlank character = false := by
  have notBlank := List.head?_dropWhile_not isBlank text
  rw [first] at notBlank
  exact notBlank

theorem stripChars_eq (text : List Char) :
    stripChars text = (text.dropWhile isBlank).rdropWhile isBlank :=
  rfl

theorem isStripped_stripChars (text : List Char) :
    IsStripped text (stripChars text) := by
  rw [stripChars_eq]
  refine ⟨⟨text.takeWhile isBlank, (text.dropWhile isBlank).rtakeWhile isBlank, ?_, ?_, ?_⟩,
    ?_, ?_⟩
  · rw [List.append_assoc, List.rdropWhile_append_rtakeWhile, List.takeWhile_append_dropWhile]
  · intro character member
    exact List.mem_takeWhile_imp member
  · intro character member
    exact List.mem_rtakeWhile_imp member
  · intro character first
    obtain ⟨lost, whole⟩ := List.rdropWhile_prefix isBlank (text.dropWhile isBlank)
    have sameFirst : (text.dropWhile isBlank).head? = some character := by
      rw [← whole, List.head?_append, first]
      rfl
    exact head?_dropWhile_isBlank sameFirst
  · intro character last
    rw [List.rdropWhile, List.getLast?_reverse] at last
    exact head?_dropWhile_isBlank last

/-- Nothing is left exactly if there was nothing but blanks. -/
theorem stripChars_eq_nil_iff :
    stripChars text = [] ↔ ∀ character ∈ text, isBlank character = true := by
  rw [stripChars_eq, List.rdropWhile_eq_nil_iff]
  constructor
  · intro blankAfter character member
    rw [← List.takeWhile_append_dropWhile (p := isBlank) (l := text)] at member
    rcases List.mem_append.mp member with leading | later
    · exact List.mem_takeWhile_imp leading
    · exact blankAfter character later
  · intro blank character later
    exact blank character ((List.dropWhile_suffix isBlank).subset later)

end Stripping

end Text

/-- An excerpt is a clean beginning of one line of a text. -/
structure CleanExcerpt (text excerpt : List Char) : Prop where
  short : excerpt.length ≤ 40
  oneLine : ∀ character ∈ excerpt, Text.isLineBreak character = false
  empty : excerpt = [] ↔ ∀ character ∈ text, Text.isBlank character = true
  first : ∀ character, excerpt.head? = some character → Text.isBlank character = false
  /-- A short excerpt ends where the line or the text does. -/
  begins :
    ∃ stripped,
      Text.IsStripped text stripped ∧
        excerpt <+: stripped ∧
        (excerpt.length < 40 →
          excerpt = stripped ∨
            ∃ separator rest,
              Text.isLineBreak separator = true ∧ stripped = excerpt ++ separator :: rest)

section Excerpt

variable {text : List Char}

/-- A stripped text does not begin with the end of a line. -/
theorem firstLineChars_eq_nil_iff :
    Text.firstLineChars (Text.stripChars text) = [] ↔ Text.stripChars text = [] := by
  have notBlank := (Text.isStripped_stripChars text).first
  cases shape : Text.stripChars text with
  | nil =>
      simp [Text.firstLineChars]
  | cons character rest =>
      have goesOn : Text.isLineBreak character = false := by
        by_contra ends
        have blank := Text.isBlank_of_isLineBreak (eq_true_of_ne_false ends)
        rw [notBlank character (by rw [shape]; rfl)] at blank
        contradiction
      simp [Text.firstLineChars, goesOn]

/-- The first line ends at the end of the text or at the end of a line. -/
theorem firstLineChars_cases (characters : List Char) :
    Text.firstLineChars characters = characters ∨
      ∃ separator rest,
        Text.isLineBreak separator = true ∧
          characters = Text.firstLineChars characters ++ separator :: rest := by
  have split :
      Text.firstLineChars characters ++
          characters.dropWhile (fun character => !Text.isLineBreak character) = characters :=
    List.takeWhile_append_dropWhile
  have stops := List.head?_dropWhile_not (fun character => !Text.isLineBreak character) characters
  cases after : characters.dropWhile (fun character => !Text.isLineBreak character) with
  | nil =>
      rw [after, List.append_nil] at split
      exact .inl split
  | cons separator rest =>
      rw [after] at split stops
      exact .inr ⟨separator, rest, by simpa using stops, split.symm⟩

theorem excerptChars_eq_nil_iff :
    excerptChars text = [] ↔ ∀ character ∈ text, Text.isBlank character = true := by
  rw [excerptChars, List.take_eq_nil_iff, ← Text.stripChars_eq_nil_iff,
    ← firstLineChars_eq_nil_iff]
  simp [excerptLimit]

/-- An excerpt that the limit does not cut is the whole first line. -/
theorem excerptChars_of_short
    (short : (excerptChars text).length < 40) :
    excerptChars text = Text.firstLineChars (Text.stripChars text) := by
  refine List.take_of_length_le ?_
  rw [excerptChars, List.length_take, excerptLimit] at short
  rw [excerptLimit]
  omega

theorem excerptChars_prefix (text : List Char) :
    excerptChars text <+: Text.stripChars text :=
  (List.take_prefix _ _).trans (List.takeWhile_prefix _)

theorem cleanExcerpt_excerptChars (text : List Char) :
    CleanExcerpt text (excerptChars text) := by
  have stripped := Text.isStripped_stripChars text
  have begins := excerptChars_prefix text
  refine ⟨?_, ?_, excerptChars_eq_nil_iff, ?_, _, stripped, begins, ?_⟩
  · rw [excerptChars, List.length_take]
    exact Nat.min_le_left _ _
  · intro character member
    have inLine := List.mem_takeWhile_imp ((List.take_subset _ _) member)
    simpa using inLine
  · intro character first
    obtain ⟨rest, whole⟩ := begins
    refine stripped.first character ?_
    rw [← whole, List.head?_append, first]
    rfl
  · intro short
    rw [excerptChars_of_short short]
    rcases firstLineChars_cases (Text.stripChars text) with whole | cut
    · exact .inl whole
    · exact .inr cut

-- the unit separator is blank and ends no line
example :
    excerptChars "\u2028 a\x1fb\x0bc ".toList = "a\x1fb".toList := by
  decide

end Excerpt

/--
A search comes to a node: to a flagged root, and from a node that is whole to
its flagged children.
-/
inductive SearchReaches (root : Node) : Node → Prop where
  | start
      (flagged : root.info.hasError = true) :
      SearchReaches root root
  | enter
      {node child : Node}
      (reached : SearchReaches root node)
      (whole : ¬ node.IsBroken)
      (isChild : child ∈ node.children)
      (flagged : child.info.hasError = true) :
      SearchReaches root child

section Reached

variable {source : Bytes} {root node : Node} {issue : SyntaxIssue}

theorem SearchReaches.trans
    {middle : Node}
    (toMiddle : SearchReaches root middle)
    (further : SearchReaches middle node) :
    SearchReaches root node := by
  induction further with
  | start flagged =>
      exact toMiddle
  | enter reached whole isChild flagged inductionHypothesis =>
      exact inductionHypothesis.enter whole isChild flagged

theorem mem_flaggedIssues_iff
    {nodes : List Node} :
    issue ∈ flaggedIssues source nodes ↔
      ∃ node ∈ nodes, node.info.hasError = true ∧ issue ∈ node.issues source := by
  rw [flaggedIssues_eq, List.mem_flatMap]
  simp only [List.mem_filter, and_assoc]

/-- Wherever a search comes, it looks for issues that the root has as well. -/
theorem SearchReaches.mem_issues
    (reached : SearchReaches root node)
    (present : issue ∈ node.issues source) :
    issue ∈ flaggedIssues source [root] := by
  induction reached with
  | start flagged =>
      exact mem_flaggedIssues_iff.mpr ⟨root, List.mem_singleton_self root, flagged, present⟩
  | enter reached whole isChild flagged inductionHypothesis =>
      refine inductionHypothesis ?_
      rw [Node.issues_of_none (issue?_eq_none_iff.mpr whole)]
      exact mem_flaggedIssues_iff.mpr ⟨_, isChild, flagged, present⟩

/-- Every issue of a tree is that of a node to which the search comes. -/
theorem exists_reached_of_mem_issues
    (flagged : root.info.hasError = true)
    (present : issue ∈ root.issues source) :
    ∃ node, SearchReaches root node ∧ node.info.issue? source = some issue := by
  induction root using Node.childInduction with
  | step root inductionHypothesis =>
      cases own : root.info.issue? source with
      | some ownIssue =>
          rw [Node.issues_of_issue own] at present
          refine ⟨root, .start flagged, ?_⟩
          rw [own, List.mem_singleton.mp present]
      | none =>
          rw [Node.issues_of_none own] at present
          obtain ⟨child, isChild, childFlagged, inChild⟩ := mem_flaggedIssues_iff.mp present
          obtain ⟨node, reached, isIssue⟩ :=
            inductionHypothesis child isChild childFlagged inChild
          have toChild : SearchReaches root child :=
            (SearchReaches.start flagged).enter (issue?_eq_none_iff.mp own) isChild childFlagged
          exact ⟨node, toChild.trans reached, isIssue⟩

variable {State Fault : Type} {listener : Listener State Fault}

/-- Whatever a search finds is an issue of a node to which it comes. -/
theorem exists_reached_of_found
    (found : issue ∈ (findIssues listener source root).issues) :
    ∃ node, SearchReaches root node ∧ node.info.issue? source = some issue := by
  have told := (tellIssues_eq_take listener listener.initial [] (flaggedIssues source [root])).1
  rw [← findIssues_eq_tellIssues, List.nil_append] at told
  rw [told] at found
  obtain ⟨top, isRoot, flagged, present⟩ :=
    mem_flaggedIssues_iff.mp (List.mem_of_mem_take found)
  rw [List.mem_singleton.mp isRoot] at flagged present
  exact exists_reached_of_mem_issues flagged present

/-- A listener that never refuses hears of the issues of all nodes to which a search comes. -/
theorem SearchReaches.found
    (reached : SearchReaches root node)
    (neverRefuses : listener.NeverRefuses)
    (isIssue : node.info.issue? source = some issue) :
    issue ∈ (findIssues listener source root).issues := by
  have own : issue ∈ node.issues source := by
    rw [Node.issues_of_issue isIssue]
    exact List.mem_singleton_self issue
  have told :=
    (tellIssues_of_neverRefuses neverRefuses listener.initial []
      (flaggedIssues source [root])).1
  rw [findIssues_eq_tellIssues, told]
  exact reached.mem_issues own

end Reached

/-- An issue quotes the beginning of the unexpected input that a node holds. -/
structure QuotesInput
    (source : Bytes)
    (node : Node)
    (issue : SyntaxIssue) : Prop where
  present : node.info.missing = false
  unexpected : node.kind = "ERROR"
  point : issue.point = node.info.point
  message :
    ∃ excerpt,
      issue.message = "unexpected input near '" ++ String.ofList excerpt ++ "'" ∧
        CleanExcerpt (node.text source).toList excerpt

theorem quotesInput_of_issue?
    {source : Bytes}
    {node : Node}
    {issue : SyntaxIssue}
    (present : node.info.missing = false)
    (isIssue : node.info.issue? source = some issue) :
    QuotesInput source node issue := by
  have reports := reports_of_issue? isIssue
  have broken : node.IsBroken := by
    by_contra whole
    rw [issue?_eq_none_iff.mpr whole] at isIssue
    cases isIssue
  have unexpected : node.kind = "ERROR" := by
    rcases broken with missing | unexpected
    · simp [present] at missing
    · exact unexpected
  exact ⟨present, unexpected, reports.point, _, reports.unexpected present,
    cleanExcerpt_excerptChars _⟩

variable {State Fault : Type}

/--
Whatever the bytes of a source, the flags of a tree and the listener, each
issue that a search finds is about a missing node, or it quotes a clean
beginning of unexpected input that the search has come to. A listener that
never refuses hears of all the unexpected input that the search comes to.
-/
theorem findIssues_quotes_clean_excerpts
    (listener : Listener State Fault)
    (source : Bytes)
    (root : Node) :
    (∀ issue ∈ (findIssues listener source root).issues,
        ∃ node,
          SearchReaches root node ∧
            (node.info.missing = true ∧ issue.message = "missing '" ++ node.kind ++ "'" ∨
              QuotesInput source node issue)) ∧
      (listener.NeverRefuses →
        ∀ node,
          SearchReaches root node →
          node.info.missing = false →
          node.kind = "ERROR" →
          ∃ issue ∈ (findIssues listener source root).issues, QuotesInput source node issue) := by
  constructor
  · intro issue found
    obtain ⟨node, reached, isIssue⟩ := exists_reached_of_found found
    refine ⟨node, reached, ?_⟩
    by_cases missing : node.info.missing = true
    · exact .inl ⟨missing, (reports_of_issue? isIssue).missing missing⟩
    · exact .inr (quotesInput_of_issue? (eq_false_of_ne_true missing) isIssue)
  · intro neverRefuses node reached present unexpected
    obtain ⟨issue, isIssue⟩ : ∃ issue, node.info.issue? source = some issue := by
      refine Option.ne_none_iff_exists'.mp ?_
      intro none
      exact issue?_eq_none_iff.mp none (.inr unexpected)
    exact ⟨issue, reached.found neverRefuses isIssue, quotesInput_of_issue? present isIssue⟩

end JavaOutline
