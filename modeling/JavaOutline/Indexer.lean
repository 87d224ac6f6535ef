import JavaOutline.Listener
import JavaOutline.Outcome
import JavaOutline.Outline.Unit
import JavaOutline.Text.CodePoint

namespace JavaOutline

open Text (Bytes CodePoints)

/-!
# From source text to outcome

The parser is given from outside, as a function that may have no tree for a
source. A source with bad syntax, or with a declaration that cannot be
recorded, gives a failed outcome. Only a text that has no form in bytes, or a
parser or a listener that cannot do its work, interrupts.
-/

/-- Why a source has no outcome at all. -/
inductive Interruption (Fault : Type) where
  /-- There is a surrogate in the text. -/
  | unencodable
  /-- The parser has no tree for the source. -/
  | noTree
  /-- The listener fails. -/
  | listenerFailed (fault : Fault)
  deriving Repr, DecidableEq

/-- A parser together with the listener that each source is checked with. -/
structure Indexer (State Fault : Type) where
  parse? : Bytes → Option Node
  listener : Listener State Fault

/-- The outcome of a source that is turned down for its syntax. -/
def rejectedOutcome (path : String) (issues : List SyntaxIssue) : FileOutcome :=
  .failed path .syntaxError (some (summarizeIssues issues)) issues

/-- The outcome of a source with a declaration that cannot be recorded. -/
def incompleteOutcome (path : String) (missing : MissingPart) : FileOutcome :=
  .failed path .extractionError (some missing.message) []

variable {State Fault : Type}

/-- The outcome of a tree without issues. It has no faults of its own. -/
def outlineChecked
    (source : Bytes)
    (root : Node)
    (path fallbackPackage : String) :
    Traced Fault FileOutcome :=
  let unit := outlineUnit source root path fallbackPackage
  match unit.outcome with
  | .ok declarations =>
      ⟨unit.events ++ [.outlined path declarations.length], .ok (.parsed path declarations)⟩
  | .error missing =>
      ⟨unit.events ++ [.declarationRejected path missing], .ok (incompleteOutcome path missing)⟩

/-- Check the tree of a source and outline it. -/
def Indexer.indexBytes
    (indexer : Indexer State Fault)
    (source : Bytes)
    (path fallbackPackage : String) :
    Traced (Interruption Fault) FileOutcome :=
  match indexer.parse? source with
  | none => ⟨[], .error .noTree⟩
  | some tree =>
      match checkTree indexer.listener source tree with
      | .error (.failed fault) => ⟨[], .error (.listenerFailed fault)⟩
      | .error (.rejected issues) =>
          ⟨[.syntaxRejected path issues], .ok (rejectedOutcome path issues)⟩
      | .ok root => outlineChecked source root path fallbackPackage

/-- Outline a source text, which is encoded before anything else is done. -/
def Indexer.index
    (indexer : Indexer State Fault)
    (text : CodePoints)
    (path fallbackPackage : String) :
    Traced (Interruption Fault) FileOutcome :=
  match text.encode? with
  | none => ⟨[], .error .unencodable⟩
  | some source => indexer.indexBytes source path fallbackPackage

/-- A text of characters is outlined by its bytes. -/
theorem Indexer.index_ofString
    (indexer : Indexer State Fault)
    (text path fallbackPackage : String) :
    indexer.index text path fallbackPackage =
      indexer.indexBytes (Text.encode text) path fallbackPackage := by
  simp only [Indexer.index, CodePoints.encode?_ofString]

end JavaOutline
