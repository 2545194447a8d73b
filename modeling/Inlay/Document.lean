import Inlay.Failure
import Inlay.LineIndex
import Inlay.Server.Encoding
import Inlay.Uri.Basic

/-!
# Open documents

The editor owns the text of an open document and reports its edits.  Each batch
of changes carries a version, and only a newer version than the current one is
taken.  The changes of a batch apply one after the other, each to the text that
the one before left.
-/

namespace Inlay

/-- One change: a new text for a range, or for the whole document. -/
structure Change where
  range : Option Range := none
  text : String
  deriving Repr, DecidableEq

/-- Decodes a change. -/
def Change.ofJson? (value : Json) : Option Change := do
  let field ← value.record? ["range", "rangeLength", "text"]
  let range ← Json.optional (field "range") none (Json.nullable Range.ofJson?)
  let _ ← Json.optional (field "rangeLength") none (Json.nullable Json.nat32?)
  let text ← Json.required (field "text") Json.text?
  some { range, text }

/-- The offset of a position: a character past the content of its line stands for
the end of the content, and a line that does not exist for the end of the text. -/
def clampedOffset (index : LineIndex) (position : Position) : Nat :=
  match index.lines[position.line]? with
  | none => index.length
  | some line =>
      LineIndex.widthOf (index.lines.take position.line) +
        min position.character (contentWidth line)

/-- The text after one change.  A range that ends before it starts is empty. -/
def Change.apply (text : List Char) (change : Change) : List Char :=
  match change.range with
  | none => change.text.toList
  | some range =>
      let index := LineIndex.ofChars text
      let start := clampedOffset index range.start
      let stop := max (clampedOffset index range.stop) start
      text.take start ++ change.text.toList ++ text.drop stop

/-- A text and its version. -/
structure Revision where
  text : List Char
  version : Int
  deriving Repr, DecidableEq

/-- Applies a batch of changes that leads to the given version. -/
def Revision.apply (revision : Revision) (changes : List Change) (version : Int) :
    Outcome Revision :=
  if version ≤ revision.version then
    .error (.invalidInput
      ("Version " ++ toString version ++ " not newer than " ++ toString revision.version))
  else .ok { text := changes.foldl Change.apply revision.text, version }

/-- An open document.  The id tells it apart from an earlier document that was
open under the same URI. -/
structure Document where
  id : Nat
  uri : Uri
  revision : Revision
  deriving Repr, DecidableEq

namespace Document

/-- The current text. -/
def text (document : Document) : String := String.ofList document.revision.text

/-- The current version. -/
def version (document : Document) : Int := document.revision.version

/-- Applies a batch of changes; a refused batch leaves the document as it is. -/
def apply (document : Document) (changes : List Change) (version : Int) : Outcome Document :=
  match document.revision.apply changes version with
  | .ok revision => .ok { document with revision }
  | .error failure => .error failure

end Document

end Inlay
