/-!
# Finding matches in a text

A recogniser looks at the start of a text and says how long a match it finds
there.  `findAll` runs it from left to right: after a match the search resumes
past it, otherwise at the next character.  Matches are therefore in order and do
not overlap.
-/

namespace Inlay.Text

/-- A match of a recogniser. -/
structure Match (α : Type) where
  /-- Offset of the first character. -/
  start : Nat
  /-- Number of characters. -/
  length : Nat
  /-- What was recognised. -/
  value : α
  deriving Repr, DecidableEq

/-- A recogniser: what stands at the start of a text, and its length. -/
abbrev Recogniser (α : Type) := List Char → Option (α × Nat)

/-- All matches in a text whose first character has offset `at`, the next
`skip` characters belonging to a match already found. -/
def findFrom (recognise : Recogniser α) (skip offset : Nat) : List Char → List (Match α)
  | [] => []
  | c :: rest =>
      match skip with
      | left + 1 => findFrom recognise left (offset + 1) rest
      | 0 =>
          match recognise (c :: rest) with
          | some (value, length) =>
              ⟨offset, length, value⟩ :: findFrom recognise (length - 1) (offset + 1) rest
          | none => findFrom recognise 0 (offset + 1) rest

/-- All matches in a text, from left to right and without overlap. -/
def findAll (recognise : Recogniser α) (chars : List Char) : List (Match α) :=
  findFrom recognise 0 0 chars

/-- Recognises a fixed text. -/
def exactly (needle : List Char) : Recogniser Unit := fun chars =>
  if needle.isPrefixOf chars then some ((), needle.length) else none

/-- Offsets of the matches of a text, greedily from left to right; the empty
text has none. -/
def matchOffsets (needle line : List Char) : List Nat :=
  if needle.isEmpty then [] else (findAll (exactly needle) line).map Match.start

/-- Offset of the first place where a text occurs; the empty text occurs at the
start. -/
def firstOffset? (needle : List Char) : List Char → Option Nat
  | [] => if needle.isEmpty then some 0 else none
  | c :: rest =>
      if needle.isPrefixOf (c :: rest) then some 0
      else (firstOffset? needle rest).map (· + 1)

end Inlay.Text
