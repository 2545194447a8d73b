import Inlay.LineIndex
import Inlay.Text.Search
import Inlay.Token

/-!
# Where tokens stand

The tokenizer gives a line for each token but no column.  Columns are recovered
by searching the line for the token's text: the first token with some text on a
line takes the first match, the second token the second match, and so on.  A
token for which no match is left is placed at the start of its line.

The search knows nothing of token boundaries, so a name that also occurs inside
a longer word earlier on the line takes that place.
-/

namespace Inlay

/-! ## Match offsets by line and text -/

/-- A line and a text looked for on it. -/
abbrev Slot := Nat × String

/-- The slot of a token. -/
def Token.slot (token : Token) : Slot := (token.lineIndex, token.text)

/-- The lines of a source as the tokenizer counts them: pieces between line
feeds. -/
def sourceLines (source : String) : List (List Char) :=
  (splitLines source.toList).map fun line => line.takeWhile (· != '\n')

/-- The offsets at which a slot's text is found on its line. -/
def slotOffsets (lines : List (List Char)) (slot : Slot) : List Nat :=
  match lines[slot.1]? with
  | some line => Text.matchOffsets slot.2.toList line
  | none => []

/-- The match offsets of every slot that some token has. -/
structure OffsetTable where
  entries : List (Slot × List Nat)
  deriving Repr

namespace OffsetTable

/-- The table for a source and its tokens. -/
def build (source : String) (tokens : List Token) : OffsetTable :=
  let lines := sourceLines source
  ⟨(tokens.map Token.slot).eraseDups.map fun slot => (slot, slotOffsets lines slot)⟩

/-- The offset of the `nth` match of a text on a line, counted from zero. -/
def offset? (table : OffsetTable) (line : Nat) (text : String) (nth : Nat) : Option Nat := do
  (← table.entries.lookup (line, text))[nth]?

end OffsetTable

/-! ## Positions of tokens -/

/-- Positions of tokens, given the tokens that came before them. -/
def placeTokens (table : OffsetTable) (before : List Token) : List Token → List (Token × Position)
  | [] => []
  | token :: rest =>
      let nth := before.countP fun earlier => earlier.slot == token.slot
      let character := (table.offset? token.lineIndex token.text nth).getD 0
      (token, ⟨token.lineIndex, character⟩) :: placeTokens table (token :: before) rest

/-- Every token with its position, in stream order. -/
def tokenPositions (source : String) (tokens : List Token) : List (Token × Position) :=
  placeTokens (.build source tokens) [] tokens

/-! ## Occurrences of a name -/

/-- A place where a name occurs. -/
structure Occurrence where
  text : String
  range : Range
  deriving Repr, DecidableEq

/-- Occurrences of a name among tokens, given the lines of its earlier ones. -/
def occurrencesFrom (table : OffsetTable) (name : String) (before : List Nat) :
    List Token → List Occurrence
  | [] => []
  | token :: rest =>
      if token.text = name then
        let line := token.lineIndex
        let character := (table.offset? line name (before.count line)).getD 0
        { text := name, range := ⟨⟨line, character⟩, ⟨line, character + name.length⟩⟩ }
          :: occurrencesFrom table name (line :: before) rest
      else occurrencesFrom table name before rest

/-- Every token whose text is the given name, with the range it takes up; the
empty name never occurs. -/
def findOccurrences (source : String) (tokens : List Token) (name : String) : List Occurrence :=
  if name.isEmpty then [] else occurrencesFrom (.build source tokens) name [] tokens

/-! ## The token under a cursor -/

/-- The range of a placed token. -/
def placedRange (placed : Token × Position) : Range :=
  ⟨placed.2, ⟨placed.2.line, placed.2.character + placed.1.width⟩⟩

/-- Whether a cursor touches a placed token; both ends count. -/
def touches (cursor : Position) (placed : Token × Position) : Bool :=
  placed.2.line == cursor.line && placed.2.character ≤ cursor.character
    && cursor.character ≤ placed.2.character + placed.1.width

/-- The token at a cursor and its range: the first identifier the cursor
touches, or the first token it touches when none is an identifier. -/
def tokenAt? (source : String) (tokens : List Token) (cursor : Position) : Option (Token × Range) :=
  let touched := (tokenPositions source tokens).filter (touches cursor)
  let chosen := (touched.find? fun placed => placed.1.isIdentifier).or touched.head?
  chosen.map fun placed => (placed.1, placedRange placed)

/-! ## Preparing a rename -/

/-- The name offered for renaming. -/
structure RenameTarget where
  range : Range
  placeholder : String
  deriving Repr, DecidableEq

/-- The first identifier on a line, with a range of its width at the start of
the line. -/
def renameTarget? (tokens : List Token) (line : Nat) : Option RenameTarget :=
  (tokens.find? fun token => token.lineIndex == line && token.isIdentifier).map fun token =>
    { range := ⟨⟨line, 0⟩, ⟨line, token.width⟩⟩, placeholder := token.text }

end Inlay
