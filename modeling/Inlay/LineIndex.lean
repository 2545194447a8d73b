import Inlay.Position

/-!
# Offsets and positions

A text is cut into lines after each line feed, which stays with the line it
ends; the last line may be empty.  `LineIndex` keeps the lines and converts
between flat character offsets and positions.

The content of a line ends before its trailing run of carriage returns and line
feeds, so a position never points behind a line break of its own line.
-/

namespace Inlay

/-! ## Lines -/

/-- The text cut after each line feed.  There is always a last line, the one no
line feed ends. -/
def splitLines : List Char → List (List Char)
  | [] => [[]]
  | c :: rest =>
      if c = '\n' then [c] :: splitLines rest
      else
        match splitLines rest with
        | [] => [[c]]
        | line :: lines => (c :: line) :: lines

/-- A character of a line break. -/
def isBreak (c : Char) : Bool := c == '\n' || c == '\r'

/-- The length of a line without its trailing line break characters. -/
def contentWidth (line : List Char) : Nat :=
  (line.reverse.dropWhile isBreak).length

/-- The lines of a text, each with the line feed that ends it. -/
structure LineIndex where
  lines : List (List Char)
  deriving Repr, DecidableEq

namespace LineIndex

/-- The lines of a text given as characters. -/
def ofChars (chars : List Char) : LineIndex := ⟨splitLines chars⟩

/-- The lines of a text. -/
def ofText (text : String) : LineIndex := ofChars text.toList

/-- The number of lines. -/
def lineCount (index : LineIndex) : Nat := index.lines.length

/-- The number of characters of some lines. -/
def widthOf (lines : List (List Char)) : Nat :=
  lines.foldr (fun line width => line.length + width) 0

/-- The number of characters of the text. -/
def length (index : LineIndex) : Nat := widthOf index.lines

/-- The offset at which a line starts. -/
def lineStart? (index : LineIndex) (line : Nat) : Option Nat :=
  if line < index.lineCount then some (widthOf (index.lines.take line)) else none

/-- The offset one past the content of a line. -/
def lineEnd? (index : LineIndex) (line : Nat) : Option Nat :=
  index.lines[line]?.map fun content => widthOf (index.lines.take line) + contentWidth content

/-! ## From offsets to positions -/

/-- The position of an offset in some lines; the last line takes every offset
that is left. -/
def locate : List (List Char) → Nat → Position
  | [], offset => ⟨0, offset⟩
  | [_], offset => ⟨0, offset⟩
  | line :: next :: rest, offset =>
      if offset < line.length then ⟨0, offset⟩
      else
        let inner := locate (next :: rest) (offset - line.length)
        ⟨inner.line + 1, inner.character⟩

/-- The position of an offset; an offset past the end stands for the end. -/
def position (index : LineIndex) (offset : Nat) : Position :=
  locate index.lines (min offset index.length)

/-- The range between two offsets. -/
def range (index : LineIndex) (start stop : Nat) : Range :=
  ⟨index.position start, index.position stop⟩

/-! ## From positions to offsets -/

/-- The offset of a position, if its line exists; a character past the content
of the line stands for the end of the content. -/
def offset? (index : LineIndex) (position : Position) : Option Nat := do
  let start ← index.lineStart? position.line
  let stop ← index.lineEnd? position.line
  some (min (start + position.character) stop)

end LineIndex

/-! ## Characters and bytes -/

/-- The number of bytes of the first `count` characters. -/
def bytesOfChars (text : String) (count : Nat) : Nat :=
  (text.toList.take count).foldr (fun c bytes => c.utf8Size + bytes) 0

/-- The number of characters that lie within the first `bytes` bytes. -/
def charsOfBytes (text : String) (bytes : Nat) : Nat :=
  go text.toList bytes
where
  /-- Counts characters while they fit. -/
  go : List Char → Nat → Nat
    | [], _ => 0
    | c :: rest, left => if c.utf8Size ≤ left then 1 + go rest (left - c.utf8Size) else 0

end Inlay
