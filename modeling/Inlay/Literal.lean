/-!
# String literals of the host language

Only string literals can hold markup, so they are picked out of the source
first.  The rules are those of the host language: `"..."` with backslash escapes
and no line feed inside, `#"..."` that may span lines, character literals
`'...'`, and the comments `// ...` and `/* ... */`, none of whose quotes opens a
literal.  Escapes are kept as written, so an offset in the content of a literal
is an offset in the source less a constant.

The scanner reads one character at a time and remembers where it is in the
lexical structure.  Its state after a text depends on nothing that follows, so a
literal once closed stays as it is whatever comes later.
-/

namespace Inlay

/-- A string literal.  Offsets count characters of the source. -/
structure Literal where
  /-- Offset of the opening delimiter. -/
  start : Nat
  /-- Offset one past the closing quote. -/
  stop : Nat
  /-- Offset of the first content character. -/
  contentStart : Nat
  /-- Offset one past the last content character. -/
  contentStop : Nat
  /-- The characters between the quotes. -/
  content : List Char
  /-- Whether the literal may span lines. -/
  multiline : Bool
  deriving Repr, DecidableEq

namespace Literal

/-- The number of content characters. -/
def contentLength (literal : Literal) : Nat := literal.contentStop - literal.contentStart

/-- An open string literal: where it began and what has been read of it. -/
structure Opening where
  /-- Offset of the opening delimiter. -/
  start : Nat
  /-- Offset of the first content character. -/
  contentStart : Nat
  multiline : Bool
  /-- The content so far, last character first. -/
  read : List Char
  deriving Repr, DecidableEq

/-- Where the scanner is. -/
inductive Mode where
  /-- Between tokens. -/
  | code
  /-- Just past a `/` that may begin a comment. -/
  | slash
  /-- Just past a `#` that may begin a literal spanning lines. -/
  | hash
  | lineComment
  | blockComment
  /-- In a block comment, just past a `*` that may end it. -/
  | blockStar
  | charLiteral
  /-- In a character literal, just past a backslash. -/
  | charEscape
  | text (opening : Opening)
  /-- In a string literal, just past a backslash. -/
  | textEscape (opening : Opening)
  deriving Repr, DecidableEq

/-- The scanner: its mode, the characters read, and the literals found, last
one first. -/
structure Scan where
  mode : Mode := .code
  offset : Nat := 0
  found : List Literal := []
  deriving Repr, DecidableEq

/-- The literal that a quote at the given offset closes. -/
def Opening.closeAt (opening : Opening) (offset : Nat) : Literal :=
  { start := opening.start
    stop := offset + 1
    contentStart := opening.contentStart
    contentStop := offset
    content := opening.read.reverse
    multiline := opening.multiline }

/-- The opening one content character further. -/
def Opening.push (opening : Opening) (c : Char) : Opening :=
  { opening with read := c :: opening.read }

/-- The mode after a character between tokens, at the given offset. -/
def Mode.afterCode (offset : Nat) (c : Char) : Mode :=
  if c = '/' then .slash
  else if c = '#' then .hash
  else if c = '\'' then .charLiteral
  else if c = '"' then .text ⟨offset, offset + 1, false, []⟩
  else .code

/-- The mode after a character at the given offset, and the literal it closes. -/
def Mode.next (offset : Nat) (c : Char) : Mode → Mode × Option Literal
  | .code => (.afterCode offset c, none)
  | .slash =>
      if c = '/' then (.lineComment, none)
      else if c = '*' then (.blockComment, none)
      else (.afterCode offset c, none)
  | .hash =>
      if c = '"' then (.text ⟨offset - 1, offset + 1, true, []⟩, none)
      else (.afterCode offset c, none)
  | .lineComment => (if c = '\n' then .code else .lineComment, none)
  | .blockComment => (if c = '*' then .blockStar else .blockComment, none)
  | .blockStar =>
      (if c = '/' then .code else if c = '*' then .blockStar else .blockComment, none)
  | .charLiteral =>
      (if c = '\\' then .charEscape
       else if c = '\'' ∨ c = '\n' then .code
       else .charLiteral, none)
  | .charEscape => (.charLiteral, none)
  | .text opening =>
      if c = '\\' then (.textEscape (opening.push c), none)
      else if c = '"' then (.code, some (opening.closeAt offset))
      else if c = '\n' ∧ ¬opening.multiline then (.code, none)
      else (.text (opening.push c), none)
  | .textEscape opening => (.text (opening.push c), none)

/-- The scanner one character further. -/
def Scan.step (scan : Scan) (c : Char) : Scan :=
  let (mode, closed) := scan.mode.next scan.offset c
  { mode, offset := scan.offset + 1, found := closed.toList ++ scan.found }

/-- The scanner after a text. -/
def Scan.run (scan : Scan) (chars : List Char) : Scan := chars.foldl Scan.step scan

/-- The string literals of a source, in order; one that is never closed is left
out. -/
def scan (source : List Char) : List Literal := (Scan.run {} source).found.reverse

/-- Scanning a text in two parts is scanning it at once. -/
theorem Scan.run_append (scan : Scan) (first second : List Char) :
    scan.run (first ++ second) = (scan.run first).run second :=
  List.foldl_append

end Literal

end Inlay
