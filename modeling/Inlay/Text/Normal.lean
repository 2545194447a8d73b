import Inlay.Text.CodeTable
import Inlay.Text.NormalTable

/-!
# Normalization

One text can be spelled in several ways: a letter with an accent is one
character, or a letter and a mark.  The normal form of a text takes every
character apart, puts the marks after a letter into the order of their classes,
and composes what can be composed.

A syllable of Hangul is composed of two or three letters by arithmetic; all other
compositions come from a table.
-/

namespace Inlay.Text

/-! ## Tables -/

/-- The combining classes of marks. -/
def combiningClassTable : CodeTable := .ofLines combiningClassLines

/-- Composed characters and their two parts. -/
def compositionTable : CodeTable := .ofLines compositionLines

/-- Characters that are always replaced. -/
def replacementTable : CodeTable := .ofLines replacementLines

/-- The combining class of a character; that of a letter is zero. -/
def combiningClass (c : Char) : Nat := (combiningClassTable.number? c.toNat).getD 0

/-! ## Syllables -/

namespace Hangul

/-- The first syllable. -/
def syllableBase : Nat := 0xAC00

/-- The first leading consonant. -/
def leadBase : Nat := 0x1100

/-- The first vowel. -/
def vowelBase : Nat := 0x1161

/-- The code point before the first trailing consonant. -/
def tailBase : Nat := 0x11A7

/-- The number of leading consonants. -/
def leadCount : Nat := 19

/-- The number of vowels. -/
def vowelCount : Nat := 21

/-- The number of trailing consonants, none being one of them. -/
def tailCount : Nat := 28

/-- The letters of a syllable. -/
def letters? (code : Nat) : Option (List Nat) :=
  let index := code - syllableBase
  if syllableBase ≤ code ∧ index < leadCount * vowelCount * tailCount then
    let lead := leadBase + index / (vowelCount * tailCount)
    let vowel := vowelBase + index % (vowelCount * tailCount) / tailCount
    let tail := index % tailCount
    some (if tail = 0 then [lead, vowel] else [lead, vowel, tailBase + tail])
  else none

/-- The syllable of a leading consonant and a vowel, or of a syllable that still
lacks a trailing consonant and one. -/
def compose? (first second : Nat) : Option Nat :=
  if leadBase ≤ first ∧ first < leadBase + leadCount
      ∧ vowelBase ≤ second ∧ second < vowelBase + vowelCount then
    some (syllableBase + ((first - leadBase) * vowelCount + (second - vowelBase)) * tailCount)
  else if syllableBase ≤ first ∧ first < syllableBase + leadCount * vowelCount * tailCount
      ∧ (first - syllableBase) % tailCount = 0
      ∧ tailBase < second ∧ second < tailBase + tailCount then
    some (first + (second - tailBase))
  else none

end Hangul

/-! ## Taking apart -/

/-- What a code point is taken apart into by one step. -/
def parts? (code : Nat) : Option (List Nat) :=
  (Hangul.letters? code).or ((compositionTable.numbers? code).or (replacementTable.numbers? code))

/-- A code point taken apart by at most the given number of steps. -/
def takenApart : Nat → Nat → List Nat
  | 0, code => [code]
  | steps + 1, code =>
      match parts? code with
      | some parts => parts.flatMap (takenApart steps)
      | none => [code]

/-- No character is taken apart by more steps than this. -/
def mostSteps : Nat := 4

/-- A text with every character taken apart. -/
def decompose (chars : List Char) : List Char :=
  chars.flatMap fun c => (takenApart mostSteps c.toNat).map Char.ofNat

/-! ## Order of marks -/

/-- Adds a mark to a text that is held in reverse: it goes before the marks of a
greater class. -/
def placeMark (mark : Char) : List Char → List Char
  | [] => [mark]
  | last :: before =>
      if combiningClass mark < combiningClass last then last :: placeMark mark before
      else mark :: last :: before

/-- A text with the marks after each letter in the order of their classes. -/
def orderMarks (chars : List Char) : List Char :=
  (chars.foldl (fun ordered c =>
    if combiningClass c = 0 then c :: ordered else placeMark c ordered) []).reverse

/-! ## Composing -/

/-- The character composed of two. -/
def composite? (first second : Char) : Option Char :=
  ((Hangul.compose? first.toNat second.toNat).or
    ((compositionTable.find? fun entry => entry.numbers == [first.toNat, second.toNat]).map
      CodeEntry.first)).map Char.ofNat

/-- A text on the way to being composed: the letter that later marks may join,
with what comes before it and the marks after it that did not join, both in
reverse. -/
structure Composing where
  before : List Char := []
  letter : Option Char := none
  marks : List Char := []
  deriving Repr, DecidableEq

namespace Composing

/-- The text so far, in reverse. -/
def written (draft : Composing) : List Char :=
  draft.marks ++ draft.letter.toList ++ draft.before

/-- Adds a character without joining it. -/
def append (draft : Composing) (c : Char) : Composing :=
  if combiningClass c = 0 then { before := draft.written, letter := some c }
  else if draft.letter.isNone then { draft with before := c :: draft.before }
  else { draft with marks := c :: draft.marks }

/-- Whether a mark of the same or a greater class stands between the letter and
a character. -/
def isBlocked (draft : Composing) (c : Char) : Bool :=
  match draft.marks with
  | last :: _ => combiningClass c ≤ combiningClass last
  | [] => false

/-- Adds a character, which joins the letter if the two compose. -/
def add (draft : Composing) (c : Char) : Composing :=
  match draft.letter.bind fun letter => composite? letter c with
  | some joined =>
      if draft.isBlocked c then draft.append c else { draft with letter := some joined }
  | none => draft.append c

end Composing

/-- A text with everything composed that can be. -/
def compose (chars : List Char) : List Char :=
  (chars.foldl Composing.add {}).written.reverse

/-- The normal form of a text. -/
def normalize (chars : List Char) : List Char := compose (orderMarks (decompose chars))

end Inlay.Text
