import Inlay.Text.Digits
import Inlay.Text.Pieces

/-!
# Tables of code points

The properties of characters come in tables written as text, which is short and
can be checked against the standard by eye.  An entry is a code point or a range
of code points in hexadecimal, such as `AD` or `115F-1160`; blanks stand between
entries.  An entry may go on with what belongs to its code points, numbers with
dots between them:

* `2460=31` gives every code point of the range the same numbers;
* `FF21-FF3A>61` gives the first code point the number, the next one the next
  number, and so on;
* `100-12E~101` does so too, but only for every other code point of the range.
-/

namespace Inlay.Text

/-- How the numbers of an entry belong to the code points of its range. -/
inductive Spread where
  | same
  | along
  | everyOther
  deriving Repr, DecidableEq

/-- An entry of a table: the code points from `first` to `last`. -/
structure CodeEntry where
  first : Nat
  last : Nat
  spread : Spread := .same
  numbers : List Nat := []
  deriving Repr, DecidableEq

namespace CodeEntry

/-- Whether a code point lies in the range of an entry. -/
def contains (entry : CodeEntry) (code : Nat) : Bool :=
  entry.first ≤ code && code ≤ entry.last
    && (entry.spread != .everyOther || (code - entry.first) % 2 == 0)

/-- The numbers of a code point of the range. -/
def numbersAt (entry : CodeEntry) (code : Nat) : List Nat :=
  match entry.spread with
  | .same => entry.numbers
  | .along | .everyOther => entry.numbers.map (· + (code - entry.first))

/-- The mark that tells how the numbers belong to the code points. -/
def spread? : Char → Option Spread
  | '=' => some .same
  | '>' => some .along
  | '~' => some .everyOther
  | _ => none

/-- Reads an entry. -/
def ofChars? (chars : List Char) : Option CodeEntry := do
  let isRange (c : Char) := (spread? c).isNone
  let (start, stop) := cutFirst '-' (chars.takeWhile isRange)
  let first ← numberIn? 16 start
  let last ← numberIn? 16 (stop.getD start)
  match chars.dropWhile isRange with
  | [] => some { first, last }
  | mark :: rest =>
      let numbers ← (pieces (· == '.') rest).mapM (numberIn? 16)
      some { first, last, spread := ← spread? mark, numbers }

end CodeEntry

/-- A table, in increasing order of its code points. -/
abbrev CodeTable := List CodeEntry

namespace CodeTable

/-- The table written by some lines. -/
def ofLines (lines : List String) : CodeTable :=
  lines.flatMap fun line => (pieces (· == ' ') line.toList).filterMap CodeEntry.ofChars?

/-- Whether a code point is in a table. -/
def has (table : CodeTable) (code : Nat) : Bool := table.any (·.contains code)

/-- The numbers that a table gives to a code point. -/
def numbers? (table : CodeTable) (code : Nat) : Option (List Nat) :=
  (table.find? (·.contains code)).map (·.numbersAt code)

/-- The first number that a table gives to a code point. -/
def number? (table : CodeTable) (code : Nat) : Option Nat :=
  (table.numbers? code).bind List.head?

end CodeTable

end Inlay.Text
