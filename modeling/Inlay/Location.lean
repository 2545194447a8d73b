import Inlay.Text.Digits

/-!
# Places named by the interpreter

The interpreter names a place as a path, optionally followed by a colon and a
line counted from one.  Only digits after the last colon are a line, so a path
may hold colons of its own.
-/

namespace Inlay

/-- A file and a line in it, counted from zero. -/
structure Location where
  path : String
  line : Nat
  deriving Repr, DecidableEq

namespace Location

/-- The greatest line that can be named. -/
def maxLine : Nat := UInt32.size - 1

/-- Splits a text at its last colon. -/
def splitLastColon (chars : List Char) : Option (List Char × List Char) :=
  let suffix := (chars.reverse.takeWhile (· != ':')).reverse
  if suffix.length < chars.length then
    some (chars.take (chars.length - suffix.length - 1), suffix)
  else none

/-- The line that digits name, counted from one there and from zero here; line zero
means the first.  Digits that take more than 64 bits stand for the greatest number
of 64 bits, and a line too large to name is cut to the greatest. -/
def lineOf (digits : List Char) : Nat :=
  let line := (Text.number64? digits).getD (UInt64.size - 1) - 1
  if line ≤ maxLine then line else maxLine

/-- The place a text names. -/
def parse (text : String) : Location :=
  match splitLastColon text.toList with
  | some (path, suffix) =>
      if suffix ≠ [] ∧ suffix.all Char.isDigit then ⟨String.ofList path, lineOf suffix⟩
      else ⟨text, 0⟩
  | none => ⟨text, 0⟩

end Location

end Inlay
