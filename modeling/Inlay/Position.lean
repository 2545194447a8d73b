/-!
# Positions

A position is a line and a character on it, both counted from zero, characters
in Unicode scalar values.
-/

namespace Inlay

/-- A place between two characters of a text. -/
structure Position where
  line : Nat
  character : Nat
  deriving Repr, DecidableEq, Inhabited

/-- A stretch of text; the end is exclusive. -/
structure Range where
  start : Position
  stop : Position
  deriving Repr, DecidableEq, Inhabited

namespace Position

/-- Line first, then character. -/
instance : LE Position where
  le a b := a.line < b.line ∨ a.line = b.line ∧ a.character ≤ b.character

instance (a b : Position) : Decidable (a ≤ b) :=
  inferInstanceAs (Decidable (a.line < b.line ∨ a.line = b.line ∧ a.character ≤ b.character))

end Position

end Inlay
