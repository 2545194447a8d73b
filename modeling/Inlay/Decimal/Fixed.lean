import Inlay.Decimal.Shortest

/-!
# A fixed number of decimal places

The exact value of a float is rounded to a number of places after the point; a
value halfway between two neighbours goes to the even one.
-/

namespace Inlay.Decimal

/-- The quotient rounded to the nearest whole number, halves to the even one. -/
def roundDiv (num den : Nat) : Nat :=
  let quotient := num / den
  let rest := 2 * (num % den)
  if rest < den then quotient
  else if den < rest then quotient + 1
  else if quotient % 2 = 0 then quotient else quotient + 1

/-- A float that is not negative with `places` digits after the point. -/
def fixed (places : Nat) (value : Float) : String :=
  let exact := (Binary.ofFloat value).ratio
  let units := roundDiv (exact.num * Nat.pow 10 places) exact.den
  let digits := Nat.toDigits 10 units
  let padded := List.replicate (places + 1 - digits.length) '0' ++ digits
  let whole := padded.take (padded.length - places)
  let sign := if isNegative value then ['-'] else []
  if places = 0 then String.ofList (sign ++ whole)
  else String.ofList (sign ++ whole ++ '.' :: padded.drop (padded.length - places))

/-- Rounding moves a quotient by at most half a unit. -/
theorem roundDiv_within (num den : Nat) (positive : 0 < den) :
    2 * (roundDiv num den * den) ≤ 2 * num + den ∧
      2 * num ≤ 2 * (roundDiv num den * den) + den := by
  have split := Nat.div_add_mod num den
  have small := Nat.mod_lt num positive
  have commuted : den * (num / den) = num / den * den := Nat.mul_comm _ _
  simp only [roundDiv]
  split
  · omega
  · split
    · rw [Nat.add_mul]; omega
    · split
      · omega
      · rw [Nat.add_mul]; omega

end Inlay.Decimal
