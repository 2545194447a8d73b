/-!
# Reading a decimal with a 64-bit significand

A decimal is read as a significand of at most 64 bits and a power of ten.  The
significand is converted to a float and then multiplied or divided by the power
of ten, which is itself a float.  A power below `10 ^ -308` is divided off in
steps.  The result can be one unit off the nearest float, and a value too large
for a float is refused.
-/

namespace Inlay.Decimal

/-- The float nearest to a power of ten. -/
def powerOfTen (power : Nat) : Float := Float.ofScientific 1 false power

/-- `10 ^ 308` is the greatest power of ten that is a finite float. -/
def greatestPower : Nat := 308

/-- The value divided by `10 ^ power`, in steps of the greatest power of ten. -/
def divideByTens (value : Float) (power : Nat) : Float :=
  if power ≤ greatestPower then value / powerOfTen power
  else if value == 0.0 then value
  else divideByTens (value / powerOfTen greatestPower) (power - greatestPower)
termination_by power
decreasing_by simp only [greatestPower] at *; omega

/-- The value of `significand · 10 ^ exponent`, or nothing when it is too large. -/
def scaleByTen (significand : UInt64) (exponent : Int) : Option Float :=
  let value := significand.toFloat
  if exponent < 0 then some (divideByTens value exponent.natAbs)
  else if exponent.natAbs ≤ greatestPower then
    let scaled := value * powerOfTen exponent.natAbs
    if scaled.isInf then none else some scaled
  else if value == 0.0 then some value
  else none

/-- A run of digits is taken into a significand only as long as it fits in 64 bits. -/
def significandLimit : Nat := UInt64.size

/-- Reads leading digits into a significand for as long as they fit.  Returns
the significand, the number of digits taken and the digits left over. -/
def takeDigits (significand count : Nat) : List Char → Nat × Nat × List Char
  | [] => (significand, count, [])
  | c :: rest =>
      let next := significand * 10 + (c.toNat - '0'.toNat)
      if next < significandLimit then takeDigits next (count + 1) rest
      else (significand, count, c :: rest)

/-- The float written as `whole.fraction · 10 ^ exponent`.  Digits of the whole
part that no longer fit raise the exponent; digits of the fraction that no
longer fit are dropped. -/
def readFloat (negative : Bool) (whole fraction : List Char) (exponent : Int) : Option Float := do
  let (head, _, spilled) := takeDigits 0 0 whole
  let (significand, places, _) := takeDigits head 0 fraction
  let value ← scaleByTen (UInt64.ofNat significand) (exponent + spilled.length - places)
  some (if negative then -value else value)

end Inlay.Decimal
