/-!
# The fewest digits that read back

A finite binary float stands for an exact value `significand · 2 ^ exponent`,
and every real number close enough to it rounds to it.  `shortest` picks, of
the decimals that round to the float, one with the fewest digits, and of those
the nearest to the exact value.

The search goes over grids of decimals with one, two, ... significant digits.
On each grid only the two neighbours of the exact value matter: if any point of
the grid rounds to the float, one of the two does.  Seventeen digits always
suffice for a 64-bit float, so the search ends there.
-/

namespace Inlay.Decimal

/-- The exact magnitude `significand · 2 ^ exponent` of a float. -/
structure Binary where
  significand : Nat
  exponent : Int
  deriving Repr, DecidableEq

/-- The leading bit of a significand, which the bits of a float do not hold. -/
def leadingBit : Nat := 0x10000000000000

/-- The exact magnitude of a finite 64-bit float; the sign is dropped. -/
def Binary.ofFloat (value : Float) : Binary :=
  let bits := value.toBits.toNat
  let fraction := bits % leadingBit
  let biased := bits / leadingBit % 0x800
  if biased = 0 then ⟨fraction, -1074⟩ else ⟨leadingBit + fraction, Int.ofNat biased - 1075⟩

/-- Whether the sign bit of a float is set. -/
def isNegative (value : Float) : Bool :=
  UInt64.size ≤ 2 * value.toBits.toNat

/-- A decimal magnitude `digits · 10 ^ exponent`. -/
structure Scientific where
  digits : Nat
  exponent : Int
  deriving Repr, DecidableEq

/-- A ratio of natural numbers, used to compare exactly. -/
structure Ratio where
  num : Nat
  den : Nat

namespace Ratio

/-- The ratio `count · base ^ power`. -/
def scaled (count base : Nat) (power : Int) : Ratio :=
  if 0 ≤ power then ⟨count * Nat.pow base power.toNat, 1⟩
  else ⟨count, Nat.pow base (-power).toNat⟩

/-- Comparison of two ratios with positive denominators. -/
def le (a b : Ratio) : Bool := a.num * b.den ≤ b.num * a.den

/-- Strict comparison of two ratios with positive denominators. -/
def lt (a b : Ratio) : Bool := a.num * b.den < b.num * a.den

/-- The distance between two ratios. -/
def distance (a b : Ratio) : Ratio :=
  let left := a.num * b.den
  let right := b.num * a.den
  ⟨if left ≤ right then right - left else left - right, a.den * b.den⟩

end Ratio

/-- The exact value as a ratio. -/
def Binary.ratio (value : Binary) : Ratio := .scaled value.significand 2 value.exponent

/-- The decimal as a ratio. -/
def Scientific.ratio (value : Scientific) : Ratio := .scaled value.digits 10 value.exponent

/-- Whether a decimal rounds to the float.  The reals that do lie within half
the gap to the next float on either side; the gap below a power of two is half
as wide, and the ends of the interval belong to it when the significand is
even. -/
def readsBack (value : Binary) (decimal : Scientific) : Bool :=
  let narrow := value.significand == leadingBit && value.exponent != -1074
  let low : Ratio :=
    if narrow then .scaled (4 * value.significand - 1) 2 (value.exponent - 2)
    else .scaled (2 * value.significand - 1) 2 (value.exponent - 1)
  let high : Ratio := .scaled (2 * value.significand + 1) 2 (value.exponent - 1)
  let point := decimal.ratio
  if value.significand % 2 == 0 then low.le point && point.le high
  else low.lt point && point.lt high

/-- The number of decimal digits of a positive number. -/
def digitCount (n : Nat) : Nat := (Nat.toDigits 10 n).length

/-- The power of ten of the leading digit of a positive ratio: the greatest `p`
with `10 ^ p` at most the ratio. -/
def leadingPower (value : Ratio) : Int :=
  let guess : Int := (digitCount value.num : Int) - digitCount value.den
  if (Ratio.scaled 1 10 guess).le value then guess else guess - 1

/-- The grid point of step `10 ^ power` at or below a ratio. -/
def gridFloor (value : Ratio) (power : Int) : Nat :=
  if 0 ≤ power then value.num / (value.den * Nat.pow 10 power.toNat)
  else value.num * Nat.pow 10 (-power).toNat / value.den

/-- The best decimal for the float on the grid of step `10 ^ power`, if the
grid has one.  Of two equally near neighbours the even one is taken. -/
def onGrid (value : Binary) (power : Int) : Option Scientific :=
  let below : Scientific := ⟨gridFloor value.ratio power, power⟩
  let above : Scientific := ⟨below.digits + 1, power⟩
  match readsBack value below && below.digits != 0, readsBack value above with
  | true, true =>
      let down := value.ratio.distance below.ratio
      let up := value.ratio.distance above.ratio
      if down.lt up then some below
      else if up.lt down then some above
      else some (if below.digits % 2 == 0 then below else above)
  | true, false => some below
  | false, true => some above
  | false, false => none

/-- Removes trailing zeros of the digits, at most `fuel` of them. -/
def stripZeros : Nat → Scientific → Scientific
  | 0, value => value
  | fuel + 1, value =>
      if value.digits % 10 == 0 && value.digits != 0 then
        stripZeros fuel ⟨value.digits / 10, value.exponent + 1⟩
      else value

/-- The decimal with the fewest digits that reads back as the float. -/
def shortest (value : Binary) : Scientific :=
  if value.significand = 0 then ⟨0, 0⟩
  else
    let lead := leadingPower value.ratio
    let candidates := (List.range 17).filterMap fun count => onGrid value (lead - Int.ofNat count)
    match candidates.head? with
    | some decimal => stripZeros 20 decimal
    | none => ⟨0, 0⟩

/-- The digits of a decimal, most significant first. -/
def Scientific.digitChars (value : Scientific) : List Char := Nat.toDigits 10 value.digits

/-- The decimal written out in full: without an exponent, and without a
fractional part when it is whole. -/
def Scientific.positional (value : Scientific) : List Char :=
  let digits := value.digitChars
  if 0 ≤ value.exponent then
    if value.digits = 0 then ['0'] else digits ++ List.replicate value.exponent.toNat '0'
  else
    let places := (-value.exponent).toNat
    if places < digits.length then
      digits.take (digits.length - places) ++ '.' :: digits.drop (digits.length - places)
    else '0' :: '.' :: (List.replicate (places - digits.length) '0' ++ digits)

end Inlay.Decimal
