import Inlay.Decimal.Shortest
import Inlay.Json.Value

/-!
# Writing JSON text

Values are written without any white space, so that a value never spans lines:
inside strings every control character is escaped.  A float is written with the
fewest digits that read back, always with a point or an exponent.
-/

namespace Inlay.Json

/-! ## Numbers -/

/-- A float is written positionally when its leading digit stands at most this
many places before the point. -/
def widestWhole : Int := 16

/-- A float below one is written positionally when fewer than this many zeros
follow the point. -/
def mostZeros : Int := 5

/-- An exponent, always with its sign. -/
def exponentChars (exponent : Int) : List Char :=
  (if exponent < 0 then '-' else '+') :: Nat.toDigits 10 exponent.natAbs

/-- The digits of a float's magnitude: positional for moderate sizes, with an
exponent otherwise. -/
def magnitudeChars (value : Decimal.Scientific) : List Char :=
  let digits := value.digitChars
  let count : Int := digits.length
  let point := count + value.exponent
  if value.digits = 0 then ['0', '.', '0']
  else if 0 ≤ value.exponent ∧ point ≤ widestWhole then
    digits ++ List.replicate value.exponent.toNat '0' ++ ['.', '0']
  else if -mostZeros < point ∧ point ≤ widestWhole then value.positional
  else
    let mantissa :=
      match digits with
      | lead :: next :: rest => lead :: '.' :: next :: rest
      | short => short
    mantissa ++ 'e' :: exponentChars (point - 1)

/-- A finite float as a JSON number. -/
def floatChars (value : Float) : List Char :=
  let magnitude := magnitudeChars (Decimal.shortest (Decimal.Binary.ofFloat value))
  if Decimal.isNegative value then '-' :: magnitude else magnitude

/-- An integer as a JSON number. -/
def intChars (value : Int) : List Char :=
  if value < 0 then '-' :: Nat.toDigits 10 value.natAbs else Nat.toDigits 10 value.natAbs

/-! ## Strings -/

/-- A hexadecimal digit, in small letters. -/
def hexChar (digit : Nat) : Char := Nat.digitChar digit

/-- A character inside a string. -/
def charEscaped (c : Char) : List Char :=
  if c = '"' then ['\\', '"']
  else if c = '\\' then ['\\', '\\']
  else if c = '\x08' then ['\\', 'b']
  else if c = '\x0c' then ['\\', 'f']
  else if c = '\n' then ['\\', 'n']
  else if c = '\r' then ['\\', 'r']
  else if c = '\t' then ['\\', 't']
  else if c.toNat < 0x20 then
    ['\\', 'u', '0', '0', hexChar (c.toNat / 16), hexChar (c.toNat % 16)]
  else [c]

/-- A quoted string. -/
def stringChars (text : String) : List Char :=
  '"' :: (text.toList.flatMap charEscaped ++ ['"'])

/-! ## Values -/

mutual

/-- The characters of a value. -/
def chars : Json → List Char
  | .null => "null".toList
  | .bool true => "true".toList
  | .bool false => "false".toList
  | .int value => intChars value
  | .real value => floatChars value
  | .str text => stringChars text
  | .arr items => '[' :: (itemChars items ++ [']'])
  | .obj members => '{' :: (memberChars members ++ ['}'])

/-- Items separated by commas. -/
def itemChars : List Json → List Char
  | [] => []
  | [item] => item.chars
  | item :: next :: rest => item.chars ++ ',' :: itemChars (next :: rest)

/-- Members separated by commas. -/
def memberChars : List (String × Json) → List Char
  | [] => []
  | [(key, value)] => stringChars key ++ ':' :: value.chars
  | (key, value) :: next :: rest =>
      stringChars key ++ ':' :: (value.chars ++ ',' :: memberChars (next :: rest))

end

/-- The text of a value. -/
def render (value : Json) : String := String.ofList value.chars

end Inlay.Json
