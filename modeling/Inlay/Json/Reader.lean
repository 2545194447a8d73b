import Inlay.Decimal.Scaled
import Inlay.Json.Value
import Inlay.Text.Digits

/-!
# Reading JSON text

`Json.parse?` reads one value that takes up the whole text.  Reading is strict:
strings hold no raw control character and no half of a surrogate pair, numbers
have no leading zero and must fit a float, and values nest at most
`Json.maxNesting` containers deep.  Of several members with one key the last
one counts.

The reader recurses on the containers still allowed and, inside a container, on
the characters left, so both bounds are part of its termination argument.
-/

namespace Inlay.Json

/-! ## White space and fixed words -/

/-- White space between the parts of a value. -/
def isSpace (c : Char) : Bool :=
  c == ' ' || c == '\n' || c == '\t' || c == '\r'

/-- The text from its first character that is not white space. -/
def skipSpace (chars : List Char) : List Char := chars.dropWhile isSpace

/-- What follows a fixed word, if the text begins with it. -/
def afterWord (word : List Char) (chars : List Char) : Option (List Char) :=
  if word.isPrefixOf chars then some (chars.drop word.length) else none

/-! ## Numbers -/

/-- Reads the digits after a point, at least one. -/
def readFraction : List Char → Option (List Char × List Char)
  | '.' :: rest =>
      match rest.takeWhile Char.isDigit with
      | [] => none
      | digits => some (digits, rest.dropWhile Char.isDigit)
  | chars => some ([], chars)

/-- Reads an exponent part, whose absence is told apart from a zero exponent. -/
def readExponent : List Char → Option (Option Int × List Char)
  | c :: rest =>
      if c == 'e' || c == 'E' then
        let (negative, digits) :=
          match rest with
          | '+' :: digits => (false, digits)
          | '-' :: digits => (true, digits)
          | digits => (false, digits)
        match digits.takeWhile Char.isDigit with
        | [] => none
        | run =>
            let size : Int := Text.digitsValue run
            some (some (if negative then -size else size), digits.dropWhile Char.isDigit)
      else some (none, c :: rest)
  | [] => some (none, [])

/-- A whole number without point and exponent.  A number outside the range of
64-bit integers, and a negative zero, is read as a float. -/
def wholeNumber (negative : Bool) (digits : List Char) : Option Json :=
  let size := Text.digitsValue digits
  if negative then
    if 0 < size ∧ 2 * size ≤ UInt64.size then some (.int (-size))
    else (Decimal.readFloat true digits [] 0).map .real
  else if size < UInt64.size then some (.int size)
  else (Decimal.readFloat false digits [] 0).map .real

/-- Reads a number whose sign has been taken off. -/
def readNumber (negative : Bool) (chars : List Char) : Option (Json × List Char) := do
  let whole := chars.takeWhile Char.isDigit
  let rest := chars.dropWhile Char.isDigit
  match whole with
  | [] => none
  | '0' :: _ :: _ => none
  | _ =>
      let (fraction, rest) ← readFraction rest
      let (exponent, rest) ← readExponent rest
      match fraction, exponent with
      | [], none => some (← wholeNumber negative whole, rest)
      | _, _ => some (.real (← Decimal.readFloat negative whole fraction (exponent.getD 0)), rest)

/-! ## Strings -/

/-- Four hexadecimal digits as one 16-bit unit. -/
def unit? (a b c d : Char) : Option Nat := do
  let high := (← Text.hexDigit? a) * 16 + (← Text.hexDigit? b)
  let low := (← Text.hexDigit? c) * 16 + (← Text.hexDigit? d)
  some (high * 256 + low)

/-- The character of a one-letter escape. -/
def escaped? : Char → Option Char
  | '"' => some '"'
  | '\\' => some '\\'
  | '/' => some '/'
  | 'b' => some '\x08'
  | 'f' => some '\x0c'
  | 'n' => some '\n'
  | 'r' => some '\r'
  | 't' => some '\t'
  | _ => none

/-- The character of a surrogate pair. -/
def pairChar? (high low : Nat) : Option Char :=
  if 0xDC00 ≤ low ∧ low < 0xE000 then
    some (Char.ofNat (0x10000 + (high - 0xD800) * 0x400 + (low - 0xDC00)))
  else none

/-- Reads the rest of a string up to its closing quote; `read` holds the
characters so far, last first. -/
def readString (read : List Char) : List Char → Option (String × List Char)
  | [] => none
  | '"' :: rest => some (String.ofList read.reverse, rest)
  | '\\' :: 'u' :: a :: b :: c :: d :: rest =>
      match unit? a b c d with
      | none => none
      | some unit =>
          if 0xD800 ≤ unit ∧ unit < 0xDC00 then
            match rest with
            | '\\' :: 'u' :: e :: f :: g :: h :: rest =>
                match (unit? e f g h).bind (pairChar? unit) with
                | some char => readString (char :: read) rest
                | none => none
            | _ => none
          else if 0xDC00 ≤ unit ∧ unit < 0xE000 then none
          else readString (Char.ofNat unit :: read) rest
  | '\\' :: c :: rest =>
      match escaped? c with
      | some char => readString (char :: read) rest
      | none => none
  | c :: rest => if c.toNat < 0x20 ∨ c = '\\' then none else readString (c :: read) rest

/-! ## Values -/

/-- The number of containers a value may be nested in, itself included. -/
def maxNesting : Nat := 127

mutual

/-- Reads one value at the start of the text, with `depth` containers left. -/
def readValue (depth : Nat) (chars : List Char) : Option (Json × List Char) :=
  match chars with
  | 'n' :: _ => (afterWord "null".toList chars).map fun rest => (.null, rest)
  | 't' :: _ => (afterWord "true".toList chars).map fun rest => (.bool true, rest)
  | 'f' :: _ => (afterWord "false".toList chars).map fun rest => (.bool false, rest)
  | '"' :: rest => (readString [] rest).map fun (text, rest) => (.str text, rest)
  | '-' :: rest => readNumber true rest
  | '[' :: rest =>
      match depth with
      | 0 => none
      | inner + 1 =>
          match skipSpace rest with
          | ']' :: rest => some (.arr [], rest)
          | rest => (readItems inner rest).map fun (items, rest) => (.arr items, rest)
  | '{' :: rest =>
      match depth with
      | 0 => none
      | inner + 1 =>
          match skipSpace rest with
          | '}' :: rest => some (.obj [], rest)
          | rest => (readMembers inner rest).map fun (members, rest) => (ofMembers members, rest)
  | _ => readNumber false chars
termination_by (depth, chars.length, 0)

/-- Reads the items of an array up to its closing bracket. -/
def readItems (depth : Nat) (chars : List Char) : Option (List Json × List Char) :=
  match readValue depth chars with
  | none => none
  | some (item, rest) =>
      match skipSpace rest with
      | ']' :: rest => some ([item], rest)
      | ',' :: rest =>
          if (skipSpace rest).length < chars.length then
            (readItems depth (skipSpace rest)).map fun (items, rest) => (item :: items, rest)
          else none
      | _ => none
termination_by (depth, chars.length, 1)

/-- Reads the members of an object up to its closing brace. -/
def readMembers (depth : Nat) (chars : List Char) : Option (List (String × Json) × List Char) :=
  match chars with
  | '"' :: afterQuote =>
      match readString [] afterQuote with
      | none => none
      | some (key, rest) =>
          match skipSpace rest with
          | ':' :: rest =>
              if (skipSpace rest).length ≤ afterQuote.length then
                match readValue depth (skipSpace rest) with
                | none => none
                | some (value, rest) =>
                    match skipSpace rest with
                    | '}' :: rest => some ([(key, value)], rest)
                    | ',' :: rest =>
                        if (skipSpace rest).length ≤ afterQuote.length then
                          (readMembers depth (skipSpace rest)).map fun (members, rest) =>
                            ((key, value) :: members, rest)
                        else none
                    | _ => none
              else none
          | _ => none
  | _ => none
termination_by (depth, chars.length, 1)

end

/-- Reads a text that holds exactly one value. -/
def parseChars? (chars : List Char) : Option Json :=
  match readValue maxNesting (skipSpace chars) with
  | some (value, rest) => if (skipSpace rest).isEmpty then some value else none
  | none => none

/-- Reads a text that holds exactly one value. -/
def parse? (text : String) : Option Json := parseChars? text.toList

end Inlay.Json
