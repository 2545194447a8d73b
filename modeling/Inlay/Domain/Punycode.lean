import Inlay.Text.Pieces

/-!
# Host labels beyond ASCII

The labels of a host name travel as ASCII.  A label with other characters is
written as `xn--` followed by its ASCII characters and a run of letters and
digits that says which characters to put where.

The other characters are taken in increasing order.  Each insertion is encoded
as the number of states skipped since the previous one, a state being a
character together with a place for it; the number is written in base 36 with
digits whose thresholds adapt to the sizes seen so far.
-/

namespace Inlay.Domain.Punycode

open Text

/-- A digit: the letters stand for 0 to 25, the numerals for 26 to 35. -/
def digit (value : Nat) : Char :=
  if value < 26 then Char.ofNat ('a'.toNat + value) else Char.ofNat ('0'.toNat + value - 26)

/-- The threshold of the digit at a position; a digit below it is the last. -/
def threshold (bias position : Nat) : Nat := min 26 (max 1 (position - bias))

/-- Scales a difference down until it is small, counting the steps. -/
def scaleDown (delta steps : Nat) : Nat × Nat :=
  if 455 < delta then scaleDown (delta / 35) (steps + 1) else (delta, steps)
termination_by delta
decreasing_by exact Nat.div_lt_self (by omega) (by omega)

/-- The bias after a difference has been written and `count` characters are in
place. -/
def adapt (delta count : Nat) (isFirst : Bool) : Nat :=
  let halved := delta / (if isFirst then 700 else 2)
  let (small, steps) := scaleDown (halved + halved / count) 0
  36 * steps + 36 * small / (small + 38)

/-- The digits of a number, from the given position on. -/
def digits (bias position value : Nat) : List Char :=
  if _large : threshold bias position ≤ value then
    let base := 36 - threshold bias position
    let left := value - threshold bias position
    digit (threshold bias position + left % base) :: digits bias (position + 36) (left / base)
  else [digit value]
termination_by value
decreasing_by
  have least : 1 ≤ threshold bias position := by simp only [threshold]; omega
  exact Nat.lt_of_le_of_lt (Nat.div_le_self _ _) (by omega)

/-- What has been written, and the state of the count. -/
structure Progress where
  written : List Char
  delta : Nat := 0
  bias : Nat := 72
  /-- The number of characters in place. -/
  placed : Nat
  deriving Repr, DecidableEq

/-- Passes one character of the label while characters of the given code are
being inserted. -/
def pass (basic code : Nat) (progress : Progress) (c : Char) : Progress :=
  if c.toNat < code then { progress with delta := progress.delta + 1 }
  else if c.toNat = code then
    { written := progress.written ++ digits progress.bias 36 progress.delta
      delta := 0
      bias := adapt progress.delta (progress.placed + 1) (progress.placed == basic)
      placed := progress.placed + 1 }
  else progress

/-- Inserts the characters of each code in turn; `next` is the least code not
passed yet. -/
def insertCodes (label : List Char) (basic : Nat) : List Nat → Nat → Progress → Progress
  | [], _, progress => progress
  | code :: rest, next, progress =>
      let skipped := progress.delta + (code - next) * (progress.placed + 1)
      let inserted := label.foldl (pass basic code) { progress with delta := skipped }
      insertCodes label basic rest (code + 1) { inserted with delta := inserted.delta + 1 }

/-- A label with its characters beyond ASCII encoded. -/
def encode (label : List Char) : List Char :=
  let basic := label.filter fun c => c.toNat < 0x80
  let codes := ((label.filter fun c => 0x80 ≤ c.toNat).map Char.toNat).eraseDups.mergeSort
  let progress := insertCodes label basic.length codes 0x80
    { written := if basic.isEmpty then [] else basic ++ ['-'], placed := basic.length }
  progress.written

/-! ## Reading back -/

/-- The value of a digit. -/
def digitValue? (c : Char) : Option Nat :=
  if 'a' ≤ c ∧ c ≤ 'z' then some (c.toNat - 'a'.toNat)
  else if c.isDigit then some (c.toNat - '0'.toNat + 26)
  else none

/-- What has been read, and the number that is being read. -/
structure Reading where
  label : List Char
  /-- The character of the last insertion. -/
  code : Nat := 0x80
  bias : Nat := 72
  /-- The place after the last insertion. -/
  place : Nat := 0
  /-- The place plus the number read so far. -/
  sum : Nat := 0
  /-- What the next digit counts. -/
  weight : Nat := 1
  position : Nat := 36
  deriving Repr, DecidableEq

/-- Numbers do not reach this. -/
def numberLimit : Nat := UInt32.size

/-- A number that stays below the limit. -/
def bounded? (value : Nat) : Option Nat := if value < numberLimit then some value else none

/-- Inserts the character that a complete number tells of. -/
def insertRead (reading : Reading) (sum : Nat) : Option Reading := do
  let count := reading.label.length + 1
  let code := reading.code + sum / count
  let place := sum % count
  if code.isValidChar then
    some {
      label := reading.label.take place ++ Char.ofNat code :: reading.label.drop place
      code
      bias := adapt (sum - reading.place) count (reading.place == 0)
      place := place + 1
      sum := place + 1 }
  else none

/-- Reads one digit. -/
def readDigit (reading : Reading) (c : Char) : Option Reading := do
  let value ← digitValue? c
  let sum ← bounded? (reading.sum + value * reading.weight)
  let least := threshold reading.bias reading.position
  if value < least then insertRead reading sum
  else
    let weight ← bounded? (reading.weight * (36 - least))
    some { reading with sum, weight, position := reading.position + 36 }

/-- The label that an encoded text stands for: the text before the last hyphen,
with what the digits after it insert. -/
def decode? (text : List Char) : Option (List Char) := do
  let (basic, coded) :=
    match cutLast? '-' text with
    | some ([], _) | none => ([], text)
    | some (basic, coded) => (basic, coded)
  let reading ← coded.foldlM readDigit { label := basic }
  if reading.position = 36 then some reading.label else none

end Inlay.Domain.Punycode
