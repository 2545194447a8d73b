import Inlay.Text.Digits
import Inlay.Text.Pieces

/-!
# Numeric hosts

A host may be an address.  A four-byte address is written as up to four numbers
between dots, decimal, octal or hexadecimal, of which the last fills all the
bytes that are left; its normal form has four decimal numbers.  A sixteen-byte
address is written as eight hexadecimal pieces between colons, a run of zero
pieces being left out once; its normal form leaves out the longest run.
-/

namespace Inlay.Uri

open Text

/-! ## Four bytes -/

/-- One number of a four-byte address. -/
def addressNumber? : List Char → Option Nat
  | [] => none
  | '0' :: 'x' :: digits | '0' :: 'X' :: digits => numberIn? 16 digits
  | '0' :: digit :: digits => numberIn? 8 (digit :: digits)
  | digits => numberIn? 10 digits

/-- The parts of a host between dots, an empty last part left out. -/
def dottedParts (host : List Char) : List (List Char) :=
  let parts := pieces (· == '.') host
  if parts.getLast? = some [] then parts.dropLast else parts

/-- Whether a host is meant as a four-byte address: its last part is a number. -/
def isNumeric (host : List Char) : Bool :=
  match (dottedParts host).getLast? with
  | some last => !last.isEmpty && (last.all Char.isDigit || (addressNumber? last).isSome)
  | none => false

/-- The bytes of a number, most significant first. -/
def bytesOf : Nat → Nat → List Nat
  | 0, _ => []
  | count + 1, value => value / Nat.pow 256 count % 256 :: bytesOf count value

/-- The four bytes of an address. -/
def fourBytes? (host : List Char) : Option (List Nat) := do
  let numbers ← (dottedParts host).mapM addressNumber?
  let last ← numbers.getLast?
  let leading := numbers.dropLast
  if numbers.length ≤ 4 ∧ leading.all (· < 256) ∧ last < Nat.pow 256 (4 - leading.length) then
    some (leading ++ bytesOf (4 - leading.length) last)
  else none

/-- A four-byte address as text. -/
def renderBytes (bytes : List Nat) : String := ".".intercalate (bytes.map toString)

/-! ## Sixteen bytes -/

/-- One piece of a sixteen-byte address: one to four hexadecimal digits. -/
def piece? (digits : List Char) : Option Nat :=
  if digits.isEmpty || 4 < digits.length then none else numberIn? 16 digits

/-- A decimal byte without leading zeros. -/
def decimalByte? (digits : List Char) : Option Nat := do
  let value ← numberIn? 10 digits
  if digits.isEmpty || (digits.head? = some '0' ∧ 1 < digits.length) || 256 ≤ value then none
  else some value

/-- The last two pieces, written as four decimal bytes. -/
def trailingPieces? (text : List Char) : Option (List Nat) := do
  match ← (pieces (· == '.') text).mapM decimalByte? with
  | [a, b, c, d] => some [a * 256 + b, c * 256 + d]
  | _ => none

/-- The pieces of a text between colons; `isEnd` says that the address ends with
it, so that its last part may be in decimal bytes. -/
def pieces? (isEnd : Bool) (text : List Char) : Option (List Nat) := do
  if text.isEmpty then some []
  else
    let parts := pieces (· == ':') text
    let last ← parts.getLast?
    let leading ← parts.dropLast.mapM piece?
    let trailing ←
      if isEnd && last.contains '.' then trailingPieces? last else (piece? last).map ([·])
    some (leading ++ trailing)

/-- Splits a text at the first pair of colons. -/
def splitGap : List Char → Option (List Char × List Char)
  | ':' :: ':' :: rest => some ([], rest)
  | c :: rest => (splitGap rest).map fun (before, after) => (c :: before, after)
  | [] => none

/-- The eight pieces of an address. -/
def eightPieces? (text : List Char) : Option (List Nat) := do
  match splitGap text with
  | none =>
      let pieces ← pieces? true text
      if pieces.length = 8 then some pieces else none
  | some (before, after) =>
      let before ← pieces? false before
      let after ← pieces? true after
      if before.length + after.length < 8 then
        some (before ++ List.replicate (8 - before.length - after.length) 0 ++ after)
      else none

/-- The lengths of the runs of zeros that start at each piece. -/
def zeroRuns : List Nat → List Nat
  | [] => []
  | piece :: rest => ((piece :: rest).takeWhile (· == 0)).length :: zeroRuns rest

/-- A piece as text. -/
def renderPiece (piece : Nat) : String := String.ofList (Nat.toDigits 16 piece)

/-- A sixteen-byte address as text, with the first of the longest runs of at
least two zero pieces left out. -/
def renderPieces (pieces : List Nat) : String :=
  let render (some : List Nat) := ":".intercalate (some.map renderPiece)
  let longest := (zeroRuns pieces).foldl max 0
  if longest < 2 then render pieces
  else
    let start := (zeroRuns pieces).findIdx (· == longest)
    render (pieces.take start) ++ "::" ++ render (pieces.drop (start + longest))

end Inlay.Uri
