import Inlay.Text.Blank
import Inlay.Text.Digits
import Inlay.Text.Utf8

/-!
# Percent-encoding

Characters that may not stand in some part of a URI are written as the bytes of
their UTF-8 form, each as `%` and two hexadecimal digits.  Every part has its own
set of such characters; control characters and everything beyond ASCII belong to
all of them.
-/

namespace Inlay.Uri

/-- Characters encoded everywhere. -/
def isControl (c : Char) : Bool := c.toNat < 0x20 || 0x7E < c.toNat

/-- Characters encoded in a fragment. -/
def encodedInFragment (c : Char) : Bool :=
  isControl c || [' ', '"', '<', '>', '`'].contains c

/-- Characters encoded in a path. -/
def encodedInPath (c : Char) : Bool :=
  encodedInFragment c || ['#', '?', '{', '}'].contains c

/-- Characters encoded in a segment made from a file name, where a separator or
a percent sign stands for itself. -/
def encodedInFileName (c : Char) : Bool :=
  encodedInPath c || ['/', '%', '\\'].contains c

/-- Characters encoded in a query. -/
def encodedInQuery (c : Char) : Bool :=
  isControl c || [' ', '"', '#', '<', '>'].contains c

/-- Characters encoded in user information. -/
def encodedInUserInfo (c : Char) : Bool :=
  encodedInPath c || ['/', ':', ';', '=', '@', '[', '\\', ']', '^', '|'].contains c

/-- A hexadecimal digit, in capitals. -/
def hexDigit (digit : Nat) : Char := (Nat.digitChar digit).toUpper

/-- A byte as a percent sign and two digits. -/
def percentByte (byte : UInt8) : List Char :=
  ['%', hexDigit (byte.toNat / 16), hexDigit (byte.toNat % 16)]

/-- A text with the characters of a set encoded. -/
def percentEncode (isEncoded : Char → Bool) (chars : List Char) : List Char :=
  chars.flatMap fun c =>
    if isEncoded c then (Text.encode (String.singleton c)).flatMap percentByte else [c]

/-- Bytes with those outside ASCII, and the characters of a set, encoded. -/
def percentEncodeBytes (isEncoded : Char → Bool) (bytes : List UInt8) : List Char :=
  bytes.flatMap fun byte =>
    let c := Char.ofNat byte.toNat
    if 0x7F < byte.toNat || isEncoded c then percentByte byte else [c]

/-- The value of a hexadecimal digit given as a byte. -/
def hexValue? (byte : UInt8) : Option Nat := Text.hexDigit? (Char.ofNat byte.toNat)

/-- Bytes with every percent sign and two digits replaced by the byte they
stand for; a percent sign not followed by two digits stands for itself. -/
def percentDecodeBytes : List UInt8 → List UInt8
  | [] => []
  | byte :: high :: low :: rest =>
      match byte == 0x25, hexValue? high, hexValue? low with
      | true, some h, some l => UInt8.ofNat (h * 16 + l) :: percentDecodeBytes rest
      | _, _, _ => byte :: percentDecodeBytes (high :: low :: rest)
  | byte :: rest => byte :: percentDecodeBytes rest

/-- The bytes a percent-encoded text stands for. -/
def percentDecode (text : String) : List UInt8 := percentDecodeBytes (Text.encode text)

end Inlay.Uri
