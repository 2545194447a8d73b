/-!
# Bytes and characters

Text travels as UTF-8.  `decodeParts` reads bytes one at a time and yields a
character for each well-formed sequence and a gap for each stretch of bytes that
cannot be completed to one.  A text is decoded strictly when it has no gap, and
leniently by putting the replacement character into every gap.
-/

namespace Inlay.Text

/-- A sequence whose first bytes have been read: the value so far, the number of
bytes still missing, and the bounds for the next one. -/
structure PartialChar where
  value : Nat
  missing : Nat
  low : Nat
  high : Nat
  deriving Repr, DecidableEq

/-- What a byte means at the start of a sequence. -/
inductive LeadByte where
  | whole (char : Char)
  | opening (started : PartialChar)
  | malformed
  deriving Repr, DecidableEq

/-- Reads the first byte of a sequence. -/
def leadByte (byte : UInt8) : LeadByte :=
  let code := byte.toNat
  if code < 0x80 then .whole (Char.ofNat code)
  else if code < 0xC2 then .malformed
  else if code < 0xE0 then .opening ⟨code - 0xC0, 1, 0x80, 0xBF⟩
  else if code = 0xE0 then .opening ⟨0, 2, 0xA0, 0xBF⟩
  else if code = 0xED then .opening ⟨0xD, 2, 0x80, 0x9F⟩
  else if code < 0xF0 then .opening ⟨code - 0xE0, 2, 0x80, 0xBF⟩
  else if code = 0xF0 then .opening ⟨0, 3, 0x90, 0xBF⟩
  else if code < 0xF4 then .opening ⟨code - 0xF0, 3, 0x80, 0xBF⟩
  else if code = 0xF4 then .opening ⟨4, 3, 0x80, 0x8F⟩
  else .malformed

/-- The sequence one byte further. -/
def PartialChar.push (started : PartialChar) (code : Nat) : PartialChar :=
  ⟨started.value * 64 + (code - 0x80), started.missing - 1, 0x80, 0xBF⟩

/-- The characters of some bytes, with a gap for each stretch that is not text;
the first argument is a sequence already begun. -/
def decodeParts : Option PartialChar → List UInt8 → List (Option Char)
  | none, [] => []
  | some _, [] => [none]
  | pending, byte :: rest =>
      let restart (gap : List (Option Char)) : List (Option Char) :=
        match leadByte byte with
        | .whole char => gap ++ some char :: decodeParts none rest
        | .opening started => gap ++ decodeParts (some started) rest
        | .malformed => gap ++ none :: decodeParts none rest
      match pending with
      | none => restart []
      | some started =>
          if started.low ≤ byte.toNat ∧ byte.toNat ≤ started.high then
            let grown := started.push byte.toNat
            if grown.missing = 0 then some (Char.ofNat grown.value) :: decodeParts none rest
            else decodeParts (some grown) rest
          else restart [none]

/-- The text of some bytes, if they are well-formed. -/
def decode? (bytes : List UInt8) : Option String :=
  ((decodeParts none bytes).mapM id).map String.ofList

/-- The text of some bytes, with `U+FFFD` for what is malformed. -/
def decodeLossy (bytes : List UInt8) : String :=
  String.ofList ((decodeParts none bytes).map fun part => part.getD '\uFFFD')

/-- The bytes of a text. -/
def encode (text : String) : List UInt8 := text.toUTF8.toList

end Inlay.Text
