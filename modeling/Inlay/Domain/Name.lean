import Inlay.Domain.Label
import Inlay.Text.Utf8

/-!
# Domain names in ASCII

A domain name is mapped, taken apart into labels and put together again from their
ASCII forms.  Labels may be empty.
-/

namespace Inlay.Domain

open Text

/-- Characters that never stand in a domain name. -/
def isForbidden (c : Char) : Bool :=
  c.toNat ≤ 0x20 || 0x7F ≤ c.toNat
    || ['%', '#', '/', ':', '<', '>', '?', '@', '[', '\\', ']', '^', '|'].contains c

/-- The labels of a domain name. -/
def labels? (chars : List Char) : Option (List Label) := do
  let labels ← (pieces (· == '.') (← mapChars? chars)).mapM Label.ofMapped?
  if areOrdered (labels.map Label.written) then some labels else none

/-- The ASCII form of a domain name given as bytes. -/
def ascii? (bytes : List UInt8) : Option (List Char) := do
  let text ← decode? bytes
  let labels ← labels? text.toList
  let name := ['.'].intercalate (labels.map Label.ascii)
  if name.any isForbidden then none else some name

end Inlay.Domain
