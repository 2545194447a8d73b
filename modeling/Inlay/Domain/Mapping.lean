import Inlay.Domain.MappingTable
import Inlay.Text.Normal

/-!
# Characters of domain names

Many spellings lead to one domain name: capitals, ligatures and the wide forms of
letters stand for plain letters, and some characters count for nothing.  Mapping
a text replaces such characters and brings the result into normal form.
-/

namespace Inlay.Domain

open Text

/-- Characters that are kept. -/
def keptTable : CodeTable := .ofLines keptLines

/-- Characters that are ignored. -/
def ignoredTable : CodeTable := .ofLines ignoredLines

/-- Characters that stand for others. -/
def mappedTable : CodeTable := .ofLines mappedLines

/-- What a character stands for; nothing when it may not stand in a domain name. -/
def mapChar? (c : Char) : Option (List Char) :=
  if c.toNat < 0x80 then some [c.toLower]
  else
    match mappedTable.numbers? c.toNat with
    | some codes => some (codes.map Char.ofNat)
    | none =>
        if keptTable.has c.toNat then some [c]
        else if ignoredTable.has c.toNat then some []
        else none

/-- Whether a text has no characters beyond ASCII. -/
def isAscii (chars : List Char) : Bool := chars.all fun c => c.toNat < 0x80

/-- The text that a text stands for.  Within ASCII every text is in normal form. -/
def mapChars? (chars : List Char) : Option (List Char) := do
  let mapped := (← chars.mapM mapChar?).flatten
  some (if isAscii mapped then mapped else normalize mapped)

end Inlay.Domain
