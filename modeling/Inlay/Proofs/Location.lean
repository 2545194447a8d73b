import Mathlib.Algebra.Group.Nat.Defs
import Mathlib.Data.List.TakeWhile
import Inlay.Location
import Inlay.Proofs.Text.Digits

/-!
# What a text says about a place

A text is cut at its last colon, so whatever stands before it is the path, colons and digits
included.  The line is cut twice, once to 64 bits and once to the greatest line, and counted
from one in between.  Both cuts together are one cut of the exact number (`lineOf_eq`),
because a number that does not fit 64 bits is beyond the greatest line anyway.
-/

namespace Inlay

namespace Location

/-! ## The last colon -/

/-- A text is cut at a colon if no colon comes behind it. -/
theorem splitLastColon_append (path : List Char) {suffix : List Char} (plain : ':' ∉ suffix) :
    splitLastColon (path ++ ':' :: suffix) = some (path, suffix) := by
  have run : ∀ c ∈ suffix.reverse, (c != ':') = true := fun c listed =>
    bne_iff_ne.2 fun colon => plain (colon ▸ List.mem_reverse.1 listed)
  have last : ((path ++ ':' :: suffix).reverse.takeWhile (· != ':')).reverse = suffix := by
    rw [List.reverse_append, List.reverse_cons, List.append_assoc,
      List.takeWhile_append_of_pos run]
    simp
  have length : (path ++ ':' :: suffix).length - suffix.length - 1 = path.length := by
    rw [List.length_append, List.length_cons]
    omega
  rw [splitLastColon, last, length, List.take_left, if_pos]
  rw [List.length_append, List.length_cons]
  omega

theorem splitLastColon_of_not_mem {chars : List Char} (plain : ':' ∉ chars) :
    splitLastColon chars = none := by
  have run : chars.reverse.takeWhile (· != ':') = chars.reverse :=
    List.takeWhile_eq_self_iff.2 fun c listed =>
      bne_iff_ne.2 fun colon => plain (colon ▸ List.mem_reverse.1 listed)
  rw [splitLastColon, run, List.reverse_reverse]
  simp

/-! ## The line -/

/-- The line is the exact number less one, cut once. -/
theorem lineOf_eq (digits : List Char) :
    lineOf digits = min (max (Nat.ofDigitChars 10 digits 0) 1 - 1) (2 ^ 32 - 1) := by
  have greatest : maxLine = 2 ^ 32 - 1 := rfl
  have words : UInt64.size = 2 ^ 64 := rfl
  rw [← Text.digitsValue_eq_ofDigitChars, lineOf, Text.number64?, greatest, words]
  split
  next fits =>
    rw [Option.getD_some]
    split <;> omega
  next beyond =>
    rw [Option.getD_none]
    split <;> omega

/-! ## Texts that name a line and texts that do not -/

/-- Digits behind the last colon are the line, and all in front of it is the path. -/
theorem parse_append {path digits : String} (present : digits ≠ "")
    (digital : ∀ c ∈ digits.toList, c.isDigit) :
    parse (path ++ ":" ++ digits) = ⟨path, lineOf digits.toList⟩ := by
  have plain : ':' ∉ digits.toList := fun colon => absurd (digital ':' colon) (by decide)
  have chars : (path ++ ":" ++ digits).toList = path.toList ++ ':' :: digits.toList := by simp
  have named : digits.toList ≠ [] ∧ digits.toList.all Char.isDigit :=
    ⟨fun none => present (String.toList_eq_nil_iff.1 none), List.all_eq_true.2 digital⟩
  rw [parse, chars, splitLastColon_append _ plain]
  simp only [if_pos named, String.ofList_toList]

theorem parse_of_not_digits {path rest : String} (plain : ':' ∉ rest.toList)
    (other : rest = "" ∨ ∃ c ∈ rest.toList, c.isDigit = false) :
    parse (path ++ ":" ++ rest) = ⟨path ++ ":" ++ rest, 0⟩ := by
  have chars : (path ++ ":" ++ rest).toList = path.toList ++ ':' :: rest.toList := by simp
  have unnamed : ¬(rest.toList ≠ [] ∧ rest.toList.all Char.isDigit) := by
    rintro ⟨present, digital⟩
    rcases other with rfl | ⟨c, listed, odd⟩
    · exact present rfl
    · rw [List.all_eq_true.1 digital c listed] at odd
      cases odd
  rw [parse, chars, splitLastColon_append _ plain]
  simp only [if_neg unnamed]

theorem parse_of_not_mem {text : String} (plain : ':' ∉ text.toList) : parse text = ⟨text, 0⟩ := by
  rw [parse, splitLastColon_of_not_mem plain]

/-- Digits behind a colon are a line, whatever the path before it holds and however many
digits there are.  A text without a colon, and one with anything else behind its last colon,
is a path as it stands. -/
theorem parse_lastColon :
    (∀ path digits : String, digits ≠ "" → (∀ c ∈ digits.toList, c.isDigit) →
      parse (path ++ ":" ++ digits) =
        ⟨path, min (max (Nat.ofDigitChars 10 digits.toList 0) 1 - 1) (2 ^ 32 - 1)⟩) ∧
    ∀ text : String,
      (':' ∉ text.toList ∨ ∃ path rest : String, text = path ++ ":" ++ rest ∧
        ':' ∉ rest.toList ∧ (rest = "" ∨ ∃ c ∈ rest.toList, c.isDigit = false)) →
      parse text = ⟨text, 0⟩ := by
  constructor
  · intro path digits present digital
    rw [parse_append present digital, lineOf_eq]
  · rintro text (plain | ⟨path, rest, rfl, plain, other⟩)
    · exact parse_of_not_mem plain
    · exact parse_of_not_digits plain other

/-- A path with colons and a line of more than 64 bits with a leading zero; a suffix with a
letter. -/
theorem parse_lastColon_beyond :
    let digits := "018446744073709551617"
    (digits ≠ "" ∧ ∀ c ∈ digits.toList, c.isDigit) ∧
    parse ("c:/a.pike:7" ++ ":" ++ digits) = ⟨"c:/a.pike:7", 2 ^ 32 - 1⟩ ∧
    ':' ∉ "12a".toList ∧ 'a' ∈ "12a".toList ∧
    parse ("c:/a.pike" ++ ":" ++ "12a") = ⟨"c:/a.pike:12a", 0⟩ := by
  have present : "018446744073709551617" ≠ "" := by decide
  have digital : ∀ c ∈ "018446744073709551617".toList, c.isDigit :=
    List.all_eq_true.1 (by decide)
  have plain : ':' ∉ "12a".toList := by decide
  have letter : 'a' ∈ "12a".toList := by decide
  refine ⟨⟨present, digital⟩, ?_, plain, letter, ?_⟩
  · exact parse_lastColon.1 "c:/a.pike:7" "018446744073709551617" present digital
  · exact parse_lastColon.2 "c:/a.pike:12a"
      (.inr ⟨"c:/a.pike", "12a", rfl, plain, .inr ⟨'a', letter, rfl⟩⟩)

end Location

end Inlay
