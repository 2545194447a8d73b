/-!
# Blank characters

The characters that count as white space wherever text is trimmed or a markup
tag is taken apart: the Unicode property `White_Space`.
-/

namespace Inlay.Text

/-- A white space character of any script. -/
def isBlank (c : Char) : Bool :=
  let code := c.toNat
  (0x09 ≤ code && code ≤ 0x0D) || code == 0x20 || code == 0x85 || code == 0xA0
    || code == 0x1680 || (0x2000 ≤ code && code ≤ 0x200A)
    || code == 0x2028 || code == 0x2029 || code == 0x202F || code == 0x205F || code == 0x3000

/-- Drops trailing characters satisfying `drop`. -/
def dropRightWhile (drop : Char → Bool) (chars : List Char) : List Char :=
  (chars.reverse.dropWhile drop).reverse

/-- The text without blanks at either end. -/
def trimChars (chars : List Char) : List Char :=
  dropRightWhile isBlank (chars.dropWhile isBlank)

/-- The text without blanks at either end. -/
def trim (text : String) : String :=
  String.ofList (trimChars text.toList)

/-- The text with ASCII capitals made small; every other character is kept. -/
def lowercase (text : String) : String :=
  String.ofList (text.toList.map Char.toLower)

/-- Every character that core calls white space is blank. -/
theorem isBlank_of_isWhitespace {c : Char} (white : c.isWhitespace = true) : isBlank c = true := by
  simp only [Char.isWhitespace, Bool.or_eq_true, decide_eq_true_eq] at white
  rcases white with ((rfl | rfl) | rfl) | rfl <;> decide

end Inlay.Text
