import Inlay.Json.Writer
import Inlay.Proofs.Text.Digits

/-!
# Written values have no control characters

Whatever a value holds, at whatever depth and also in its keys, no character that it is
written with is below the space (`chars_printed`).  In a string such characters are escaped,
and nothing else is written but digits, signs, words and marks.  So no written value breaks
a line.
-/

namespace Inlay.Json

/-! ## Characters that are no control characters -/

/-- No character is below the space. -/
def Printed (chars : List Char) : Prop := ∀ c ∈ chars, 0x20 ≤ c.toNat

instance (chars : List Char) : Decidable (Printed chars) :=
  List.decidableBAll (fun c : Char => 0x20 ≤ c.toNat) chars

@[simp] theorem printed_nil : Printed [] := by simp [Printed]

@[simp] theorem printed_cons (c : Char) (chars : List Char) :
    Printed (c :: chars) ↔ 0x20 ≤ c.toNat ∧ Printed chars := by
  simp [Printed]

@[simp] theorem printed_append (front back : List Char) :
    Printed (front ++ back) ↔ Printed front ∧ Printed back := by
  simp [Printed, or_imp, forall_and]

/-- A part of a printed text, in any order, is printed. -/
theorem Printed.subset {chars more : List Char} (printed : Printed more) (sub : chars ⊆ more) :
    Printed chars :=
  fun c listed => printed c (sub listed)

/-- The line feed is a control character. -/
theorem Printed.not_mem_feed {chars : List Char} (printed : Printed chars) : '\n' ∉ chars :=
  fun listed => absurd (printed '\n' listed) (by decide)

/-! ## Numbers -/

@[simp] theorem printed_toDigits (n : Nat) : Printed (Nat.toDigits 10 n) := by
  intro c listed
  have digit := Text.isDigit_of_mem_toDigits listed
  simp only [Char.isDigit, Bool.and_eq_true, decide_eq_true_iff] at digit
  have low : 48 ≤ c.toNat := digit.1
  omega

/-- The zeros that fill up a number are printed. -/
@[simp] theorem printed_zeros (count : Nat) : Printed (List.replicate count '0') := by
  intro c listed
  rw [List.eq_of_mem_replicate listed]
  decide

theorem intChars_printed (value : Int) : Printed (intChars value) := by
  rw [intChars]
  split <;> simp

/-- An exponent is a letter, a sign and digits. -/
theorem exponentChars_printed (exponent : Int) : Printed (exponentChars exponent) := by
  rw [exponentChars]
  split <;> simp

/-- A number without an exponent is digits around at most one point, with zeros where digits are
lacking. -/
theorem positional_printed (value : Decimal.Scientific) : Printed value.positional := by
  have digits : Printed value.digitChars := printed_toDigits _
  rw [Decimal.Scientific.positional]
  split
  · split <;> simp [digits]
  · dsimp only
    split
    · simp [digits.subset (List.take_subset _ _), digits.subset (List.drop_subset _ _)]
    · simp [digits]

/-- With or without an exponent, a number is digits and marks. -/
theorem magnitudeChars_printed (value : Decimal.Scientific) : Printed (magnitudeChars value) := by
  have digits : Printed value.digitChars := printed_toDigits _
  rw [magnitudeChars]
  dsimp only
  split
  · decide
  · split
    · simp [digits]
    · split
      · exact positional_printed value
      · split
        next lead next rest cut =>
          rw [cut] at digits
          simp only [printed_cons] at digits
          simp [digits, exponentChars_printed]
        next => simp [digits, exponentChars_printed]

/-- A number with a fraction is its magnitude, behind a sign where it is negative. -/
theorem floatChars_printed (value : Float) : Printed (floatChars value) := by
  rw [floatChars]
  split <;> simp [magnitudeChars_printed]

/-! ## Strings -/

/-- The letters that stand behind a backslash for a character. -/
def letterEscapes : List (Char × Char) :=
  [('"', '"'), ('\\', '\\'), ('b', '\x08'), ('f', '\x0c'), ('n', '\n'), ('r', '\r'), ('t', '\t')]

/-- The ways to write a character inside a string. -/
inductive Escape : Char → List Char → Prop where
  | letter {c letter : Char} : (letter, c) ∈ letterEscapes → Escape c ['\\', letter]
  | unit {c : Char} : c.toNat < 0x20 →
      Escape c ['\\', 'u', '0', '0', hexChar (c.toNat / 16), hexChar (c.toNat % 16)]
  | plain {c : Char} : 0x20 ≤ c.toNat → c ≠ '"' → c ≠ '\\' → Escape c [c]

/-- Every character is written in one of the three ways. -/
theorem charEscaped_escape (c : Char) : Escape c (charEscaped c) := by
  by_cases lettered : ∃ letter, (letter, c) ∈ letterEscapes
  · obtain ⟨letter, listed⟩ := lettered
    have table : ∀ pair ∈ letterEscapes, charEscaped pair.2 = ['\\', pair.1] := by decide
    rw [table _ listed]
    exact .letter listed
  · simp only [letterEscapes, List.mem_cons, List.not_mem_nil, Prod.mk.injEq, or_false, exists_or,
      exists_eq_left, not_or] at lettered
    rcases Nat.lt_or_ge c.toNat 0x20 with control | high
    · have coded : charEscaped c =
          ['\\', 'u', '0', '0', hexChar (c.toNat / 16), hexChar (c.toNat % 16)] := by
        simp [charEscaped, lettered, control]
      rw [coded]
      exact .unit control
    · have itself : charEscaped c = [c] := by
        simp [charEscaped, lettered, Nat.not_lt.2 high]
      rw [itself]
      exact .plain high lettered.1 lettered.2.1

/-- Of the three ways to write a character, none uses a control character. -/
theorem Escape.printed {c : Char} {written : List Char} (escape : Escape c written) :
    Printed written := by
  cases escape with
  | letter listed =>
      have high : ∀ pair ∈ letterEscapes, Printed ['\\', pair.1] := by decide
      exact high _ listed
  | unit control =>
      have coded : ∀ n < 0x20,
          Printed ['\\', 'u', '0', '0', hexChar (n / 16), hexChar (n % 16)] := by decide
      exact coded _ control
  | plain high => simpa using high

/-- A text is written in quotes, each character in one of the three ways. -/
theorem stringChars_printed (text : String) : Printed (stringChars text) := by
  have body : Printed (text.toList.flatMap charEscaped) := by
    intro c listed
    obtain ⟨inner, -, inEscape⟩ := List.mem_flatMap.1 listed
    exact (charEscaped_escape inner).printed c inEscape
  simp [stringChars, body]

/-! ## Values -/

mutual

/-- No character of a written value is a control character. -/
theorem chars_printed : ∀ value : Json, Printed value.chars
  | .null => by simp [chars]
  | .bool true => by simp [chars]
  | .bool false => by simp [chars]
  | .int value => by simpa only [chars] using intChars_printed value
  | .real value => by simpa only [chars] using floatChars_printed value
  | .str text => by simpa only [chars] using stringChars_printed text
  | .arr items => by simp [chars, itemChars_printed items]
  | .obj members => by simp [chars, memberChars_printed members]

theorem itemChars_printed : ∀ items : List Json, Printed (itemChars items)
  | [] => by simp [itemChars]
  | [item] => by simpa only [itemChars] using chars_printed item
  | item :: next :: rest => by
      simp [itemChars, chars_printed item, itemChars_printed (next :: rest)]

theorem memberChars_printed : ∀ members : List (String × Json), Printed (memberChars members)
  | [] => by simp [memberChars]
  | [(key, value)] => by simp [memberChars, stringChars_printed key, chars_printed value]
  | (key, value) :: next :: rest => by
      simp [memberChars, stringChars_printed key, chars_printed value,
        memberChars_printed (next :: rest)]

end

end Inlay.Json
