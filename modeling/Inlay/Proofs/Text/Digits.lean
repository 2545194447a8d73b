import Inlay.Text.Digits

/-!
# Numbers and the digits they are written with

A run of decimal digits stands for the number that is read from it digit by digit.  The
digits of a number are read back as that number (`digitsValue_toDigits`), and they do not
begin with a zero unless the zero is the whole number (`toDigits_ne_zero_cons`).
-/

namespace Inlay.Text

/-- Digits are valued from the left, like the digits that a number is printed with. -/
theorem digitsValue_eq_ofDigitChars (digits : List Char) :
    digitsValue digits = Nat.ofDigitChars 10 digits 0 := by
  simp only [digitsValue, Nat.ofDigitChars, Nat.mul_comm]

@[simp] theorem digitsValue_toDigits (n : Nat) : digitsValue (Nat.toDigits 10 n) = n := by
  rw [digitsValue_eq_ofDigitChars, Nat.ofDigitChars_toDigits (by decide) (by decide)]

theorem isDigit_of_mem_toDigits {n : Nat} {c : Char} (listed : c ∈ Nat.toDigits 10 n) :
    c.isDigit = true :=
  Nat.isDigit_of_mem_toDigits (by decide) (by decide) listed

/-- A printed number is cut off whole from what does not go on with a digit. -/
theorem takeWhile_isDigit_toDigits (n : Nat) {rest : List Char}
    (stops : ∀ c ∈ rest.head?, c.isDigit = false) :
    (Nat.toDigits 10 n ++ rest).takeWhile Char.isDigit = Nat.toDigits 10 n ∧
      (Nat.toDigits 10 n ++ rest).dropWhile Char.isDigit = rest := by
  have digits : ∀ c ∈ Nat.toDigits 10 n, c.isDigit = true := fun c => isDigit_of_mem_toDigits
  rw [List.takeWhile_append_of_pos digits, List.dropWhile_append_of_pos digits]
  cases rest with
  | nil => simp
  | cons c rest => simp [stops c rfl]

/-- A positive number does not begin with a zero. -/
theorem head?_toDigits {n : Nat} (positive : 0 < n) : (Nat.toDigits 10 n).head? ≠ some '0' := by
  induction n using Nat.strongRecOn with
  | _ n ih =>
      rcases Nat.lt_or_ge n 10 with short | long
      · rw [Nat.toDigits_of_lt_base short]
        have code := Nat.toNat_digitChar_of_lt_ten short
        intro zero
        rw [List.head?_cons, Option.some.injEq] at zero
        rw [zero] at code
        have zeroCode : '0'.toNat = 48 := rfl
        omega
      · have leading := ih (n / 10) (by omega) (by omega)
        rw [Nat.toDigits_of_base_le (by decide) long]
        cases cut : Nat.toDigits 10 (n / 10) with
        | nil => exact absurd cut Nat.toDigits_ne_nil
        | cons c digits => rwa [cut] at leading

/-- No number is printed with a leading zero. -/
theorem toDigits_ne_zero_cons (n : Nat) (c : Char) (rest : List Char) :
    Nat.toDigits 10 n ≠ '0' :: c :: rest := by
  intro leading
  rcases Nat.eq_zero_or_pos n with rfl | positive
  · rw [Nat.toDigits_of_lt_base (by decide)] at leading
    cases leading
  · exact head?_toDigits positive (by rw [leading, List.head?_cons])

end Inlay.Text
