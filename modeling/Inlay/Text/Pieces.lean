/-!
# Taking a text apart

The pieces of a text between separators, and the places where it is cut in two.
-/

namespace Inlay.Text

/-- The pieces of a text between separators: one more than there are separators. -/
def pieces (isSeparator : Char → Bool) : List Char → List (List Char)
  | [] => [[]]
  | c :: rest =>
      if isSeparator c then [] :: pieces isSeparator rest
      else
        match pieces isSeparator rest with
        | [] => [[c]]
        | piece :: others => (c :: piece) :: others

/-- A text cut at the first place where a character stands; the character is
dropped. -/
def cutFirst (mark : Char) (chars : List Char) : List Char × Option (List Char) :=
  match chars.dropWhile (· != mark) with
  | [] => (chars, none)
  | _ :: after => (chars.takeWhile (· != mark), some after)

/-- A text cut at the last place where a character stands; the character is
dropped. -/
def cutLast? (mark : Char) (chars : List Char) : Option (List Char × List Char) :=
  let suffix := (chars.reverse.takeWhile (· != mark)).reverse
  if suffix.length < chars.length then
    some (chars.take (chars.length - suffix.length - 1), suffix)
  else none

/-- There is always a piece. -/
theorem pieces_ne_nil (isSeparator : Char → Bool) (chars : List Char) :
    pieces isSeparator chars ≠ [] := by
  cases chars with
  | nil => simp [pieces]
  | cons c rest =>
    simp only [pieces]
    split
    · simp
    · split <;> simp

/-- A piece ends at the first separator. -/
theorem pieces_append {isSeparator : Char → Bool} {piece : List Char}
    (solid : ∀ c ∈ piece, isSeparator c = false) {mark : Char} (separates : isSeparator mark = true)
    (rest : List Char) :
    pieces isSeparator (piece ++ mark :: rest) = piece :: pieces isSeparator rest := by
  induction piece with
  | nil => simp [pieces, separates]
  | cons c piece ih =>
    obtain ⟨here, others⟩ := List.forall_mem_cons.1 solid
    simp [pieces, here, ih others]

end Inlay.Text
