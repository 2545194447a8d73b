import Inlay.LineIndex

/-!
# Lines, offsets and positions

The lines of a text, put side by side, are the text.  A position on a line that
exists therefore stands for the offset at which its line starts plus its character,
and `LineIndex.locate` finds the one line on which an offset lies.  Converting an
offset to a position and back gives the offset again, unless it points into the
line break that ends its line: then it gives the end of the content.
-/

namespace Inlay

/-! ## Cutting a text into lines -/

theorem splitLines_ne_nil (chars : List Char) : splitLines chars ≠ [] := by
  cases chars with
  | nil => simp [splitLines]
  | cons c rest =>
      simp only [splitLines]
      split
      · simp
      · split <;> simp

/-- The lines of a text, joined, are the text, since each keeps its break. -/
theorem splitLines_flatten (chars : List Char) : (splitLines chars).flatten = chars := by
  induction chars with
  | nil => rfl
  | cons c rest ih =>
      simp only [splitLines]
      split
      · simp [ih]
      · split
        next none => exact absurd none (splitLines_ne_nil rest)
        next line lines some =>
          rw [some] at ih
          simpa using ih

/-- Every line but the last has a line feed of its own. -/
theorem length_splitLines_le (chars : List Char) :
    (splitLines chars).length ≤ chars.length + 1 := by
  induction chars with
  | nil => simp [splitLines]
  | cons c rest ih =>
      simp only [splitLines]
      split
      · simpa using ih
      · split
        next none => simp
        next line lines some =>
          rw [some] at ih
          simp only [List.length_cons] at ih ⊢
          omega

/-- The line ends with a line feed, the only one it has. -/
def IsFullLine (line : List Char) : Prop := ∃ body, line = body ++ ['\n'] ∧ '\n' ∉ body

/-- Every line but the last is full, and the last has no line feed. -/
theorem splitLines_eq_full (chars : List Char) :
    ∃ full last, splitLines chars = full ++ [last] ∧ (∀ line ∈ full, IsFullLine line) ∧
      '\n' ∉ last := by
  induction chars with
  | nil => exact ⟨[], [], rfl, by simp, by simp⟩
  | cons c rest ih =>
      obtain ⟨full, last, lines, areFull, unbroken⟩ := ih
      simp only [splitLines, lines]
      split
      next feed =>
        refine ⟨[c] :: full, last, rfl, List.forall_mem_cons.2 ⟨?_, areFull⟩, unbroken⟩
        exact ⟨[], by rw [feed, List.nil_append], by simp⟩
      next other =>
        cases full with
        | nil => exact ⟨[], c :: last, rfl, by simp, by simp [Ne.symm other, unbroken]⟩
        | cons line full =>
            obtain ⟨⟨body, rfl, unbrokenBody⟩, others⟩ := List.forall_mem_cons.1 areFull
            refine ⟨(c :: body ++ ['\n']) :: full, last, rfl, List.forall_mem_cons.2 ⟨?_, others⟩,
              unbroken⟩
            exact ⟨c :: body, rfl, by simp [Ne.symm other, unbrokenBody]⟩

/-- Characters other than line feeds go in front of the first line. -/
theorem splitLines_append {front : List Char} (unbroken : '\n' ∉ front) (rest : List Char) :
    ∃ line lines, splitLines rest = line :: lines ∧
      splitLines (front ++ rest) = (front ++ line) :: lines := by
  induction front with
  | nil =>
      obtain ⟨line, lines, cut⟩ := List.exists_cons_of_ne_nil (splitLines_ne_nil rest)
      exact ⟨line, lines, cut, cut⟩
  | cons c front ih =>
      rw [List.mem_cons, not_or] at unbroken
      obtain ⟨line, lines, cut, joined⟩ := ih unbroken.2
      refine ⟨line, lines, cut, ?_⟩
      rw [List.cons_append, splitLines, if_neg (Ne.symm unbroken.1), joined]
      rfl

/-- A full line at the front is cut off as the first. -/
theorem splitLines_full {line : List Char} (full : IsFullLine line) (rest : List Char) :
    splitLines (line ++ rest) = line :: splitLines rest := by
  obtain ⟨body, rfl, unbroken⟩ := full
  obtain ⟨first, lines, cut, joined⟩ := splitLines_append unbroken ('\n' :: rest)
  rw [splitLines, if_pos rfl] at cut
  obtain ⟨rfl, rfl⟩ := List.cons.inj cut
  rwa [List.append_assoc, List.singleton_append]

/-- Full lines are cut off as they are. -/
theorem splitLines_flatten_append {full : List (List Char)}
    (areFull : ∀ line ∈ full, IsFullLine line) (rest : List Char) :
    splitLines (full.flatten ++ rest) = full ++ splitLines rest := by
  induction full with
  | nil => rfl
  | cons line full ih =>
      obtain ⟨here, others⟩ := List.forall_mem_cons.1 areFull
      rw [List.flatten_cons, List.append_assoc, splitLines_full here, ih others, List.cons_append]

theorem contentWidth_le (line : List Char) : contentWidth line ≤ line.length := by
  have shorter := (List.dropWhile_suffix isBreak (l := line.reverse)).length_le
  simpa [contentWidth] using shorter

/-- The content of a line takes in all that does not end with a line break character. -/
theorem le_contentWidth (front : List Char) {last : Char} (solid : isBreak last = false)
    (back : List Char) : (front ++ [last]).length ≤ contentWidth (front ++ [last] ++ back) := by
  rw [contentWidth, List.reverse_append, List.reverse_append, List.reverse_singleton,
    List.singleton_append, List.dropWhile_append]
  split
  next => simp [solid]
  next => simp

namespace LineIndex

/-! ## The width of some lines -/

@[simp] theorem widthOf_nil : widthOf [] = 0 := rfl

@[simp] theorem widthOf_cons (line : List Char) (lines : List (List Char)) :
    widthOf (line :: lines) = line.length + widthOf lines := rfl

theorem widthOf_eq_length_flatten (lines : List (List Char)) :
    widthOf lines = lines.flatten.length := by
  induction lines with
  | nil => rfl
  | cons line rest ih => rw [widthOf_cons, ih, List.flatten_cons, List.length_append]

@[simp] theorem length_ofChars (chars : List Char) : (ofChars chars).length = chars.length := by
  rw [length, ofChars, widthOf_eq_length_flatten, splitLines_flatten]

/-- A line and those before it are no wider than all lines. -/
theorem widthOf_take_add_le {lines : List (List Char)} {n : Nat} {line : List Char}
    (present : lines[n]? = some line) : widthOf (lines.take n) + line.length ≤ widthOf lines := by
  induction lines generalizing n with
  | nil => simp at present
  | cons first rest ih =>
      cases n with
      | zero =>
          obtain rfl : first = line := by simpa using present
          simp
      | succ n =>
          have inRest := ih (n := n) (by simpa using present)
          simp only [List.take_succ_cons, widthOf_cons]
          omega

theorem widthOf_take_succ {lines : List (List Char)} {n : Nat} {line : List Char}
    (present : lines[n]? = some line) :
    widthOf (lines.take (n + 1)) = widthOf (lines.take n) + line.length := by
  simp only [widthOf_eq_length_flatten, List.take_add_one, present, Option.toList_some,
    List.flatten_append, List.length_append, List.flatten_singleton]

/-- A line ends before every later one begins. -/
theorem widthOf_take_add_le_take {lines : List (List Char)} {m n : Nat} {line : List Char}
    (present : lines[m]? = some line) (before : m < n) :
    widthOf (lines.take m) + line.length ≤ widthOf (lines.take n) := by
  have taken := widthOf_take_add_le ((List.getElem?_take_of_lt before).trans present)
  rwa [List.take_take, Nat.min_eq_left (Nat.le_of_lt before)] at taken

/-- A line and those before it are no wider than the text. -/
theorem widthOf_take_add_le_length {chars : List Char} {n : Nat} {line : List Char}
    (present : (ofChars chars).lines[n]? = some line) :
    widthOf ((ofChars chars).lines.take n) + line.length ≤ chars.length := by
  rw [← length_ofChars chars]
  exact widthOf_take_add_le present

/-! ## Where a line starts and ends -/

theorem lineStart?_eq {index : LineIndex} {n : Nat} {line : List Char}
    (present : index.lines[n]? = some line) :
    index.lineStart? n = some (widthOf (index.lines.take n)) := by
  obtain ⟨inRange, -⟩ := List.getElem?_eq_some_iff.1 present
  exact if_pos inRange

theorem lineEnd?_eq {index : LineIndex} {n : Nat} {line : List Char}
    (present : index.lines[n]? = some line) :
    index.lineEnd? n = some (widthOf (index.lines.take n) + contentWidth line) := by
  rw [lineEnd?, present]
  rfl

/-- A column beyond the end of its line is cut to that end. -/
theorem offset?_eq {index : LineIndex} {position : Position} {line : List Char}
    (present : index.lines[position.line]? = some line) :
    index.offset? position =
      some (widthOf (index.lines.take position.line) +
        min position.character (contentWidth line)) := by
  rw [offset?, lineStart?_eq present, lineEnd?_eq present, ← Nat.add_min_add_left]
  rfl

/-- A position on a line that does not exist has no offset. -/
theorem offset?_eq_none {index : LineIndex} {position : Position}
    (absent : index.lines[position.line]? = none) : index.offset? position = none := by
  have past : ¬position.line < index.lineCount := by
    simpa [lineCount] using List.getElem?_eq_none_iff.1 absent
  rw [offset?, lineStart?, if_neg past]
  rfl

/-! ## From offsets to positions and back -/

/-- Every offset, also one beyond the end, is located on a line that exists. -/
theorem locate_line_lt {lines : List (List Char)} (nonempty : lines ≠ []) (offset : Nat) :
    (locate lines offset).line < lines.length := by
  induction lines generalizing offset with
  | nil => exact absurd rfl nonempty
  | cons line rest ih =>
      cases rest with
      | nil => simp [locate]
      | cons next rest =>
          rw [locate]
          split
          · simp
          · have inRest := ih (by simp) (offset - line.length)
            simp only [List.length_cons] at inRest ⊢
            omega

/-- The line found starts the character's distance before the offset. -/
theorem widthOf_take_locate (lines : List (List Char)) (offset : Nat) :
    widthOf (lines.take (locate lines offset).line) + (locate lines offset).character = offset := by
  induction lines generalizing offset with
  | nil => simp [locate]
  | cons line rest ih =>
      cases rest with
      | nil => simp [locate]
      | cons next rest =>
          rw [locate]
          split
          next inside => simp
          next past =>
            have inRest := ih (offset - line.length)
            simp only [List.take_succ_cons, widthOf_cons]
            omega

variable {chars : List Char} {offset : Nat}

theorem position_eq_locate (inText : offset ≤ chars.length) :
    (ofChars chars).position offset = locate (ofChars chars).lines offset := by
  rw [position, length_ofChars, Nat.min_eq_left inText]

/-- The position of an offset of the text names a line that exists, and the offset is
the start of that line plus the character. -/
theorem position_line (inText : offset ≤ chars.length) :
    ∃ line, (ofChars chars).lines[((ofChars chars).position offset).line]? = some line ∧
      widthOf ((ofChars chars).lines.take ((ofChars chars).position offset).line) +
        ((ofChars chars).position offset).character = offset := by
  rw [position_eq_locate inText]
  have inRange := locate_line_lt (splitLines_ne_nil chars) offset
  exact ⟨_, List.getElem?_eq_getElem inRange, widthOf_take_locate (splitLines chars) offset⟩

/-- An offset converted to a position and back is the offset, cut at the end of its
line's content. -/
theorem offset?_position (inText : offset ≤ chars.length) :
    ∃ stop, (ofChars chars).lineEnd? ((ofChars chars).position offset).line = some stop ∧
      (ofChars chars).offset? ((ofChars chars).position offset) = some (min offset stop) := by
  obtain ⟨line, present, starts⟩ := position_line inText
  refine ⟨_, lineEnd?_eq present, ?_⟩
  rw [offset?_eq present, ← Nat.add_min_add_left, starts]

/-- Neither part of the position of an offset exceeds the length of the text. -/
theorem position_le (inText : offset ≤ chars.length) :
    ((ofChars chars).position offset).line ≤ chars.length ∧
      ((ofChars chars).position offset).character ≤ chars.length := by
  obtain ⟨line, present, starts⟩ := position_line inText
  obtain ⟨inRange, -⟩ := List.getElem?_eq_some_iff.1 present
  have few : (ofChars chars).lines.length ≤ chars.length + 1 := length_splitLines_le chars
  omega

end LineIndex

end Inlay
