import Inlay.Proofs.LineIndex.Content

/-!
# Lines as a partition of the text

Each line starts one past the line feed that ends the line before it, the first at the
start of the text, and the last goes on to the end of the text.  So every offset is on one
line only, and that is the line of its position (`LineIndex.onLine_iff`).

Both conversions are then known for all offsets and all positions: an offset comes back cut
at the end of its line's content, a position that its line holds comes back as it is, and
only a line that does not exist has no offset.
-/

namespace Inlay

namespace LineIndex

variable {chars : List Char}

/-! ## Where lines start -/

theorem lineStart?_eq_some_iff {index : LineIndex} {n start : Nat} :
    index.lineStart? n = some start ↔
      n < index.lineCount ∧ widthOf (index.lines.take n) = start := by
  rw [lineStart?]
  split
  next inRange => simp [inRange]
  next past => simp [past]

/-- The line feed at an offset ends the line that starts at another. -/
structure Ends (chars : List Char) (feed start : Nat) : Prop where
  behind : start ≤ feed
  isFeed : chars[feed]? = some '\n'
  only : ∀ offset, start ≤ offset → offset < feed → chars[offset]? ≠ some '\n'

theorem Ends.of_full {row : List Char} (full : IsFullLine row) {start : Nat}
    (stands : Text.StandsAt chars row start) : Ends chars (start + row.length - 1) start := by
  obtain ⟨body, rfl, unbroken⟩ := full
  have atFeed : start + (body ++ ['\n']).length - 1 = start + body.length := by
    rw [List.length_append, List.length_singleton, ← Nat.add_assoc, Nat.add_sub_cancel]
  rw [atFeed]
  refine ⟨Nat.le_add_right _ _, ?_, fun offset behind before => ?_⟩
  · rw [stands.getElem?_eq (by simp), List.getElem?_concat_length]
  · obtain ⟨column, rfl⟩ := Nat.exists_eq_add_of_le behind
    have inBody : column < body.length := Nat.lt_of_add_lt_add_left before
    rw [stands.getElem?_eq (by simp; omega), List.getElem?_append_left inBody]
    exact fun feed => unbroken (List.mem_of_getElem? feed)

/-- A line that others follow ends with a line feed, and the next one starts behind it. -/
theorem lineStart?_succ {n start : Nat} (starts : (ofChars chars).lineStart? n = some start)
    (followed : n + 1 < (ofChars chars).lineCount) :
    ∃ feed, Ends chars feed start ∧ (ofChars chars).lineStart? (n + 1) = some (feed + 1) := by
  obtain ⟨inRange, rfl⟩ := lineStart?_eq_some_iff.1 starts
  have present := List.getElem?_eq_getElem inRange
  rcases full_or_last present with ⟨full, -⟩ | ⟨-, last⟩
  · refine ⟨_, .of_full full (line_standsAt present), lineStart?_eq_some_iff.2 ⟨followed, ?_⟩⟩
    have width := full.contentWidth_lt
    rw [widthOf_take_succ present]
    omega
  · exact absurd last (Nat.ne_of_lt followed)

/-- The last line has no line feed and goes on to the end of the text. -/
theorem lineStart?_last {n start : Nat} (starts : (ofChars chars).lineStart? n = some start)
    (last : n + 1 = (ofChars chars).lineCount) :
    start ≤ chars.length ∧ '\n' ∉ chars.drop start := by
  obtain ⟨inRange, rfl⟩ := lineStart?_eq_some_iff.1 starts
  have present := List.getElem?_eq_getElem inRange
  have inText := widthOf_take_add_le_length present
  rcases full_or_last present with ⟨-, followed⟩ | ⟨unbroken, -⟩
  · exact absurd last (Nat.ne_of_lt followed)
  · refine ⟨Nat.le_trans (Nat.le_add_right _ _) inText, ?_⟩
    obtain ⟨front, back, text, width⟩ := line_standsAt present
    have whole : widthOf (ofChars chars).lines = chars.length := length_ofChars chars
    have reaches := widthOf_take_succ present
    rw [show n + 1 = (ofChars chars).lines.length from last, List.take_length, whole] at reaches
    have lengths := congrArg List.length text
    simp only [List.length_append] at lengths
    obtain rfl : back = [] := List.eq_nil_of_length_eq_zero (by omega)
    rw [← width, text, List.drop_left, List.append_nil]
    exact unbroken

/-! ## The line of an offset -/

/-- The offset is on the line: it is not before the start of the line, and it is before the
start of the next line if there is one. -/
def OnLine (index : LineIndex) (offset n : Nat) : Prop :=
  ∃ start, index.lineStart? n = some start ∧ start ≤ offset ∧
    ∀ next ∈ index.lineStart? (n + 1), offset < next

theorem onLine_position {offset : Nat} (inText : offset ≤ chars.length) :
    (ofChars chars).OnLine offset ((ofChars chars).position offset).line := by
  obtain ⟨n, character, row, located, present, starts, onLine⟩ := position_onLine inText
  rw [located]
  refine ⟨_, lineStart?_eq present, starts ▸ Nat.le_add_right _ _, fun next follows => ?_⟩
  obtain ⟨followed, rfl⟩ := lineStart?_eq_some_iff.1 follows
  rw [widthOf_take_succ present]
  rcases onLine with inside | ⟨-, unbroken, -⟩
  · omega
  · rcases full_or_last present with ⟨⟨body, rfl, -⟩, -⟩ | ⟨-, last⟩
    · exact absurd (List.mem_append_right _ List.mem_cons_self) unbroken
    · exact absurd last (Nat.ne_of_lt followed)

/-- A line that others follow ends before the start of every later one. -/
theorem OnLine.lt {index : LineIndex} {offset m n start : Nat} (onLine : index.OnLine offset m)
    (before : m < n) (starts : index.lineStart? n = some start) : offset < start := by
  obtain ⟨inRange, rfl⟩ := lineStart?_eq_some_iff.1 starts
  obtain ⟨_, _, _, next⟩ := onLine
  have followed : m + 1 < index.lineCount := Nat.lt_of_le_of_lt before inRange
  have onto := next _ (lineStart?_eq_some_iff.2 ⟨followed, rfl⟩)
  rcases Nat.lt_or_eq_of_le before with later | rfl
  · have apart := widthOf_take_add_le_take (List.getElem?_eq_getElem followed) later
    omega
  · exact onto

theorem OnLine.eq {index : LineIndex} {offset m n : Nat} (first : index.OnLine offset m)
    (second : index.OnLine offset n) : m = n := by
  have ⟨_, startsFirst, beforeFirst, _⟩ := first
  have ⟨_, startsSecond, beforeSecond, _⟩ := second
  rcases Nat.lt_trichotomy m n with before | same | behind
  · exact absurd (first.lt before startsSecond) (Nat.not_lt.2 beforeSecond)
  · exact same
  · exact absurd (second.lt behind startsFirst) (Nat.not_lt.2 beforeFirst)

/-- Every offset of the text is on one line, that of its position. -/
theorem onLine_iff {offset n : Nat} (inText : offset ≤ chars.length) :
    (ofChars chars).OnLine offset n ↔ ((ofChars chars).position offset).line = n := by
  refine ⟨fun onLine => (onLine_position inText).eq onLine, ?_⟩
  rintro rfl
  exact onLine_position inText

/-! ## The conversions -/

theorem offset?_eq_none_iff {index : LineIndex} {position : Position} :
    index.offset? position = none ↔ index.lineCount ≤ position.line := by
  rw [lineCount, ← List.getElem?_eq_none_iff]
  cases present : index.lines[position.line]? with
  | none => simp [offset?_eq_none present]
  | some line => simp [offset?_eq present]

theorem offset?_position_of_no_return (plain : '\r' ∉ chars) {offset : Nat}
    (inText : offset ≤ chars.length) :
    (ofChars chars).offset? ((ofChars chars).position offset) = some offset := by
  refine (inContent_of_not_behindReturn inText ?_).offset?_position inText
  rintro ⟨index, -, back⟩
  exact plain (List.mem_of_getElem? back)

/-- The lines are a partition of the text, cut behind each line feed, and offsets and
positions are converted into one another along it.  An offset comes back cut at the end of
its line's content, so all come back where there is no carriage return.  A position that its
line holds comes back.  The order is kept, and only lines that do not exist have no offset. -/
theorem position_partition (text : List Char) (short : text.length < 2 ^ 32) :
    let index := ofChars text
    (∀ offset ≤ text.length,
      ((index.position offset).line < 2 ^ 32 ∧ (index.position offset).character < 2 ^ 32) ∧
      ∃ stop, index.lineEnd? (index.position offset).line = some stop ∧
        index.offset? (index.position offset) = some (min offset stop)) ∧
    ('\r' ∉ text → ∀ offset ≤ text.length,
      index.offset? (index.position offset) = some offset) ∧
    (∀ position, index.Holds position → ∃ offset,
      index.offset? position = some offset ∧ index.position offset = position) ∧
    (∀ a b, a ≤ b → index.position a ≤ index.position b) ∧
    index.lineStart? 0 = some 0 ∧
    (∀ n start, index.lineStart? n = some start →
      (n + 1 < index.lineCount →
        ∃ feed, Ends text feed start ∧ index.lineStart? (n + 1) = some (feed + 1)) ∧
      (n + 1 = index.lineCount → start ≤ text.length ∧ '\n' ∉ text.drop start)) ∧
    (∀ offset ≤ text.length, ∀ n,
      index.OnLine offset n ↔ (index.position offset).line = n) ∧
    (∀ position, index.offset? position = none ↔ index.lineCount ≤ position.line) := by
  intro index
  have nonempty : 0 < index.lineCount := List.length_pos_iff.2 (splitLines_ne_nil text)
  refine ⟨fun offset inText => ⟨?_, offset?_position inText⟩,
    fun plain offset inText => offset?_position_of_no_return plain inText,
    fun position held => ?_, fun a b ordered => position_mono index ordered,
    lineStart?_eq_some_iff.2 ⟨nonempty, rfl⟩,
    fun n start starts => ⟨lineStart?_succ starts, lineStart?_last starts⟩,
    fun offset inText n => onLine_iff inText, fun position => offset?_eq_none_iff⟩
  · have fits := position_le inText
    exact ⟨Nat.lt_of_le_of_lt fits.1 short, Nat.lt_of_le_of_lt fits.2 short⟩
  · obtain ⟨offset, converted, -, back, -⟩ := held.position_offset
    exact ⟨offset, converted, back⟩

/-- A line whose break has two carriage returns, a line with one in its content and an empty
last line: an offset inside the break comes back as the end of the content. -/
theorem position_partition_returns :
    let text := "é\r\r\nb\rc\n".toList
    let index := ofChars text
    index.offset? (index.position 2) = some 1 ∧ index.offset? (index.position 6) = some 6 ∧
      (∃ offset, index.offset? ⟨1, 3⟩ = some offset ∧ index.position offset = ⟨1, 3⟩) ∧
      (∃ feed, Ends text feed 4 ∧ index.lineStart? 2 = some (feed + 1)) ∧
      index.OnLine 8 2 ∧ index.offset? ⟨3, 0⟩ = none := by
  intro text index
  obtain ⟨back, -, held, -, -, starts, onLine, missing⟩ := position_partition text (by decide)
  obtain ⟨-, stop, ends, cut⟩ := back 2 (by decide)
  obtain rfl : stop = 1 := Option.some.inj (ends.symm.trans (by decide))
  obtain ⟨-, stop, ends, kept⟩ := back 6 (by decide)
  obtain rfl : stop = 7 := Option.some.inj (ends.symm.trans (by decide))
  exact ⟨cut, kept, held ⟨1, 3⟩ (by decide), (starts 1 4 (by decide)).1 (by decide),
    (onLine 8 (by decide) 2).2 (by decide), (missing ⟨3, 0⟩).2 (by decide)⟩

end LineIndex

end Inlay
