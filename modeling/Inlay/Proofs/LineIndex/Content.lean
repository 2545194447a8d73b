import Inlay.Proofs.Document
import Inlay.Proofs.Text.Search

/-!
# Places in the content of lines

A position that its line holds, one on a line that exists and not behind the end of its
content, is converted to an offset and back unchanged (`LineIndex.Holds.position_offset`).
The other way round an offset comes back unless it points into a line break, so what
matters is which offsets do not (`LineIndex.InContent`): one behind a character that
breaks no line, one at such a character, and, where a carriage return never stands without
its line feed, every offset but those between the two (`LineIndex.inContent_iff`).

Both conversions keep the order of what they convert.
-/

namespace Inlay

/-! ## The order of positions -/

namespace Position

variable {a b c : Position}

theorem le_trans (first : a ≤ b) (second : b ≤ c) : a ≤ c := by
  rcases first with first | ⟨firstLine, first⟩
  · rcases second with second | ⟨secondLine, -⟩
    · exact .inl (Nat.lt_trans first second)
    · exact .inl (secondLine ▸ first)
  · rcases second with second | ⟨secondLine, second⟩
    · exact .inl (firstLine ▸ second)
    · exact .inr ⟨firstLine.trans secondLine, Nat.le_trans first second⟩

theorem le_total (a b : Position) : a ≤ b ∨ b ≤ a := by
  rcases Nat.lt_trichotomy a.line b.line with before | same | behind
  · exact .inl (.inl before)
  · rcases Nat.le_total a.character b.character with before | behind
    · exact .inl (.inr ⟨same, before⟩)
    · exact .inr (.inr ⟨same.symm, behind⟩)
  · exact .inr (.inl behind)

end Position

/-! ## The content of a line -/

theorem contentWidth_concat {c : Char} (breaks : isBreak c = true) (front : List Char) :
    contentWidth (front ++ [c]) = contentWidth front := by
  simp [contentWidth, breaks]

theorem IsFullLine.contentWidth_lt {row : List Char} (full : IsFullLine row) :
    contentWidth row < row.length := by
  obtain ⟨body, rfl, -⟩ := full
  have fits := contentWidth_le body
  rw [contentWidth_concat (by decide), List.length_append, List.length_singleton]
  omega

/-- The line feed of a full line is its last character. -/
theorem IsFullLine.eq_length {row : List Char} (full : IsFullLine row) {index : Nat}
    (feed : row[index]? = some '\n') : index + 1 = row.length := by
  obtain ⟨body, rfl, unbroken⟩ := full
  obtain ⟨inLine, -⟩ := List.getElem?_eq_some_iff.1 feed
  rw [List.length_append, List.length_singleton] at inLine ⊢
  rcases Nat.lt_succ_iff_lt_or_eq.1 inLine with inBody | rfl
  · rw [List.getElem?_append_left inBody] at feed
    exact absurd (List.mem_of_getElem? feed) unbroken
  · rfl

/-- A character that breaks no line belongs to the content of its line. -/
theorem lt_contentWidth {row : List Char} {index : Nat} {c : Char} (there : row[index]? = some c)
    (solid : isBreak c = false) : index < contentWidth row := by
  obtain ⟨inLine, rfl⟩ := List.getElem?_eq_some_iff.1 there
  have whole : row.take index ++ [row[index]] ++ row.drop (index + 1) = row := by
    rw [List.take_append_getElem, List.take_append_drop]
  have reaches := le_contentWidth (row.take index) solid (row.drop (index + 1))
  rw [whole, List.length_append, List.length_take, Nat.min_eq_left (Nat.le_of_lt inLine)] at reaches
  exact reaches

namespace LineIndex

variable {chars : List Char}

/-- Every line is full but the last one, which has no line feed. -/
theorem full_or_last {n : Nat} {line : List Char}
    (present : (ofChars chars).lines[n]? = some line) :
    IsFullLine line ∧ n + 1 < (ofChars chars).lines.length ∨
      '\n' ∉ line ∧ n + 1 = (ofChars chars).lines.length := by
  obtain ⟨full, last, cut, areFull, unbroken⟩ := splitLines_eq_full chars
  obtain ⟨inRange, -⟩ := List.getElem?_eq_some_iff.1 present
  rw [ofChars, cut] at present inRange ⊢
  rw [List.length_append, List.length_singleton] at inRange ⊢
  rcases Nat.lt_succ_iff_lt_or_eq.1 inRange with before | rfl
  · rw [List.getElem?_append_left before] at present
    exact .inl ⟨areFull line (List.mem_of_getElem? present), Nat.succ_lt_succ before⟩
  · rw [List.getElem?_concat_length] at present
    obtain rfl := Option.some.inj present
    exact .inr ⟨unbroken, rfl⟩

/-- A line stands in the text where it starts. -/
theorem line_standsAt {n : Nat} {line : List Char}
    (present : (ofChars chars).lines[n]? = some line) :
    Text.StandsAt chars line (widthOf ((ofChars chars).lines.take n)) := by
  obtain ⟨inRange, isLine⟩ := List.getElem?_eq_some_iff.1 present
  have text : ((ofChars chars).lines.take n ++
      line :: (ofChars chars).lines.drop (n + 1)).flatten = chars := by
    rw [← isLine, ← List.drop_eq_getElem_cons inRange, List.take_append_drop]
    exact splitLines_flatten chars
  refine ⟨_, ((ofChars chars).lines.drop (n + 1)).flatten, ?_,
    (widthOf_eq_length_flatten ((ofChars chars).lines.take n)).symm⟩
  rw [← List.flatten_cons, ← List.flatten_append, text]

/-! ## From positions to offsets and back -/

/-- A place on a line, unless it is the end of a line that others follow, is found there. -/
theorem locate_widthOf_take {lines : List (List Char)} {n character : Nat} {line : List Char}
    (present : lines[n]? = some line)
    (onLine : character < line.length ∨ n + 1 = lines.length) :
    locate lines (widthOf (lines.take n) + character) = ⟨n, character⟩ := by
  induction lines generalizing n with
  | nil => simp at present
  | cons first rest ih =>
      cases rest with
      | nil =>
          obtain rfl : n = 0 := by
            obtain ⟨inRange, -⟩ := List.getElem?_eq_some_iff.1 present
            simpa using inRange
          simp [locate]
      | cons next rest =>
          cases n with
          | zero =>
              obtain rfl : first = line := by simpa using present
              have inside : character < first.length := by simpa using onLine
              simp [locate, inside]
          | succ n =>
              have inRest := ih (n := n) (by simpa using present) (by simpa using onLine)
              have past : ¬first.length + widthOf ((next :: rest).take n) + character <
                  first.length := by omega
              rw [List.take_succ_cons, widthOf_cons, locate, if_neg past, Nat.add_assoc,
                Nat.add_sub_cancel_left, inRest]

/-- The position of such a place is the line and the character. -/
theorem position_widthOf_take {n character : Nat} {line : List Char}
    (present : (ofChars chars).lines[n]? = some line) (inLine : character ≤ line.length)
    (onLine : character < line.length ∨ n + 1 = (ofChars chars).lines.length) :
    (ofChars chars).position (widthOf ((ofChars chars).lines.take n) + character) =
      ⟨n, character⟩ := by
  have inText := widthOf_take_add_le_length present
  have fits := Nat.le_trans (Nat.add_le_add_left inLine _) inText
  rw [position_eq_locate fits]
  exact locate_widthOf_take present onLine

/-- Every place in the content of a line is in the text. -/
theorem widthOf_take_add_le_of_le_contentWidth {n character : Nat} {line : List Char}
    (present : (ofChars chars).lines[n]? = some line) (fits : character ≤ contentWidth line) :
    widthOf ((ofChars chars).lines.take n) + character ≤ chars.length := by
  have inLine := Nat.le_trans fits (contentWidth_le line)
  exact Nat.le_trans (Nat.add_le_add_left inLine _) (widthOf_take_add_le_length present)

/-- The position of a place in the content of a line is the line and the character. -/
theorem position_of_le_contentWidth {n character : Nat} {line : List Char}
    (present : (ofChars chars).lines[n]? = some line) (fits : character ≤ contentWidth line) :
    (ofChars chars).position (widthOf ((ofChars chars).lines.take n) + character) =
      ⟨n, character⟩ := by
  refine position_widthOf_take present (Nat.le_trans fits (contentWidth_le line)) ?_
  rcases full_or_last present with ⟨full, -⟩ | ⟨-, last⟩
  · exact .inl (Nat.lt_of_le_of_lt fits full.contentWidth_lt)
  · exact .inr last

/-- The line found holds the character at the offset; only the last line is also found for
the offset behind its last character. -/
theorem locate_onLine {lines : List (List Char)} (nonempty : lines ≠ []) {offset : Nat}
    (inText : offset ≤ widthOf lines) :
    ∃ line, lines[(locate lines offset).line]? = some line ∧
      ((locate lines offset).character < line.length ∨
        (locate lines offset).character = line.length ∧
          (locate lines offset).line + 1 = lines.length ∧ offset = widthOf lines) := by
  induction lines generalizing offset with
  | nil => exact absurd rfl nonempty
  | cons line rest ih =>
      cases rest with
      | nil =>
          refine ⟨line, rfl, ?_⟩
          rcases Nat.lt_or_eq_of_le inText with inside | atEnd
          · exact .inl inside
          · exact .inr ⟨atEnd, rfl, atEnd⟩
      | cons next rest =>
          rw [locate]
          split
          next inside => exact ⟨line, rfl, .inl inside⟩
          next past =>
            rw [widthOf_cons] at inText
            obtain ⟨found, present, onLine⟩ := ih (List.cons_ne_nil _ _)
              (Nat.sub_le_iff_le_add'.2 inText)
            refine ⟨found, present, onLine.imp_right ?_⟩
            rintro ⟨width, last, atEnd⟩
            rw [widthOf_cons, ← atEnd, List.length_cons, ← last]
            exact ⟨width, rfl, by omega⟩

/-- The position lies on a line that exists and not behind the end of its content. -/
def Holds (index : LineIndex) (position : Position) : Prop :=
  ∃ start stop, index.lineStart? position.line = some start ∧
    index.lineEnd? position.line = some stop ∧ start + position.character ≤ stop

theorem holds_iff {index : LineIndex} {position : Position} :
    index.Holds position ↔ ∃ line, index.lines[position.line]? = some line ∧
      position.character ≤ contentWidth line := by
  constructor
  · rintro ⟨start, stop, starts, ends, fits⟩
    cases present : index.lines[position.line]? with
    | none =>
        rw [lineEnd?, present] at ends
        cases ends
    | some line =>
        rw [lineStart?_eq present] at starts
        rw [lineEnd?_eq present] at ends
        cases starts
        cases ends
        exact ⟨line, rfl, Nat.le_of_add_le_add_left fits⟩
  · rintro ⟨line, present, fits⟩
    exact ⟨_, _, lineStart?_eq present, lineEnd?_eq present, Nat.add_le_add_left fits _⟩

instance (index : LineIndex) (position : Position) : Decidable (index.Holds position) :=
  match present : index.lines[position.line]? with
  | some line => decidable_of_iff (position.character ≤ contentWidth line) <| by
      simp [holds_iff, present]
  | none => isFalse (by simp [holds_iff, present])

/-- A position that its line holds is that of an offset in the content of the line. -/
theorem Holds.position_offset {position : Position} (held : (ofChars chars).Holds position) :
    ∃ offset, (ofChars chars).offset? position = some offset ∧ offset ≤ chars.length ∧
      (ofChars chars).position offset = position ∧ (ofChars chars).InContent offset := by
  obtain ⟨line, present, fits⟩ := holds_iff.1 held
  have inText := widthOf_take_add_le_of_le_contentWidth present fits
  have converted := offset?_eq present
  rw [Nat.min_eq_left fits] at converted
  have back := position_of_le_contentWidth present fits
  refine ⟨_, converted, inText, back, ?_⟩
  intro stop ends
  rw [back, lineEnd?_eq present] at ends
  obtain rfl := Option.some.inj ends
  exact Nat.add_le_add_left fits _

theorem InContent.offset?_position {offset : Nat} (inContent : (ofChars chars).InContent offset)
    (inText : offset ≤ chars.length) :
    (ofChars chars).offset? ((ofChars chars).position offset) = some offset := by
  obtain ⟨stop, ends, converted⟩ := LineIndex.offset?_position inText
  rw [converted, Nat.min_eq_left (inContent stop ends)]

/-! ## Offsets in the content -/

/-- The offset stands right behind a carriage return. -/
def BehindReturn (chars : List Char) (offset : Nat) : Prop :=
  ∃ index, index + 1 = offset ∧ chars[index]? = some '\r'

/-- Every carriage return stands right before a line feed. -/
def ReturnsPaired (chars : List Char) : Prop :=
  ∀ index, chars[index]? = some '\r' → chars[index + 1]? = some '\n'

instance (chars : List Char) : Decidable (ReturnsPaired chars) :=
  decidable_of_iff
    (∀ index < chars.length, chars[index]? = some '\r' → chars[index + 1]? = some '\n')
    ⟨fun inText index back => inText index (List.getElem?_eq_some_iff.1 back).1 back,
      fun paired index _ => paired index⟩

/-- An offset of the text stands before a character of its line, or behind the last line. -/
theorem position_onLine {offset : Nat} (inText : offset ≤ chars.length) :
    ∃ (n character : Nat) (line : List Char),
      (ofChars chars).position offset = ⟨n, character⟩ ∧
      (ofChars chars).lines[n]? = some line ∧
      widthOf ((ofChars chars).lines.take n) + character = offset ∧
      (character < line.length ∨
        character = line.length ∧ '\n' ∉ line ∧ offset = chars.length) := by
  have whole : widthOf (splitLines chars) = chars.length := length_ofChars chars
  obtain ⟨line, present, onLine⟩ :=
    locate_onLine (splitLines_ne_nil chars) (whole.symm ▸ inText)
  refine ⟨_, _, line, position_eq_locate inText, present, widthOf_take_locate _ _,
    onLine.imp_right ?_⟩
  rintro ⟨width, last, atEnd⟩
  rcases full_or_last present with ⟨-, followed⟩ | ⟨unbroken, -⟩
  · exact absurd last (Nat.ne_of_lt followed)
  · exact ⟨width, unbroken, atEnd.trans whole⟩

theorem inContent_iff_le {offset n character : Nat} {line : List Char}
    (located : (ofChars chars).position offset = ⟨n, character⟩)
    (present : (ofChars chars).lines[n]? = some line)
    (starts : widthOf ((ofChars chars).lines.take n) + character = offset) :
    (ofChars chars).InContent offset ↔ character ≤ contentWidth line := by
  rw [InContent, located, lineEnd?_eq present, ← starts]
  simp

/-- The offset of a character that breaks no line is in the content. -/
theorem inContent_of_solid {offset : Nat} {c : Char} (there : chars[offset]? = some c)
    (solid : isBreak c = false) : (ofChars chars).InContent offset := by
  obtain ⟨inText, -⟩ := List.getElem?_eq_some_iff.1 there
  obtain ⟨n, character, line, located, present, starts, onLine⟩ :=
    position_onLine (Nat.le_of_lt inText)
  have inside := onLine.resolve_right fun atEnd => Nat.ne_of_lt inText atEnd.2.2
  refine (inContent_iff_le located present starts).2 (Nat.le_of_lt (lt_contentWidth ?_ solid))
  rw [← (line_standsAt present).getElem?_eq inside, starts, there]

/-- An offset is in the content unless a carriage return stands before it. -/
theorem inContent_of_not_behindReturn {offset : Nat} (inText : offset ≤ chars.length)
    (before : ¬BehindReturn chars offset) : (ofChars chars).InContent offset := by
  obtain ⟨n, character, row, located, present, starts, onLine⟩ := position_onLine inText
  refine (inContent_iff_le located present starts).2 ?_
  cases character with
  | zero => exact Nat.zero_le _
  | succ index =>
      have inLine : index < row.length := by omega
      have there := List.getElem?_eq_getElem inLine
      have notReturn : row[index] ≠ '\r' := by
        intro same
        have inText := (line_standsAt present).getElem?_eq inLine
        rw [there, same] at inText
        exact before ⟨_, starts, inText⟩
      have notFeed : row[index] ≠ '\n' := by
        -- What stands behind a line feed is on another line.
        intro same
        rw [same] at there
        have broken := List.mem_of_getElem? there
        rcases full_or_last present with ⟨full, -⟩ | ⟨unbroken, -⟩
        · have atEnd := full.eq_length there
          rcases onLine with goesOn | ⟨-, unbroken, -⟩
          · exact absurd atEnd (Nat.ne_of_lt goesOn)
          · exact unbroken broken
        · exact unbroken broken
      refine lt_contentWidth there ?_
      rw [isBreak, Bool.or_eq_false_iff, beq_eq_false_iff_ne, beq_eq_false_iff_ne]
      exact ⟨notFeed, notReturn⟩

/-- The content of a line ends before the carriage return that stands before its line
feed. -/
theorem contentWidth_le_of_return {row : List Char} (full : IsFullLine row) {index : Nat}
    (back : row[index]? = some '\r') (feed : row[index + 1]? = some '\n') :
    contentWidth row ≤ index := by
  have width := full.eq_length feed
  obtain ⟨body, rfl, -⟩ := full
  rw [List.length_append, List.length_singleton, Nat.add_right_cancel_iff] at width
  obtain ⟨inBody, same⟩ := List.getElem?_eq_some_iff.1
    ((List.getElem?_append_left (width ▸ Nat.lt_succ_self index)).symm.trans back)
  have whole : body.take index ++ ['\r'] = body := by
    rw [← same, List.take_append_getElem, width, List.take_length]
  rw [contentWidth_concat (by decide), ← whole, contentWidth_concat (by decide)]
  exact Nat.le_trans (contentWidth_le _) (List.length_take_le _ _)

/-- Between a carriage return and its line feed an offset is not in the content. -/
theorem not_inContent_of_behindReturn {offset : Nat} (behind : BehindReturn chars offset)
    (feed : chars[offset]? = some '\n') : ¬(ofChars chars).InContent offset := by
  obtain ⟨index, rfl, back⟩ := behind
  obtain ⟨backInText, -⟩ := List.getElem?_eq_some_iff.1 back
  obtain ⟨feedInText, -⟩ := List.getElem?_eq_some_iff.1 feed
  obtain ⟨n, character, row, -, present, starts, onLine⟩ :=
    position_onLine (Nat.le_of_lt backInText)
  have inLine := onLine.resolve_right fun atEnd => Nat.ne_of_lt backInText atEnd.2.2
  have stands := line_standsAt present
  have backThere : row[character]? = some '\r' := by
    rw [← stands.getElem?_eq inLine, starts, back]
  have goesOn : character + 1 < row.length := by
    refine Nat.lt_of_le_of_ne inLine fun atEnd => ?_
    rcases full_or_last present with ⟨⟨body, rfl, -⟩, -⟩ | ⟨-, last⟩
    · rw [List.length_append, List.length_singleton, Nat.add_right_cancel_iff] at atEnd
      rw [atEnd, List.getElem?_concat_length] at backThere
      cases backThere
    · have whole : widthOf (ofChars chars).lines = chars.length := length_ofChars chars
      have width := widthOf_take_succ present
      rw [last, List.take_length] at width
      omega
  have feedThere : row[character + 1]? = some '\n' := by
    rw [← stands.getElem?_eq goesOn, ← Nat.add_assoc, starts, feed]
  have located := position_widthOf_take present (Nat.le_of_lt goesOn) (.inl goesOn)
  rw [← Nat.add_assoc, starts] at located
  rw [inContent_iff_le located present (by omega), Nat.not_le]
  rcases full_or_last present with ⟨full, -⟩ | ⟨unbroken, -⟩
  · exact Nat.lt_succ_of_le (contentWidth_le_of_return full backThere feedThere)
  · exact absurd (List.mem_of_getElem? feedThere) unbroken

/-- Where carriage returns never stand without their line feeds, the offsets in the content
are those that are not between the two. -/
theorem inContent_iff (paired : ReturnsPaired chars) {offset : Nat}
    (inText : offset ≤ chars.length) :
    (ofChars chars).InContent offset ↔ ¬BehindReturn chars offset := by
  refine ⟨fun inContent behind => ?_, inContent_of_not_behindReturn inText⟩
  obtain ⟨index, rfl, back⟩ := behind
  exact not_inContent_of_behindReturn ⟨index, rfl, back⟩ (paired index back) inContent

/-! ## Order -/

theorem locate_mono (lines : List (List Char)) {a b : Nat} (ordered : a ≤ b) :
    locate lines a ≤ locate lines b := by
  induction lines generalizing a b with
  | nil => exact .inr ⟨rfl, ordered⟩
  | cons line rest ih =>
      cases rest with
      | nil => exact .inr ⟨rfl, ordered⟩
      | cons next rest =>
          rw [locate, locate]
          split
          next inside =>
            split
            · exact .inr ⟨rfl, ordered⟩
            · exact .inl (Nat.succ_pos _)
          next past =>
            rw [if_neg (by omega)]
            rcases ih (Nat.sub_le_sub_right ordered line.length) with before | ⟨same, before⟩
            · exact .inl (Nat.succ_lt_succ before)
            · exact .inr ⟨congrArg (· + 1) same, before⟩

theorem position_mono (index : LineIndex) {a b : Nat} (ordered : a ≤ b) :
    index.position a ≤ index.position b :=
  locate_mono _ (by omega)

theorem offset?_eq_some_iff {index : LineIndex} {position : Position} {offset : Nat} :
    index.offset? position = some offset ↔ ∃ line, index.lines[position.line]? = some line ∧
      widthOf (index.lines.take position.line) + min position.character (contentWidth line) =
        offset := by
  cases present : index.lines[position.line]? with
  | none => simp [offset?_eq_none present]
  | some line => simp [offset?_eq present]

theorem offset?_mono {index : LineIndex} {p q : Position} {a b : Nat} (ordered : p ≤ q)
    (first : index.offset? p = some a) (second : index.offset? q = some b) : a ≤ b := by
  obtain ⟨line, present, rfl⟩ := offset?_eq_some_iff.1 first
  obtain ⟨other, presentOther, rfl⟩ := offset?_eq_some_iff.1 second
  rcases ordered with before | ⟨same, before⟩
  · have apart := widthOf_take_add_le_take present before
    have inLine := contentWidth_le line
    omega
  · rw [same, presentOther] at present
    obtain rfl := Option.some.inj present
    rw [same]
    omega

end LineIndex

end Inlay
