import Mathlib.Algebra.Group.Nat.Defs
import Inlay.Document
import Inlay.Proofs.LineIndex

/-!
# Edits of an open document

`Change.Rewrites` says what a change does to a text, in terms of the offsets that
`LineIndex` gives for its range, and that these offsets lie in the text;
`Change.RewritesAll` runs the changes of a batch, each on the text that the one
before left.  A document follows these rules after any history of batches, some of
which may have been refused.

The document has a conversion from positions to offsets of its own, `clampedOffset`,
and the range of an edit often comes from `LineIndex.range`.  Going through both gives
the offsets one started with wherever neither points into a line break.
-/

namespace Inlay

/-! ## The document's conversion of positions -/

/-- The conversion is that of the line index, a missing line standing for the end. -/
theorem clampedOffset_eq (index : LineIndex) (position : Position) :
    clampedOffset index position = (index.offset? position).getD index.length := by
  rw [clampedOffset]
  split
  next absent => rw [LineIndex.offset?_eq_none absent, Option.getD_none]
  next line present => rw [LineIndex.offset?_eq present, Option.getD_some]

theorem clampedOffset_le (index : LineIndex) (position : Position) :
    clampedOffset index position ≤ index.length := by
  rw [clampedOffset]
  split
  next => exact Nat.le_refl _
  next line present =>
    have lineFits := LineIndex.widthOf_take_add_le present
    have contentFits := contentWidth_le line
    rw [LineIndex.length]
    omega

/-- The offset does not point into the line break that ends its line. -/
def LineIndex.InContent (index : LineIndex) (offset : Nat) : Prop :=
  ∀ stop ∈ index.lineEnd? (index.position offset).line, offset ≤ stop

instance (index : LineIndex) (offset : Nat) : Decidable (index.InContent offset) :=
  inferInstanceAs (Decidable (∀ stop ∈ index.lineEnd? (index.position offset).line, offset ≤ stop))

theorem clampedOffset_position {chars : List Char} {offset : Nat} (inText : offset ≤ chars.length)
    (inContent : (LineIndex.ofChars chars).InContent offset) :
    clampedOffset (.ofChars chars) ((LineIndex.ofChars chars).position offset) = offset := by
  obtain ⟨stop, ends, converted⟩ := LineIndex.offset?_position inText
  rw [clampedOffset_eq, converted, Option.getD_some, Nat.min_eq_left (inContent stop ends)]

/-- A position on a line stands for its offset in the text wherever something that does
not end with a line break reaches that far. -/
theorem clampedOffset_of_lines {full : List (List Char)} {front : List Char} {last : Char}
    {column : Nat} (areFull : ∀ line ∈ full, IsFullLine line) (unbroken : '\n' ∉ front)
    (solid : isBreak last = false) (inFront : column ≤ (front ++ [last]).length)
    (back : List Char) :
    clampedOffset (.ofChars (full.flatten ++ (front ++ [last] ++ back))) ⟨full.length, column⟩ =
      full.flatten.length + column := by
  have feedless : '\n' ∉ front ++ [last] := by
    simp only [List.mem_append, List.mem_singleton, not_or]
    refine ⟨unbroken, ?_⟩
    rintro rfl
    cases solid
  obtain ⟨rest, lines, _, joined⟩ := splitLines_append feedless back
  have cut : (LineIndex.ofChars (full.flatten ++ (front ++ [last] ++ back))).lines =
      full ++ (front ++ [last] ++ rest) :: lines := by
    rw [LineIndex.ofChars, splitLines_flatten_append areFull, joined]
  have reaches := Nat.le_trans inFront (le_contentWidth front solid rest)
  rw [clampedOffset, cut, List.getElem?_append_right (Nat.le_refl _), Nat.sub_self]
  simp only [List.getElem?_cons_zero, List.take_left, LineIndex.widthOf_eq_length_flatten,
    Nat.min_eq_left reaches]

/-! ## What changes do to a text -/

namespace Change

/-- A change turns one text into another: it replaces all of it, or what lies between
two offsets of it. -/
inductive Rewrites : Change → List Char → List Char → Prop where
  | all {text : List Char} {new : String} : Rewrites ⟨none, new⟩ text new.toList
  | between {text : List Char} {range : Range} {new : String} {start stop : Nat} :
      start = ((LineIndex.ofChars text).offset? range.start).getD text.length →
      stop = max start (((LineIndex.ofChars text).offset? range.stop).getD text.length) →
      start ≤ stop → stop ≤ text.length →
      Rewrites ⟨some range, new⟩ text (text.take start ++ new.toList ++ text.drop stop)

/-- Changes turn one text into another, one after the other. -/
inductive RewritesAll : List Change → List Char → List Char → Prop where
  | done {text : List Char} : RewritesAll [] text text
  | next {change : Change} {rest : List Change} {text middle result : List Char} :
      Rewrites change text middle → RewritesAll rest middle result →
      RewritesAll (change :: rest) text result

theorem rewrites_apply (text : List Char) (change : Change) :
    change.Rewrites text (Change.apply text change) := by
  obtain ⟨range?, new⟩ := change
  cases range? with
  | none => exact .all
  | some range =>
      have startFits := clampedOffset_le (.ofChars text) range.start
      have stopFits := clampedOffset_le (.ofChars text) range.stop
      rw [LineIndex.length_ofChars] at startFits stopFits
      rw [Change.apply]
      refine .between ?_ ?_ (Nat.le_max_right _ _) (Nat.max_le.2 ⟨stopFits, startFits⟩)
      · rw [clampedOffset_eq, LineIndex.length_ofChars]
      · rw [Nat.max_comm, clampedOffset_eq _ range.stop, LineIndex.length_ofChars]

theorem rewritesAll_foldl (changes : List Change) (text : List Char) :
    RewritesAll changes text (changes.foldl Change.apply text) := by
  induction changes generalizing text with
  | nil => exact .done
  | cons change rest ih => exact .next (rewrites_apply text change) (ih _)

/-- A change between the positions of two offsets replaces what lies between them. -/
theorem apply_range {text : List Char} {start stop : Nat} (new : String) (ordered : start ≤ stop)
    (inText : stop ≤ text.length) (startInContent : (LineIndex.ofChars text).InContent start)
    (stopInContent : (LineIndex.ofChars text).InContent stop) :
    Change.apply text ⟨some ((LineIndex.ofChars text).range start stop), new⟩ =
      text.take start ++ new.toList ++ text.drop stop := by
  have startKept := clampedOffset_position (Nat.le_trans ordered inText) startInContent
  have stopKept := clampedOffset_position inText stopInContent
  simp only [Change.apply, LineIndex.range, startKept, stopKept, Nat.max_eq_left ordered]

/-- A change of a stretch of one line, on which no line break stands before its end,
replaces that stretch. -/
theorem apply_stretch {full : List (List Char)} {front word : List Char}
    (areFull : ∀ line ∈ full, IsFullLine line) (unbroken : '\n' ∉ front) (nonempty : word ≠ [])
    (solid : ∀ c ∈ word, isBreak c = false) (new : String) (back : List Char) :
    Change.apply (full.flatten ++ front ++ word ++ back)
        ⟨some ⟨⟨full.length, front.length⟩, ⟨full.length, front.length + word.length⟩⟩, new⟩ =
      full.flatten ++ front ++ new.toList ++ back := by
  obtain ⟨init, last, rfl⟩ : ∃ init last, word = init ++ [last] :=
    ⟨word.dropLast, word.getLast nonempty, (List.dropLast_concat_getLast nonempty).symm⟩
  have feedless : '\n' ∉ front ++ init := by
    rw [List.mem_append, not_or]
    exact ⟨unbroken, fun feed => nomatch solid '\n' (List.mem_append_left _ feed)⟩
  have offset {column : Nat} (inFront : column ≤ (front ++ init ++ [last]).length) :
      clampedOffset (.ofChars (full.flatten ++ front ++ (init ++ [last]) ++ back))
        ⟨full.length, column⟩ = full.flatten.length + column := by
    have found := clampedOffset_of_lines areFull feedless (solid last (by simp)) inFront back
    simpa only [List.append_assoc] using found
  have start : clampedOffset _ ⟨full.length, front.length⟩ = _ := offset (by simp)
  have stop : clampedOffset _ ⟨full.length, front.length + (init ++ [last]).length⟩ = _ :=
    offset (by simp)
  have ordered : full.flatten.length + front.length ≤
      full.flatten.length + (front.length + (init ++ [last]).length) := by omega
  have before : (full.flatten ++ front ++ (init ++ [last]) ++ back).take
      (full.flatten.length + front.length) = full.flatten ++ front := by
    rw [← List.length_append, List.append_assoc, List.take_left]
  have behind : (full.flatten ++ front ++ (init ++ [last]) ++ back).drop
      (full.flatten.length + (front.length + (init ++ [last]).length)) = back := by
    rw [← Nat.add_assoc, ← List.length_append, ← List.length_append, List.drop_left]
  simp only [Change.apply, start, stop, Nat.max_eq_left ordered, before, behind]

end Change

/-! ## Batches of changes -/

/-- Both parts of both ends fit in 32 bits. -/
def Range.Fits32 (range : Range) : Prop :=
  (range.start.line < 2 ^ 32 ∧ range.start.character < 2 ^ 32) ∧
    range.stop.line < 2 ^ 32 ∧ range.stop.character < 2 ^ 32

theorem LineIndex.range_fits32 {text : List Char} {start stop : Nat} (short : text.length < 2 ^ 32)
    (ordered : start ≤ stop) (inText : stop ≤ text.length) :
    ((LineIndex.ofChars text).range start stop).Fits32 := by
  have startFits := LineIndex.position_le (Nat.le_trans ordered inText)
  have stopFits := LineIndex.position_le inText
  exact ⟨⟨Nat.lt_of_le_of_lt startFits.1 short, Nat.lt_of_le_of_lt startFits.2 short⟩,
    Nat.lt_of_le_of_lt stopFits.1 short, Nat.lt_of_le_of_lt stopFits.2 short⟩

/-- Changes offered together, and the version they lead to. -/
structure Batch where
  changes : List Change
  version : Int

namespace Revision

/-- The revision once a batch has been offered.  One that is refused changes nothing. -/
def offer (revision : Revision) (batch : Batch) : Revision :=
  match revision.apply batch.changes batch.version with
  | .ok revised => revised
  | .error _ => revision

theorem apply_stale {revision : Revision} {version : Int} (changes : List Change)
    (stale : version ≤ revision.version) :
    ∃ message, revision.apply changes version = .error (.invalidInput message) :=
  ⟨_, if_pos stale⟩

theorem apply_newer {revision : Revision} {version : Int} (changes : List Change)
    (newer : revision.version < version) :
    revision.apply changes version =
      .ok ⟨changes.foldl Change.apply revision.text, version⟩ :=
  if_neg (Int.not_le.2 newer)

/-- After any history of batches, a batch with a version that is not newer is refused
as invalid input and changes nothing; any other leads to its version, and its changes
rewrite the text one after the other.  In particular an edit between the positions of
two offsets replaces exactly the characters between them. -/
theorem offer_rewrites (initial : Revision) (history : List Batch) (batch : Batch) :
    let current := history.foldl offer initial
    (batch.version ≤ current.version →
      (∃ message,
        current.apply batch.changes batch.version = .error (.invalidInput message)) ∧
      current.offer batch = current) ∧
    (current.version < batch.version → ∃ text,
      Change.RewritesAll batch.changes current.text text ∧
      current.apply batch.changes batch.version = .ok ⟨text, batch.version⟩ ∧
      current.offer batch = ⟨text, batch.version⟩) ∧
    (current.version < batch.version → current.text.length < 2 ^ 32 →
      ∀ (start stop : Nat) (new : String), start ≤ stop → stop ≤ current.text.length →
        (LineIndex.ofChars current.text).InContent start →
        (LineIndex.ofChars current.text).InContent stop →
        ((LineIndex.ofChars current.text).range start stop).Fits32 ∧
        current.apply [⟨some ((LineIndex.ofChars current.text).range start stop), new⟩]
            batch.version =
          .ok ⟨current.text.take start ++ new.toList ++ current.text.drop stop,
            batch.version⟩) := by
  intro current
  refine ⟨fun stale => ?_, fun newer => ?_, fun newer short start stop new ordered inText
    startInContent stopInContent => ⟨?_, ?_⟩⟩
  · obtain ⟨message, refused⟩ := apply_stale batch.changes stale
    exact ⟨⟨message, refused⟩, by rw [offer, refused]⟩
  · have accepted := apply_newer batch.changes newer
    exact ⟨_, Change.rewritesAll_foldl _ _, accepted, by rw [offer, accepted]⟩
  · exact LineIndex.range_fits32 short ordered inText
  · rw [apply_newer _ newer, List.foldl_cons, List.foldl_nil,
      Change.apply_range new ordered inText startInContent stopInContent]

/-- A batch that is refused, an insertion at the end of the text through positions past
it, and an edit from the end of one line into the next. -/
theorem offer_rewrites_across_lines :
    let initial : Revision := ⟨"a\r\nbc".toList, 1⟩
    let history : List Batch := [⟨[⟨none, "x"⟩], 1⟩, ⟨[⟨some ⟨⟨1, 9⟩, ⟨0, 9⟩⟩, "é"⟩], 2⟩]
    let current : Revision := ⟨"a\r\nbcé".toList, 2⟩
    let changes : List Change := [⟨some ⟨⟨7, 0⟩, ⟨7, 0⟩⟩, "!"⟩, ⟨some ⟨⟨0, 0⟩, ⟨1, 3⟩⟩, ""⟩]
    history.foldl offer initial = current ∧
      current.offer ⟨changes, 2⟩ = current ∧
      (∃ text, Change.RewritesAll changes current.text text ∧
        current.offer ⟨changes, 3⟩ = ⟨text, 3⟩) ∧
      current.apply [⟨some ((LineIndex.ofChars current.text).range 1 4), "-"⟩] 3 =
        .ok ⟨"a-cé".toList, 3⟩ := by
  intro initial history current changes
  have reached : history.foldl offer initial = current := by decide
  obtain ⟨refused, -, -⟩ := offer_rewrites initial history ⟨changes, 2⟩
  obtain ⟨-, accepted, edits⟩ := offer_rewrites initial history ⟨changes, 3⟩
  simp only [reached] at refused accepted edits
  obtain ⟨text, rewritten, -, offered⟩ := accepted (by decide)
  have edited := (edits (by decide) (by decide) 1 4 "-" (by decide) (by decide) (by decide)
    (by decide)).2
  exact ⟨reached, (refused (by decide)).2, ⟨text, rewritten, offered⟩, edited⟩

end Revision

end Inlay
