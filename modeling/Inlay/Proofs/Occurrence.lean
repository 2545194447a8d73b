import Mathlib.Data.List.Basic
import Mathlib.Data.List.Sort
import Inlay.Occurrence
import Inlay.Proofs.Document
import Inlay.Proofs.Text.Greedy

/-!
# Tokens found where they stand

The tokenizer reports no columns, so the search for a name is right only as far as the
reported tokens agree with the text.  `Faithful` says when they do, for one name: the
tokens that spell it stand where they are said to stand, in order and apart, and the
name stands nowhere else, not even inside a longer word.  `Standing` leaves out the last
part, and asks for the order only on each line.

Where tokens are faithful, the columns at which the name is found on a line are those of its
tokens (`Faithful.slotOffsets_eq`), so every token gets its own column back
(`Faithful.findOccurrences_eq`).  In the text the tokens stand apart, each behind some
full lines and a piece of its own line (`Faithful.stands_behind`).
-/

namespace Inlay

/-! ## Faithful tokens -/

/-- A token and the column at which it stands on its line. -/
structure Located where
  token : Token
  column : Nat

namespace Located

/-- The stretch that the token takes up. -/
def range (located : Located) : Range :=
  ⟨⟨located.token.lineIndex, located.column⟩,
    ⟨located.token.lineIndex, located.column + located.token.width⟩⟩

/-- The offset at which the token stands in a source. -/
def offset (source : String) (located : Located) : Nat :=
  LineIndex.widthOf ((LineIndex.ofText source).lines.take located.token.lineIndex) + located.column

end Located

/-- The tokens that spell a name. -/
def spelling (name : String) (stream : List Located) : List Located :=
  stream.filter fun located => located.token.text = name

/-- The tokens that spell a name agree with the source. -/
structure Faithful (source name : String) (stream : List Located) : Prop where
  /-- A token that spells the name stands on its line. -/
  stands : ∀ located ∈ spelling name stream, ∃ line,
    (sourceLines source)[located.token.lineIndex]? = some line ∧
      name.toList <+: line.drop located.column
  /-- Tokens that spell the name come in the order of the source and do not overlap. -/
  ordered : (spelling name stream).Pairwise fun a b =>
    a.token.lineIndex < b.token.lineIndex ∨
      a.token.lineIndex = b.token.lineIndex ∧ a.column + name.length ≤ b.column
  /-- The name stands nowhere else. -/
  complete : ∀ (index column : Nat) (line : List Char), (sourceLines source)[index]? = some line →
    name.toList <+: line.drop column →
    ∃ located ∈ spelling name stream, located.token.lineIndex = index ∧ located.column = column

/-- The tokens that spell a name stand where they are said to stand.  The name may stand
elsewhere too. -/
structure Standing (source name : String) (stream : List Located) : Prop where
  /-- A token that spells the name stands on its line. -/
  stands : ∀ located ∈ spelling name stream, ∃ line,
    (sourceLines source)[located.token.lineIndex]? = some line ∧
      name.toList <+: line.drop located.column
  /-- Tokens that spell the name on one line come in its order and do not overlap. -/
  apart : (spelling name stream).Pairwise fun a b =>
    a.token.lineIndex = b.token.lineIndex → a.column + name.length ≤ b.column

theorem Faithful.standing {source name : String} {stream : List Located}
    (faithful : Faithful source name stream) : Standing source name stream where
  stands := faithful.stands
  apart := faithful.ordered.imp fun ordered same =>
    (ordered.resolve_left fun earlier => Nat.ne_of_lt earlier same).2

theorem mem_spelling {name : String} {stream : List Located} {located : Located} :
    located ∈ spelling name stream ↔ located ∈ stream ∧ located.token.text = name := by
  rw [spelling, List.mem_filter, decide_eq_true_iff]

theorem spelling_cons (name : String) (located : Located) (stream : List Located) :
    spelling name (located :: stream) =
      if located.token.text = name then located :: spelling name stream
      else spelling name stream := by
  simp [spelling, List.filter_cons]

/-! ## Columns -/

/-- The columns of the tokens that have a slot. -/
def columnsOn (stream : List Located) (slot : Slot) : List Nat :=
  (stream.filter fun located => located.token.slot = slot).map Located.column

@[simp] theorem columnsOn_nil (slot : Slot) : columnsOn [] slot = [] := rfl

theorem columnsOn_append (stream more : List Located) (slot : Slot) :
    columnsOn (stream ++ more) slot = columnsOn stream slot ++ columnsOn more slot := by
  rw [columnsOn, List.filter_append, List.map_append, columnsOn, columnsOn]

theorem columnsOn_cons (located : Located) (stream : List Located) (slot : Slot) :
    columnsOn (located :: stream) slot =
      if located.token.slot = slot then located.column :: columnsOn stream slot
      else columnsOn stream slot := by
  simp only [columnsOn, List.filter_cons, decide_eq_true_iff]
  split <;> rfl

/-- The columns of the tokens that spell a name on a line. -/
theorem columnsOn_eq_spelling (stream : List Located) (index : Nat) (name : String) :
    columnsOn stream (index, name) =
      ((spelling name stream).filter fun located => located.token.lineIndex = index).map
        Located.column := by
  rw [columnsOn, spelling, List.filter_filter]
  simp only [Token.slot, Prod.mk.injEq, Bool.decide_and]

namespace Standing

variable {source name : String} {stream : List Located}

theorem prefix_of_mem_columnsOn (standing : Standing source name stream) {index column : Nat}
    (listed : column ∈ columnsOn stream (index, name)) :
    ∃ line, (sourceLines source)[index]? = some line ∧ name.toList <+: line.drop column := by
  rw [columnsOn_eq_spelling, List.mem_map] at listed
  obtain ⟨located, there, rfl⟩ := listed
  obtain ⟨spells, onLine⟩ := List.mem_filter.1 there
  rw [← of_decide_eq_true onLine]
  exact standing.stands located spells

theorem columnsOn_eq_nil (standing : Standing source name stream) {index : Nat}
    (absent : (sourceLines source)[index]? = none) : columnsOn stream (index, name) = [] := by
  refine List.eq_nil_iff_forall_not_mem.2 fun column listed => ?_
  obtain ⟨line, present, -⟩ := standing.prefix_of_mem_columnsOn listed
  cases absent.symm.trans present

theorem pairwise_columnsOn (standing : Standing source name stream) (index : Nat) :
    (columnsOn stream (index, name)).Pairwise fun a b => a + name.length ≤ b := by
  rw [columnsOn_eq_spelling, List.pairwise_map]
  refine (standing.apart.filter _).imp_of_mem ?_
  intro a b inA inB apart
  apply apart
  rw [of_decide_eq_true (List.mem_filter.1 inA).2, of_decide_eq_true (List.mem_filter.1 inB).2]

end Standing

namespace Faithful

variable {source name : String} {stream : List Located}

theorem mem_columnsOn (faithful : Faithful source name stream) {index column : Nat}
    {line : List Char} (present : (sourceLines source)[index]? = some line) :
    column ∈ columnsOn stream (index, name) ↔ name.toList <+: line.drop column := by
  constructor
  · intro listed
    obtain ⟨same, sameLine, stands⟩ := faithful.standing.prefix_of_mem_columnsOn listed
    obtain rfl := Option.some.inj (present.symm.trans sameLine)
    exact stands
  · intro stands
    obtain ⟨located, listed, rfl, rfl⟩ := faithful.complete index column line present stands
    rw [columnsOn_eq_spelling]
    exact List.mem_map_of_mem (List.mem_filter.2 ⟨listed, decide_eq_true rfl⟩)

/-- The name is found on a line where its tokens stand. -/
theorem slotOffsets_eq (faithful : Faithful source name stream) (nonempty : name.toList ≠ [])
    (index : Nat) :
    slotOffsets (sourceLines source) (index, name) = columnsOn stream (index, name) := by
  rw [slotOffsets]
  split
  next line present =>
    -- The columns leave out no place at which the name stands, so the search finds just them.
    have greedy : Text.Greedy line name.toList (columnsOn stream (index, name)) := by
      refine .of_covers (fun column listed => ?_) ?_ fun column stands => ?_
      · exact .of_prefix_drop nonempty ((faithful.mem_columnsOn present).1 listed)
      · rw [String.length_toList]
        exact faithful.standing.pairwise_columnsOn index
      · have listed := (faithful.mem_columnsOn present).2 stands.prefix_drop
        have wide := List.length_pos_iff.2 nonempty
        exact ⟨column, listed, Nat.le_refl _, Nat.lt_add_of_pos_right wide⟩
    exact greedy.eq_matchOffsets.symm
  next absent => exact (faithful.standing.columnsOn_eq_nil absent).symm

end Faithful

/-! ## Every token gets its column back -/

theorem OffsetTable.offset?_build {source : String} {tokens : List Token} {index : Nat}
    {text : String} (listed : (index, text) ∈ tokens.map Token.slot) (nth : Nat) :
    (build source tokens).offset? index text nth =
      (slotOffsets (sourceLines source) (index, text))[nth]? := by
  have found := List.lookup_graph (slotOffsets (sourceLines source)) (List.mem_eraseDups.2 listed)
  rw [offset?, build, found]
  rfl

/-- The search for the tokens that are left, when the columns in the table are those of
all tokens and the lines before are those of the tokens that are done. -/
theorem occurrencesFrom_eq {table : OffsetTable} {name : String} {before : List Nat}
    {done rest : List Located}
    (agrees : ∀ located ∈ spelling name rest, ∀ nth,
      table.offset? located.token.lineIndex name nth =
        (columnsOn (done ++ rest) (located.token.lineIndex, name))[nth]?)
    (counted : ∀ index, before.count index = (columnsOn done (index, name)).length) :
    occurrencesFrom table name before (rest.map Located.token) =
      (spelling name rest).map fun located => ⟨name, located.range⟩ := by
  induction rest generalizing before done with
  | nil => rfl
  | cons located rest ih =>
      rw [List.map_cons, occurrencesFrom, spelling_cons]
      rw [spelling_cons, List.append_cons] at agrees
      split
      next spells =>
        rw [if_pos spells] at agrees
        obtain ⟨here, others⟩ := List.forall_mem_cons.1 agrees
        have slot : located.token.slot = (located.token.lineIndex, name) := by
          rw [Token.slot, spells]
        have column : table.offset? located.token.lineIndex name
            (before.count located.token.lineIndex) = some located.column := by
          rw [here, counted, ← List.append_cons, columnsOn_append, columnsOn_cons, if_pos slot,
            List.getElem?_append_right (Nat.le_refl _), Nat.sub_self, List.getElem?_cons_zero]
        have countedNow (index : Nat) : (located.token.lineIndex :: before).count index =
            (columnsOn (done ++ [located]) (index, name)).length := by
          rw [List.count_cons, counted, columnsOn_append, columnsOn_cons, slot]
          by_cases same : located.token.lineIndex = index
          · simp [same]
          · simp [same]
        simp only [column, Option.getD_some, ih others countedNow, List.map_cons, Located.range,
          Token.width, spells]
      next other =>
        rw [if_neg other] at agrees
        refine ih agrees fun index => ?_
        have elsewhere : located.token.slot ≠ (index, name) :=
          fun same => other (congrArg Prod.snd same)
        rw [counted, columnsOn_append, columnsOn_cons, if_neg elsewhere, columnsOn_nil,
          List.append_nil]

namespace Faithful

variable {source name : String} {stream : List Located}

/-- The occurrences of a name are the places of the tokens that spell it. -/
theorem findOccurrences_eq (faithful : Faithful source name stream) (nonempty : name.toList ≠ []) :
    findOccurrences source (stream.map Located.token) name =
      (spelling name stream).map fun located => ⟨name, located.range⟩ := by
  have notEmpty : ¬name.isEmpty = true := by
    simpa using nonempty
  rw [findOccurrences, if_neg notEmpty]
  refine @occurrencesFrom_eq _ name [] [] stream (fun located listed nth => ?_) (fun _ => rfl)
  obtain ⟨inStream, spells⟩ := mem_spelling.1 listed
  have slot : (located.token.lineIndex, name) ∈ (stream.map Located.token).map Token.slot := by
    refine List.mem_map.2 ⟨located.token, List.mem_map_of_mem inStream, ?_⟩
    rw [Token.slot, spells]
  rw [OffsetTable.offset?_build slot, faithful.slotOffsets_eq nonempty, List.nil_append]

end Faithful

/-! ## Tokens in the text -/

/-- A line of the source is a line of the text without its line feed. -/
theorem exists_of_sourceLines {source : String} {index : Nat} {line : List Char}
    (present : (sourceLines source)[index]? = some line) :
    '\n' ∉ line ∧ ∃ rest, (LineIndex.ofText source).lines[index]? = some (line ++ rest) := by
  rw [sourceLines, List.getElem?_map, Option.map_eq_some_iff] at present
  obtain ⟨whole, found, rfl⟩ := present
  refine ⟨fun feed => ?_, whole.dropWhile (· != '\n'), ?_⟩
  · have passed := List.all_eq_true.1 (List.all_takeWhile (p := (· != '\n'))) '\n' feed
    simp at passed
  · rw [List.takeWhile_append_dropWhile]
    exact found

/-- No line of the source is longer than the source or further down than it is long. -/
theorem sourceLines_le {source : String} {index : Nat} {line : List Char}
    (present : (sourceLines source)[index]? = some line) :
    index ≤ source.length ∧ line.length ≤ source.length := by
  obtain ⟨-, rest, whole⟩ := exists_of_sourceLines present
  have inText := LineIndex.widthOf_take_add_le_length whole
  obtain ⟨inRange, -⟩ := List.getElem?_eq_some_iff.1 whole
  have few : (LineIndex.ofText source).lines.length ≤ source.length + 1 :=
    String.length_toList ▸ length_splitLines_le source.toList
  rw [List.length_append, String.length_toList] at inText
  omega

/-- The lines before a line that exists are full. -/
theorem isFullLine_of_mem_take {chars : List Char} {index : Nat} {line : List Char}
    (present : (splitLines chars)[index]? = some line) :
    ∀ earlier ∈ (splitLines chars).take index, IsFullLine earlier := by
  obtain ⟨full, last, cut, areFull, _⟩ := splitLines_eq_full chars
  obtain ⟨inRange, -⟩ := List.getElem?_eq_some_iff.1 present
  rw [cut, List.length_append, List.length_singleton, Nat.lt_succ_iff] at inRange
  rw [cut, List.take_append_of_le_length inRange]
  exact fun earlier listed => areFull earlier (List.mem_of_mem_take listed)

namespace Faithful

variable {source name : String} {stream : List Located}

/-- A token stands on its line behind as many characters as its column says. -/
theorem stands_on_line (faithful : Faithful source name stream) (nonempty : name.toList ≠ [])
    {located : Located} (listed : located ∈ spelling name stream) :
    ∃ front back, (LineIndex.ofText source).lines[located.token.lineIndex]? =
        some (front ++ name.toList ++ back) ∧
      '\n' ∉ front ∧ front.length = located.column := by
  obtain ⟨line, present, stands⟩ := faithful.stands located listed
  obtain ⟨unbroken, rest, found⟩ := exists_of_sourceLines present
  obtain ⟨front, back, rfl, column⟩ := Text.StandsAt.of_prefix_drop nonempty stands
  refine ⟨front, back ++ rest, ?_, fun feed => unbroken (List.mem_append_left _ feed), column⟩
  rw [found]
  simp only [List.append_assoc]

/-- A token stands behind the full lines before its own and the columns before it. -/
theorem stands_behind (faithful : Faithful source name stream) (nonempty : name.toList ≠ [])
    {located : Located} (listed : located ∈ spelling name stream) :
    ∃ (full : List (List Char)) (front back : List Char),
      source.toList = full.flatten ++ front ++ name.toList ++ back ∧
      (∀ line ∈ full, IsFullLine line) ∧ '\n' ∉ front ∧
      full.length = located.token.lineIndex ∧ front.length = located.column ∧
      (full.flatten ++ front).length = located.offset source := by
  obtain ⟨front, back, found, unbroken, column⟩ := faithful.stands_on_line nonempty listed
  obtain ⟨inRange, isLine⟩ := List.getElem?_eq_some_iff.1 found
  have text : source.toList = ((LineIndex.ofText source).lines.take located.token.lineIndex ++
      (front ++ name.toList ++ back) ::
        (LineIndex.ofText source).lines.drop (located.token.lineIndex + 1)).flatten := by
    rw [← isLine, ← List.drop_eq_getElem_cons inRange, List.take_append_drop]
    exact (splitLines_flatten _).symm
  refine ⟨(LineIndex.ofText source).lines.take located.token.lineIndex, front,
    back ++ ((LineIndex.ofText source).lines.drop (located.token.lineIndex + 1)).flatten,
    ?_, isFullLine_of_mem_take found, unbroken, ?_, column, ?_⟩
  · rw [text]
    simp
  · rw [List.length_take, Nat.min_eq_left (Nat.le_of_lt inRange)]
  · rw [List.length_append, column, Located.offset, LineIndex.widthOf_eq_length_flatten]

/-- The tokens that spell a name stand apart in the text. -/
theorem pairwise_offset (faithful : Faithful source name stream) (nonempty : name.toList ≠ []) :
    (spelling name stream).Pairwise fun a b =>
      a.offset source + name.length ≤ b.offset source := by
  refine faithful.ordered.imp_of_mem ?_
  intro a b inA _ ordered
  rw [Located.offset, Located.offset]
  rcases ordered with earlier | ⟨same, apart⟩
  · obtain ⟨front, back, found, _, column⟩ := faithful.stands_on_line nonempty inA
    have before := LineIndex.widthOf_take_add_le_take found earlier
    rw [List.length_append, List.length_append, String.length_toList] at before
    omega
  · rw [same]
    omega

/-- The place of a token in a short text fits in 32 bits. -/
theorem range_fits32 (faithful : Faithful source name stream) (nonempty : name.toList ≠ [])
    (short : source.length < 2 ^ 32) {located : Located} (listed : located ∈ spelling name stream) :
    located.range.Fits32 := by
  obtain ⟨line, present, stands⟩ := faithful.stands located listed
  have inLine := (Text.StandsAt.of_prefix_drop nonempty stands).length_le
  have small := sourceLines_le present
  rw [String.length_toList] at inLine
  have width : located.token.width = name.length := by
    rw [Token.width, (mem_spelling.1 listed).2]
  refine ⟨⟨?_, ?_⟩, ?_, ?_⟩ <;> simp only [Located.range, width] <;> omega

end Faithful

end Inlay
