import Inlay.Proofs.Cursor
import Inlay.Proofs.LineIndex.Content

/-!
# Tokens among longer words

A name may also stand inside longer words of its line, and the search takes the first
matches that do not overlap, whatever they belong to.  `Standing` asks no more of the
tokens that spell the name than that each stands on its line, in order and apart from
the others there.

The search then has a match for each of them, at its column or before
(`Standing.forall₂_slotOffsets`), so none is put at the start of its line for want of a
match, and the name stands at each place that is found.  That the token itself stands
there takes `Faithful`.
-/

namespace Inlay

/-! ## Matches and columns -/

namespace Standing

variable {source name : String} {stream : List Located}

/-- The first matches on a line are at the columns of its tokens or before them. -/
theorem forall₂_slotOffsets (standing : Standing source name stream) (nonempty : name.toList ≠ [])
    (index : Nat) :
    List.Forall₂ (· ≤ ·)
      ((slotOffsets (sourceLines source) (index, name)).take
        (columnsOn stream (index, name)).length)
      (columnsOn stream (index, name)) := by
  rw [slotOffsets]
  split
  next line present =>
    refine Text.forall₂_take_matchOffsets nonempty ?_ fun column listed => ?_
    · rw [String.length_toList]
      exact standing.pairwise_columnsOn index
    · obtain ⟨same, sameLine, stands⟩ := standing.prefix_of_mem_columnsOn listed
      obtain rfl := Option.some.inj (present.symm.trans sameLine)
      exact stands
  next absent =>
    rw [standing.columnsOn_eq_nil absent]
    exact .nil

end Standing

/-! ## Occurrences line by line -/

/-- The characters at which occurrences on a line start. -/
def charactersOn (found : List Occurrence) (index : Nat) : List Nat :=
  (found.filter fun occurrence => occurrence.range.start.line = index).map
    fun occurrence => occurrence.range.start.character

theorem charactersOn_cons (occurrence : Occurrence) (found : List Occurrence) (index : Nat) :
    charactersOn (occurrence :: found) index =
      if occurrence.range.start.line = index then
        occurrence.range.start.character :: charactersOn found index
      else charactersOn found index := by
  simp only [charactersOn, List.filter_cons, decide_eq_true_iff]
  split <;> rfl

theorem mem_charactersOn {found : List Occurrence} {occurrence : Occurrence}
    (listed : occurrence ∈ found) :
    occurrence.range.start.character ∈ charactersOn found occurrence.range.start.line :=
  List.mem_map_of_mem (List.mem_filter.2 ⟨listed, decide_eq_true rfl⟩)

/-- Each token that spells the name has an occurrence on its line. -/
theorem lines_occurrencesFrom (table : OffsetTable) (name : String) (before : List Nat)
    (tokens : List Token) :
    (occurrencesFrom table name before tokens).map (·.range.start.line) =
      (tokens.filter fun token => token.text = name).map Token.lineIndex := by
  induction tokens generalizing before with
  | nil => rfl
  | cons token rest ih =>
      simp only [occurrencesFrom, List.filter_cons, decide_eq_true_iff]
      split
      next spells => rw [List.map_cons, List.map_cons, ih]
      next other => exact ih before

theorem lines_findOccurrences {source name : String} {tokens : List Token} (nonempty : name ≠ "") :
    (findOccurrences source tokens name).map (·.range.start.line) =
      (tokens.filter fun token => token.text = name).map Token.lineIndex := by
  rw [findOccurrences, if_neg (by simpa using nonempty)]
  exact lines_occurrencesFrom _ name [] tokens

/-- On each line the matches are taken one after the other. -/
theorem charactersOn_occurrencesFrom (table : OffsetTable) (name : String) (before : List Nat)
    (tokens : List Token) (index : Nat) :
    charactersOn (occurrencesFrom table name before tokens) index =
      (List.range' (before.count index) (tokens.countP (·.slot == (index, name)))).map
        fun nth => (table.offset? index name nth).getD 0 := by
  induction tokens generalizing before with
  | nil => rfl
  | cons token rest ih =>
      simp only [occurrencesFrom, List.countP_cons]
      split
      next spells =>
        have slot : token.slot = (token.lineIndex, name) := by rw [Token.slot, spells]
        rw [charactersOn_cons, ih, slot]
        by_cases here : token.lineIndex = index
        · subst here
          rw [if_pos rfl, if_pos (beq_self_eq_true _), List.count_cons_self, List.range'_succ,
            List.map_cons]
        · have elsewhere : ¬((token.lineIndex, name) == (index, name)) = true := by simp [here]
          rw [if_neg here, if_neg elsewhere, List.count_cons_of_ne here, Nat.add_zero]
      next other =>
        have elsewhere : ¬(token.slot == (index, name)) = true := by simp [Token.slot, other]
        rw [if_neg elsewhere, Nat.add_zero, ih]

/-- The table has the matches of every slot that some token has. -/
theorem offset?_build_of_lt {source name : String} {tokens : List Token} {index nth : Nat}
    (inRange : nth < tokens.countP (·.slot == (index, name))) :
    (OffsetTable.build source tokens).offset? index name nth =
      (slotOffsets (sourceLines source) (index, name))[nth]? := by
  obtain ⟨token, listed, slot⟩ := List.countP_pos_iff.1 (Nat.zero_lt_of_lt inRange)
  exact OffsetTable.offset?_build (List.mem_map.2 ⟨token, listed, eq_of_beq slot⟩) nth

/-- Where there are enough matches, the occurrences on a line are the first of them. -/
theorem charactersOn_findOccurrences {source name : String} {tokens : List Token} {index : Nat}
    (nonempty : name ≠ "")
    (enough : tokens.countP (·.slot == (index, name)) ≤
      (slotOffsets (sourceLines source) (index, name)).length) :
    charactersOn (findOccurrences source tokens name) index =
      (slotOffsets (sourceLines source) (index, name)).take
        (tokens.countP (·.slot == (index, name))) := by
  rw [findOccurrences, if_neg (by simpa using nonempty), charactersOn_occurrencesFrom,
    List.count_nil]
  refine List.ext_getElem (by simp [Nat.min_eq_left enough]) fun nth inRange inTake => ?_
  rw [List.length_map, List.length_range'] at inRange
  rw [List.getElem_map, List.getElem_range', Nat.zero_add, Nat.one_mul, List.getElem_take,
    offset?_build_of_lt inRange, List.getElem?_eq_getElem (Nat.lt_of_lt_of_le inRange enough),
    Option.getD_some]

/-! ## What the search finds -/

/-- The occurrence takes up a stretch of one line, and that stretch of the source spells its
text. -/
structure Occurrence.Spells (source : String) (occurrence : Occurrence) : Prop where
  fits : occurrence.range.Fits32
  oneLine : occurrence.range.stop = ⟨occurrence.range.start.line,
    occurrence.range.start.character + occurrence.text.length⟩
  inLine : ∃ line, (sourceLines source)[occurrence.range.start.line]? = some line ∧
    occurrence.range.stop.character ≤ line.length
  inText : ∃ start, (LineIndex.ofText source).lineStart? occurrence.range.start.line = some start ∧
    source.toList.extract (start + occurrence.range.start.character)
      (start + occurrence.range.stop.character) = occurrence.text.toList

/-- What stands on a line of the source stands in the source. -/
theorem standsAt_of_sourceLines {source : String} {index column : Nat} {line stretch : List Char}
    (present : (sourceLines source)[index]? = some line)
    (stands : Text.StandsAt line stretch column) :
    ∃ start, (LineIndex.ofText source).lineStart? index = some start ∧
      Text.StandsAt source.toList stretch (start + column) := by
  obtain ⟨-, rest, whole⟩ := exists_of_sourceLines present
  exact ⟨_, LineIndex.lineStart?_eq whole,
    (LineIndex.line_standsAt whole).trans (stands.append rest)⟩

theorem pairwise_slotOffsets (lines : List (List Char)) (slot : Slot) :
    (slotOffsets lines slot).Pairwise fun a b => a + slot.2.length ≤ b := by
  rw [slotOffsets]
  split
  next line _ =>
    rw [← String.length_toList]
    exact Text.pairwise_matchOffsets _ line
  next => exact .nil

theorem countP_slot (stream : List Located) (name : String) (index : Nat) :
    (stream.map Located.token).countP (·.slot == (index, name)) =
      (columnsOn stream (index, name)).length := by
  rw [columnsOn, List.length_map, ← List.countP_eq_length_filter, List.countP_map]
  refine List.countP_congr fun located _ => ?_
  rw [Function.comp_apply, beq_iff_eq, decide_eq_true_iff]

namespace Standing

variable {source name : String} {stream : List Located}

/-- No token is left without a match. -/
theorem length_columnsOn_le (standing : Standing source name stream) (nonempty : name.toList ≠ [])
    (index : Nat) :
    (columnsOn stream (index, name)).length ≤
      (slotOffsets (sourceLines source) (index, name)).length := by
  have paired := (standing.forall₂_slotOffsets nonempty index).length_eq
  rw [List.length_take] at paired
  omega

theorem charactersOn_eq (standing : Standing source name stream) (nonempty : name.toList ≠ [])
    (index : Nat) :
    charactersOn (findOccurrences source (stream.map Located.token) name) index =
      (slotOffsets (sourceLines source) (index, name)).take
        (columnsOn stream (index, name)).length := by
  have enough := standing.length_columnsOn_le nonempty index
  rw [← countP_slot] at enough ⊢
  exact charactersOn_findOccurrences (by simpa using nonempty) enough

/-- The name stands wherever it is found. -/
theorem spells_of_mem (standing : Standing source name stream) (nonempty : name.toList ≠ [])
    (short : source.length < 2 ^ 32) {occurrence : Occurrence}
    (listed : occurrence ∈ findOccurrences source (stream.map Located.token) name) :
    occurrence.text = name ∧ occurrence.Spells source := by
  have onLine := mem_charactersOn listed
  rw [standing.charactersOn_eq nonempty] at onLine
  have matched := List.mem_of_mem_take onLine
  rw [findOccurrences_eq_filter source _ (by simpa using nonempty)] at listed
  obtain ⟨⟨token, position⟩, spells, rfl⟩ := List.mem_map.1 listed
  obtain rfl := of_decide_eq_true (List.mem_filter.1 spells).2
  rw [slotOffsets] at matched
  split at matched
  next line present =>
    have stands := Text.standsAt_of_mem_matchOffsets matched
    obtain ⟨start, starts, inText⟩ := standsAt_of_sourceLines present stands
    have spelled := inText.extract_eq
    rw [String.length_toList, Nat.add_assoc] at spelled
    have inLine : position.character + token.width ≤ line.length :=
      Nat.le_trans (Nat.le_of_eq (congrArg _ String.length_toList.symm)) stands.length_le
    obtain ⟨few, narrow⟩ := sourceLines_le present
    have lineFits : position.line < 2 ^ 32 := Nat.lt_of_le_of_lt few short
    have stopFits : position.character + token.width < 2 ^ 32 := by omega
    have startFits : position.character < 2 ^ 32 := by omega
    exact ⟨rfl, ⟨⟨lineFits, startFits⟩, lineFits, stopFits⟩, rfl, ⟨line, present, inLine⟩,
      start, starts, spelled⟩
  next => cases matched

end Standing

/-- The search finds one occurrence for each token that spells the name, on its line and in
the order of the stream, and the name stands there.  On each line the occurrences are matches
from the table, one behind the other, and each is at the column of its token or before. -/
theorem Standing.findOccurrences_greedy {source name : String} {stream : List Located}
    (standing : Standing source name stream) (nonempty : name ≠ "")
    (short : source.length < 2 ^ 32) :
    let tokens := stream.map Located.token
    let found := findOccurrences source tokens name
    found.map (·.range.start.line) = (spelling name stream).map (·.token.lineIndex) ∧
    (∀ occurrence ∈ found, occurrence.text = name ∧ occurrence.Spells source) ∧
    (∀ index nth, nth < (charactersOn found index).length →
      (OffsetTable.build source tokens).offset? index name nth =
        (charactersOn found index)[nth]?) ∧
    (∀ index, (charactersOn found index).Pairwise fun a b => a + name.length ≤ b) ∧
    (∀ index, List.Forall₂ (· ≤ ·) (charactersOn found index)
      (columnsOn stream (index, name))) := by
  intro tokens found
  have solid : name.toList ≠ [] := by simpa using nonempty
  have taken := standing.charactersOn_eq solid
  refine ⟨?_, fun _ => standing.spells_of_mem solid short, fun index nth inRange => ?_,
    fun index => ?_, fun index => ?_⟩
  · rw [lines_findOccurrences nonempty, spelling, List.filter_map, List.map_map]
    rfl
  · rw [taken, List.length_take] at inRange
    have counted : nth < (columnsOn stream (index, name)).length := by omega
    rw [taken, List.getElem?_take_of_lt counted]
    exact offset?_build_of_lt (countP_slot stream name index ▸ counted)
  · rw [taken]
    exact (pairwise_slotOffsets _ (index, name)).sublist (List.take_sublist _ _)
  · rw [taken]
    exact standing.forall₂_slotOffsets solid index

/-- Two tokens behind a longer word that begins with their text twice: both are found inside
that word, before their own columns, and a third on the next line is found where it stands. -/
theorem Standing.findOccurrences_greedy_longer :
    let source := "éfoofoo + foo,foo\nfoo"
    let foo : Token := ⟨"foo", 1, .identifier⟩
    let stream : List Located := [⟨⟨"éfoofoo", 1, .identifier⟩, 0⟩, ⟨⟨"+", 1, .other⟩, 8⟩,
      ⟨foo, 10⟩, ⟨⟨",", 1, .other⟩, 13⟩, ⟨foo, 14⟩, ⟨{ foo with line := 2 }, 0⟩]
    let found := findOccurrences source (stream.map Located.token) "foo"
    Standing source "foo" stream ∧
      found.map (·.range.start.line) = [0, 0, 1] ∧
      (∀ occurrence ∈ found, occurrence.text = "foo" ∧ occurrence.Spells source) ∧
      charactersOn found 0 = [1, 4] ∧ charactersOn found 1 = [0] ∧
      List.Forall₂ (· ≤ ·) (charactersOn found 0) [10, 14] := by
  intro source foo stream found
  have lines : sourceLines source = ["éfoofoo + foo,foo".toList, "foo".toList] := by decide
  have tokens : spelling "foo" stream = [⟨foo, 10⟩, ⟨foo, 14⟩, ⟨{ foo with line := 2 }, 0⟩] := rfl
  have standing : Standing source "foo" stream := by
    refine ⟨?_, ?_⟩
    · rw [tokens, lines]
      decide
    · rw [tokens]
      decide
  obtain ⟨onLines, spell, -, -, early⟩ :=
    standing.findOccurrences_greedy (by decide) (by decide)
  exact ⟨standing, onLines, spell, by decide, by decide, early 0⟩

end Inlay
