import Inlay.Proofs.Occurrence

/-!
# The token at a cursor and the occurrences of its name

Tokens are placed in two ways: each token by the tokens of its slot before it, and the
occurrences of a name by the lines of the earlier ones.  Both look up the same columns
(`findOccurrences_eq_filter`), whatever the tokenizer reports.

So the range of the token at a cursor (`firstAt_of_tokenAt?`) is that of an occurrence of
its text, also where the columns run out and a token is placed at the start of its line.
-/

namespace Inlay

/-! ## Placed tokens -/

theorem map_fst_placeTokens (table : OffsetTable) (before tokens : List Token) :
    (placeTokens table before tokens).map Prod.fst = tokens := by
  induction tokens generalizing before with
  | nil => rfl
  | cons token rest ih => rw [placeTokens, List.map_cons, ih]

theorem mem_of_mem_tokenPositions {source : String} {tokens : List Token}
    {placed : Token × Position} (listed : placed ∈ tokenPositions source tokens) :
    placed.1 ∈ tokens := by
  have inTokens := List.mem_map_of_mem (f := Prod.fst) listed
  rwa [tokenPositions, map_fst_placeTokens] at inTokens

/-- A token is placed on its line, at a column that the table gives or at the start. -/
theorem mem_placeTokens {table : OffsetTable} {before tokens : List Token}
    {placed : Token × Position} (listed : placed ∈ placeTokens table before tokens) :
    ∃ nth, placed.2 =
      ⟨placed.1.lineIndex, (table.offset? placed.1.lineIndex placed.1.text nth).getD 0⟩ := by
  induction tokens generalizing before with
  | nil => cases listed
  | cons token rest ih =>
      rcases List.mem_cons.1 listed with rfl | later
      · exact ⟨_, rfl⟩
      · exact ih later

/-- A text is found inside its line. -/
theorem le_length_of_mem_slotOffsets {lines : List (List Char)} {slot : Slot} {column : Nat}
    (found : column ∈ slotOffsets lines slot) :
    ∃ line, lines[slot.1]? = some line ∧ column + slot.2.length ≤ line.length := by
  rw [slotOffsets] at found
  split at found
  next line present =>
    refine ⟨line, present, ?_⟩
    rw [← String.length_toList]
    exact (Text.standsAt_of_mem_matchOffsets found).length_le
  next => cases found

/-- A token that is found lies in the source; one that is not is at the start of its line. -/
theorem character_le_of_mem_tokenPositions {source : String} {tokens : List Token}
    {placed : Token × Position} (listed : placed ∈ tokenPositions source tokens) :
    placed.2.character = 0 ∨ placed.2.character + placed.1.width ≤ source.length := by
  obtain ⟨nth, position⟩ := mem_placeTokens listed
  have slot : placed.1.slot ∈ tokens.map Token.slot :=
    List.mem_map_of_mem (mem_of_mem_tokenPositions listed)
  rw [OffsetTable.offset?_build slot] at position
  rw [position]
  cases found : (slotOffsets (sourceLines source) placed.1.slot)[nth]? with
  | none => exact .inl (congrArg (·.getD 0) found)
  | some column =>
      obtain ⟨line, present, fits⟩ := le_length_of_mem_slotOffsets (List.mem_of_getElem? found)
      have small := sourceLines_le present
      have inLine : column + placed.1.width ≤ line.length := fits
      refine .inr ?_
      rw [Token.slot] at found
      rw [found]
      show column + placed.1.width ≤ source.length
      omega

/-! ## Two ways to place tokens -/

/-- The two ways agree from any point of the stream on, when the lines that one keeps are
those of the earlier tokens that spell the name. -/
theorem occurrencesFrom_eq_filter (table : OffsetTable) (name : String) {before : List Nat}
    {earlier : List Token}
    (counted : ∀ line, before.count line = earlier.countP (·.slot == (line, name)))
    (tokens : List Token) :
    occurrencesFrom table name before tokens =
      ((placeTokens table earlier tokens).filter fun placed => placed.1.text = name).map
        fun placed => ⟨name, placedRange placed⟩ := by
  induction tokens generalizing before earlier with
  | nil => rfl
  | cons token rest ih =>
      simp only [occurrencesFrom, placeTokens, List.filter_cons]
      split
      next spells =>
        have slot : token.slot = (token.lineIndex, name) := by rw [Token.slot, spells]
        have countedNow (line : Nat) : (token.lineIndex :: before).count line =
            (token :: earlier).countP (·.slot == (line, name)) := by
          rw [List.count_cons, List.countP_cons, counted, slot]
          simp
        rw [if_pos (decide_eq_true spells), List.map_cons, ih countedNow, counted, placedRange,
          slot, Token.width, spells]
      next other =>
        have countedNow (line : Nat) : before.count line =
            (token :: earlier).countP (·.slot == (line, name)) := by
          rw [List.countP_cons, counted]
          simp [Token.slot, other]
        rw [if_neg (by simpa using other), ih countedNow]

/-- The occurrences of a name are the placed tokens that spell it. -/
theorem findOccurrences_eq_filter (source : String) (tokens : List Token) {name : String}
    (nonempty : name ≠ "") :
    findOccurrences source tokens name =
      ((tokenPositions source tokens).filter fun placed => placed.1.text = name).map
        fun placed => ⟨name, placedRange placed⟩ := by
  rw [findOccurrences, if_neg (by simpa using nonempty)]
  exact occurrencesFrom_eq_filter _ name (fun _ => rfl) tokens

/-! ## The token at a cursor -/

/-- A position lies in a range or at one of its ends. -/
def Range.Covers (range : Range) (position : Position) : Prop :=
  range.start ≤ position ∧ position ≤ range.stop

instance (range : Range) (position : Position) : Decidable (range.Covers position) :=
  inferInstanceAs (Decidable (_ ∧ _))

theorem Range.covers_line {line start stop : Nat} {position : Position} :
    (⟨⟨line, start⟩, ⟨line, stop⟩⟩ : Range).Covers position ↔
      (line = position.line ∧ start ≤ position.character) ∧ position.character ≤ stop := by
  show (line < position.line ∨ line = position.line ∧ start ≤ position.character) ∧
    (position.line < line ∨ position.line = line ∧ position.character ≤ stop) ↔ _
  omega

theorem touches_iff {cursor : Position} {placed : Token × Position} :
    touches cursor placed = true ↔ (placedRange placed).Covers cursor := by
  rw [touches, Bool.and_eq_true, Bool.and_eq_true, beq_iff_eq, decide_eq_true_iff,
    decide_eq_true_iff]
  exact Range.covers_line.symm

/-- An identifier among the placed tokens covers the cursor. -/
def OnIdentifier (placed : List (Token × Position)) (cursor : Position) : Prop :=
  ∃ one ∈ placed, one.1.isIdentifier = true ∧ (placedRange one).Covers cursor

/-- A token covers the cursor and is the first to do so behind the tokens in front of it,
identifiers going before all others. -/
structure FirstAt (placed front : List (Token × Position)) (one : Token × Position)
    (cursor : Position) : Prop where
  covers : (placedRange one).Covers cursor
  ofIdentifier : OnIdentifier placed cursor →
    one.1.isIdentifier = true ∧ ¬OnIdentifier front cursor
  ofOther : ¬OnIdentifier placed cursor →
    ∀ earlier ∈ front, ¬(placedRange earlier).Covers cursor

theorem firstAt_of_tokenAt? {source : String} {tokens : List Token} {cursor : Position}
    {token : Token} {range : Range} (found : tokenAt? source tokens cursor = some (token, range)) :
    ∃ front position back, tokenPositions source tokens = front ++ (token, position) :: back ∧
      placedRange (token, position) = range ∧
      FirstAt (tokenPositions source tokens) front (token, position) cursor := by
  rw [tokenAt?, List.find?_filter, List.head?_filter, Option.map_eq_some_iff] at found
  obtain ⟨⟨_, position⟩, chosen, same⟩ := found
  obtain ⟨rfl, rfl⟩ := Prod.mk.inj same
  -- Either the first identifier that covers the cursor was taken, or there is none.
  rcases Option.or_eq_some_iff.1 chosen with named | ⟨unnamed, first⟩
  · obtain ⟨here, front, back, cut, before⟩ := List.find?_eq_some_iff_append.1 named
    simp only [decide_eq_true_iff, touches_iff, Bool.not_eq_true', decide_eq_false_iff_not]
      at here before
    obtain ⟨covers, identifier⟩ := here
    refine ⟨front, position, back, cut, rfl, covers, fun _ => ⟨identifier, ?_⟩, fun none => ?_⟩
    · rintro ⟨earlier, inFront, isIdentifier, alsoCovers⟩
      exact before earlier inFront ⟨alsoCovers, isIdentifier⟩
    · exact absurd ⟨_, cut ▸ List.mem_append_right _ (.head _), identifier, covers⟩ none
  · obtain ⟨here, front, back, cut, before⟩ := List.find?_eq_some_iff_append.1 first
    simp only [touches_iff, Bool.not_eq_true', Bool.eq_false_iff, ne_eq] at here before
    refine ⟨front, position, back, cut, rfl, here, fun on => ?_, fun _ => before⟩
    obtain ⟨one, listed, isIdentifier, covers⟩ := on
    have passed := List.find?_eq_none.1 unnamed one listed
    rw [decide_eq_true_iff, touches_iff] at passed
    exact absurd ⟨covers, isIdentifier⟩ passed

theorem tokenAt?_eq_none_iff {source : String} {tokens : List Token} {cursor : Position} :
    tokenAt? source tokens cursor = none ↔
      ∀ placed ∈ tokenPositions source tokens, ¬(placedRange placed).Covers cursor := by
  rw [tokenAt?, List.find?_filter, List.head?_filter, Option.map_eq_none_iff,
    Option.or_eq_none_iff, List.find?_eq_none, List.find?_eq_none]
  simp only [decide_eq_true_iff, touches_iff]
  exact ⟨And.right, fun none => ⟨fun one listed both => none one listed both.1, none⟩⟩

theorem exists_mem_of_tokenAt? {source : String} {tokens : List Token} {cursor : Position}
    {token : Token} {range : Range} (found : tokenAt? source tokens cursor = some (token, range)) :
    ∃ position, (token, position) ∈ tokenPositions source tokens ∧
      placedRange (token, position) = range := by
  obtain ⟨front, position, back, cut, ranged, -⟩ := firstAt_of_tokenAt? found
  exact ⟨position, cut ▸ List.mem_append_right _ (.head _), ranged⟩

theorem mem_of_tokenAt? {source : String} {tokens : List Token} {cursor : Position}
    {token : Token} {range : Range} (found : tokenAt? source tokens cursor = some (token, range)) :
    token ∈ tokens := by
  obtain ⟨position, listed, -⟩ := exists_mem_of_tokenAt? found
  exact mem_of_mem_tokenPositions listed

/-! ## Agreement -/

/-- However the tokenizer places its tokens on lines, the occurrences of a name are its
placed tokens in the order of the stream, and the token at a cursor, the first that covers
it with identifiers before all others, is one of the occurrences of its text. -/
theorem findOccurrences_agrees (source : String) (tokens : List Token)
    (short : source.length < 2 ^ 31) (shortTokens : ∀ token ∈ tokens, token.text.length < 2 ^ 31) :
    let placed := tokenPositions source tokens
    placed.map Prod.fst = tokens ∧
    (∀ one ∈ placed, one.2.line = one.1.lineIndex ∧
      one.2.character + one.1.text.length < 2 ^ 32) ∧
    (∀ name, name ≠ "" → findOccurrences source tokens name =
      (placed.filter fun one => one.1.text = name).map fun one =>
        ⟨name, ⟨one.2, ⟨one.2.line, one.2.character + name.length⟩⟩⟩) ∧
    (∀ cursor, tokenAt? source tokens cursor = none ↔
      ∀ one ∈ placed, ¬(placedRange one).Covers cursor) ∧
    (∀ cursor token range, tokenAt? source tokens cursor = some (token, range) →
      range.Covers cursor ∧
      (∃ front position back, placed = front ++ (token, position) :: back ∧
        placedRange (token, position) = range ∧ FirstAt placed front (token, position) cursor) ∧
      (token.text ≠ "" → ⟨token.text, range⟩ ∈ findOccurrences source tokens token.text)) := by
  intro placed
  refine ⟨map_fst_placeTokens _ _ _, fun one listed => ⟨?_, ?_⟩, fun name nonempty => ?_,
    fun cursor => tokenAt?_eq_none_iff, fun cursor token range found => ?_⟩
  · obtain ⟨nth, position⟩ := mem_placeTokens listed
    exact congrArg Position.line position
  · have shortToken := shortTokens one.1 (mem_of_mem_tokenPositions listed)
    have fits := character_le_of_mem_tokenPositions listed
    rw [Token.width] at fits
    omega
  · rw [findOccurrences_eq_filter source tokens nonempty]
    refine List.map_congr_left fun one spells => ?_
    rw [placedRange, Token.width, of_decide_eq_true (List.mem_filter.1 spells).2]
  · obtain ⟨front, position, back, cut, rfl, first⟩ := firstAt_of_tokenAt? found
    refine ⟨first.covers, ⟨front, position, back, cut, rfl, first⟩, fun nonempty => ?_⟩
    obtain ⟨place, listed, ranged⟩ := exists_mem_of_tokenAt? found
    rw [findOccurrences_eq_filter source tokens nonempty, ← ranged]
    exact List.mem_map.2 ⟨(token, place), List.mem_filter.2 ⟨listed, decide_eq_true rfl⟩, rfl⟩

/-- Four tokens with the text `foo` where a line has three matches of it, one of them inside a
longer name: the last token is at the start of the line, and the cursor between a sign and a
name is on the name. -/
theorem findOccurrences_agrees_surplus :
    let foo : Token := ⟨"foo", 1, .identifier⟩
    let source := "foobar+foo-foo"
    let tokens := [⟨"foobar", 1, .identifier⟩, ⟨"+", 1, .other⟩, foo, foo, foo, foo]
    let columns := (findOccurrences source tokens "foo").map (·.range.start.character)
    columns = [0, 7, 11, 0] ∧
      tokenAt? source tokens ⟨0, 7⟩ = some (foo, ⟨⟨0, 7⟩, ⟨0, 10⟩⟩) ∧
      ⟨"foo", ⟨⟨0, 7⟩, ⟨0, 10⟩⟩⟩ ∈ findOccurrences source tokens "foo" := by
  intro foo source tokens columns
  obtain ⟨-, -, placed, -, cursors⟩ :=
    findOccurrences_agrees source tokens (by decide) (by decide)
  have found : tokenAt? source tokens ⟨0, 7⟩ = some (foo, ⟨⟨0, 7⟩, ⟨0, 10⟩⟩) := by decide
  obtain ⟨-, -, listed⟩ := cursors _ _ _ found
  refine ⟨?_, found, listed (by decide)⟩
  show (findOccurrences source tokens "foo").map _ = _
  rw [placed "foo" (by decide)]
  decide

end Inlay
