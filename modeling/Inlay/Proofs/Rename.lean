import Inlay.Proofs.Cursor
import Inlay.Proofs.Engine

/-!
# Renaming

The edits of a rename name places by line and column, and the document applies them
through its own conversion of positions.  They are meant for the text as it was, so they
are applied from the last to the first: what an edit changes lies behind the places of
those that are still to come.

Where the tokens are faithful, the text is the name put between pieces that belong to
other tokens (`Text.gaps`), and renaming puts the new name between the same pieces.
-/

namespace Inlay

/-! ## A text cut at its occurrences -/

/-- The pieces of a text, from an offset on, between stretches of the given width that
begin at the given offsets. -/
def Text.gaps (text : List Char) (width : Nat) : Nat → List Nat → List (List Char)
  | start, [] => [text.drop start]
  | start, offset :: later =>
      (text.drop start).take (offset - start) :: Text.gaps text width (offset + width) later

namespace Text

variable {text : List Char}

theorem gaps_ne_nil (width start : Nat) (offsets : List Nat) :
    gaps text width start offsets ≠ [] := by
  cases offsets <;> exact List.cons_ne_nil _ _

/-- What comes before the first offset, and what is put between, go in front of the
rest. -/
theorem intercalate_gaps_cons (between : List Char) {width start offset : Nat}
    (ordered : start ≤ offset) (later : List Nat) :
    text.take start ++ between.intercalate (gaps text width start (offset :: later)) =
      text.take offset ++ between ++
        between.intercalate (gaps text width (offset + width) later) := by
  obtain ⟨gap, more, cut⟩ := List.exists_cons_of_ne_nil (gaps_ne_nil width (offset + width) later)
  rw [gaps, cut, List.intercalate_cons_cons, ← List.append_assoc, ← List.append_assoc,
    ← List.take_add, Nat.add_sub_cancel' ordered]

/-- With the stretches themselves between the pieces, the text is what it was. -/
theorem intercalate_gaps_self {word : List Char} {start : Nat} {offsets : List Nat}
    (stands : ∀ offset ∈ offsets, word <+: text.drop offset)
    (apart : offsets.Pairwise fun a b => a + word.length ≤ b)
    (behind : ∀ offset ∈ offsets, start ≤ offset) :
    text.take start ++ word.intercalate (gaps text word.length start offsets) = text := by
  induction offsets generalizing start with
  | nil => rw [gaps, List.intercalate_singleton, List.take_append_drop]
  | cons offset later ih =>
      obtain ⟨here, others⟩ := List.forall_mem_cons.1 stands
      obtain ⟨first, rest⟩ := List.pairwise_cons.1 apart
      have taken : text.take offset ++ word = text.take (offset + word.length) := by
        rw [List.take_add, ← List.prefix_iff_eq_take.1 here]
      rw [intercalate_gaps_cons _ (behind offset (.head _)), taken]
      exact ih others rest first

end Text

/-! ## Edits from the last to the first -/

/-- The name is made of letters, digits and underscores. -/
def IsWord (name : String) : Prop :=
  name.toList ≠ [] ∧ ∀ c ∈ name.toList, Text.isAlphanumeric c = true ∨ c = '_'

theorem IsWord.isBreak_eq_false {name : String} (word : IsWord name) :
    ∀ c ∈ name.toList, isBreak c = false := by
  intro c listed
  cases breaks : isBreak c with
  | false => rfl
  | true =>
      rw [isBreak, Bool.or_eq_true, beq_iff_eq, beq_iff_eq] at breaks
      rcases breaks with rfl | rfl
      · exact absurd (word.2 _ listed) (by decide)
      · exact absurd (word.2 _ listed) (by decide)

/-- The change that an edit makes to a document. -/
def TextEdit.change (edit : TextEdit) : Change := ⟨some edit.range, edit.newText⟩

/-- The edit that gives a token another text. -/
def Located.edit (newName : String) (located : Located) : TextEdit := ⟨located.range, newName⟩

namespace Faithful

variable {source name : String} {stream : List Located}

/-- The text behind a token may have changed: its edit still replaces just the token. -/
theorem apply_edit (faithful : Faithful source name stream) (word : IsWord name)
    {located : Located} (listed : located ∈ spelling name stream) (newName : String)
    (behind : List Char) :
    Change.apply (source.toList.take (located.offset source + name.length) ++ behind)
        (located.edit newName).change =
      source.toList.take (located.offset source) ++ newName.toList ++ behind := by
  obtain ⟨full, front, back, text, areFull, unbroken, index, column, offset⟩ :=
    faithful.stands_behind word.1 listed
  have width : located.token.width = name.toList.length := by
    rw [Token.width, (mem_spelling.1 listed).2, String.length_toList]
  have before : source.toList.take (located.offset source) = full.flatten ++ front := by
    rw [text, ← offset, List.append_assoc, List.take_left]
  have upTo : source.toList.take (located.offset source + name.length) =
      full.flatten ++ front ++ name.toList := by
    rw [text, ← offset, ← String.length_toList, ← List.length_append, List.take_left]
  have applied := Change.apply_stretch areFull unbroken word.1 word.isBreak_eq_false newName behind
  rw [index, column] at applied
  rw [before, upTo, Located.edit, TextEdit.change, Located.range, width]
  exact applied

/-- Applying the edits from the last to the first puts the new name between the pieces of
the text. -/
theorem foldr_apply (faithful : Faithful source name stream) (word : IsWord name)
    (newName : String) {located : List Located} {start : Nat}
    (listed : ∀ one ∈ located, one ∈ spelling name stream)
    (apart : located.Pairwise fun a b => a.offset source + name.length ≤ b.offset source)
    (behind : ∀ one ∈ located, start ≤ one.offset source) :
    (located.map (Located.edit newName)).foldr (fun edit text => Change.apply text edit.change)
        source.toList =
      source.toList.take start ++ newName.toList.intercalate
        (Text.gaps source.toList name.length start (located.map (Located.offset source))) := by
  induction located generalizing start with
  | nil => rw [List.map_nil, List.foldr_nil, List.map_nil, Text.gaps, List.intercalate_singleton,
      List.take_append_drop]
  | cons one later ih =>
      obtain ⟨here, others⟩ := List.forall_mem_cons.1 listed
      obtain ⟨first, rest⟩ := List.pairwise_cons.1 apart
      rw [List.map_cons, List.foldr_cons, ih others rest first, faithful.apply_edit word here,
        List.map_cons, Text.intercalate_gaps_cons _ (behind one (.head _))]

/-- The text is the name between its pieces. -/
theorem intercalate_pieces (faithful : Faithful source name stream) (word : IsWord name) :
    name.toList.intercalate (Text.gaps source.toList name.length 0
      ((spelling name stream).map (Located.offset source))) = source.toList := by
  have apart : ((spelling name stream).map (Located.offset source)).Pairwise
      fun a b => a + name.toList.length ≤ b := by
    rw [List.pairwise_map, String.length_toList]
    exact faithful.pairwise_offset word.1
  have stands : ∀ offset ∈ (spelling name stream).map (Located.offset source),
      name.toList <+: source.toList.drop offset := by
    intro offset listed
    obtain ⟨located, inTokens, rfl⟩ := List.mem_map.1 listed
    obtain ⟨full, front, back, text, _, _, _, _, here⟩ := faithful.stands_behind word.1 inTokens
    rw [text, ← here, List.append_assoc, List.drop_left]
    exact List.prefix_append _ _
  have joined := Text.intercalate_gaps_self stands apart (fun _ _ => Nat.zero_le _)
  rwa [List.take_zero, List.nil_append, String.length_toList] at joined

end Faithful

/-! ## What a rename answers -/

namespace Engine

variable {σ : Type} {engine : Engine σ} {document : SourceDocument} {cursor : Position}
  {raws : List RawToken} {state later : σ}

theorem tokensOrNone_run
    (reported : (engine.analyzer.tokenize document.text).run.run state = (.ok raws, later)) :
    (engine.tokensOrNone document.text).run.run state =
      (.ok (raws.map engine.keywords.token), later) := by
  refine Analysis.run_tryCatch_ok ?_ _
  rw [tokenize, Analysis.run_bind_ok reported]
  rfl

theorem occurrencesAt_run {token : Token} {range : Range}
    (reported : (engine.analyzer.tokenize document.text).run.run state = (.ok raws, later))
    (under : tokenAt? document.text (raws.map engine.keywords.token) cursor = some (token, range))
    (identifier : token.isIdentifier = true) :
    (engine.occurrencesAt document cursor).run.run state =
      (.ok (findOccurrences document.text (raws.map engine.keywords.token) token.text), later) := by
  have found :
      identifierAt? document.text (raws.map engine.keywords.token) cursor = some token := by
    rw [identifierAt?, under, Option.map_some, Option.filter_some, if_pos identifier]
  rw [occurrencesAt, Analysis.run_bind_ok (tokensOrNone_run reported), found]
  rfl

/-- A rename of the identifier at a cursor edits all its occurrences. -/
theorem rename_run {newName : String} {token : Token} {range : Range}
    (reported : (engine.analyzer.tokenize document.text).run.run state = (.ok raws, later))
    (under : tokenAt? document.text (raws.map engine.keywords.token) cursor = some (token, range))
    (identifier : token.isIdentifier = true)
    (valid : engine.keywords.classify newName = .identifier)
    (occurs : findOccurrences document.text (raws.map engine.keywords.token) token.text ≠ []) :
    (engine.rename document cursor newName).run.run state =
      (.ok (some ((findOccurrences document.text (raws.map engine.keywords.token) token.text).map
        fun occurrence => ⟨occurrence.range, newName⟩)), later) := by
  have accepted : ¬engine.keywords.classify newName ≠ .identifier := not_not_intro valid
  rw [rename, if_neg accepted, Analysis.run_bind_ok (occurrencesAt_run reported under identifier)]
  split
  next nothing => exact absurd nothing occurs
  next => rfl

/-- Where the tokens that spell a name are faithful to the text, renaming an identifier
spelled so edits each of its tokens and nothing else: the text is the name between some
pieces, and once the document has applied the edits from the last to the first, it is
the new name between the same pieces. -/
theorem rename_rewrites {name newName : String} {stream : List Located} {token : Token}
    {range : Range} {version newer : Int} (word : IsWord name)
    (reported : (engine.analyzer.tokenize document.text).run.run state = (.ok raws, later))
    (located : stream.map Located.token = raws.map engine.keywords.token)
    (faithful : Faithful document.text name stream) (short : document.text.length < 2 ^ 32)
    (under : tokenAt? document.text (raws.map engine.keywords.token) cursor = some (token, range))
    (identifier : token.isIdentifier = true) (spelled : token.text = name)
    (valid : engine.keywords.classify newName = .identifier) (updated : version < newer) :
    let tokens := spelling name stream
    let edits := tokens.map (Located.edit newName)
    let pieces := Text.gaps document.text.toList name.length 0
      (tokens.map (Located.offset document.text))
    (engine.rename document cursor newName).run.run state = (.ok (some edits), later) ∧
      (∀ edit ∈ edits, edit.range.Fits32) ∧
      document.text.toList = name.toList.intercalate pieces ∧
      Revision.apply ⟨document.text.toList, version⟩ (edits.reverse.map TextEdit.change) newer =
        .ok ⟨newName.toList.intercalate pieces, newer⟩ := by
  intro tokens edits pieces
  have found := faithful.findOccurrences_eq word.1
  have apart := faithful.pairwise_offset word.1
  refine ⟨?_, ?_, ?_, ?_⟩
  · subst spelled
    have listed := mem_of_tokenAt? under
    rw [← located, List.mem_map] at listed
    obtain ⟨one, inStream, same⟩ := listed
    have occurs : tokens ≠ [] :=
      List.ne_nil_of_mem (mem_spelling.2 ⟨inStream, congrArg Token.text same⟩)
    rw [located] at found
    have renamed := rename_run reported under identifier valid (by simpa [found] using occurs)
    rwa [found, List.map_map] at renamed
  · intro edit listed
    obtain ⟨one, inTokens, rfl⟩ := List.mem_map.1 listed
    exact faithful.range_fits32 word.1 short inTokens
  · exact (faithful.intercalate_pieces word).symm
  · rw [Revision.apply_newer _ updated, List.map_reverse, List.foldl_reverse, List.foldr_map,
      faithful.foldr_apply word newName (fun _ listed => listed) apart (fun _ _ => Nat.zero_le _),
      List.take_zero, List.nil_append]

/-- The analyzer that reports the given tokens of every source. -/
def tokenizing (raws : List RawToken) : Analyzer Unit :=
  { Analyzer.bare Unit with tokenize := fun _ => pure raws }

/-- The name stands twice on a line, behind a line that has a wide character. -/
theorem rename_rewrites_twice_on_line :
    let raws : List RawToken := [⟨"é", 1, some .identifier⟩, ⟨"a", 1, some .identifier⟩,
      ⟨"a", 2, some .identifier⟩, ⟨"+", 2, some .other⟩, ⟨"a", 2, some .identifier⟩]
    let engine : Engine Unit := { analyzer := tokenizing raws, keywords := .ofList [] }
    let document : SourceDocument := ⟨"a.pike", "é a\r\na+a"⟩
    let edits : List TextEdit :=
      [⟨⟨⟨0, 2⟩, ⟨0, 3⟩⟩, "sum"⟩, ⟨⟨⟨1, 0⟩, ⟨1, 1⟩⟩, "sum"⟩, ⟨⟨⟨1, 2⟩, ⟨1, 3⟩⟩, "sum"⟩]
    (engine.rename document ⟨1, 3⟩ "sum").run.run () = (.ok (some edits), ()) ∧
      Revision.apply ⟨document.text.toList, 4⟩ (edits.reverse.map TextEdit.change) 5 =
        .ok ⟨"é sum\r\nsum+sum".toList, 5⟩ := by
  intro raws engine document edits
  let stream : List Located := (raws.map engine.keywords.token).zipWith Located.mk [0, 2, 0, 1, 2]
  have lines : sourceLines document.text = [['é', ' ', 'a', '\r'], ['a', '+', 'a']] := by decide
  have tokens : spelling "a" stream = [⟨⟨"a", 1, .identifier⟩, 2⟩, ⟨⟨"a", 2, .identifier⟩, 0⟩,
    ⟨⟨"a", 2, .identifier⟩, 2⟩] := rfl
  have word : IsWord "a" := by
    refine ⟨by decide, fun c listed => .inl ?_⟩
    obtain rfl : c = 'a' := by simpa using listed
    decide
  have faithful : Faithful document.text "a" stream := by
    refine ⟨?_, ?_, ?_⟩
    · rw [tokens, lines]
      decide
    · rw [tokens]
      decide
    · -- Only three columns of the two lines hold the name.
      rw [tokens, lines]
      rintro (_ | _ | _) (_ | _ | _ | _ | column) line present stands <;> simp at present <;>
        subst present <;> simp [Token.lineIndex] at stands ⊢
  have under : tokenAt? document.text (raws.map engine.keywords.token) ⟨1, 3⟩ =
    some (⟨"a", 2, .identifier⟩, ⟨⟨1, 2⟩, ⟨1, 3⟩⟩) := by decide
  have valid : engine.keywords.classify "sum" = .identifier := by decide
  have joined : "sum".toList.intercalate (Text.gaps document.text.toList "a".length 0
      ((spelling "a" stream).map (Located.offset document.text))) =
      "é sum\r\nsum+sum".toList := by
    rw [tokens]
    decide
  obtain ⟨renamed, _, _, applied⟩ := @rename_rewrites Unit engine document ⟨1, 3⟩ raws () () "a"
    "sum" stream _ _ 4 5 word rfl rfl faithful (by decide) under rfl rfl valid (by decide)
  rw [joined] at applied
  rw [tokens] at renamed applied
  exact ⟨renamed, applied⟩

end Engine

end Inlay
