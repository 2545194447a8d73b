import Inlay.LineIndex
import Inlay.Proofs.Text.Greedy

/-!
# Searching a text kept in bytes

A stored text is addressed by bytes, and positions in a document count characters.
`byteSearch?` is the search on the stored text: it cuts the line at a byte, looks for the
first place in what is left, counts the characters before that place, and goes on at the
byte behind the match.  It fails where a cut would fall inside a character.

No cut does, since each is at the start of the line or behind a match, and the offsets that
it finds are those of `matchOffsets` (`byteSearch?_eq`).  On a line whose offsets fit in 32
bits the search therefore lists the greedy matches, of which there are as many as matches
that do not overlap can be (`matchOffsets_greedy`).
-/

namespace Inlay.Text

/-! ## Bytes and characters -/

theorem foldr_utf8Size (chars : List Char) :
    chars.foldr (fun c bytes => c.utf8Size + bytes) 0 = (String.ofList chars).utf8ByteSize := by
  induction chars with
  | nil => rfl
  | cons c rest ih =>
      rw [List.foldr_cons, ih, String.ofList_cons, String.utf8ByteSize_append,
        String.utf8ByteSize_singleton]

theorem bytesOfChars_append (front back : String) :
    bytesOfChars (front ++ back) front.length = front.utf8ByteSize := by
  rw [bytesOfChars, foldr_utf8Size, String.toList_append, ← String.length_toList, List.take_left,
    String.ofList_toList]

theorem charsOfBytes_go_append (front back : List Char) :
    charsOfBytes.go (front ++ back) (String.ofList front).utf8ByteSize = front.length := by
  induction front with
  | nil =>
      cases back with
      | nil => rfl
      | cons c back => exact if_neg (Nat.not_le_of_lt c.utf8Size_pos)
  | cons c front ih =>
      rw [String.ofList_cons, String.utf8ByteSize_append, String.utf8ByteSize_singleton,
        List.cons_append, charsOfBytes.go, if_pos (Nat.le_add_right _ _), Nat.add_sub_cancel_left,
        ih, List.length_cons, Nat.add_comm]

theorem charsOfBytes_append (front back : String) :
    charsOfBytes (front ++ back) front.utf8ByteSize = front.length := by
  have counted := charsOfBytes_go_append front.toList back.toList
  rwa [String.ofList_toList, String.length_toList, ← String.toList_append] at counted

theorem utf8ByteSize_pos {text : String} (solid : text ≠ "") : 0 < text.utf8ByteSize :=
  Nat.pos_of_ne_zero (mt String.utf8ByteSize_eq_zero_iff.1 solid)

/-! ## Cuts and places -/

/-- The text behind a byte, if the cut is between two characters. -/
def textFrom? (text : String) (byte : Nat) : Option String :=
  if between : (⟨byte⟩ : String.Pos.Raw).IsValid text then
    some (text.sliceFrom (text.pos ⟨byte⟩ between)).copy
  else none

theorem textFrom?_append (front back : String) :
    textFrom? (front ++ back) front.utf8ByteSize = some back := by
  have between : (⟨front.utf8ByteSize⟩ : String.Pos.Raw).IsValid (front ++ back) :=
    String.Pos.Raw.isValid_iff_exists_append.2 ⟨front, back, rfl, rfl⟩
  rw [textFrom?, dif_pos between]
  exact congrArg some String.Pos.splits_append_rawEndPos.copy_sliceFrom_eq

theorem exists_of_textFrom? {text back : String} {byte : Nat}
    (cut : textFrom? text byte = some back) :
    ∃ front, text = front ++ back ∧ front.utf8ByteSize = byte := by
  have between : (⟨byte⟩ : String.Pos.Raw).IsValid text := by
    rw [textFrom?] at cut
    split at cut
    next between => exact between
    next => cases cut
  obtain ⟨front, behind, rfl, isEnd⟩ := String.Pos.Raw.isValid_iff_exists_append.1 between
  obtain rfl : byte = front.utf8ByteSize := congrArg String.Pos.Raw.byteIdx isEnd
  rw [textFrom?_append] at cut
  exact ⟨front, congrArg (front ++ ·) (Option.some.inj cut), rfl⟩

/-- The byte at which a text occurs first. -/
def firstByte? (needle text : String) : Option Nat :=
  (firstOffset? needle.toList text.toList).map (bytesOfChars text)

/-- The characters before the first place take up the bytes before it. -/
theorem exists_of_firstByte? {needle text : String} (solid : needle ≠ "") {byte : Nat}
    (found : firstByte? needle text = some byte) :
    ∃ front back, text = front ++ (needle ++ back) ∧ front.utf8ByteSize = byte ∧
      StandsFirst text.toList needle.toList front.length := by
  obtain ⟨column, first, rfl⟩ := Option.map_eq_some_iff.1 found
  have stands := firstOffset?_eq_some_iff.1 first
  obtain ⟨front, back, cut, rfl⟩ :=
    StandsAt.of_prefix_drop (by simpa using solid) stands.here
  have parts : text = String.ofList front ++ (needle ++ String.ofList back) := by
    rw [← String.toList_inj]
    simpa using cut
  have counted := bytesOfChars_append (String.ofList front) (needle ++ String.ofList back)
  rw [← parts, String.length_ofList] at counted
  exact ⟨_, _, parts, counted.symm, by rwa [String.length_ofList]⟩

/-! ## The search on bytes -/

/-- A match leaves fewer bytes to search. -/
theorem bytes_left_lt {needle line rest : String} (solid : needle ≠ "") {start byte : Nat}
    (cut : textFrom? line start = some rest) (found : firstByte? needle rest = some byte) :
    line.utf8ByteSize - (start + byte + needle.utf8ByteSize) < line.utf8ByteSize - start := by
  obtain ⟨passed, rfl, rfl⟩ := exists_of_textFrom? cut
  obtain ⟨front, back, rfl, rfl, -⟩ := exists_of_firstByte? solid found
  have wide := utf8ByteSize_pos solid
  simp only [String.utf8ByteSize_append]
  omega

/-- The search from a byte on.  The offset of a match counts characters from the start of the
line, in 32 bits. -/
def byteSearchFrom? (needle line : String) (solid : needle ≠ "") (start : Nat) :
    Option (List UInt32) :=
  match cut : textFrom? line start with
  | none => none
  | some rest =>
      match found : firstByte? needle rest with
      | none => some []
      | some byte =>
          have := bytes_left_lt solid cut found
          (byteSearchFrom? needle line solid (start + byte + needle.utf8ByteSize)).map
            (UInt32.ofNat (charsOfBytes line (start + byte)) :: ·)
termination_by line.utf8ByteSize - start

/-- The search of a whole line; the empty text is not looked for. -/
def byteSearch? (needle line : String) : Option (List UInt32) :=
  if empty : needle = "" then some [] else byteSearchFrom? needle line empty 0

/-! ## What the search finds -/

section

variable {needle : String} (solid : needle ≠ "")

/-- The cut behind a part of the line never fails. -/
theorem byteSearchFrom?_append (passed rest : String) :
    byteSearchFrom? needle (passed ++ rest) solid passed.utf8ByteSize =
      match firstByte? needle rest with
      | none => some []
      | some byte =>
          (byteSearchFrom? needle (passed ++ rest) solid
            (passed.utf8ByteSize + byte + needle.utf8ByteSize)).map
              (UInt32.ofNat (charsOfBytes (passed ++ rest) (passed.utf8ByteSize + byte)) :: ·) := by
  have whole := textFrom?_append passed rest
  conv_lhs => rw [byteSearchFrom?]
  split
  next cut => cases cut.symm.trans whole
  next left cut =>
    obtain rfl : left = rest := Option.some.inj (cut.symm.trans whole)
    split
    next missing => simp only [missing]
    next byte found => simp only [found]

/-- At a place the search lists the characters before it and goes on behind the match. -/
theorem byteSearchFrom?_of_some {passed front back : String}
    (first : firstByte? needle (front ++ back) = some front.utf8ByteSize) :
    byteSearchFrom? needle (passed ++ (front ++ back)) solid passed.utf8ByteSize =
      (byteSearchFrom? needle (passed ++ (front ++ back)) solid
        (passed ++ front ++ needle).utf8ByteSize).map
          (UInt32.ofNat (passed.length + front.length) :: ·) := by
  have counted : charsOfBytes (passed ++ (front ++ back))
      (passed.utf8ByteSize + front.utf8ByteSize) = passed.length + front.length := by
    rw [← String.utf8ByteSize_append, ← String.append_assoc, charsOfBytes_append,
      String.length_append]
  rw [byteSearchFrom?_append, first]
  dsimp only
  rw [counted, ← String.utf8ByteSize_append, ← String.utf8ByteSize_append]

/-- Behind any part of the line, the search on bytes finds what the search on characters
does. -/
theorem byteSearchFrom?_eq (passed rest : String) :
    byteSearchFrom? needle (passed ++ rest) solid passed.utf8ByteSize =
      some ((findFrom (exactly needle.toList) 0 passed.length rest.toList).map
        fun found => UInt32.ofNat found.start) := by
  induction size : rest.utf8ByteSize using Nat.strong_induction_on generalizing passed rest with
  | _ size ih =>
      subst size
      cases found : firstByte? needle rest with
      | none =>
          rw [byteSearchFrom?_append, found,
            findFrom_of_firstOffset?_eq_none (Option.map_eq_none_iff.1 found), List.map_nil]
      | some byte =>
          obtain ⟨front, back, rfl, rfl, first⟩ := exists_of_firstByte? solid found
          have fewer : back.utf8ByteSize < (front ++ (needle ++ back)).utf8ByteSize := by
            have wide := utf8ByteSize_pos solid
            simp only [String.utf8ByteSize_append]
            omega
          -- What is passed next ends with this match.
          have later := ih _ fewer (passed ++ front ++ needle) back rfl
          have parts :
              passed ++ front ++ needle ++ back = passed ++ (front ++ (needle ++ back)) := by
            simp only [String.append_assoc]
          rw [parts] at later
          rw [String.toList_append, String.toList_append, ← String.length_toList] at first
          rw [byteSearchFrom?_of_some solid found, later, String.toList_append,
            String.toList_append, findFrom_of_standsFirst (by simpa using solid) first]
          simp only [Option.map_some, List.map_cons, String.length_append, String.length_toList]

end

theorem byteSearch?_eq (needle line : String) :
    byteSearch? needle line =
      some ((matchOffsets needle.toList line.toList).map UInt32.ofNat) := by
  rw [byteSearch?]
  split
  next empty =>
    subst empty
    rfl
  next solid =>
    have found := byteSearchFrom?_eq solid "" line
    rw [String.empty_append, String.utf8ByteSize_empty] at found
    rw [found, matchOffsets_eq (by simpa using solid), List.map_map]
    rfl

/-! ## What the search finds is greedy -/

theorem map_toNat_map_ofNat {offsets : List Nat} (small : ∀ offset ∈ offsets, offset < 2 ^ 32) :
    (offsets.map UInt32.ofNat).map UInt32.toNat = offsets := by
  have same : ∀ offset ∈ offsets, (UInt32.ofNat offset).toNat = id offset :=
    fun offset listed => UInt32.toNat_ofNat_of_lt' (small offset listed)
  rw [List.map_map]
  exact (List.map_congr_left same).trans (List.map_id offsets)

/-- On a line whose characters 32 bits can count, the search on bytes succeeds with the
offsets of the greedy matches, and matches that do not overlap are never more. -/
theorem matchOffsets_greedy {needle line : String} (solid : needle ≠ "")
    (short : line.length < 2 ^ 32) :
    let found := matchOffsets needle.toList line.toList
    (∃ offsets, byteSearch? needle line = some offsets ∧ offsets.map UInt32.toNat = found) ∧
      Greedy line.toList needle.toList found ∧
      ∀ places : Finset Nat, (∀ place ∈ places, StandsAt line.toList needle.toList place) →
        ((places : Set Nat).Pairwise fun a b =>
          a + needle.length ≤ b ∨ b + needle.length ≤ a) →
        places.card ≤ found.length := by
  intro found
  have greedy : Greedy line.toList needle.toList found :=
    greedy_matchOffsets (by simpa using solid) line.toList
  have small : ∀ offset ∈ found, offset < 2 ^ 32 := by
    intro offset listed
    have inLine := (greedy.stands offset listed).length_le
    rw [String.length_toList, String.length_toList] at inLine
    omega
  refine ⟨⟨_, byteSearch?_eq needle line, map_toNat_map_ofNat small⟩, greedy, ?_⟩
  intro places stand apart
  rw [← String.length_toList] at apart
  exact greedy.card_le_length stand apart

/-- A text that overlaps itself, behind a character of two bytes: the second of its three
places is inside the first match. -/
theorem matchOffsets_greedy_overlapping :
    let line := "éababa aba"
    line.length < 2 ^ 32 ∧
      (∃ offsets, byteSearch? "aba" line = some offsets ∧ offsets.map UInt32.toNat = [1, 7]) ∧
      Greedy line.toList "aba".toList [1, 7] ∧ StandsAt line.toList "aba".toList 3 ∧
      ∀ places : Finset Nat, (∀ place ∈ places, StandsAt line.toList "aba".toList place) →
        ((places : Set Nat).Pairwise fun a b => a + 3 ≤ b ∨ b + 3 ≤ a) → places.card ≤ 2 := by
  intro line
  have short : line.length < 2 ^ 32 := by decide
  have found : matchOffsets "aba".toList line.toList = [1, 7] := by decide
  obtain ⟨read, greedy, most⟩ := @matchOffsets_greedy "aba" line (by decide) short
  rw [found] at read greedy most
  exact ⟨short, read, greedy, ⟨"éab".toList, " aba".toList, by decide, by decide⟩, most⟩

end Inlay.Text
