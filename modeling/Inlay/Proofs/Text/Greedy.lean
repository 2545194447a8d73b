import Mathlib.Data.Finset.Sort
import Inlay.Proofs.Text.Search

/-!
# Greedy matching

Matches of a text on a line may overlap, so not all of them can be taken.  `Greedy` says
what it is to take them from left to right: the first place at which the text stands, and
behind each match the first place again.

Every place at which the text stands then begins inside a match (`Greedy.covers`).  So the
line has one greedy list and no other (`Greedy.eq_matchOffsets`), and however matches that
do not overlap are chosen, they are no more (`Greedy.card_le_length`).
-/

namespace Inlay.Text

/-- Places of a line at which a text is matched from left to right. -/
structure Greedy (line needle : List Char) (found : List Nat) : Prop where
  /-- The text stands at each place. -/
  stands : ∀ column ∈ found, StandsAt line needle column
  /-- A match ends before the next place or there. -/
  apart : found.IsChain fun a b => a + needle.length ≤ b
  /-- The text stands nowhere before the first place, and nowhere if there is none. -/
  first : ∀ column, StandsAt line needle column → ∃ start ∈ found.head?, start ≤ column
  /-- The text stands nowhere from the end of a match to the next place. -/
  between : found.IsChain fun a b =>
    ∀ column, a + needle.length ≤ column → column < b → ¬StandsAt line needle column
  /-- The text stands nowhere at the end of the last match or behind it. -/
  last : ∀ column, StandsAt line needle column →
    ∃ start ∈ found.getLast?, column < start + needle.length

/-! ## Stretches around a place -/

/-- Of two places in a list of places apart, the later is behind the stretch of the earlier. -/
theorem add_le_of_pairwise {width : Nat} {starts : List Nat}
    (apart : starts.Pairwise fun a b => a + width ≤ b) {a b : Nat} (inA : a ∈ starts)
    (inB : b ∈ starts) (before : a < b) : a + width ≤ b := by
  induction starts with
  | nil => cases inA
  | cons first starts ih =>
      obtain ⟨behind, apart⟩ := List.pairwise_cons.1 apart
      rcases List.mem_cons.1 inA with rfl | laterA
      · rcases List.mem_cons.1 inB with rfl | laterB
        · exact absurd before (Nat.lt_irrefl _)
        · exact behind b laterB
      · rcases List.mem_cons.1 inB with rfl | laterB
        · have reversed := behind a laterA
          omega
        · exact ih apart laterA laterB

/-- A place that is not before the first of some stretches, behind the last or in a gap is in
one of them. -/
theorem exists_around {width place : Nat} {starts : List Nat}
    (noGap : starts.IsChain fun a b => a + width ≤ place → ¬place < b)
    (afterFirst : ∃ start ∈ starts.head?, start ≤ place)
    (beforeEnd : ∃ start ∈ starts.getLast?, place < start + width) :
    ∃ start ∈ starts, start ≤ place ∧ place < start + width := by
  induction noGap with
  | nil =>
      obtain ⟨start, isHead, -⟩ := afterFirst
      cases isHead
  | singleton only =>
      obtain ⟨first, isHead, before⟩ := afterFirst
      obtain ⟨last, isLast, inside⟩ := beforeEnd
      obtain rfl : only = first := Option.some.inj isHead
      obtain rfl : only = last := Option.some.inj isLast
      exact ⟨only, List.mem_singleton_self only, before, inside⟩
  | @cons_cons a b others gap _ ih =>
      by_cases inside : place < a + width
      · obtain ⟨first, isHead, before⟩ := afterFirst
        obtain rfl : a = first := Option.some.inj isHead
        exact ⟨a, List.mem_cons_self, before, inside⟩
      · have behind : b ≤ place := Nat.le_of_not_lt (gap (Nat.le_of_not_lt inside))
        rw [List.getLast?_cons_cons] at beforeEnd
        obtain ⟨start, listed, around⟩ := ih ⟨b, rfl, behind⟩ beforeEnd
        exact ⟨start, List.mem_cons_of_mem a listed, around⟩

namespace Greedy

variable {line needle : List Char} {found : List Nat}

theorem pairwise (greedy : Greedy line needle found) :
    found.Pairwise fun a b => a + needle.length ≤ b := by
  have : Trans (fun a b => a + needle.length ≤ b) (fun a b => a + needle.length ≤ b)
      (fun a b => a + needle.length ≤ b) := ⟨fun ab bc => by omega⟩
  exact List.isChain_iff_pairwise.1 greedy.apart

/-- Wherever the text stands, it begins inside a match. -/
theorem covers (greedy : Greedy line needle found) {column : Nat}
    (here : StandsAt line needle column) :
    ∃ start ∈ found, start ≤ column ∧ column < start + needle.length :=
  exists_around (greedy.between.imp fun _ _ gap behind before => gap column behind before here)
    (greedy.first column here) (greedy.last column here)

/-- Matches that are apart and leave no place out are greedy. -/
theorem of_covers (stands : ∀ column ∈ found, StandsAt line needle column)
    (apart : found.Pairwise fun a b => a + needle.length ≤ b)
    (covers : ∀ column, StandsAt line needle column →
      ∃ start ∈ found, start ≤ column ∧ column < start + needle.length) :
    Greedy line needle found where
  stands := stands
  apart := apart.isChain
  first := by
    intro column here
    obtain ⟨start, listed, before, -⟩ := covers column here
    cases found with
    | nil => cases listed
    | cons first others =>
        refine ⟨first, rfl, ?_⟩
        rcases List.mem_cons.1 listed with rfl | later
        · exact before
        · have behind := (List.pairwise_cons.1 apart).1 start later
          omega
  between := by
    refine List.isChain_iff_getElem.2 fun nth inRange column behind before here => ?_
    obtain ⟨start, listed, start_le, inside⟩ := covers column here
    obtain ⟨index, inList, rfl⟩ := List.getElem_of_mem listed
    rw [List.pairwise_iff_getElem] at apart
    -- The match around the place would be one before the gap or one behind it.
    rcases Nat.lt_trichotomy index nth with earlier | rfl | later
    · have ends := apart index nth inList (by omega) earlier
      omega
    · omega
    · rcases Nat.eq_or_lt_of_le (Nat.succ_le_of_lt later) with rfl | later
      · exact Nat.not_lt_of_le start_le before
      · have begins := apart (nth + 1) index inRange inList later
        omega
  last := by
    intro column here
    obtain ⟨start, listed, -, inside⟩ := covers column here
    rcases List.eq_nil_or_concat found with rfl | ⟨others, last, rfl⟩
    · cases listed
    · rw [List.concat_eq_append] at listed apart ⊢
      refine ⟨last, List.getLast?_concat, ?_⟩
      rcases List.mem_append.1 listed with earlier | same
      · have ends := (List.pairwise_append.1 apart).2.2 start earlier last
          (List.mem_singleton_self last)
        omega
      · obtain rfl := List.mem_singleton.1 same
        exact inside

/-! ## One greedy list -/

/-- The empty text stands everywhere and would be matched for ever. -/
theorem solid (greedy : Greedy line needle found) : needle ≠ [] := by
  rintro rfl
  obtain ⟨start, -, before, inside⟩ := greedy.covers (StandsAt.of_append [] [] line)
  exact Nat.not_lt_of_le before inside

theorem ascending (greedy : Greedy line needle found) : found.Pairwise (· < ·) := by
  have wide := List.length_pos_iff.2 greedy.solid
  exact greedy.pairwise.imp fun ends => by omega

/-- Where two greedy lists agree before a place, a place of one is one of the other. -/
theorem mem_of_mem {other : List Nat} (greedy : Greedy line needle found)
    (second : Greedy line needle other) {column : Nat}
    (agree : ∀ earlier < column, earlier ∈ other → earlier ∈ found) (listed : column ∈ found) :
    column ∈ other := by
  obtain ⟨start, inOther, before, inside⟩ := second.covers (greedy.stands column listed)
  rcases Nat.eq_or_lt_of_le before with rfl | earlier
  · exact inOther
  · -- The match around the place is in the first list too, where it would overlap.
    have ends := add_le_of_pairwise greedy.pairwise (agree start earlier inOther) listed earlier
    omega

/-- A line has no two greedy lists. -/
theorem eq {other : List Nat} (greedy : Greedy line needle found)
    (second : Greedy line needle other) : found = other := by
  refine List.Pairwise.eq_of_mem_iff greedy.ascending second.ascending fun column => ?_
  induction column using Nat.strong_induction_on with
  | _ column agree =>
      exact ⟨greedy.mem_of_mem second fun earlier before => (agree earlier before).2,
        second.mem_of_mem greedy fun earlier before => (agree earlier before).1⟩

/-! ## As many as possible -/

/-- However matches that do not overlap are chosen, they are no more. -/
theorem card_le_length (greedy : Greedy line needle found) {places : Finset Nat}
    (stand : ∀ place ∈ places, StandsAt line needle place)
    (apart : (places : Set Nat).Pairwise fun a b =>
      a + needle.length ≤ b ∨ b + needle.length ≤ a) :
    places.card ≤ found.length := by
  have sorted : places.sort.Pairwise (· < ·) := places.sortedLT_sort.pairwise
  have behind : places.sort.Pairwise fun a b => a + needle.length ≤ b := by
    refine sorted.imp_of_mem ?_
    intro a b inA inB before
    rw [Finset.mem_sort] at inA inB
    rcases apart inA inB (Nat.ne_of_lt before) with ends | reversed
    · exact ends
    · omega
  have ahead := forall₂_take_of_covered (greedy.ascending.imp Nat.le_of_lt) behind
    fun place listed => greedy.covers (stand place ((Finset.mem_sort _).1 listed))
  have paired := ahead.length_eq
  rw [List.length_take, Finset.length_sort] at paired
  omega

end Greedy

/-! ## The search is greedy -/

theorem greedy_matchOffsets {needle : List Char} (solid : needle ≠ []) (line : List Char) :
    Greedy line needle (matchOffsets needle line) :=
  .of_covers (fun _ => standsAt_of_mem_matchOffsets) (pairwise_matchOffsets needle line)
    fun _ here => exists_mem_matchOffsets solid here.prefix_drop

/-- What is greedy on a line is what the search lists. -/
theorem Greedy.eq_matchOffsets {line needle : List Char} {found : List Nat}
    (greedy : Greedy line needle found) : found = matchOffsets needle line :=
  greedy.eq (greedy_matchOffsets greedy.solid line)

end Inlay.Text
