import Mathlib.Data.List.Forall2
import Inlay.Text.Search

/-!
# Laws of the search for matches

The matches that `findFrom` lists lie in the text, in order and without overlap, as
long as the recogniser never reports an empty match or one that runs past the text.
Where it is known what the recogniser says at the front of a text, the search of the
whole text reduces to that of the rest.  Each match is what the recogniser finds at its
start, and whatever else the recogniser would find begins inside a match.  Where every text
that the recogniser accepts spells its value in some way, so does the stretch of each match.

Places at which a fixed text stands need not be matches, since a match may overlap one.  But
for places apart from each other there are as many matches, and each comes no later than its
place (`forall₂_take_matchOffsets`).  The search takes the first place at which the text stands
and goes on behind that match (`findFrom_of_standsFirst`).
-/

namespace Inlay.Text

variable {α : Type} {recognise : Recogniser α}

/-- A match is never empty and never runs past the text. -/
def Recogniser.Sound (recognise : Recogniser α) : Prop :=
  ∀ {chars : List Char} {value : α} {length : Nat}, recognise chars = some (value, length) →
    0 < length ∧ length ≤ chars.length

/-- Offset one past the last character. -/
def Match.stop (found : Match α) : Nat := found.start + found.length

/-! ## Where matches lie -/

/-- A match lies behind what is skipped and inside the text, and is not empty. -/
theorem findFrom_within (sound : recognise.Sound) {skip offset : Nat} {chars : List Char}
    {found : Match α} (listed : found ∈ findFrom recognise skip offset chars) :
    offset + skip ≤ found.start ∧ 0 < found.length ∧ found.stop ≤ offset + chars.length := by
  induction chars generalizing skip offset with
  | nil => simp [findFrom] at listed
  | cons c rest ih =>
      rw [List.length_cons]
      cases skip with
      | succ left =>
          have later := ih (by simpa only [findFrom] using listed)
          omega
      | zero =>
          simp only [findFrom] at listed
          split at listed
          next value length recognised =>
            have fits := sound recognised
            rcases List.mem_cons.1 listed with rfl | listed
            · simp only [Match.stop, List.length_cons] at fits ⊢
              omega
            · have later := ih listed
              omega
          next =>
            have later := ih listed
            omega

/-- Each match begins where the one before it has ended, or later. -/
theorem pairwise_findFrom (sound : recognise.Sound) (skip offset : Nat) (chars : List Char) :
    (findFrom recognise skip offset chars).Pairwise fun a b => a.stop ≤ b.start := by
  induction chars generalizing skip offset with
  | nil => exact .nil
  | cons c rest ih =>
      cases skip with
      | succ left => exact ih left (offset + 1)
      | zero =>
          simp only [findFrom]
          split
          next value length recognised =>
            refine List.pairwise_cons.2 ⟨?_, ih _ _⟩
            intro later listed
            have within := findFrom_within sound listed
            have nonempty := (sound recognised).1
            show offset + length ≤ later.start
            omega
          next => exact ih 0 (offset + 1)

/-! ## Searching a text part by part -/

/-- What belongs to a match already found is passed over. -/
theorem findFrom_skip (offset : Nat) (front rest : List Char) :
    findFrom recognise front.length offset (front ++ rest) =
      findFrom recognise 0 (offset + front.length) rest := by
  induction front generalizing offset with
  | nil => rfl
  | cons c front ih =>
      rw [List.length_cons, List.cons_append, findFrom, ih, Nat.add_right_comm, Nat.add_assoc]

/-- Places at which nothing is recognised are passed over. -/
theorem findFrom_pass {front rest : List Char}
    (quiet : ∀ index < front.length, recognise ((front ++ rest).drop index) = none)
    (offset : Nat) :
    findFrom recognise 0 offset (front ++ rest) =
      findFrom recognise 0 (offset + front.length) rest := by
  induction front generalizing offset with
  | nil => rfl
  | cons c front ih =>
      have here : recognise (c :: (front ++ rest)) = none := quiet 0 (Nat.succ_pos _)
      have later := ih fun index inFront => quiet (index + 1) (Nat.succ_lt_succ inFront)
      simp only [List.cons_append, findFrom, here, later, List.length_cons]
      rw [Nat.add_right_comm, Nat.add_assoc]

/-- Characters at which nothing can start are passed over. -/
theorem findFrom_append {front : List Char}
    (quiet : ∀ c ∈ front, ∀ tail, recognise (c :: tail) = none) (offset : Nat) (rest : List Char) :
    findFrom recognise 0 offset (front ++ rest) =
      findFrom recognise 0 (offset + front.length) rest := by
  refine findFrom_pass (fun index inFront => ?_) offset
  rw [List.drop_append_of_le_length (Nat.le_of_lt inFront), List.drop_eq_getElem_cons inFront]
  exact quiet _ (List.getElem_mem inFront) _

/-- A match at the front is listed, and the search goes on behind it. -/
theorem findFrom_match {front rest : List Char} {value : α} (nonempty : front ≠ [])
    (recognised : recognise (front ++ rest) = some (value, front.length)) (offset : Nat) :
    findFrom recognise 0 offset (front ++ rest) =
      ⟨offset, front.length, value⟩ :: findFrom recognise 0 (offset + front.length) rest := by
  cases front with
  | nil => exact absurd rfl nonempty
  | cons c front =>
      rw [List.cons_append] at recognised ⊢
      rw [findFrom, recognised, List.length_cons]
      simp only [Nat.add_sub_cancel]
      rw [findFrom_skip, Nat.add_right_comm, Nat.add_assoc]

/-! ## What the matches are -/

/-- A match is what the recogniser finds at its start. -/
theorem recognise_of_mem_findFrom {skip offset : Nat} {chars : List Char} {found : Match α}
    (listed : found ∈ findFrom recognise skip offset chars) :
    ∃ index, found.start = offset + index ∧
      recognise (chars.drop index) = some (found.value, found.length) := by
  induction chars generalizing skip offset with
  | nil => simp [findFrom] at listed
  | cons c rest ih =>
      -- A match in the rest stands one character further on.
      have later {left : Nat} (inRest : found ∈ findFrom recognise left (offset + 1) rest) :
          ∃ index, found.start = offset + index ∧
            recognise ((c :: rest).drop index) = some (found.value, found.length) := by
        obtain ⟨index, starts, recognised⟩ := ih inRest
        exact ⟨index + 1, by omega, recognised⟩
      cases skip with
      | succ left => exact later (by simpa only [findFrom] using listed)
      | zero =>
          simp only [findFrom] at listed
          split at listed
          next value length recognised =>
            rcases List.mem_cons.1 listed with rfl | listed
            · exact ⟨0, rfl, recognised⟩
            · exact later listed
          next => exact later listed

/-- Whatever the recogniser finds is a match, or it begins inside one. -/
theorem exists_mem_findFrom (sound : recognise.Sound) {skip offset index : Nat}
    {chars : List Char} {value : α} {length : Nat} (late : skip ≤ index)
    (recognised : recognise (chars.drop index) = some (value, length)) :
    ∃ found ∈ findFrom recognise skip offset chars,
      found.start ≤ offset + index ∧ offset + index < found.stop := by
  induction chars generalizing skip offset index with
  | nil =>
      have fits := sound recognised
      rw [List.drop_nil, List.length_nil] at fits
      omega
  | cons c rest ih =>
      have later {left index : Nat} (late : left ≤ index)
          (recognised : recognise (rest.drop index) = some (value, length)) :
          ∃ found ∈ findFrom recognise left (offset + 1) rest,
            found.start ≤ offset + (index + 1) ∧ offset + (index + 1) < found.stop := by
        obtain ⟨found, listed, around⟩ := @ih left (offset + 1) index late recognised
        exact ⟨found, listed, by omega⟩
      cases skip with
      | succ left =>
          obtain ⟨index, rfl⟩ : ∃ i, index = i + 1 := ⟨index - 1, by omega⟩
          exact later (Nat.le_of_succ_le_succ late) recognised
      | zero =>
          simp only [findFrom]
          split
          next first width recognisedHere =>
            by_cases inside : index < width
            · exact ⟨_, .head _, Nat.le_add_right _ _, Nat.add_lt_add_left inside _⟩
            · have nonempty := (sound recognisedHere).1
              obtain ⟨index, rfl⟩ : ∃ i, index = i + 1 := ⟨index - 1, by omega⟩
              obtain ⟨found, listed, around⟩ := @later (width - 1) index (by omega) recognised
              exact ⟨found, .tail _ listed, around⟩
          next nothing =>
            cases index with
            | zero =>
                rw [List.drop_zero, nothing] at recognised
                cases recognised
            | succ index => exact later (Nat.zero_le index) recognised

/-! ## Stretches of a text -/

/-- The stretch stands in the text at an offset. -/
def StandsAt (text stretch : List Char) (offset : Nat) : Prop :=
  ∃ front back, text = front ++ (stretch ++ back) ∧ front.length = offset

namespace StandsAt

variable {text stretch : List Char} {offset : Nat}

theorem of_append (front middle back : List Char) :
    StandsAt (front ++ (middle ++ back)) middle front.length :=
  ⟨front, back, rfl, rfl⟩

theorem trans {inner : List Char} {index : Nat} (outside : StandsAt text stretch offset)
    (inside : StandsAt stretch inner index) : StandsAt text inner (offset + index) := by
  obtain ⟨front, back, rfl, rfl⟩ := outside
  obtain ⟨left, right, rfl, rfl⟩ := inside
  exact ⟨front ++ left, right ++ back, by simp only [List.append_assoc], List.length_append⟩

theorem append (stands : StandsAt text stretch offset) (more : List Char) :
    StandsAt (text ++ more) stretch offset := by
  obtain ⟨front, back, rfl, rfl⟩ := stands
  exact ⟨front, back ++ more, by simp only [List.append_assoc], rfl⟩

theorem length_le (stands : StandsAt text stretch offset) :
    offset + stretch.length ≤ text.length := by
  obtain ⟨front, back, rfl, rfl⟩ := stands
  simp only [List.length_append]
  omega

/-- The characters cut out of the text where a stretch stands are the stretch. -/
theorem extract_eq (stands : StandsAt text stretch offset) :
    text.extract offset (offset + stretch.length) = stretch := by
  obtain ⟨front, back, rfl, rfl⟩ := stands
  simp [List.extract_eq_take_drop]

theorem getElem?_eq (stands : StandsAt text stretch offset) {index : Nat}
    (inside : index < stretch.length) : text[offset + index]? = stretch[index]? := by
  obtain ⟨front, back, rfl, rfl⟩ := stands
  rw [List.getElem?_append_right (Nat.le_add_right _ _), Nat.add_sub_cancel_left,
    List.getElem?_append_left inside]

theorem prefix_drop (stands : StandsAt text stretch offset) : stretch <+: text.drop offset := by
  obtain ⟨front, back, rfl, rfl⟩ := stands
  rw [List.drop_left]
  exact List.prefix_append _ _

/-- A stretch that is not empty stands wherever it begins what is left of the text; an empty one
might begin beyond the end. -/
theorem of_prefix_drop (nonempty : stretch ≠ []) (here : stretch <+: text.drop offset) :
    StandsAt text stretch offset := by
  obtain ⟨back, split⟩ := here
  refine ⟨text.take offset, back, by rw [split, List.take_append_drop], ?_⟩
  have wide := List.length_pos_iff.2 nonempty
  have lengths := congrArg List.length split
  rw [List.length_append, List.length_drop] at lengths
  rw [List.length_take, Nat.min_eq_left (by omega)]

end StandsAt

/-- What the recogniser finds is a stretch at the front of the text, not an empty one, that
spells the value. -/
def Recogniser.Reads (recognise : Recogniser α) (spells : α → List Char → Prop) : Prop :=
  ∀ {chars : List Char} {value : α} {length : Nat}, recognise chars = some (value, length) →
    ∃ stretch back, spells value stretch ∧ stretch ≠ [] ∧ chars = stretch ++ back ∧
      length = stretch.length

/-- What is read is a stretch of the text, so it cannot run past the end. -/
theorem Recogniser.Reads.sound {spells : α → List Char → Prop} (reads : recognise.Reads spells) :
    recognise.Sound := by
  intro chars value length recognised
  obtain ⟨stretch, back, -, nonempty, rfl, rfl⟩ := reads recognised
  exact ⟨List.length_pos_iff.2 nonempty, List.length_append ▸ Nat.le_add_right _ _⟩

/-- The stretch of a match spells its value. -/
theorem Recogniser.Reads.standsAt {spells : α → List Char → Prop} (reads : recognise.Reads spells)
    {chars : List Char} {found : Match α} (listed : found ∈ findAll recognise chars) :
    ∃ stretch, spells found.value stretch ∧ StandsAt chars stretch found.start ∧
      found.length = stretch.length := by
  obtain ⟨index, starts, recognised⟩ := recognise_of_mem_findFrom listed
  obtain rfl : found.start = index := starts.trans (Nat.zero_add index)
  obtain ⟨stretch, back, spelled, nonempty, rest, width⟩ := reads recognised
  exact ⟨stretch, spelled, .of_prefix_drop nonempty ⟨back, rest.symm⟩, width⟩

/-! ## Matches of a fixed text -/

/-- A fixed text is recognised where the text begins with it, and as long as it is. -/
theorem exactly_eq_some_iff {needle chars : List Char} {value : Unit} {length : Nat} :
    exactly needle chars = some (value, length) ↔ needle <+: chars ∧ length = needle.length := by
  rw [exactly]
  split
  next here => simp [List.isPrefixOf_iff_prefix.1 here, eq_comm]
  next absent =>
    rw [List.isPrefixOf_iff_prefix] at absent
    simp [absent]

theorem exactly_eq_none_iff {needle chars : List Char} :
    exactly needle chars = none ↔ ¬needle <+: chars := by
  simp [exactly]

theorem reads_exactly {needle : List Char} (nonempty : needle ≠ []) :
    (exactly needle).Reads fun _ stretch => stretch = needle := by
  intro chars value length recognised
  obtain ⟨⟨back, rfl⟩, rfl⟩ := exactly_eq_some_iff.1 recognised
  exact ⟨needle, back, rfl, nonempty, rfl, rfl⟩

/-- A fixed text stands where it matches. -/
theorem standsAt_of_mem_findAll_exactly {needle line : List Char} (nonempty : needle ≠ [])
    {found : Match Unit} (listed : found ∈ findAll (exactly needle) line) :
    StandsAt line needle found.start ∧ found.length = needle.length := by
  obtain ⟨_, rfl, stands, width⟩ := Recogniser.Reads.standsAt (reads_exactly nonempty) listed
  exact ⟨stands, width⟩

theorem sound_exactly {needle : List Char} (nonempty : needle ≠ []) : (exactly needle).Sound :=
  Recogniser.Reads.sound (reads_exactly nonempty)

/-- The columns of a text are where a search for it begins its matches. -/
theorem matchOffsets_eq {needle : List Char} (nonempty : needle ≠ []) (line : List Char) :
    matchOffsets needle line = (findAll (exactly needle) line).map Match.start :=
  if_neg (by simpa using nonempty)

theorem ne_nil_of_mem_matchOffsets {needle line : List Char} {column : Nat}
    (found : column ∈ matchOffsets needle line) : needle ≠ [] := by
  rintro rfl
  cases found

theorem standsAt_of_mem_matchOffsets {needle line : List Char} {column : Nat}
    (found : column ∈ matchOffsets needle line) : StandsAt line needle column := by
  have nonempty := ne_nil_of_mem_matchOffsets found
  rw [matchOffsets_eq nonempty, List.mem_map] at found
  obtain ⟨one, listed, rfl⟩ := found
  exact (standsAt_of_mem_findAll_exactly nonempty listed).1

/-- Wherever the text stands, a match begins there or just before. -/
theorem exists_mem_matchOffsets {needle line : List Char} (nonempty : needle ≠ []) {column : Nat}
    (here : needle <+: line.drop column) :
    ∃ start ∈ matchOffsets needle line, start ≤ column ∧ column < start + needle.length := by
  obtain ⟨found, there, before, inside⟩ := exists_mem_findFrom (sound_exactly nonempty)
    (Nat.zero_le column) ((@exactly_eq_some_iff _ _ () _).2 ⟨here, rfl⟩)
  rw [Nat.zero_add] at before inside
  rw [Match.stop, (standsAt_of_mem_findAll_exactly nonempty there).2] at inside
  rw [matchOffsets_eq nonempty]
  exact ⟨found.start, List.mem_map_of_mem there, before, inside⟩

/-- The columns that are found are apart by the length of the text. -/
theorem pairwise_matchOffsets (needle line : List Char) :
    (matchOffsets needle line).Pairwise fun a b => a + needle.length ≤ b := by
  by_cases nonempty : needle = []
  · subst nonempty
    exact .nil
  · rw [matchOffsets_eq nonempty, List.pairwise_map]
    refine (pairwise_findFrom (sound_exactly nonempty) 0 0 line).imp_of_mem ?_
    intro a b inA _ apart
    rwa [Match.stop, (standsAt_of_mem_findAll_exactly nonempty inA).2] at apart

/-! ## Matches and chosen places -/

/-- Where every place lies in a stretch of its own, the stretches keep ahead of the places: the
n-th begins at the n-th place or before. -/
theorem forall₂_take_of_covered {width : Nat} {starts places : List Nat}
    (ascending : starts.Pairwise (· ≤ ·)) (apart : places.Pairwise fun a b => a + width ≤ b)
    (covered : ∀ place ∈ places, ∃ start ∈ starts, start ≤ place ∧ place < start + width) :
    List.Forall₂ (· ≤ ·) (starts.take places.length) places := by
  induction places generalizing starts with
  | nil => exact .nil
  | cons place places ih =>
      obtain ⟨here, others⟩ := List.forall_mem_cons.1 covered
      obtain ⟨behind, apart⟩ := List.pairwise_cons.1 apart
      obtain ⟨own, listed, before, -⟩ := here
      cases starts with
      | nil => cases listed
      | cons first starts =>
          obtain ⟨least, ascending⟩ := List.pairwise_cons.1 ascending
          have firstBefore : first ≤ place := by
            rcases List.mem_cons.1 listed with rfl | later
            · exact before
            · exact Nat.le_trans (least own later) before
          refine .cons firstBefore (ih ascending apart fun other inOthers => ?_)
          -- The stretch of a later place ends behind it, so it is not the first one.
          obtain ⟨start, inStarts, starts, stops⟩ := others other inOthers
          have apart := behind other inOthers
          rcases List.mem_cons.1 inStarts with rfl | later
          · omega
          · exact ⟨start, later, starts, stops⟩

/-- Matching from left to right finds as many matches as there are places apart at which the
text stands, the n-th at the n-th of them or before. -/
theorem forall₂_take_matchOffsets {needle line : List Char} (nonempty : needle ≠ [])
    {places : List Nat} (apart : places.Pairwise fun a b => a + needle.length ≤ b)
    (stand : ∀ place ∈ places, needle <+: line.drop place) :
    List.Forall₂ (· ≤ ·) ((matchOffsets needle line).take places.length) places :=
  forall₂_take_of_covered
    ((pairwise_matchOffsets needle line).imp (Nat.le_trans (Nat.le_add_right _ _))) apart
    fun place listed => exists_mem_matchOffsets nonempty (stand place listed)

/-! ## The first place -/

/-- The text stands at a place and at none before it. -/
structure StandsFirst (line needle : List Char) (column : Nat) : Prop where
  here : needle <+: line.drop column
  first : ∀ earlier < column, ¬needle <+: line.drop earlier

/-- There is one first place at most. -/
theorem StandsFirst.eq {line needle : List Char} {a b : Nat} (first : StandsFirst line needle a)
    (second : StandsFirst line needle b) : a = b := by
  rcases Nat.lt_trichotomy a b with before | same | behind
  · exact absurd first.here (second.first a before)
  · exact same
  · exact absurd second.here (first.first b behind)

/-- A search that fails has missed no place. -/
theorem firstOffset?_eq_none {needle line : List Char} (missing : firstOffset? needle line = none)
    (column : Nat) : ¬needle <+: line.drop column := by
  induction line generalizing column with
  | nil =>
      rw [firstOffset?] at missing
      split at missing
      next => cases missing
      next solid => simpa using solid
  | cons c rest ih =>
      rw [firstOffset?] at missing
      split at missing
      next => cases missing
      next absent =>
        rw [List.isPrefixOf_iff_prefix] at absent
        cases column with
        | zero => exact absent
        | succ column => exact ih (Option.map_eq_none_iff.1 missing) column

/-- A search that succeeds has passed over no place. -/
theorem standsFirst_of_firstOffset? {needle line : List Char} {column : Nat}
    (found : firstOffset? needle line = some column) : StandsFirst line needle column := by
  induction line generalizing column with
  | nil =>
      rw [firstOffset?] at found
      split at found
      next empty =>
        obtain rfl := Option.some.inj found
        exact ⟨by simpa using empty, fun earlier before => absurd before (Nat.not_lt_zero _)⟩
      next => cases found
  | cons c rest ih =>
      rw [firstOffset?] at found
      split at found
      next here =>
        obtain rfl := Option.some.inj found
        exact ⟨List.isPrefixOf_iff_prefix.1 here,
          fun earlier before => absurd before (Nat.not_lt_zero _)⟩
      next absent =>
        obtain ⟨inner, inRest, rfl⟩ := Option.map_eq_some_iff.1 found
        obtain ⟨here, first⟩ := ih inRest
        refine ⟨here, fun earlier before => ?_⟩
        cases earlier with
        | zero => rwa [List.isPrefixOf_iff_prefix] at absent
        | succ earlier => exact first earlier (Nat.lt_of_succ_lt_succ before)

/-- The search finds the first place at which the text stands, if there is one. -/
theorem firstOffset?_eq_some_iff {needle line : List Char} {column : Nat} :
    firstOffset? needle line = some column ↔ StandsFirst line needle column := by
  refine ⟨standsFirst_of_firstOffset?, fun stands => ?_⟩
  cases found : firstOffset? needle line with
  | none => exact absurd stands.here (firstOffset?_eq_none found column)
  | some place => rw [(standsFirst_of_firstOffset? found).eq stands]

/-- The text fits in the line behind the first place, and the line starts with the empty text. -/
theorem StandsFirst.length_le {line needle : List Char} {column : Nat}
    (stands : StandsFirst line needle column) : column + needle.length ≤ line.length := by
  by_cases nonempty : needle = []
  · subst nonempty
    obtain rfl : column = 0 := Nat.eq_zero_of_not_pos fun late =>
      stands.first 0 late List.nil_prefix
    exact Nat.zero_le _
  · exact (StandsAt.of_prefix_drop nonempty stands.here).length_le

/-- The place that is found is inside the line, and so is the one taken when none is. -/
theorem firstOffset?_getD_le (needle line : List Char) :
    (firstOffset? needle line).getD 0 ≤ line.length := by
  cases found : firstOffset? needle line with
  | none => exact Nat.zero_le _
  | some column =>
      exact Nat.le_trans (Nat.le_add_right _ _) (firstOffset?_eq_some_iff.1 found).length_le

/-- The first match is at the first place, and the search goes on behind it. -/
theorem findFrom_of_standsFirst {needle front back : List Char} (nonempty : needle ≠ [])
    (first : StandsFirst (front ++ (needle ++ back)) needle front.length) (offset : Nat) :
    findFrom (exactly needle) 0 offset (front ++ (needle ++ back)) =
      ⟨offset + front.length, needle.length, ()⟩ ::
        findFrom (exactly needle) 0 (offset + front.length + needle.length) back := by
  rw [findFrom_pass fun index before => exactly_eq_none_iff.2 (first.first index before)]
  exact findFrom_match nonempty (exactly_eq_some_iff.2 ⟨List.prefix_append _ _, rfl⟩) _

/-- Without a place there is no match. -/
theorem findFrom_of_firstOffset?_eq_none {needle line : List Char}
    (missing : firstOffset? needle line = none) (offset : Nat) :
    findFrom (exactly needle) 0 offset line = [] := by
  refine List.eq_nil_iff_forall_not_mem.2 fun found listed => ?_
  obtain ⟨index, -, recognised⟩ := recognise_of_mem_findFrom listed
  exact firstOffset?_eq_none missing index (exactly_eq_some_iff.1 recognised).1

/-- The first of the matches is the first place. -/
theorem head?_matchOffsets {needle : List Char} (nonempty : needle ≠ []) (line : List Char) :
    (matchOffsets needle line).head? = firstOffset? needle line := by
  rw [matchOffsets_eq nonempty, findAll]
  cases found : firstOffset? needle line with
  | none =>
      rw [findFrom_of_firstOffset?_eq_none found]
      rfl
  | some column =>
      have first := firstOffset?_eq_some_iff.1 found
      obtain ⟨front, back, rfl, rfl⟩ := StandsAt.of_prefix_drop nonempty first.here
      rw [findFrom_of_standsFirst nonempty first, List.map_cons, List.head?_cons, Nat.zero_add]

/-- Where the text stands does not depend on what comes behind, if that shares no character
with it. -/
theorem prefix_drop_append_iff {needle line back : List Char} (nonempty : needle ≠ [])
    (foreign : ∀ c ∈ back, c ∉ needle) {column : Nat} :
    needle <+: (line ++ back).drop column ↔ needle <+: line.drop column := by
  constructor
  · intro here
    obtain ⟨front, rest, whole, width⟩ := StandsAt.of_prefix_drop nonempty here
    rcases List.append_eq_append_iff.1 whole with ⟨behind, -, cut⟩ | ⟨middle, rfl, cut⟩
    · obtain ⟨c, listed⟩ := List.exists_mem_of_ne_nil needle nonempty
      exact absurd listed (foreign c (by simp [cut, listed]))
    · rcases List.append_eq_append_iff.1 cut with ⟨inner, rfl, -⟩ | ⟨shared, rfl, split⟩
      · rw [← width, List.drop_left]
        exact List.prefix_append _ _
      · cases shared with
        | nil => simp [← width]
        | cons c shared => exact absurd (by simp) (foreign c (by simp [split]))
  · intro here
    obtain ⟨front, rest, rfl, rfl⟩ := StandsAt.of_prefix_drop nonempty here
    rw [List.append_assoc, List.drop_left, List.append_assoc]
    exact List.prefix_append _ _

/-- What follows a line does not matter to a search if the text cannot run into it. -/
theorem firstOffset?_append {needle line back : List Char} (foreign : ∀ c ∈ back, c ∉ needle) :
    firstOffset? needle (line ++ back) = firstOffset? needle line := by
  by_cases nonempty : needle = []
  · subst nonempty
    have front (text : List Char) : firstOffset? [] text = some 0 :=
      firstOffset?_eq_some_iff.2
        ⟨List.nil_prefix, fun _ before => absurd before (Nat.not_lt_zero _)⟩
    rw [front, front]
  · have same (column : Nat) :
        needle <+: (line ++ back).drop column ↔ needle <+: line.drop column :=
      prefix_drop_append_iff nonempty foreign
    refine Option.ext fun column => ?_
    rw [firstOffset?_eq_some_iff, firstOffset?_eq_some_iff]
    constructor
    · rintro ⟨here, first⟩
      exact ⟨(same column).1 here, fun earlier before => mt (same earlier).2 (first earlier before)⟩
    · rintro ⟨here, first⟩
      exact ⟨(same column).2 here, fun earlier before => mt (same earlier).1 (first earlier before)⟩

end Inlay.Text
