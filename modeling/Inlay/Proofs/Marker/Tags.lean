import Inlay.Proofs.Marker.Recogniser

/-!
# The tags among the markers of a content

Scanning lists tags, attributes and entities together, by offset.  The outline of a
content reads only the tags, and these are the matches of `tagAt` in the order in
which the search finds them: sorting the markers moves no tag past another.
-/

namespace Inlay.Marker

open Text

/-! ## The text of a tag -/

theorem tagAt_sound : Recogniser.Sound tagAt := tagAt_reads.sound

theorem tagAt_eq_none {c : Char} (other : c ≠ '<') (rest : List Char) :
    tagAt (c :: rest) = none := by
  rw [tagAt.eq_def]
  split
  next same => exact absurd (List.cons.inj same).1 other
  next same => exact absurd (List.cons.inj same).1 other
  next => rfl

/-! ## Sorting keeps the tags in order -/

theorem isTag_ofTag (catalog : Catalog) (found : Match Tag) :
    (ofTag catalog found).kind.isTag = true := by
  simp only [ofTag, Tag.kind]
  split
  · rfl
  · split <;> rfl

theorem before_trans (a b c : Marker) (ab : before a b = true) (bc : before b c = true) :
    before a c = true := by
  simp only [before, Bool.or_eq_true, Bool.and_eq_true, decide_eq_true_eq, beq_iff_eq,
    Bool.not_eq_true'] at ab bc ⊢
  cases tagB : b.kind.isTag <;> simp only [tagB] at ab bc <;> grind

/-- Of two markers one may stand before the other, so sorting puts them in order. -/
theorem before_total (a b : Marker) : (before a b || before b a) = true := by
  simp only [before, Bool.or_eq_true, Bool.and_eq_true, decide_eq_true_eq, beq_iff_eq,
    Bool.not_eq_true']
  cases a.kind.isTag <;> cases b.kind.isTag <;> grind

/-- The markers of the tags that the search finds. -/
def tags (catalog : Catalog) (content : List Char) : List Marker :=
  (findAll tagAt content).map (ofTag catalog)

/-- The tags lie in the content, in order and without overlap. -/
structure InOrder (length : Nat) (markers : List Marker) : Prop where
  apart : markers.Pairwise fun a b => a.stop ≤ b.offset
  within : ∀ marker ∈ markers, 0 < marker.length ∧ marker.stop ≤ length

/-- Tags are in order and apart, and end inside the content. -/
theorem tags_inOrder (catalog : Catalog) (content : List Char) :
    InOrder content.length (tags catalog content) where
  apart := List.pairwise_map.2 (pairwise_findFrom tagAt_sound 0 0 content)
  within := by
    intro marker membership
    obtain ⟨found, listed, rfl⟩ := List.mem_map.1 membership
    have within := findFrom_within tagAt_sound listed
    exact ⟨within.2.1, Nat.le_trans within.2.2 (Nat.le_of_eq (Nat.zero_add _))⟩

/-- Attributes and entities are no tags, so the tags are left in the order in which they were
found. -/
theorem filter_isTag_unsorted (catalog : Catalog) (content : List Char) :
    ((findAll tagAt content).flatMap (ofTagWithAttributes catalog) ++
        (findAll entityAt content).map ofEntity).filter (·.kind.isTag) = tags catalog content := by
  have entities : ((findAll entityAt content).map ofEntity).filter (·.kind.isTag) = [] := by
    simp [List.filter_eq_nil_iff, ofEntity, MarkerKind.isTag]
  rw [List.filter_append, entities, List.append_nil, List.filter_flatMap, tags,
    List.map_eq_flatMap]
  congr 1
  funext found
  have attributes (base : Nat) (named : List (Match (List Char))) :
      (named.map (ofAttribute catalog base)).filter (·.kind.isTag) = [] := by
    simp [List.filter_eq_nil_iff, ofAttribute, MarkerKind.isTag]
  simp only [ofTagWithAttributes, List.filter_cons, isTag_ofTag, if_true, attributes]

/-- The tags among the markers of a content are those that the search finds, in the
order in which it finds them. -/
theorem filter_isTag_scan (catalog : Catalog) (content : List Char) :
    (scan catalog content).filter (·.kind.isTag) = tags catalog content := by
  have unsorted := filter_isTag_unsorted catalog content
  have sorted : (tags catalog content).Pairwise fun a b => before a b = true := by
    have order := tags_inOrder catalog content
    refine order.apart.imp_of_mem ?_
    intro a b first _ apart
    have nonempty := (order.within a first).1
    simp only [before, Bool.or_eq_true, decide_eq_true_eq]
    simp only [Marker.stop] at apart
    omega
  -- A sorted part of a list stays in order when the list is sorted.
  have kept : (tags catalog content).Sublist (scan catalog content) :=
    List.sublist_mergeSort before_trans before_total sorted
      (unsorted ▸ List.filter_sublist)
  have among : (tags catalog content).Sublist
      ((scan catalog content).filter (·.kind.isTag)) := by
    have filtered := kept.filter fun marker => marker.kind.isTag
    rwa [List.filter_eq_self.2] at filtered
    intro marker membership
    obtain ⟨found, _, rfl⟩ := List.mem_map.1 membership
    exact isTag_ofTag catalog found
  have sameLength : ((scan catalog content).filter (·.kind.isTag)).length =
      (tags catalog content).length := by
    rw [← unsorted]
    exact ((List.mergeSort_perm _ before).filter _).length_eq
  exact (among.eq_of_length sameLength.symm).symm

end Inlay.Marker
