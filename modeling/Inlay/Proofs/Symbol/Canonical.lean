import Inlay.Proofs.Symbol.Remerge
import Mathlib.Data.List.Nodup

/-!
# The one normal form of a set of symbols

When no two ranges are equal, none is empty and none crosses another, the ranges alone
say which symbol belongs below which.  A forest of such symbols can still be written
down in many ways: siblings in any order, and symbols beside those that contain them
instead of below.  The normal form is the same for all of them.

A forest that is ordered and nested is determined by its entries: its first symbol is the
first of the outermost ones, the entries inside it are those of the trees below it, and
all others belong to the later siblings.  Normal forms are ordered and nested and have
the entries they were made from, so two forests with the same entries have one normal
form.
-/

namespace Inlay

/-- Where a symbol starts and stops. -/
def Entry.range (entry : Entry) : Nat × Nat := (entry.start, entry.stop)

namespace Forest

/-- The ranges alone say which symbol belongs below which, and no symbol is below one
that does not contain it. -/
structure Unambiguous (forest : Forest) : Prop where
  filled : forest.Filled
  distinct : (forest.entries.map Entry.range).Nodup
  uncrossed : ∀ a ∈ forest.entries, ∀ b ∈ forest.entries, a.Uncrossed b
  nested : forest.Nested

/-- Siblings are listed by their starts, and none of them contains another. -/
def Listed (siblings : Forest) : Prop :=
  siblings.Pairwise fun earlier later => earlier.entry.start ≤ later.entry.start ∧
    earlier.entry.contains later.entry = false ∧ later.entry.contains earlier.entry = false

/-- At every depth siblings are listed by their starts, and none of them belongs below
another. -/
def Arranged (forest : Forest) : Prop :=
  forest.Listed ∧ forest.Each fun _ children => children.Listed

/-! ## Arranged forests -/

variable {holds : Entry → Prop}

/-- Siblings that are not empty and do not cross are listed exactly when they are apart. -/
theorem listed_iff_apart (laminar : Laminar holds) {siblings : Forest}
    (filled : ∀ sibling ∈ siblings, sibling.entry.start < sibling.entry.stop)
    (all : ∀ sibling ∈ siblings, holds sibling.entry) : siblings.Listed ↔ siblings.Apart := by
  refine List.Pairwise.iff_of_mem fun {a b} aListed bListed => ?_
  have aFilled := filled a aListed
  have bFilled := filled b bListed
  have uncrossed := laminar _ _ (all a aListed) (all b bListed)
  rw [Entry.Uncrossed, Entry.contains_iff, Entry.contains_iff] at uncrossed
  simp only [Entry.overlaps, Bool.and_eq_true, decide_eq_true_eq] at uncrossed
  rw [Entry.not_contains_iff, Entry.not_contains_iff]
  omega

end Forest

mutual

theorem Node.each_listed_iff {holds : Entry → Prop} (laminar : Laminar holds) :
    ∀ {node : Node}, node.Each (fun entry _ => entry.start < entry.stop) →
      node.Each (fun entry _ => holds entry) →
      (node.Each (fun _ children => children.Listed) ↔ node.Ordered)
  | .mk _ _, ⟨here, below⟩, ⟨_, belowAll⟩ => by
      have siblings := Forest.listed_iff_apart laminar
        (fun child membership => (Forest.all_iff.1 below child membership).1)
        (fun child membership => (Forest.all_iff.1 belowAll child membership).1)
      rw [Node.each_iff, Node.Ordered, Node.each_iff]
      simp only [Node.entry_mk, Node.children_mk, Nat.le_of_lt here, true_and, siblings,
        Forest.each_listed_iff laminar below belowAll]

theorem Forest.each_listed_iff {holds : Entry → Prop} (laminar : Laminar holds) :
    ∀ {forest : Forest}, forest.Filled → forest.All holds →
      (forest.Each (fun _ children => children.Listed) ↔
        forest.Each fun entry children => entry.start ≤ entry.stop ∧ children.Apart)
  | [], _, _ => Iff.rfl
  | _ :: _, ⟨first, rest⟩, ⟨firstAll, restAll⟩ =>
      and_congr (Node.each_listed_iff laminar first firstAll)
        (Forest.each_listed_iff laminar rest restAll)

end

namespace Forest

theorem Unambiguous.laminar {forest : Forest} (unambiguous : forest.Unambiguous) :
    Laminar (· ∈ forest.entries) :=
  fun a b aListed bListed => unambiguous.uncrossed a aListed b bListed

/-- A forest of unambiguous symbols is arranged as the rules say just where it is in order. -/
theorem Unambiguous.arranged_iff {forest : Forest} (unambiguous : forest.Unambiguous) :
    forest.Arranged ↔ forest.Ordered := by
  have all : forest.All (· ∈ forest.entries) := all_entries.2 fun _ listed => listed
  have siblings := listed_iff_apart unambiguous.laminar
    (fun node membership => (all_iff.1 unambiguous.filled node membership).1)
    (fun node membership => (all_iff.1 all node membership).1)
  exact and_congr siblings (each_listed_iff unambiguous.laminar unambiguous.filled all)

/-! ## What the entries determine -/

/-- Symbols that are not empty lie in order inside those that own them. -/
structure Laid (forest : Forest) : Prop where
  filled : forest.Filled
  ordered : forest.Ordered
  nested : forest.Nested

variable {node other : Node} {rest later : Forest}

theorem Laid.head (laid : Laid (node :: rest)) : node.entry.start < node.entry.stop :=
  (all_cons.1 laid.filled).1.1

theorem Laid.below {forest : Forest} (laid : forest.Laid) (membership : node ∈ forest) :
    node.children.Laid where
  filled := (all_iff.1 laid.filled node membership).2
  ordered := (Node.ordered_iff.1 (laid.ordered.mem membership)).2
  nested := (Node.each_iff.1 (nested_iff.1 laid.nested node membership)).2

theorem Laid.tail (laid : Laid (node :: rest)) : rest.Laid where
  filled := (all_cons.1 laid.filled).2
  ordered := ⟨(List.pairwise_cons.1 laid.ordered.1).2, laid.ordered.2.2⟩
  nested := laid.nested.2

/-- In a laid forest a symbol contains all that is below it. -/
theorem Laid.inside (laid : Laid (node :: rest)) :
    ∀ entry ∈ node.children.entries, node.entry.contains entry = true :=
  all_entries.1 ((laid.below (.head _)).nested.all_within (Node.each_iff.1 laid.nested.1).1)

/-- In a laid forest everything behind a tree starts where the tree has ended, or later. -/
theorem Laid.behind (laid : Laid (node :: rest)) :
    ∀ entry ∈ rest.entries, node.entry.stop ≤ entry.start := by
  intro entry listed
  obtain ⟨sibling, inRest, here⟩ := mem_entries.1 listed
  have apart := (List.pairwise_cons.1 laid.ordered.1).1 sibling inRest
  have within : sibling.entry.contains entry = true := by
    rcases here with rfl | below
    · exact Entry.contains_of_same (Entry.same_refl _)
    · obtain ⟨childrenWithin, nested⟩ := Node.each_iff.1 (nested_iff.1 laid.tail.nested _ inRest)
      exact all_entries.1 (Nested.all_within nested childrenWithin) entry below
  exact Nat.le_trans apart (Entry.contains_iff.1 within).1

/-- An entry is the first one, or inside it, or behind it. -/
theorem Laid.cases (laid : Laid (node :: rest)) {entry : Entry}
    (listed : entry ∈ entries (node :: rest)) :
    entry = node.entry ∨ node.entry.contains entry = true ∨ node.entry.stop ≤ entry.start := by
  rw [entries_cons, List.mem_cons, List.mem_append] at listed
  exact listed.imp_right (Or.imp (laid.inside entry) (laid.behind entry))

/-- The entries of two forests begin with the same one. -/
theorem Laid.head_eq (laid : Laid (node :: rest)) (otherLaid : Laid (other :: later))
    (distinct : ((entries (node :: rest)).map Entry.range).Nodup)
    (perm : (entries (node :: rest)).Perm (entries (other :: later))) :
    node.entry = other.entry := by
  have nodeListed : node.entry ∈ entries (node :: rest) := by simp
  have otherListed : other.entry ∈ entries (node :: rest) := perm.mem_iff.2 (by simp)
  have nodeFilled := laid.head
  have otherFilled := otherLaid.head
  rcases laid.cases otherListed with same | inNode | behindNode
  · exact same.symm
  · rcases otherLaid.cases (perm.mem_iff.1 nodeListed) with same | inOther | behindOther
    · exact same
    · rw [Entry.contains_iff] at inNode inOther
      refine List.inj_on_of_nodup_map distinct nodeListed otherListed ?_
      exact Prod.ext (by simp only [Entry.range]; omega) (by simp only [Entry.range]; omega)
    · rw [Entry.contains_iff] at inNode
      omega
  · rcases otherLaid.cases (perm.mem_iff.1 nodeListed) with same | inOther | behindOther
    · exact same
    · rw [Entry.contains_iff] at inOther
      omega
    · omega

/-- The entries below the first symbol are those that start before it stops. -/
theorem Laid.filter_append (laid : Laid (node :: rest)) :
    (node.children.entries ++ rest.entries).filter (fun entry => entry.start < node.entry.stop) =
        node.children.entries ∧
      (node.children.entries ++ rest.entries).filter
        (fun entry => !decide (entry.start < node.entry.stop)) = rest.entries := by
  have below : ∀ entry ∈ node.children.entries, entry.start < node.entry.stop := by
    intro entry listed
    have filled := all_entries.1 (laid.below (.head _)).filled entry listed
    have inside := Entry.contains_iff.1 (laid.inside entry listed)
    omega
  have behind : ∀ entry ∈ rest.entries, ¬entry.start < node.entry.stop :=
    fun entry listed => Nat.not_lt.2 (laid.behind entry listed)
  rw [List.filter_append, List.filter_append, List.filter_eq_self.2 (by simpa using below),
    List.filter_eq_nil_iff.2 (by simpa using behind),
    List.filter_eq_nil_iff.2 (by simpa using below), List.filter_eq_self.2 (by simpa using behind)]
  exact ⟨List.append_nil _, rfl⟩

/-- An ordered and nested forest whose ranges differ is determined by its entries. -/
theorem Laid.eq_of_perm : ∀ {first second : Forest}, first.Laid → second.Laid →
    (first.entries.map Entry.range).Nodup → first.entries.Perm second.entries → first = second
  | [], [], _, _, _, _ => rfl
  | [], _ :: _, _, _, _, perm => by simp at perm
  | _ :: _, [], _, _, _, perm => by simp at perm
  | .mk entry children :: rest, .mk entry' children' :: later, laid, otherLaid, distinct, perm => by
      obtain rfl : entry = entry' := laid.head_eq otherLaid distinct perm
      rw [entries_cons, entries_cons] at perm
      have remaining := perm.cons_inv
      rw [entries_cons, List.map_cons, List.map_append] at distinct
      obtain ⟨childrenDistinct, restDistinct, _⟩ :=
        List.nodup_append.1 (List.nodup_cons.1 distinct).2
      have below : (Node.mk entry children).children.entries.Perm
          (Node.mk entry children').children.entries := by
        rw [← laid.filter_append.1, ← otherLaid.filter_append.1]
        exact remaining.filter _
      have behind : (entries rest).Perm (entries later) := by
        rw [← laid.filter_append.2, ← otherLaid.filter_append.2]
        exact remaining.filter _
      have sameChildren : children = children' :=
        Laid.eq_of_perm (laid.below (.head _)) (otherLaid.below (.head _)) childrenDistinct below
      have sameRest : rest = later :=
        Laid.eq_of_perm laid.tail otherLaid.tail restDistinct behind
      rw [sameChildren, sameRest]

/-! ## The normal form -/

variable {forest other : Forest}

theorem givenEntries_nil (forest : Forest) : givenEntries forest [] = forest.entries :=
  List.append_nil _

/-- Where no ranges cross, a normal form has no symbols but those of the forest, uncut. -/
theorem Unambiguous.normalize_all (unambiguous : forest.Unambiguous) :
    (normalize forest).All (· ∈ forest.entries) := by
  have given : ∀ entry ∈ givenEntries forest [], entry ∈ forest.entries := by
    simp [givenEntries_nil]
  exact (merge_filed unambiguous.laminar given).2

/-- The normal form has the entries it was made from. -/
theorem Unambiguous.normalize_perm (unambiguous : forest.Unambiguous) :
    forest.entries.Perm (normalize forest).entries := by
  have kept := all_entries.1 unambiguous.normalize_all
  have shown : ∀ given ∈ givenEntries forest [], ∃ entry ∈ (normalize forest).entries,
      entry.same given = true := merge_same (by simpa [givenEntries_nil] using unambiguous.laminar)
  have subset : forest.entries ⊆ (normalize forest).entries := by
    intro given listed
    obtain ⟨entry, inNormal, same⟩ := shown given (by rwa [givenEntries_nil])
    obtain ⟨start, stop⟩ := Entry.same_range same
    have equal : entry = given := List.inj_on_of_nodup_map unambiguous.distinct
      (kept entry inNormal) listed (Prod.ext start stop)
    exact equal ▸ inNormal
  have fewer := size_merge_le forest []
  rw [givenEntries_nil, ← length_entries] at fewer
  have each := List.subperm_of_subset (List.Nodup.of_map _ unambiguous.distinct) subset
  exact each.perm_of_length_le fewer

theorem Unambiguous.normalize_laid (unambiguous : forest.Unambiguous) :
    (normalize forest).Laid where
  filled := unambiguous.normalize_all.imp fun entry _ listed =>
    all_entries.1 unambiguous.filled entry listed
  ordered := normalize_ordered (unambiguous.filled.imp fun _ _ filled => Nat.le_of_lt filled)
  nested := normalize_nested (unambiguous.filled.imp fun _ _ filled => Nat.le_of_lt filled)
    unambiguous.nested

/-- Whether the entries of a forest are unambiguous does not depend on how they are
arranged. -/
theorem Unambiguous.of_perm (unambiguous : forest.Unambiguous)
    (perm : forest.entries.Perm other.entries) (nested : other.Nested) : other.Unambiguous where
  filled := all_entries.2 fun entry listed =>
    all_entries.1 unambiguous.filled entry (perm.mem_iff.2 listed)
  distinct := (perm.map Entry.range).nodup_iff.1 unambiguous.distinct
  uncrossed a aListed b bListed :=
    unambiguous.uncrossed a (perm.mem_iff.2 aListed) b (perm.mem_iff.2 bListed)
  nested := nested

/-- Forests of the same symbols have one normal form, however the symbols are listed and
nested in them, and a forest is its own normal form exactly when it is arranged. -/
theorem normalize_eq_of_perm (unambiguous : forest.Unambiguous) (nested : other.Nested)
    (perm : forest.entries.Perm other.entries) :
    normalize forest = normalize other ∧ (normalize forest = forest ↔ forest.Arranged) := by
  have otherUnambiguous := unambiguous.of_perm perm nested
  have forms : (normalize forest).entries.Perm (normalize other).entries :=
    unambiguous.normalize_perm.symm.trans (perm.trans otherUnambiguous.normalize_perm)
  have distinct : ((normalize forest).entries.map Entry.range).Nodup :=
    (unambiguous.normalize_perm.map Entry.range).nodup_iff.1 unambiguous.distinct
  refine ⟨unambiguous.normalize_laid.eq_of_perm otherUnambiguous.normalize_laid distinct forms, ?_⟩
  rw [unambiguous.arranged_iff]
  refine ⟨fun same => ?_, fun ordered => normalize_eq_self ordered unambiguous.filled⟩
  exact same ▸ unambiguous.normalize_laid.ordered

/-- A class with two methods, the second with a variable in it, and a function behind it:
once as they nest, and once in reverse and side by side but for the variable, which is
below the class. -/
theorem normalize_eq_of_perm_reversed :
    let field : Node := .leaf (.of "x" .ofVariable 22 23 .host)
    let nested : Forest := [.mk (.of "A" .ofClass 0 30 .host)
      [.leaf (.of "f" .ofFunction 5 15 .host), .mk (.of "g" .ofFunction 20 28 .host) [field]],
      .leaf (.of "h" .ofFunction 40 50 .host)]
    let listed : Forest := [.leaf (.of "h" .ofFunction 40 50 .host),
      .leaf (.of "g" .ofFunction 20 28 .host), .leaf (.of "f" .ofFunction 5 15 .host),
      .mk (.of "A" .ofClass 0 30 .host) [field]]
    normalize nested = normalize listed ∧ normalize nested = nested := by
  intro field nested listed
  have unambiguous : nested.Unambiguous := by
    refine ⟨?_, by decide, by decide, ?_⟩
    · simp [nested, field, All, Forest.Each, Node.Each, Node.leaf, Entry.of]
    · simp [nested, field, Nested, Forest.Each, Node.Each, Node.leaf, Within, Entry.of,
        Entry.contains]
  have listedNested : listed.Nested := by
    simp [listed, field, Nested, Forest.Each, Node.Each, Node.leaf, Within, Entry.of,
      Entry.contains]
  have arranged : nested.Arranged := by
    simp [nested, field, Arranged, Listed, Forest.Each, Node.Each, Node.leaf, Entry.of,
      Entry.contains]
  have result := normalize_eq_of_perm unambiguous listedNested (by decide)
  exact ⟨result.1, result.2.2 arranged⟩

end Forest

end Inlay
