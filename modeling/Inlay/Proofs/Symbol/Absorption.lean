import Inlay.Proofs.Symbol.Canonical

/-!
# Trees that a forest already holds

A tree is *absorbed* by a forest when inserting it into the forest changes nothing.
`Forest.Absorbs` says so without the insertion: one of the trees stands for the same
symbol and absorbs what is below it, or one of them receives the symbol, cut at its end,
and absorbs it.

A symbol that starts inside another and runs past it is cut at the other's end, and it is
cut there again when it is inserted once more; so it is found even though the forest holds
only a part of it.
-/

namespace Inlay

open Forest (entries)

/-! ## Cutting more than once -/

namespace Entry

theorem clip_eq_self {entry : Entry} {bound : Nat} (ranged : entry.start ≤ entry.stop)
    (within : entry.stop ≤ bound) : entry.clip bound = entry := by
  have stop : min entry.stop bound = entry.stop := Nat.min_eq_left within
  have start : min entry.start entry.stop = entry.start := Nat.min_eq_left ranged
  simp only [clip, stop, start]

/-- Two cuts are one at the nearer bound. -/
theorem clip_clip (entry : Entry) (first second : Nat) :
    (entry.clip first).clip second = entry.clip (min first second) := by
  have stop : min (min entry.stop first) second = min entry.stop (min first second) :=
    Nat.min_assoc _ _ _
  have start : min (min entry.start (min entry.stop first)) (min entry.stop (min first second)) =
      min entry.start (min entry.stop (min first second)) := by omega
  simp only [clip, stop, start]

/-- A cut that leaves something leaves the start. -/
theorem start_clip_of_filled {entry : Entry} {bound : Nat}
    (filled : (entry.clip bound).start < (entry.clip bound).stop) :
    (entry.clip bound).start = entry.start ∧ entry.start < bound := by
  rw [clip_start, clip_stop] at filled
  rw [clip_start]
  omega

theorem same_clip {a b : Entry} (same : a.same b = true) (bound : Nat) :
    (a.clip bound).same (b.clip bound) = true := by
  obtain ⟨name, kind, start, stop, origin⟩ := same_iff.1 same
  refine same_iff.2 ⟨name, kind, ?_, ?_, origin⟩
  · rw [clip_start, clip_start, start, stop]
  · rw [clip_stop, clip_stop, stop]

end Entry

mutual

/-- Two cuts of a tree are one at the nearer bound. -/
theorem Node.clip_clip (first second : Nat) : ∀ node : Node,
    (node.clip first).clip second = node.clip (min first second)
  | .mk entry children => by
      rw [Node.clip, Node.clip, Node.clip, Entry.clip_clip, Forest.clip_clip first second children]

theorem Forest.clip_clip (first second : Nat) : ∀ forest : Forest,
    Forest.clip second (Forest.clip first forest) = Forest.clip (min first second) forest
  | [] => rfl
  | node :: rest => by
      rw [Forest.clip, Forest.clip, Forest.clip, Node.clip_clip first second node,
        Forest.clip_clip first second rest]

end

theorem Node.children_clip (bound : Nat) (node : Node) :
    (node.clip bound).children = Forest.clip bound node.children := by
  cases node with
  | mk entry children => rfl

/-! ## Trees in order -/

/-- The tree is ordered and nested. -/
structure Node.Tidy (node : Node) : Prop where
  ordered : node.Ordered
  nested : node.Nested

namespace Node.Tidy

variable {node : Node}

theorem ranged (tidy : node.Tidy) : node.entry.start ≤ node.entry.stop :=
  (Node.ordered_iff.1 tidy.ordered).1

theorem child (tidy : node.Tidy) {child : Node} (membership : child ∈ node.children) :
    child.Tidy where
  ordered := (Node.ordered_iff.1 tidy.ordered).2.mem membership
  nested := Forest.nested_iff.1 (Node.each_iff.1 tidy.nested).2 child membership

theorem contains_child (tidy : node.Tidy) {child : Node} (membership : child ∈ node.children) :
    node.entry.contains child.entry = true :=
  (Node.each_iff.1 tidy.nested).1 child membership

theorem clip (tidy : node.Tidy) (bound : Nat) : (node.clip bound).Tidy where
  ordered := tidy.ordered.clip bound
  nested := Node.Owned.clip Ownership.contains bound tidy.nested tidy.ordered

end Node.Tidy

mutual

/-- A tidy tree that ends at the bound or before is not cut at any depth, since what is below
ends no later. -/
theorem Node.Tidy.clip_eq_self {bound : Nat} : ∀ {node : Node}, node.Tidy →
    node.entry.stop ≤ bound → node.clip bound = node
  | .mk _ children, tidy, fits => by
      have inside : ∀ child ∈ children, child.Tidy ∧ child.entry.stop ≤ bound :=
        fun child membership => ⟨tidy.child membership,
          Nat.le_trans (Entry.contains_iff.1 (tidy.contains_child membership)).2 fits⟩
      rw [Node.clip, Forest.clip_eq_self inside]
      exact congrArg (Node.mk · children) (Entry.clip_eq_self tidy.ranged fits)

/-- Trees that end before a bound are not cut there. -/
theorem Forest.clip_eq_self {bound : Nat} : ∀ {forest : Forest},
    (∀ node ∈ forest, node.Tidy ∧ node.entry.stop ≤ bound) → Forest.clip bound forest = forest
  | [], _ => rfl
  | _ :: _, fits => by
      obtain ⟨first, rest⟩ := List.forall_mem_cons.1 fits
      rw [Forest.clip, first.1.clip_eq_self first.2, Forest.clip_eq_self rest]

end

/-! ## Absorption -/

/-- A symbol is received by another that contains it or inside which it starts, past the
first character. -/
def Entry.Receives (outer inner : Entry) : Prop :=
  outer.contains inner = true ∨ Forest.startsWithin outer inner = true

/-- Inserting the tree into the forest changes nothing: the tree is there, cut at the ends
of the symbols it is below. -/
inductive Forest.Absorbs : Forest → Node → Prop where
  | here {forest : Forest} {top node : Node} :
      top ∈ forest → top.entry.same node.entry = true →
      (∀ child ∈ node.children, Absorbs top.children child) → Absorbs forest node
  | inside {forest : Forest} {top node : Node} :
      top ∈ forest → top.entry.Receives node.entry →
      Absorbs top.children (node.clip top.entry.stop) → Absorbs forest node

namespace Entry

theorem Receives.start_le {outer inner : Entry} (receives : outer.Receives inner) :
    outer.start ≤ inner.start := by
  rcases receives with contains | starts
  · exact (contains_iff.1 contains).1
  · simp only [Forest.startsWithin, Bool.and_eq_true, decide_eq_true_eq] at starts
    exact Nat.le_of_lt starts.1

/-- A symbol that is not empty starts inside one that receives it. -/
theorem Receives.start_lt_stop {outer inner : Entry} (receives : outer.Receives inner)
    (filled : inner.start < inner.stop) : inner.start < outer.stop := by
  rcases receives with contains | starts
  · exact Nat.lt_of_lt_of_le filled (contains_iff.1 contains).2
  · simp only [Forest.startsWithin, Bool.and_eq_true, decide_eq_true_eq] at starts
    exact starts.2

/-- What starts behind the start of a symbol and before its end is received by it. -/
theorem receives_of_lt {outer inner : Entry} (starts : outer.start < inner.start)
    (ends : inner.start < outer.stop) : outer.Receives inner := by
  refine .inr ?_
  simp only [Forest.startsWithin, Bool.and_eq_true, decide_eq_true_eq]
  exact ⟨starts, ends⟩

/-- A symbol receives what those inside it receive. -/
theorem Receives.of_contains {outer middle inner : Entry} (contains : outer.contains middle = true)
    (receives : middle.Receives inner) : outer.Receives inner := by
  rcases receives with inside | starts
  · exact .inl (contains_trans contains inside)
  · rw [contains_iff] at contains
    simp only [Forest.startsWithin, Bool.and_eq_true, decide_eq_true_eq] at starts
    exact receives_of_lt (by omega) (by omega)

/-- Cutting both symbols keeps the one received, unless nothing is left of it. -/
theorem Receives.clip {outer inner : Entry} {bound : Nat} (receives : outer.Receives inner)
    (ranged : inner.start ≤ inner.stop) (begun : inner.start < bound) :
    (outer.clip bound).Receives (inner.clip bound) := by
  rcases receives with contains | starts
  · exact .inl (contains_clip bound ranged contains)
  · simp only [Forest.startsWithin, Bool.and_eq_true, decide_eq_true_eq] at starts
    refine receives_of_lt ?_ ?_ <;> simp only [clip_start, clip_stop] <;> omega

end Entry

namespace Forest

/-- Only one of several siblings that are apart receives a range that is not empty. -/
theorem Apart.eq_of_receives {siblings : Forest} (apart : siblings.Apart) {a b : Node}
    {entry : Entry} (filled : entry.start < entry.stop) (first : a ∈ siblings)
    (second : b ∈ siblings) (firstReceives : a.entry.Receives entry)
    (secondReceives : b.entry.Receives entry) : a = b := by
  have aStart := firstReceives.start_le
  have aStop := firstReceives.start_lt_stop filled
  have bStart := secondReceives.start_le
  have bStop := secondReceives.start_lt_stop filled
  rcases apart.either first second with same | before | after
  · exact same
  · omega
  · omega

end Forest

mutual

/-- A forest absorbs its own trees. -/
theorem Node.absorbs_of_mem : ∀ {node : Node} {forest : Forest}, node ∈ forest →
    forest.Absorbs node
  | .mk _ _, _, membership =>
      .here membership (Entry.same_refl _) (Forest.absorbs_of_subset fun _ listed => listed)

/-- A forest absorbs its own trees. -/
theorem Forest.absorbs_of_subset : ∀ {nodes forest : Forest}, (∀ node ∈ nodes, node ∈ forest) →
    ∀ node ∈ nodes, forest.Absorbs node
  | [], _, _ => by simp
  | _ :: _, _, subset => by
      obtain ⟨first, rest⟩ := List.forall_mem_cons.1 subset
      exact List.forall_mem_cons.2 ⟨Node.absorbs_of_mem first, Forest.absorbs_of_subset rest⟩

end

namespace Forest

variable {forest : Forest} {node : Node}

theorem entries_singleton (node : Node) : entries [node] = node.entry :: node.children.entries := by
  rw [entries_cons, entries_nil, List.append_nil]

theorem entries_child {child : Node} (membership : child ∈ node.children) :
    ∀ entry ∈ entries [child], entry ∈ entries [node] := by
  intro entry listed
  rw [entries_singleton] at listed ⊢
  exact .tail _ (mem_entries.2 ⟨child, membership, List.mem_cons.1 listed⟩)

theorem entries_singleton_clip (bound : Nat) (node : Node) :
    entries [node.clip bound] = (entries [node]).map fun entry => entry.clip bound :=
  entries_clip bound [node]

/-- What is below one of the trees is in the forest. -/
theorem entries_below {top : Node} (membership : top ∈ forest) :
    ∀ entry ∈ top.children.entries, entry ∈ forest.entries :=
  fun _ listed => mem_entries.2 ⟨top, membership, .inr listed⟩

/-- Every symbol of an absorbed tree is in the forest, cut at its end. -/
theorem Absorbs.image (absorbs : forest.Absorbs node) (filled : forest.Filled) :
    ∀ entry ∈ entries [node], ∃ image ∈ forest.entries,
      image.start = entry.start ∧ image.stop ≤ entry.stop := by
  induction absorbs with
  | @here forest top node membership same _ ih =>
      intro entry listed
      rw [entries_singleton] at listed
      obtain ⟨start, stop⟩ := Entry.same_range same
      rcases List.mem_cons.1 listed with rfl | below
      · exact ⟨top.entry, mem_entries.2 ⟨top, membership, .inl rfl⟩, start, Nat.le_of_eq stop⟩
      · obtain ⟨child, inChildren, here⟩ := mem_entries.1 below
        obtain ⟨image, inTop, agrees⟩ := ih child inChildren (all_iff.1 filled top membership).2
          entry (by rw [entries_singleton]; exact List.mem_cons.2 here)
        exact ⟨image, entries_below membership image inTop, agrees⟩
  | @inside forest top node membership _ _ ih =>
      intro entry listed
      have topFilled := (all_iff.1 filled top membership).2
      obtain ⟨image, inTop, start, stop⟩ := ih topFilled (entry.clip top.entry.stop)
        (by rw [entries_singleton_clip]; exact List.mem_map_of_mem listed)
      -- The image is not empty, so the cut has left the start.
      have imageFilled := all_entries.1 topFilled image inTop
      have kept : (entry.clip top.entry.stop).start = entry.start :=
        (Entry.start_clip_of_filled (by omega)).1
      rw [Entry.clip_stop] at stop
      exact ⟨image, entries_below membership image inTop, start.trans kept,
        Nat.le_trans stop (Nat.min_le_left _ _)⟩

/-- A tree that is absorbed by a forest without empty ranges has none. -/
theorem Absorbs.filled (absorbs : forest.Absorbs node) (filled : forest.Filled) :
    Filled [node] := by
  refine all_entries.2 fun entry listed => ?_
  obtain ⟨image, inForest, start, stop⟩ := absorbs.image filled entry listed
  have imageFilled := all_entries.1 filled image inForest
  omega

theorem Absorbs.start_lt_stop (absorbs : forest.Absorbs node) (filled : forest.Filled) :
    node.entry.start < node.entry.stop :=
  (all_cons.1 (absorbs.filled filled)).1.1

/-- All symbols of a tree that is absorbed once it is cut start before the cut. -/
theorem Absorbs.start_lt {bound : Nat} (absorbs : forest.Absorbs (node.clip bound))
    (filled : forest.Filled) : ∀ entry ∈ entries [node], entry.start < bound := by
  intro entry listed
  have cutFilled := all_entries.1 (absorbs.filled filled) (entry.clip bound)
    (by rw [entries_singleton_clip]; exact List.mem_map_of_mem listed)
  exact (Entry.start_clip_of_filled cutFilled).2

theorem entry_mem_entries (node : Node) : node.entry ∈ entries [node] := by
  simp

/-- With a tree its children are absorbed. -/
theorem Absorbs.child (absorbs : forest.Absorbs node) (filled : forest.Filled)
    (tidy : node.Tidy) {child : Node} (inNode : child ∈ node.children) :
    forest.Absorbs child := by
  induction absorbs generalizing child with
  | @here forest top node membership same below _ =>
      have contains :=
        Entry.contains_trans (Entry.contains_of_same same) (tidy.contains_child inNode)
      refine .inside membership (.inl contains) ?_
      rw [(tidy.child inNode).clip_eq_self (Entry.contains_iff.1 contains).2]
      exact below child inNode
  | @inside forest top node membership receives deeper ih =>
      have topFilled := (all_iff.1 filled top membership).2
      have started := deeper.start_lt topFilled child.entry
        (entries_child inNode _ (entry_mem_entries child))
      have inside := tidy.contains_child inNode
      have received : top.entry.Receives child.entry := by
        rcases receives with contains | starts
        · exact .inl (Entry.contains_trans contains inside)
        · rw [Entry.contains_iff] at inside
          simp only [startsWithin, Bool.and_eq_true, decide_eq_true_eq] at starts
          exact Entry.receives_of_lt (by omega) started
      refine .inside membership received (ih topFilled (tidy.clip _) ?_)
      rw [Node.children_clip, clip_eq_map]
      exact List.mem_map_of_mem inNode

/-! ## Inserting what is absorbed -/

/-- Trees that a forest absorbs leave it as it is when they are inserted. -/
theorem Inserted.eq_of_absorbs {siblings nodes result : Forest}
    (inserted : Inserted siblings nodes result) :
    siblings.Laid → (∀ node ∈ nodes, node.Tidy) → (∀ node ∈ nodes, siblings.Absorbs node) →
      result = siblings := by
  induction inserted with
  | done => exact fun _ _ _ => rfl
  | @unify siblings before after grown rest result node sibling found _ _ innerIh nextIh =>
      intro laid tidy absorbed
      obtain ⟨nodeTidy, restTidy⟩ := List.forall_mem_cons.1 tidy
      obtain ⟨nodeAbsorbed, restAbsorbed⟩ := List.forall_mem_cons.1 absorbed
      have filled := nodeAbsorbed.start_lt_stop laid.filled
      have below := laid.below found.mem
      have contains := Entry.contains_of_same found.passes
      have children : ∀ child ∈ node.children, sibling.children.Absorbs child := by
        cases nodeAbsorbed with
        | here membership same deeper =>
            obtain rfl := laid.ordered.1.eq_of_contains filled membership found.mem
              (Entry.contains_of_same same) contains
            exact deeper
        | inside membership receives deeper =>
            obtain rfl := laid.ordered.1.eq_of_receives filled membership found.mem receives
              (.inl contains)
            rw [nodeTidy.clip_eq_self (Entry.contains_iff.1 contains).2] at deeper
            exact fun child inNode => deeper.child below.filled nodeTidy inNode
      have unchanged : grown = sibling.children :=
        innerIh below (fun child inNode => nodeTidy.child inNode) children
      rw [unchanged, found.replace_children] at nextIh
      exact nextIh laid restTidy restAbsorbed
  | @nest siblings before after grown rest result node sibling fresh found _ _ innerIh nextIh =>
      intro laid tidy absorbed
      obtain ⟨nodeTidy, restTidy⟩ := List.forall_mem_cons.1 tidy
      obtain ⟨nodeAbsorbed, restAbsorbed⟩ := List.forall_mem_cons.1 absorbed
      have filled := nodeAbsorbed.start_lt_stop laid.filled
      have contains := found.passes
      have deeper : sibling.children.Absorbs node := by
        cases nodeAbsorbed with
        | here membership same _ =>
            exact absurd same (Bool.eq_false_iff.1 (fresh _ membership))
        | inside membership receives deeper =>
            obtain rfl := laid.ordered.1.eq_of_receives filled membership found.mem receives
              (.inl contains)
            rwa [nodeTidy.clip_eq_self (Entry.contains_iff.1 contains).2] at deeper
      have unchanged : grown = sibling.children :=
        innerIh (laid.below found.mem) (by simpa using nodeTidy) (by simpa using deeper)
      rw [unchanged, found.replace_children] at nextIh
      exact nextIh laid restTidy restAbsorbed
  | @cut siblings before after grown rest result node sibling fresh _ found _ _ innerIh nextIh =>
      intro laid tidy absorbed
      obtain ⟨nodeTidy, restTidy⟩ := List.forall_mem_cons.1 tidy
      obtain ⟨nodeAbsorbed, restAbsorbed⟩ := List.forall_mem_cons.1 absorbed
      have filled := nodeAbsorbed.start_lt_stop laid.filled
      have deeper : sibling.children.Absorbs (node.clip sibling.entry.stop) := by
        cases nodeAbsorbed with
        | here membership same _ =>
            exact absurd same (Bool.eq_false_iff.1 (fresh _ membership))
        | inside membership receives deeper =>
            obtain rfl := laid.ordered.1.eq_of_receives filled membership found.mem receives
              (.inr found.passes)
            exact deeper
      have unchanged : grown = sibling.children := innerIh (laid.below found.mem)
        (by simpa using nodeTidy.clip sibling.entry.stop) (by simpa using deeper)
      rw [unchanged, found.replace_children] at nextIh
      exact nextIh laid restTidy restAbsorbed
  | place fresh outside apart _ _ _ _ _ =>
      intro _ _ absorbed
      cases (List.forall_mem_cons.1 absorbed).1 with
      | here membership same _ => exact absurd same (Bool.eq_false_iff.1 (fresh _ membership))
      | inside membership receives _ =>
          rcases receives with contains | starts
          · exact absurd contains (Bool.eq_false_iff.1 (outside _ membership))
          · exact absurd starts (Bool.eq_false_iff.1 (apart _ membership))

end Forest

end Inlay
