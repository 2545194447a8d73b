import Inlay.Proofs.Symbol.Conservation

/-!
# Merging again

A forest in which siblings are in order and apart is its own normal form.  And a tree
that is embedded in such a forest is absorbed by it: when it is inserted again, the
only sibling that contains it leads to its image, at every depth.  The insertion meets
an entry for the same symbol at the image or above it, and the trees below the image
are below that entry too, so what is inserted next is embedded again.

Where no two ranges cross, merging embeds every outline in the merged forest.  So
merging the same outlines once more changes nothing.
-/

namespace Inlay

/-! ## Where an image is found -/

/-- What is below an embedded symbol is embedded where the symbol is. -/
theorem Node.EmbedsIn.children {node : Node} {forest : Forest} (embeds : node.EmbedsIn forest) :
    node.children.EmbedsIn forest := by
  obtain ⟨image, held, _, below⟩ := Node.embedsIn_iff.1 embeds
  exact Forest.embedsIn_iff.2 fun child membership =>
    (Forest.embedsIn_iff.1 below child membership).of_below held

namespace Forest

/-- A tree of a nested forest lies inside one of the forest's own trees. -/
theorem Holds.leads {forest : Forest} {node : Node} (holds : forest.Holds node)
    (nested : forest.Nested) :
    ∃ top ∈ forest, top.entry.contains node.entry = true ∧
      (top = node ∨ top.children.Holds node) := by
  induction holds with
  | @here forest node membership =>
      exact ⟨node, membership, Entry.contains_of_same (Entry.same_refl _), .inl rfl⟩
  | @under forest parent node membership deeper ih =>
      obtain ⟨within, below⟩ := Node.each_iff.1 (nested_iff.1 nested parent membership)
      obtain ⟨child, inChildren, contains, _⟩ := ih below
      exact ⟨parent, membership, Entry.contains_trans (within child inChildren) contains,
        .inr deeper⟩

/-- A tree that is embedded in a nested forest lies inside one of the forest's trees, which
stands for the same symbol or has the tree embedded below it. -/
theorem EmbedsIn.leads {siblings : Forest} {node : Node} (embeds : node.EmbedsIn siblings)
    (nested : siblings.Nested) :
    ∃ top ∈ siblings, top.entry.contains node.entry = true ∧
      (top.entry.same node.entry = true ∧ node.children.EmbedsIn top.children ∨
        node.EmbedsIn top.children) := by
  obtain ⟨image, held, same, below⟩ := Node.embedsIn_iff.1 embeds
  obtain ⟨top, membership, contains, here | deeper⟩ := held.leads nested
  · subst here
    exact ⟨top, membership, Entry.contains_of_same same, .inl ⟨same, below⟩⟩
  · exact ⟨top, membership, Entry.contains_trans contains (Entry.contains_of_same same),
      .inr (Node.embedsIn_iff.2 ⟨image, deeper, same, below⟩)⟩

/-! ## Inserting what is there -/

theorem FirstAt.replace_children {test : Entry → Bool} {siblings before after : Forest}
    {sibling : Node} (first : FirstAt test siblings before sibling after) :
    before ++ .mk sibling.entry sibling.children :: after = siblings := by
  rw [first.split]
  cases sibling with
  | mk entry children => rfl

/-- Trees that are embedded in a forest are absorbed when they are inserted into it. -/
theorem Inserted.eq_of_embedsIn {siblings nodes result : Forest}
    (inserted : Inserted siblings nodes result) :
    siblings.Ordered → siblings.Nested → nodes.All (fun entry => entry.start < entry.stop) →
      nodes.EmbedsIn siblings → result = siblings := by
  induction inserted with
  | done => exact fun _ _ _ _ => rfl
  | @unify siblings before after grown rest result node sibling found _ _ innerIh nextIh =>
      intro ordered nested nonempty embeds
      obtain ⟨⟨nodeNonempty, childrenNonempty⟩, restNonempty⟩ := all_cons.1 nonempty
      obtain ⟨top, membership, contains, leads⟩ := EmbedsIn.leads embeds.1 nested
      obtain rfl := ordered.1.eq_of_contains nodeNonempty membership found.mem contains
        (Entry.contains_of_same found.passes)
      have below : node.children.EmbedsIn top.children := by
        rcases leads with ⟨_, here⟩ | deeper
        · exact here
        · exact deeper.children
      have unchanged : grown = top.children := innerIh
        (Node.ordered_iff.1 (ordered.mem membership)).2
        (Node.each_iff.1 (nested_iff.1 nested top membership)).2 childrenNonempty below
      rw [unchanged, found.replace_children] at nextIh
      exact nextIh ordered nested restNonempty embeds.2
  | @nest siblings before after grown rest result node sibling fresh found _ _ innerIh nextIh =>
      intro ordered nested nonempty embeds
      obtain ⟨nodeNonempty, restNonempty⟩ := all_cons.1 nonempty
      obtain ⟨top, membership, contains, leads⟩ := EmbedsIn.leads embeds.1 nested
      obtain rfl := ordered.1.eq_of_contains nodeNonempty.1 membership found.mem contains
        found.passes
      have below : node.EmbedsIn top.children := by
        rcases leads with ⟨same, _⟩ | deeper
        · exact absurd same (Bool.eq_false_iff.1 (fresh top membership))
        · exact deeper
      have unchanged : grown = top.children := innerIh
        (Node.ordered_iff.1 (ordered.mem membership)).2
        (Node.each_iff.1 (nested_iff.1 nested top membership)).2
        (all_cons.2 ⟨nodeNonempty, all_nil⟩) ⟨below, trivial⟩
      rw [unchanged, found.replace_children] at nextIh
      exact nextIh ordered nested restNonempty embeds.2
  | cut _ outside _ _ _ _ _ =>
      intro _ nested _ embeds
      obtain ⟨top, membership, contains, _⟩ := EmbedsIn.leads embeds.1 nested
      exact absurd contains (Bool.eq_false_iff.1 (outside top membership))
  | place _ outside _ _ _ _ _ _ =>
      intro _ nested _ embeds
      obtain ⟨top, membership, contains, _⟩ := EmbedsIn.leads embeds.1 nested
      exact absurd contains (Bool.eq_false_iff.1 (outside top membership))

/-! ## A forest in normal form -/

theorem insertOrdered_eq_append {siblings : Forest} {node : Node}
    (behind : ∀ sibling ∈ siblings, node.entry.precedes sibling.entry = false) :
    insertOrdered node siblings = siblings ++ [node] := by
  induction siblings with
  | nil => rfl
  | cons sibling rest ih =>
      obtain ⟨here, later⟩ := List.forall_mem_cons.1 behind
      rw [insertOrdered, here, if_neg Bool.false_ne_true, ih later, List.cons_append]

/-- A tree that lies behind all siblings is put at their end. -/
theorem insert_eq_append {siblings : Forest} {node : Node}
    (nonempty : ∀ sibling ∈ siblings, sibling.entry.start < sibling.entry.stop)
    (nodeNonempty : node.entry.start < node.entry.stop)
    (behind : ∀ sibling ∈ siblings, sibling.entry.stop ≤ node.entry.start) :
    siblings.insert node = siblings ++ [node] := by
  have outside : siblings.Lacks fun sibling => sibling.contains node.entry := by
    intro sibling membership
    have ends := behind sibling membership
    rw [Entry.not_contains_iff]
    omega
  have apart : ∀ sibling ∈ siblings, node.entry.contains sibling.entry = false ∧
      sibling.entry.Uncrossed node.entry ∧ node.entry.precedes sibling.entry = false := by
    intro sibling membership
    have before := nonempty sibling membership
    have ends := behind sibling membership
    have later : ¬node.entry.start ≤ sibling.entry.start := by omega
    refine ⟨?_, ?_, ?_⟩
    · rw [Entry.not_contains_iff]
      omega
    · intro overlapping
      simp only [Entry.overlaps, Bool.and_eq_true, decide_eq_true_eq] at overlapping
      omega
    · simp only [Entry.precedes, Bool.or_eq_false_iff, Bool.and_eq_false_iff,
        decide_eq_false_iff_not, beq_eq_false_iff_ne]
      omega
  have inserted := insert_inserted siblings node
  generalize siblings.insert node = result at inserted ⊢
  cases inserted with
  | unify found _ _ =>
      have contains := Entry.contains_of_same found.passes
      exact absurd contains (Bool.eq_false_iff.1 (outside _ found.mem))
  | nest _ found _ _ => exact absurd found.passes (Bool.eq_false_iff.1 (outside _ found.mem))
  | cut _ _ found _ _ =>
      have starts := found.passes
      have ends := behind _ found.mem
      simp only [startsWithin, Bool.and_eq_true, decide_eq_true_eq] at starts
      omega
  | @place _ grown _ _ _ placed _ _ _ placing inner next =>
      have whole : placed = node := placing.trans (clipAtSiblings_eq_self outside
        fun sibling membership => (apart sibling membership).2.1)
      subst whole
      rw [List.filter_eq_nil_iff.2 fun sibling membership => by
        simp [(apart sibling membership).1]] at inner
      rw [List.filter_eq_self.2 fun sibling membership => by
        simp [(apart sibling membership).1]] at next
      cases inner
      cases next
      cases placed with
      | mk entry children =>
          exact insertOrdered_eq_append fun sibling membership => (apart sibling membership).2.2

end Forest

mutual

theorem Node.normalize_eq_self : ∀ {node : Node}, node.Ordered →
    node.Each (fun entry _ => entry.start < entry.stop) → node.normalize = node
  | .mk _ _, ordered, nonempty => by
      obtain ⟨_, below⟩ := Node.ordered_iff.1 ordered
      rw [Node.normalize, Forest.normalizeInto_eq_append [] below nonempty.2]
      rfl

/-- Trees that are in order and apart stay as they are. -/
theorem Forest.normalizeInto_eq_append : ∀ (built : Forest) {forest : Forest},
    (built ++ forest).Ordered →
    (built ++ forest).All (fun entry => entry.start < entry.stop) →
    built.normalizeInto forest = built ++ forest
  | built, [], _, _ => (List.append_nil built).symm
  | built, node :: rest, ordered, nonempty => by
      have member : node ∈ built ++ node :: rest := List.mem_append_right _ (.head _)
      have filled : ∀ other ∈ built ++ node :: rest, other.entry.start < other.entry.stop :=
        fun other membership => (Forest.all_iff.1 nonempty other membership).1
      have behind : ∀ sibling ∈ built, sibling.entry.stop ≤ node.entry.start :=
        fun sibling membership =>
          (List.pairwise_append.1 ordered.1).2.2 sibling membership node (.head _)
      have kept : node.normalize = node :=
        Node.normalize_eq_self (ordered.mem member) (Forest.each_iff.1 nonempty node member)
      have appended : built.insert node = built ++ [node] := Forest.insert_eq_append
        (fun sibling membership => filled sibling (List.mem_append_left _ membership))
        (filled node member) behind
      rw [Forest.normalizeInto, kept, appended, Forest.normalizeInto_eq_append, List.append_assoc,
        List.singleton_append]
      · rwa [List.append_assoc, List.singleton_append]
      · rwa [List.append_assoc, List.singleton_append]

end

namespace Forest

/-- A forest that is in order and has no empty range is in normal form. -/
theorem normalize_eq_self {forest : Forest} (ordered : forest.Ordered)
    (nonempty : forest.All fun entry => entry.start < entry.stop) : normalize forest = forest :=
  normalizeInto_eq_append [] ordered nonempty

end Forest

/-! ## Merging the same outlines again -/

mutual

theorem Node.ranged_of_place {mapping : Mapping} :
    ∀ {node : Node}, (node.place mapping).Each (fun entry _ => entry.start < entry.stop) →
      node.Each fun entry _ => entry.start ≤ entry.stop
  | .mk entry _, ⟨nonempty, below⟩ => by
      refine ⟨Nat.le_of_not_lt fun inverted => ?_, Forest.ranged_of_place below⟩
      have clamped := mapping.clampToDocument_le (Nat.le_of_lt inverted)
      exact Nat.not_lt.2 clamped nonempty

/-- Placing keeps the order of offsets, so what is not empty once placed was in order. -/
theorem Forest.ranged_of_place {mapping : Mapping} :
    ∀ {forest : Forest},
      (Forest.place mapping forest).All (fun entry => entry.start < entry.stop) → forest.Ranged
  | [], _ => trivial
  | _ :: _, ⟨first, rest⟩ => ⟨Node.ranged_of_place first, Forest.ranged_of_place rest⟩

end

namespace Forest

/-- Where the given symbols are not empty, lie inside those that own them and do not cross,
a second merge of the same outlines changes nothing, and neither does a merge of none. -/
theorem merge_merge (host : Forest) (embedded : List Embedded)
    (nonempty : ∀ entry ∈ givenEntries host embedded, entry.start < entry.stop)
    (hostNested : host.Nested)
    (placedNested : ∀ outline ∈ embedded,
      (Forest.place outline.mapping outline.forest).Nested)
    (uncrossed : ∀ a ∈ givenEntries host embedded, ∀ b ∈ givenEntries host embedded,
      a.Uncrossed b) :
    merge (merge host embedded) embedded = merge host embedded ∧
      merge (merge host embedded) [] = merge host embedded := by
  obtain ⟨hostNonempty, placedNonempty⟩ := all_givenEntries.1 nonempty
  have hostRanged : host.Ranged := hostNonempty.imp fun _ _ filled => Nat.le_of_lt filled
  have embeddedRanged : ∀ outline ∈ embedded, outline.forest.Ranged :=
    fun outline listed => ranged_of_place (placedNonempty outline listed)
  have laminar : Laminar (· ∈ givenEntries host embedded) :=
    fun a b aGiven bGiven => uncrossed a aGiven b bGiven
  obtain ⟨filed, all⟩ := merge_filed laminar fun _ isGiven => isGiven
  have ordered := merge_ordered hostRanged embeddedRanged
  have nested : (merge host embedded).Nested :=
    merge_owned Ownership.contains hostRanged embeddedRanged hostNested placedNested
  have normal : normalize (merge host embedded) = merge host embedded :=
    normalize_eq_self ordered (all.imp fun entry _ isGiven => nonempty entry isGiven)
  have again := merge_inserted (merge host embedded) embedded
  rw [normal] at again
  have treesAll := placed_all laminar (all_givenEntries.1 fun _ isGiven => isGiven).2
  exact ⟨again.eq_of_embedsIn ordered nested
    (treesAll.imp fun entry _ isGiven => nonempty entry isGiven) filed.embeds.2, normal⟩

/-- Two elements with one range, nested one way in the first tree and the other way in the
second, so that one of them is in the merged forest twice. -/
theorem merge_merge_equal_ranges :
    let host : Forest := [.mk (.of "f" .ofFunction 0 30 .host)
      [.leaf (.of "html literal" .ofLiteral 5 25 .host)]]
    let embedded : List Embedded := [⟨⟨6, 18⟩,
      [.mk (.of "p" .ofElement 0 18 .embedded) [.leaf (.of "b" .ofElement 0 18 .embedded)],
        .mk (.of "b" .ofElement 0 18 .embedded) [.leaf (.of "p" .ofElement 0 18 .embedded)]]⟩]
    (merge host embedded).entries.map Entry.name = ["f", "html literal", "p", "b", "p"] ∧
      merge (merge host embedded) embedded = merge host embedded := by
  intro host embedded
  have hostNested : host.Nested := by
    simp [host, Nested, Forest.Each, Node.Each, Node.leaf, Within, Entry.of, Entry.contains]
  have placedNested : ∀ outline ∈ embedded,
      (Forest.place outline.mapping outline.forest).Nested := by
    simp [embedded, Nested, Forest.place, Node.place, Forest.Each, Node.Each, Node.leaf, Within,
      Entry.of, Entry.place, Entry.contains]
  exact ⟨by decide, (merge_merge host embedded (by decide) hostNested placedNested (by decide)).1⟩

end Forest

end Inlay
