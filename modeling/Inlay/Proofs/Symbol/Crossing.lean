import Inlay.Proofs.Symbol.Absorption

/-!
# Merging again where ranges cross

A symbol that runs into the start of another is cut at that start, and then it is not
found when it is inserted again: the cut symbol does not contain the whole one, nor does
it stand for it.  The whole symbol is inserted a second time and takes the cut one over.

So a forest absorbs every tree that was inserted into it, provided that no symbol of the
tree runs into one of the forest (`Node.Clears`) and that no symbol was cut to nothing.
Both conditions are needed, as the last two results show.
-/

namespace Inlay

open Forest (entries)

/-! ## Symbols that run into others -/

/-- A symbol runs into another that begins inside it and ends behind it. -/
def Entry.RunsInto (entry other : Entry) : Prop :=
  entry.start < other.start ∧ other.start < entry.stop ∧ entry.stop < other.stop

instance (entry other : Entry) : Decidable (entry.RunsInto other) :=
  inferInstanceAs (Decidable (_ ∧ _ ∧ _))

/-- No symbol of the tree runs into one of the forest. -/
def Node.Clears (tree : Node) (forest : Forest) : Prop :=
  forest.All fun other => ∀ entry ∈ entries [tree], ¬entry.RunsInto other

/-- All symbols of the forest end at the bound or before. -/
abbrev Forest.EndsBy (forest : Forest) (bound : Nat) : Prop :=
  forest.All fun entry => entry.stop ≤ bound

namespace Entry

/-- What runs into a symbol that is cut runs into the whole symbol. -/
theorem RunsInto.of_clip {entry other : Entry} {bound : Nat}
    (runs : entry.RunsInto (other.clip bound)) : entry.RunsInto other := by
  simp only [RunsInto, clip_start, clip_stop] at runs ⊢
  omega

/-- A symbol that is cut runs into one that ends before the cut only if the whole symbol
does. -/
theorem RunsInto.of_clip_left {entry other : Entry} {bound : Nat} (ends : other.stop ≤ bound)
    (runs : (entry.clip bound).RunsInto other) : entry.RunsInto other := by
  simp only [RunsInto, clip_start, clip_stop] at runs ⊢
  omega

/-- A symbol that is cut at another goes on receiving what does not run into that one. -/
theorem Receives.clip_left {outer inner other : Entry} (receives : outer.Receives inner)
    (begun : inner.start < other.start) (runs : outer.RunsInto other)
    (clear : ¬inner.RunsInto other) : (outer.clip other.start).Receives inner := by
  unfold RunsInto at runs clear
  rcases receives with contains | starts
  · rw [contains_iff] at contains
    by_cases later : outer.start < inner.start
    · refine receives_of_lt ?_ ?_ <;> simp only [clip_start, clip_stop] <;> omega
    · refine .inl (contains_iff.2 ?_)
      simp only [clip_start, clip_stop]
      omega
  · simp only [Forest.startsWithin, Bool.and_eq_true, decide_eq_true_eq] at starts
    refine receives_of_lt ?_ ?_ <;> simp only [clip_start, clip_stop] <;> omega

end Entry

namespace Node.Clears

variable {tree : Node} {forest : Forest}

theorem child (clears : tree.Clears forest) {child : Node} (membership : child ∈ tree.children) :
    child.Clears forest :=
  clears.imp fun _ _ clear entry listed =>
    clear entry (Forest.entries_child membership entry listed)

theorem below (clears : tree.Clears forest) {top : Node} (membership : top ∈ forest) :
    tree.Clears top.children :=
  (Forest.all_iff.1 clears top membership).2

theorem clip_forest (clears : tree.Clears forest) (bound : Nat) :
    tree.Clears (Forest.clip bound forest) :=
  Forest.All.clip clears bound fun _ _ clear entry listed runs =>
    clear entry listed runs.of_clip

/-- A tree that is cut behind the end of a forest still runs into nothing there. -/
theorem clip {bound : Nat} (clears : tree.Clears forest) (ends : forest.EndsBy bound) :
    (tree.clip bound).Clears forest := by
  refine Forest.all_entries.2 fun other inForest entry listed runs => ?_
  rw [Forest.entries_singleton_clip] at listed
  obtain ⟨whole, inTree, rfl⟩ := List.mem_map.1 listed
  exact Forest.all_entries.1 clears other inForest whole inTree
    (runs.of_clip_left (Forest.all_entries.1 ends other inForest))

/-- Insertion brings in nothing that a tree could newly run into. -/
theorem inserted {siblings nodes result : Forest} (clears : tree.Clears siblings)
    (clearsNodes : tree.Clears nodes) (inserted : Forest.Inserted siblings nodes result) :
    tree.Clears result :=
  inserted.all (fun _ _ clear entry listed runs => clear entry listed runs.of_clip) clears
    clearsNodes

end Node.Clears

/-- In a nested tree nothing ends behind the root. -/
theorem Node.Nested.endsBy {node : Node} (nested : node.Nested) :
    Forest.EndsBy [node] node.entry.stop := by
  have within := Node.Nested.all_within nested (Entry.contains_of_same (Entry.same_refl _))
  exact ⟨Node.Each.imp (fun _ _ contains => (Entry.contains_iff.1 contains).2) within, trivial⟩

theorem Node.Nested.children_endsBy {node : Node} (nested : node.Nested) :
    node.children.EndsBy node.entry.stop :=
  (Forest.all_cons.1 nested.endsBy).1.2

namespace Forest

/-- Behind a bound nothing is left after a cut there. -/
theorem endsBy_clip (bound : Nat) (forest : Forest) : (Forest.clip bound forest).EndsBy bound := by
  rw [EndsBy, all_entries, entries_clip, List.forall_mem_map]
  exact fun entry _ => Nat.min_le_right _ _

/-! ## What an insertion goes on absorbing -/

variable {forest siblings nodes grown result : Forest} {node tree : Node}

/-- What a forest absorbs is absorbed through one of its trees. -/
theorem Absorbs.through (absorbs : forest.Absorbs tree) :
    ∃ top ∈ forest, top.entry.Receives tree.entry ∧
      ∀ other : Forest, top ∈ other → other.Absorbs tree := by
  cases absorbs with
  | here membership same deeper =>
      exact ⟨_, membership, .inl (Entry.contains_of_same same),
        fun _ inOther => .here inOther same deeper⟩
  | inside membership receives deeper =>
      exact ⟨_, membership, receives, fun _ inOther => .inside inOther receives deeper⟩

/-- A tree stays absorbed when it is cut behind the end of the forest. -/
theorem Absorbs.clip_of_endsBy {bound : Nat} (absorbs : forest.Absorbs tree) (tidy : tree.Tidy)
    (ends : forest.EndsBy bound) : forest.Absorbs (tree.clip bound) := by
  cases absorbs with
  | @here _ top _ membership same deeper =>
      have fits : tree.entry.stop ≤ bound :=
        (Entry.same_range same).2 ▸ (all_iff.1 ends top membership).1
      rw [tidy.clip_eq_self fits]
      exact .here membership same deeper
  | @inside _ top _ membership receives deeper =>
      have topEnds := (all_iff.1 ends top membership).1
      have ranged := tidy.ranged
      refine .inside membership ?_ ?_
      · rw [Node.entry_clip]
        rcases receives with contains | starts
        · have fits := Nat.le_trans (Entry.contains_iff.1 contains).2 topEnds
          rw [Entry.clip_eq_self ranged fits]
          exact .inl contains
        · simp only [startsWithin, Bool.and_eq_true, decide_eq_true_eq] at starts
          refine Entry.receives_of_lt ?_ ?_ <;> rw [Entry.clip_start] <;> omega
      · rwa [Node.clip_clip, Nat.min_eq_right topEnds]

/-- A forest that is cut absorbs what it absorbed, cut as well, unless something of it was
cut to nothing. -/
theorem Absorbs.clip {bound : Nat} (absorbs : forest.Absorbs tree) :
    tree.Tidy → (Forest.clip bound forest).Filled →
      (Forest.clip bound forest).Absorbs (tree.clip bound) := by
  induction absorbs with
  | @here forest top tree membership same _ ih =>
      intro tidy filled
      have inClip : top.clip bound ∈ Forest.clip bound forest := by
        rw [clip_eq_map]
        exact List.mem_map_of_mem membership
      have topFilled := (all_iff.1 filled _ inClip).2
      rw [Node.children_clip] at topFilled
      refine .here inClip ?_ ?_
      · rw [Node.entry_clip, Node.entry_clip]
        exact Entry.same_clip same bound
      · intro child inTree
        rw [Node.children_clip, clip_eq_map] at inTree
        obtain ⟨whole, inChildren, rfl⟩ := List.mem_map.1 inTree
        rw [Node.children_clip]
        exact ih whole inChildren (tidy.child inChildren) topFilled
  | @inside forest top tree membership receives _ ih =>
      intro tidy filled
      have inClip : top.clip bound ∈ Forest.clip bound forest := by
        rw [clip_eq_map]
        exact List.mem_map_of_mem membership
      have topFilled := (all_iff.1 filled _ inClip).2
      rw [Node.children_clip] at topFilled
      have deeper := ih (tidy.clip _) topFilled
      rw [Node.clip_clip] at deeper
      have started := deeper.start_lt topFilled tree.entry (entry_mem_entries _)
      refine .inside inClip ?_ ?_
      · rw [Node.entry_clip, Node.entry_clip]
        exact receives.clip tidy.ranged (by omega)
      · have stop : (top.clip bound).entry.stop = min top.entry.stop bound := by
          rw [Node.entry_clip, Entry.clip_stop]
        have order : min bound (min top.entry.stop bound) = min top.entry.stop bound := by omega
        rw [Node.children_clip, stop, Node.clip_clip, order]
        exact deeper

/-- Trees that run into nothing are absorbed by the result when they were by what was there
or by what was inserted. -/
def Keeps (siblings nodes result : Forest) : Prop :=
  ∀ tree : Node, tree.Tidy → tree.Clears siblings → tree.Clears nodes →
    siblings.Absorbs tree ∨ nodes.Absorbs tree → result.Absorbs tree

/-- Below a symbol a tree is absorbed as it is and cut at the symbol's end. -/
theorem Keeps.below {more : Forest} {bound : Nat} (keeps : Keeps siblings more grown)
    (ends : siblings.EndsBy bound) (moreEnds : more.EndsBy bound) (tidy : tree.Tidy)
    (clears : tree.Clears siblings) (clearsMore : tree.Clears more)
    (absorbs : siblings.Absorbs (tree.clip bound) ∨ more.Absorbs (tree.clip bound)) :
    grown.Absorbs (tree.clip bound) :=
  keeps _ (tidy.clip bound) (clears.clip ends) (clearsMore.clip moreEnds) absorbs

/-- A forest goes on absorbing what it absorbed when the trees below one of its symbols
grow. -/
theorem FirstAt.absorbs {test : Entry → Bool} {before after more : Forest} {sibling : Node}
    (first : FirstAt test siblings before sibling after) (nested : siblings.Nested)
    (keeps : Keeps sibling.children more grown) (moreEnds : more.EndsBy sibling.entry.stop)
    (tidy : tree.Tidy) (clears : tree.Clears siblings) (clearsMore : tree.Clears more)
    (absorbs : siblings.Absorbs tree) :
    Absorbs (before ++ .mk sibling.entry grown :: after) tree := by
  have ends := Node.Nested.children_endsBy (nested_iff.1 nested sibling first.mem)
  have belowClears := clears.below first.mem
  have there : .mk sibling.entry grown ∈ before ++ .mk sibling.entry grown :: after :=
    List.mem_append_right _ (.head _)
  have kept :
      ∀ top ∈ siblings, top = sibling ∨ top ∈ before ++ .mk sibling.entry grown :: after := by
    intro top membership
    rw [first.split] at membership
    rcases List.mem_append.1 membership with early | rest
    · exact .inr (List.mem_append_left _ early)
    · exact (List.mem_cons.1 rest).imp_right fun late => List.mem_append_right _ (.tail _ late)
  cases absorbs with
  | here membership same deeper =>
      rcases kept _ membership with rfl | stays
      · exact .here there same fun child inTree => keeps child (tidy.child inTree)
          (belowClears.child inTree) (clearsMore.child inTree) (.inl (deeper child inTree))
      · exact .here stays same deeper
  | inside membership receives deeper =>
      rcases kept _ membership with rfl | stays
      · exact .inside there receives
          (keeps.below ends moreEnds tidy belowClears clearsMore (.inl deeper))
      · exact .inside stays receives deeper

section Steps

variable {before after : Forest} {sibling : Node}

/-- What a symbol takes over from its double keeps a tree absorbed. -/
theorem Keeps.unify (found : FirstAt (fun sibling => sibling.same node.entry) siblings before
      sibling after) (nested : siblings.Nested) (nodeTidy : node.Tidy)
    (keeps : Keeps sibling.children node.children grown) :
    Keeps siblings [node] (before ++ .mk sibling.entry grown :: after) := by
  intro tree tidy clears clearsNode absorbs
  have stop := (Entry.same_range found.passes).2
  have nodeEnds := nodeTidy.nested.children_endsBy
  have ends := Node.Nested.children_endsBy (nested_iff.1 nested sibling found.mem)
  have belowClears := clears.below found.mem
  have childrenClears := clearsNode.below (.head _)
  rw [← stop] at nodeEnds
  have there : .mk sibling.entry grown ∈ before ++ .mk sibling.entry grown :: after :=
    List.mem_append_right _ (.head _)
  rcases absorbs with old | new
  · exact found.absorbs nested keeps nodeEnds tidy clears childrenClears old
  cases new with
  | here membership same deeper =>
      obtain rfl := List.mem_singleton.1 membership
      exact .here there (Entry.same_trans found.passes same) fun child inTree =>
        keeps child (tidy.child inTree) (belowClears.child inTree) (childrenClears.child inTree)
          (.inr (deeper child inTree))
  | inside membership receives deeper =>
      obtain rfl := List.mem_singleton.1 membership
      rw [← stop] at deeper
      exact .inside there (receives.of_contains (Entry.contains_of_same found.passes))
        (keeps.below ends nodeEnds tidy belowClears childrenClears (.inr deeper))

/-- What goes below a symbol that contains it keeps a tree absorbed. -/
theorem Keeps.nest (found : FirstAt (fun sibling => sibling.contains node.entry) siblings before
      sibling after) (nested : siblings.Nested) (nodeTidy : node.Tidy)
    (keeps : Keeps sibling.children [node] grown) :
    Keeps siblings [node] (before ++ .mk sibling.entry grown :: after) := by
  intro tree tidy clears clearsNode absorbs
  have nodeEnds : EndsBy [node] sibling.entry.stop := nodeTidy.nested.endsBy.imp
    fun _ _ ends => Nat.le_trans ends (Entry.contains_iff.1 found.passes).2
  have ends := Node.Nested.children_endsBy (nested_iff.1 nested sibling found.mem)
  rcases absorbs with old | new
  · exact found.absorbs nested keeps nodeEnds tidy clears clearsNode old
  obtain ⟨top, membership, receives, _⟩ := new.through
  obtain rfl := List.mem_singleton.1 membership
  exact .inside (List.mem_append_right _ (.head _)) (receives.of_contains found.passes)
    (keeps.below ends nodeEnds tidy (clears.below found.mem) clearsNode
      (.inr (new.clip_of_endsBy tidy nodeEnds)))

/-- To cut what starts inside a symbol and go on below that symbol keeps a tree absorbed. -/
theorem Keeps.cut (found : FirstAt (fun sibling => startsWithin sibling node.entry) siblings before
      sibling after) (nested : siblings.Nested)
    (filled : Filled [node.clip sibling.entry.stop])
    (keeps : Keeps sibling.children [node.clip sibling.entry.stop] grown) :
    Keeps siblings [node] (before ++ .mk sibling.entry grown :: after) := by
  intro tree tidy clears clearsNode absorbs
  have clipEnds : EndsBy [node.clip sibling.entry.stop] sibling.entry.stop := endsBy_clip _ [node]
  have clearsClip : tree.Clears [node.clip sibling.entry.stop] := clearsNode.clip_forest _
  have ends := Node.Nested.children_endsBy (nested_iff.1 nested sibling found.mem)
  rcases absorbs with old | new
  · exact found.absorbs nested keeps clipEnds tidy clears clearsClip old
  obtain ⟨top, membership, receives, _⟩ := new.through
  obtain rfl := List.mem_singleton.1 membership
  have cut : Absorbs [top.clip sibling.entry.stop] (tree.clip sibling.entry.stop) :=
    new.clip tidy filled
  have starts := found.passes
  have later := receives.start_le
  simp only [startsWithin, Bool.and_eq_true, decide_eq_true_eq] at starts
  refine .inside (List.mem_append_right _ (.head _)) ?_
    (keeps.below ends clipEnds tidy (clears.below found.mem) clearsClip (.inr cut))
  exact Entry.receives_of_lt (Nat.lt_of_lt_of_le starts.1 later)
    (cut.start_lt filled _ (entry_mem_entries tree))

end Steps

/-- A symbol that finds no place below a sibling stays whole, or it runs into a sibling and
is cut there. -/
theorem clipAtSiblings_cases (outside : siblings.Lacks fun sibling => sibling.contains node.entry)
    (apart : siblings.Lacks fun sibling => startsWithin sibling node.entry) :
    clipAtSiblings siblings node = node ∨ ∃ sibling ∈ siblings,
      node.entry.RunsInto sibling.entry ∧
        clipAtSiblings siblings node = node.clip sibling.entry.start := by
  unfold clipAtSiblings
  split
  next bound least =>
    obtain ⟨sibling, membership, startsBefore, endsAfter, notInside, rfl⟩ :=
      mem_straddledStarts.1 (List.min?_eq_some_iff.1 least).1
    have notOutside := Entry.not_contains_iff.1 (outside sibling membership)
    have notStarted := apart sibling membership
    simp only [startsWithin, Bool.and_eq_false_iff, decide_eq_false_iff_not] at notStarted
    rw [Entry.not_contains_iff] at notInside
    exact .inr ⟨sibling, membership, ⟨by omega, by omega, by omega⟩, rfl⟩
  next => exact .inl rfl

theorem clipAtSiblings_tidy (siblings : Forest) (tidy : node.Tidy) :
    (clipAtSiblings siblings node).Tidy := by
  rcases clipAtSiblings_eq siblings node with whole | ⟨bound, cut⟩
  · rwa [whole]
  · rw [cut]
    exact tidy.clip bound

/-- What is put among the siblings keeps a tree absorbed, whether the tree stays or moves below
it. -/
theorem Keeps.place {placed : Node}
    (outside : siblings.Lacks fun sibling => sibling.contains node.entry)
    (apart : siblings.Lacks fun sibling => startsWithin sibling node.entry)
    (placing : placed = clipAtSiblings siblings node) (nested : siblings.Nested)
    (nodeTidy : node.Tidy) (filled : Filled [placed])
    (keeps : Keeps placed.children
      (siblings.filter fun sibling => placed.entry.contains sibling.entry) grown) :
    Keeps siblings [node] (insertOrdered (.mk placed.entry grown)
      (siblings.filter fun sibling => !placed.entry.contains sibling.entry)) := by
  intro tree tidy clears clearsNode absorbs
  have there : .mk placed.entry grown ∈ insertOrdered (.mk placed.entry grown)
      (siblings.filter fun sibling => !placed.entry.contains sibling.entry) :=
    mem_insertOrdered.2 (.inl rfl)
  have placedTidy : placed.Tidy := placing ▸ clipAtSiblings_tidy siblings nodeTidy
  have cases := clipAtSiblings_cases outside apart
  rw [← placing] at cases
  have clearsPlaced : tree.Clears [placed] := by
    rcases cases with rfl | ⟨sibling, _, _, rfl⟩
    · exact clearsNode
    · exact clearsNode.clip_forest _
  have ends := placedTidy.nested.children_endsBy
  have movedEnds : EndsBy (siblings.filter fun sibling => placed.entry.contains sibling.entry)
      placed.entry.stop := by
    refine all_iff.2 fun sibling membership => ?_
    obtain ⟨present, contains⟩ := List.mem_filter.1 membership
    have siblingEnds := (Node.Nested.endsBy (nested_iff.1 nested sibling present)).imp
      fun _ _ ends => Nat.le_trans ends (Entry.contains_iff.1 contains).2
    exact (all_cons.1 siblingEnds).1
  have clearsMoved := All.filter clears fun sibling => placed.entry.contains sibling.entry
  have below := keeps.below ends movedEnds tidy (clearsPlaced.below (.head _)) clearsMoved
  rcases absorbs with old | new
  · obtain ⟨top, membership, receives, elsewhere⟩ := old.through
    cases inside : placed.entry.contains top.entry with
    | true =>
        have moved := elsewhere (siblings.filter fun sibling => placed.entry.contains sibling.entry)
          (List.mem_filter.2 ⟨membership, inside⟩)
        exact .inside there (receives.of_contains inside)
          (below (.inr (moved.clip_of_endsBy tidy movedEnds)))
    | false =>
        refine elsewhere _ (mem_insertOrdered.2 (.inr ?_))
        exact List.mem_filter.2 ⟨membership, by rw [inside]; rfl⟩
  rcases cases with rfl | ⟨sibling, inSiblings, runs, rfl⟩
  · cases new with
    | here membership same deeper =>
        obtain rfl := List.mem_singleton.1 membership
        exact .here there same fun child inTree => keeps child (tidy.child inTree)
          ((clearsPlaced.below (.head _)).child inTree) (Node.Clears.child clearsMoved inTree)
          (.inl (deeper child inTree))
    | inside membership receives deeper =>
        obtain rfl := List.mem_singleton.1 membership
        exact .inside there receives (below (.inl deeper))
  · -- The tree does not run into the sibling, so it is not what is cut there.
    have clear := (all_iff.1 clears sibling inSiblings).1 tree.entry (entry_mem_entries tree)
    cases new with
    | here membership same _ =>
        obtain rfl := List.mem_singleton.1 membership
        obtain ⟨start, stop⟩ := Entry.same_range same
        exact absurd ⟨start ▸ runs.1, stop ▸ runs.2.1, stop ▸ runs.2.2⟩ clear
    | @inside _ top _ membership receives deeper =>
        obtain rfl := List.mem_singleton.1 membership
        have belowFilled := (all_cons.1 filled).1.2
        rw [Node.children_clip] at belowFilled below
        have stop : (top.clip sibling.entry.start).entry.stop = sibling.entry.start := by
          rw [Node.entry_clip, Entry.clip_stop, Nat.min_eq_right (Nat.le_of_lt runs.2.1)]
        have cut := deeper.clip (tidy.clip _) belowFilled
        rw [Node.clip_clip, Nat.min_eq_right (Nat.le_of_lt runs.2.1)] at cut
        refine .inside there ?_ (below (.inl (by rw [stop]; exact cut)))
        have begun := cut.start_lt belowFilled _ (entry_mem_entries tree)
        rw [Node.entry_mk, Node.entry_clip]
        exact receives.clip_left begun runs clear

/-! ## The run of an insertion -/

/-- What is not empty once it is cut was not empty before. -/
theorem Shows.start_lt_stop {entry : Entry} (shows : forest.Shows entry) (filled : forest.Filled) :
    entry.start < entry.stop := by
  obtain ⟨shown, listed, shownBy⟩ := shows
  obtain ⟨bound, start, stop⟩ := shownBy.cut
  have shownFilled := all_entries.1 filled shown listed
  omega

/-- A result without empty ranges was made from forests without any. -/
theorem Inserted.filled (inserted : Inserted siblings nodes result) (filled : result.Filled) :
    siblings.Filled ∧ nodes.Filled := by
  obtain ⟨old, new⟩ := inserted.all_shows
  exact ⟨old.imp fun _ _ shows => shows.start_lt_stop filled,
    new.imp fun _ _ shows => shows.start_lt_stop filled⟩

/-- Inserting a tidy tree keeps a forest ordered and nested. -/
theorem Inserted.tidy (step : Inserted siblings [node] result) (ordered : siblings.Ordered)
    (nested : siblings.Nested) (nodeTidy : node.Tidy) : result.Ordered ∧ result.Nested := by
  have single : ∀ other ∈ [node], other.Ordered := by simpa using nodeTidy.ordered
  exact ⟨step.ordered ordered single,
    step.owned Ownership.contains ordered single nested ⟨nodeTidy.nested, trivial⟩⟩

/-- A tree that outlasts one insertion and then the others outlasts them all. -/
theorem Keeps.cons {next rest : Forest} (step : Inserted siblings [node] next)
    (first : Keeps siblings [node] next) (second : Keeps next rest result) :
    Keeps siblings (node :: rest) result := by
  intro tree tidy clears clearsNodes absorbs
  have clearsNode : tree.Clears [node] := ⟨clearsNodes.1, trivial⟩
  have clearsNext := clears.inserted clearsNode step
  have kept (old : siblings.Absorbs tree ∨ Absorbs [node] tree) : result.Absorbs tree :=
    second tree tidy clearsNext clearsNodes.2 (.inl (first tree tidy clears clearsNode old))
  rcases absorbs with old | new
  · exact kept (.inl old)
  · obtain ⟨top, membership, _, elsewhere⟩ := new.through
    rcases List.mem_cons.1 membership with rfl | later
    · exact kept (.inr (elsewhere _ (.head _)))
    · exact second tree tidy clearsNext clearsNodes.2 (.inr (elsewhere _ later))

/-- What stands below a symbol is not empty when nothing is in the end. -/
theorem Inserted.grown_filled {before after rest : Forest} {entry : Entry}
    (next : Inserted (before ++ .mk entry grown :: after) rest result) (filled : result.Filled) :
    grown.Filled :=
  (all_cons.1 (all_append.1 (next.filled filled).1).2).1.2

theorem FirstAt.children_shaped {test : Entry → Bool} {before after : Forest} {sibling : Node}
    (found : FirstAt test siblings before sibling after) (ordered : siblings.Ordered)
    (nested : siblings.Nested) : sibling.children.Ordered ∧ sibling.children.Nested :=
  ⟨(Node.ordered_iff.1 (ordered.mem found.mem)).2,
    (Node.each_iff.1 (nested_iff.1 nested sibling found.mem)).2⟩

/-- Trees that run into nothing are absorbed by the result of an insertion that leaves no
range empty, when what was there or what is inserted absorbs them. -/
theorem Inserted.keeps (inserted : Inserted siblings nodes result) :
    siblings.Ordered → siblings.Nested → (∀ node ∈ nodes, node.Tidy) → result.Filled →
      Keeps siblings nodes result := by
  induction inserted with
  | done =>
      intro _ _ _ _ tree _ _ _ absorbs
      rcases absorbs with old | new
      · exact old
      · obtain ⟨_, membership, _⟩ := new.through
        cases membership
  | @unify siblings before after grown rest result node sibling found inner next innerIh nextIh =>
      intro ordered nested tidy filled
      obtain ⟨nodeTidy, restTidy⟩ := List.forall_mem_cons.1 tidy
      have step := Inserted.unify found inner .done
      obtain ⟨nextOrdered, nextNested⟩ := step.tidy ordered nested nodeTidy
      obtain ⟨belowOrdered, belowNested⟩ := found.children_shaped ordered nested
      have grownFilled := next.grown_filled filled
      have keeps := innerIh belowOrdered belowNested (fun child inNode => nodeTidy.child inNode)
        grownFilled
      exact .cons step (.unify found nested nodeTidy keeps)
        (nextIh nextOrdered nextNested restTidy filled)
  | @nest siblings before after grown rest result node sibling fresh found inner next innerIh
      nextIh =>
      intro ordered nested tidy filled
      obtain ⟨nodeTidy, restTidy⟩ := List.forall_mem_cons.1 tidy
      have step := Inserted.nest fresh found inner .done
      obtain ⟨nextOrdered, nextNested⟩ := step.tidy ordered nested nodeTidy
      obtain ⟨belowOrdered, belowNested⟩ := found.children_shaped ordered nested
      have grownFilled := next.grown_filled filled
      have keeps := innerIh belowOrdered belowNested (by simpa using nodeTidy) grownFilled
      exact .cons step (.nest found nested nodeTidy keeps)
        (nextIh nextOrdered nextNested restTidy filled)
  | @cut siblings before after grown rest result node sibling fresh outside found inner next innerIh
      nextIh =>
      intro ordered nested tidy filled
      obtain ⟨nodeTidy, restTidy⟩ := List.forall_mem_cons.1 tidy
      have step := Inserted.cut fresh outside found inner .done
      obtain ⟨nextOrdered, nextNested⟩ := step.tidy ordered nested nodeTidy
      obtain ⟨belowOrdered, belowNested⟩ := found.children_shaped ordered nested
      have grownFilled := next.grown_filled filled
      have keeps := innerIh belowOrdered belowNested
        (by simpa using nodeTidy.clip sibling.entry.stop) grownFilled
      exact .cons step (.cut found nested (inner.filled grownFilled).2 keeps)
        (nextIh nextOrdered nextNested restTidy filled)
  | @place siblings grown rest result node placed fresh outside apart placing inner next innerIh
      nextIh =>
      intro ordered nested tidy filled
      obtain ⟨nodeTidy, restTidy⟩ := List.forall_mem_cons.1 tidy
      have step := Inserted.place fresh outside apart placing inner .done
      obtain ⟨nextOrdered, nextNested⟩ := step.tidy ordered nested nodeTidy
      obtain ⟨placedFilled, grownFilled⟩ :=
        all_iff.1 (next.filled filled).1 (.mk placed.entry grown) (mem_insertOrdered.2 (.inl rfl))
      have placedTidy : placed.Tidy := placing ▸ clipAtSiblings_tidy siblings nodeTidy
      have moved : ∀ sibling ∈ siblings.filter fun sibling => placed.entry.contains sibling.entry,
          sibling.Tidy := fun sibling membership =>
        have present := (List.mem_filter.1 membership).1
        ⟨ordered.mem present, nested_iff.1 nested sibling present⟩
      have keeps := innerIh (Node.ordered_iff.1 placedTidy.ordered).2
        (Node.each_iff.1 placedTidy.nested).2 moved grownFilled
      have whole : Filled [placed] :=
        all_cons.2 ⟨⟨placedFilled, (inner.filled grownFilled).1⟩, all_nil⟩
      exact .cons step (.place outside apart placing nested nodeTidy whole keeps)
        (nextIh nextOrdered nextNested restTidy filled)

/-! ## Merging the same outlines again -/

variable {host : Forest} {embedded : List Embedded}

/-- Outlines are tidy where they are placed, whatever they were like. -/
theorem placed_tidy (ranged : ∀ outline ∈ embedded, outline.forest.Ranged)
    (nested : ∀ outline ∈ embedded, outline.forest.Nested) :
    ∀ tree ∈ embedded.flatMap Embedded.placed, tree.Tidy := by
  intro tree membership
  obtain ⟨outline, listed, inPlaced⟩ := List.mem_flatMap.1 membership
  obtain ⟨root, inForest, rfl⟩ := List.mem_map.1 inPlaced
  have rootRanged := each_iff.1 (place_ranged outline.mapping (ranged outline listed)) root inForest
  have rootNested :=
    nested_iff.1 (place_nested outline.mapping (nested outline listed)) root inForest
  exact ⟨Node.normalize_ordered rootRanged,
    Node.normalize_owned Ownership.contains rootRanged rootNested⟩

/-- Ranges of which neither runs into the other do not cross. -/
theorem uncrossed_of_not_runsInto {a b : Entry} (clear : ¬a.RunsInto b) (other : ¬b.RunsInto a) :
    a.Uncrossed b := by
  intro overlapping
  simp only [Entry.overlaps, Bool.and_eq_true, decide_eq_true_eq] at overlapping
  unfold Entry.RunsInto at clear other
  rw [Entry.contains_iff, Entry.contains_iff]
  omega

/-- Merging the same outlines again changes nothing, so the number of symbols stays as it
is, if merging has left no range empty and no symbol of an outline runs into another
symbol of an outline or into one of the host forest.  Host symbols may run into those of
the outlines and into one another. -/
theorem merge_merge_of_clear (host : Forest) (embedded : List Embedded) (hostNested : host.Nested)
    (embeddedNested : ∀ outline ∈ embedded, outline.forest.Nested)
    (filled : (merge host embedded).Filled)
    (clear : ∀ entry ∈ givenEntries [] embedded,
      ∀ other ∈ givenEntries (normalize host) embedded, ¬entry.RunsInto other) :
    merge (merge host embedded) embedded = merge host embedded := by
  have merging := merge_inserted host embedded
  have given : ∀ entry ∈ givenEntries host embedded, entry.start < entry.stop :=
    fun entry isGiven => (merge_shows host embedded entry isGiven).start_lt_stop filled
  obtain ⟨hostFilled, placedFilled⟩ := all_givenEntries.1 given
  have hostRanged : host.Ranged := hostFilled.imp fun _ _ filled => Nat.le_of_lt filled
  have embeddedRanged : ∀ outline ∈ embedded, outline.forest.Ranged :=
    fun outline listed => ranged_of_place (placedFilled outline listed)
  have tidy := placed_tidy embeddedRanged embeddedNested
  have laid : (merge host embedded).Laid := ⟨filled, merge_ordered hostRanged embeddedRanged,
    merge_nested hostRanged embeddedRanged hostNested embeddedNested⟩
  -- Normal form cuts nothing of the outlines, so the inserted trees have their entries.
  have outlines : ∀ entry ∈ givenEntries [] embedded,
      entry ∈ givenEntries (normalize host) embedded :=
    fun _ isGiven => List.mem_append_right _ isGiven
  have laminar : Laminar (· ∈ givenEntries [] embedded) := fun a b aGiven bGiven =>
    uncrossed_of_not_runsInto (clear a aGiven b (outlines b bGiven))
      (clear b bGiven a (outlines a aGiven))
  have trees : All (· ∈ givenEntries [] embedded) (embedded.flatMap Embedded.placed) :=
    placed_all laminar (all_givenEntries.1 fun _ isGiven => isGiven).2
  have absorbed : ∀ tree ∈ embedded.flatMap Embedded.placed,
      (merge host embedded).Absorbs tree := by
    intro tree membership
    have own : ∀ entry ∈ entries [tree], entry ∈ givenEntries [] embedded :=
      all_entries.1 (all_cons.2 ⟨all_iff.1 trees tree membership, all_nil⟩)
    have clearsHost : tree.Clears (normalize host) := all_entries.2 fun other inHost entry listed =>
      clear entry (own entry listed) other (List.mem_append_left _ inHost)
    have clearsTrees : tree.Clears (embedded.flatMap Embedded.placed) :=
      trees.imp fun other _ isGiven entry listed =>
        clear entry (own entry listed) other (outlines other isGiven)
    exact merging.keeps (normalize_ordered hostRanged) (normalize_nested hostRanged hostNested) tidy
      filled tree (tidy tree membership) clearsHost clearsTrees
      (.inr (Node.absorbs_of_mem membership))
  have again := merge_inserted (merge host embedded) embedded
  rw [normalize_eq_self laid.ordered filled] at again
  exact again.eq_of_absorbs laid tidy absorbed

/-- A list and its item begin inside a function and run past its end, so both are cut there,
once and for all. -/
theorem merge_merge_of_clear_past_end :
    let host : Forest := [.leaf (.of "f" .ofFunction 0 12 .host),
      .leaf (.of "g" .ofFunction 30 40 .host)]
    let embedded : List Embedded := [⟨⟨5, 20⟩, [.mk (.of "ul" .ofElement 0 20 .embedded)
      [.leaf (.of "li" .ofElement 2 9 .embedded)]]⟩]
    (merge host embedded).entries = [.of "f" .ofFunction 0 12 .host,
      .of "ul" .ofElement 5 12 .embedded, .of "li" .ofElement 7 12 .embedded,
      .of "g" .ofFunction 30 40 .host] ∧
    merge (merge host embedded) embedded = merge host embedded := by
  intro host embedded
  have hostNested : host.Nested := by
    simp [host, Nested, Forest.Each, Node.Each, Node.leaf, Within]
  have embeddedNested : ∀ outline ∈ embedded, outline.forest.Nested := by
    simp [embedded, Nested, Forest.Each, Node.Each, Node.leaf, Within, Entry.of, Entry.contains]
  have filled : (merge host embedded).Filled := all_entries.2 (by decide)
  exact ⟨by decide, merge_merge_of_clear host embedded hostNested embeddedNested filled (by decide)⟩

/-- A symbol of an outline runs into a host symbol and is cut where that one starts.  It is
not found there when the outline is merged again, and a second symbol takes it over. -/
theorem size_merge_merge_lt :
    let host : Forest := [.leaf (.of "f" .ofFunction 5 15 .host)]
    let embedded : List Embedded := [⟨⟨0, 20⟩, [.leaf (.of "p" .ofElement 0 10 .embedded)]⟩]
    (host.Ranged ∧ host.Nested ∧
      ∀ outline ∈ embedded, outline.forest.Ranged ∧ outline.forest.Nested) ∧
    Forest.size (merge host embedded) = 2 ∧
      Forest.size (merge (merge host embedded) embedded) = 3 := by
  refine ⟨⟨?_, ?_, ?_⟩, by decide, by decide⟩
  · simp [Ranged, Forest.Each, Node.Each, Node.leaf, Entry.of]
  · simp [Nested, Forest.Each, Node.Each, Node.leaf, Within]
  · simp [Ranged, Nested, Forest.Each, Node.Each, Node.leaf, Within, Entry.of]

/-- Two items that are cut to nothing by the end of a function become one when the merged
forest is brought to normal form. -/
example :
    let host : Forest := [.leaf (.of "f" .ofFunction 0 5 .host)]
    let embedded : List Embedded := [⟨⟨3, 20⟩, [.mk (.of "ul" .ofElement 0 7 .embedded)
      [.leaf (.of "li" .ofElement 3 4 .embedded), .leaf (.of "li" .ofElement 5 6 .embedded)]]⟩]
    Forest.size (merge host embedded) = 4 ∧
      Forest.size (merge (merge host embedded) embedded) = 3 := by
  decide

end Forest

end Inlay
