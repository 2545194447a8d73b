import Inlay.Proofs.Symbol.Filing

/-!
# Where a filed tree ends up

A tree *shelters* a symbol with some forest when the symbol is in it, below symbols
that all contain it, and the forest is embedded below the symbol.  Filing other trees
keeps this, whether the symbol is among what was there or among what is filed.

A tree that lies inside a sheltered symbol goes below it.  At every depth exactly one
sibling contains a tree that is not empty, because siblings are apart; it is the one
that leads to the symbol, so the descent does not go astray.

Merging files the placed outlines one after the other.  If the ranges of all symbols
do not cross, a symbol of the host forest ends up with an outline embedded below it
when the outline lies inside it.
-/

namespace Inlay

/-- The tree holds the symbol below symbols that contain it, with the forest embedded
below it. -/
inductive Node.Shelters (target : Entry) (content : Forest) : Node → Prop where
  | here {node : Node} :
      node.entry.same target = true → content.EmbedsIn node.children →
      Shelters target content node
  | under {node child : Node} :
      node.entry.contains target = true → child ∈ node.children →
      Shelters target content child → Shelters target content node

/-- One of the trees shelters the symbol. -/
def Forest.Shelters (forest : Forest) (target : Entry) (content : Forest) : Prop :=
  ∃ node ∈ forest, node.Shelters target content

variable {target : Entry} {content : Forest}

theorem Node.Shelters.contains {node : Node} (shelters : node.Shelters target content) :
    node.entry.contains target = true := by
  cases shelters with
  | here same _ => exact Entry.contains_of_same same
  | under contains _ _ => exact contains

/-- A tree goes on sheltering the symbol when the trees below it grow. -/
theorem Node.Shelters.grow {node : Node} {entry : Entry} {grown : Forest}
    (shelters : node.Shelters target content) (same : entry.same node.entry = true)
    (embeds : node.children.EmbedsIn grown)
    (keeps : node.children.Shelters target content → grown.Shelters target content) :
    (Node.mk entry grown).Shelters target content := by
  cases shelters with
  | here isTarget inside => exact .here (Entry.same_trans same isTarget) (inside.trans embeds)
  | under contains membership deeper =>
      obtain ⟨child, inGrown, found⟩ := keeps ⟨_, membership, deeper⟩
      exact .under (Entry.contains_trans (Entry.contains_of_same same) contains) inGrown found

namespace Forest

/-- A forest goes on sheltering the symbol when the trees below one of its symbols
grow. -/
theorem Shelters.replace {test : Entry → Bool} {siblings before after grown : Forest}
    {sibling : Node} (shelters : siblings.Shelters target content)
    (first : FirstAt test siblings before sibling after)
    (embeds : sibling.children.EmbedsIn grown)
    (keeps : sibling.children.Shelters target content → grown.Shelters target content) :
    Shelters (before ++ .mk sibling.entry grown :: after) target content := by
  obtain ⟨node, membership, found⟩ := shelters
  rw [first.split] at membership
  rcases List.mem_append.1 membership with early | rest
  · exact ⟨node, List.mem_append_left _ early, found⟩
  · rcases List.mem_cons.1 rest with rfl | late
    · exact ⟨_, List.mem_append_right _ (.head _), found.grow (Entry.same_refl _) embeds keeps⟩
    · exact ⟨node, List.mem_append_right _ (.tail _ late), found⟩

/-- A forest goes on sheltering the symbol when another symbol takes over the trees it
contains. -/
theorem Shelters.place {siblings grown : Forest} {entry : Entry}
    (shelters : siblings.Shelters target content)
    (keeps : Shelters (siblings.filter fun sibling => entry.contains sibling.entry) target content →
      grown.Shelters target content) :
    Shelters (insertOrdered (.mk entry grown)
      (siblings.filter fun sibling => !entry.contains sibling.entry)) target content := by
  obtain ⟨node, membership, found⟩ := shelters
  cases inside : entry.contains node.entry with
  | true =>
      obtain ⟨child, inGrown, deeper⟩ := keeps ⟨node, List.mem_filter.2 ⟨membership, inside⟩, found⟩
      exact ⟨_, mem_insertOrdered.2 (.inl rfl),
        .under (Entry.contains_trans inside found.contains) inGrown deeper⟩
  | false =>
      refine ⟨node, mem_insertOrdered.2 (.inr ?_), found⟩
      exact List.mem_filter.2 ⟨membership, by rw [inside]; rfl⟩

/-- Filing keeps what is sheltered, by the forest or by what is filed. -/
theorem Filed.shelters {siblings nodes result : Forest} (filed : Filed siblings nodes result) :
    (siblings.Shelters target content → result.Shelters target content) ∧
      (nodes.Shelters target content → result.Shelters target content) := by
  induction filed with
  | done => exact ⟨id, fun ⟨_, absent, _⟩ => absurd absent List.not_mem_nil⟩
  | @unify siblings before after grown rest result node sibling found inner _ innerIh nextIh =>
      refine ⟨fun shelters => nextIh.1 (shelters.replace found inner.embeds.1 innerIh.1), ?_⟩
      rintro ⟨other, membership, shelters⟩
      rcases List.mem_cons.1 membership with rfl | later
      · have grew := shelters.grow found.passes inner.embeds.2 innerIh.2
        exact nextIh.1 ⟨_, List.mem_append_right _ (.head _), grew⟩
      · exact nextIh.2 ⟨other, later, shelters⟩
  | @nest siblings before after grown rest result node sibling found inner _ innerIh nextIh =>
      refine ⟨fun shelters => nextIh.1 (shelters.replace found inner.embeds.1 innerIh.1), ?_⟩
      rintro ⟨other, membership, shelters⟩
      rcases List.mem_cons.1 membership with rfl | later
      · obtain ⟨child, inGrown, deeper⟩ := innerIh.2 ⟨other, .head _, shelters⟩
        have grew : (Node.mk sibling.entry grown).Shelters target content :=
          .under (Entry.contains_trans found.passes shelters.contains) inGrown deeper
        exact nextIh.1 ⟨_, List.mem_append_right _ (.head _), grew⟩
      · exact nextIh.2 ⟨other, later, shelters⟩
  | @place siblings grown rest result node _ inner _ innerIh nextIh =>
      refine ⟨fun shelters => nextIh.1 (shelters.place innerIh.2), ?_⟩
      rintro ⟨other, membership, shelters⟩
      rcases List.mem_cons.1 membership with rfl | later
      · have grew := shelters.grow (Entry.same_refl _) inner.embeds.1 innerIh.1
        exact nextIh.1 ⟨_, mem_insertOrdered.2 (.inl rfl), grew⟩
      · exact nextIh.2 ⟨other, later, shelters⟩

/-! ## Going below a sheltered symbol -/

/-- Only one of several siblings that are apart contains a range that is not empty. -/
theorem Apart.eq_of_contains {siblings : Forest} (apart : siblings.Apart) {a b : Node}
    {entry : Entry} (nonempty : entry.start < entry.stop) (first : a ∈ siblings)
    (second : b ∈ siblings) (firstContains : a.entry.contains entry = true)
    (secondContains : b.entry.contains entry = true) : a = b := by
  rw [Entry.contains_iff] at firstContains secondContains
  rcases apart.either first second with same | before | after
  · exact same
  · omega
  · omega

/-- A tree that is filed and lies inside a sheltered symbol goes below it. -/
theorem Filed.settles {siblings nodes result : Forest} {node : Node}
    (filed : Filed siblings nodes result) (single : nodes = [node]) (ordered : siblings.Ordered)
    (shelters : siblings.Shelters target content) (nonempty : node.entry.start < node.entry.stop)
    (inside : target.contains node.entry = true) (within : node.entry.contains target = false) :
    result.Shelters target (content ++ [node]) := by
  induction filed with
  | done => cases single
  | @unify siblings before after grown rest result inserted sibling found _ _ _ _ =>
      cases single
      -- A sibling with the range of the tree would be the one that leads to the symbol.
      obtain ⟨leading, membership, leads⟩ := shelters
      have alone := ordered.1.eq_of_contains nonempty membership found.mem
        (Entry.contains_trans leads.contains inside) (Entry.contains_of_same found.passes)
      obtain ⟨sameStart, sameStop⟩ := Entry.same_range found.passes
      have around := Entry.contains_iff.1 leads.contains
      rw [alone] at around
      rw [Entry.not_contains_iff] at within
      omega
  | @nest siblings before after grown rest result inserted sibling found inner next innerIh _ =>
      cases single
      cases next
      obtain ⟨leading, membership, leads⟩ := shelters
      obtain rfl := ordered.1.eq_of_contains nonempty membership found.mem
        (Entry.contains_trans leads.contains inside) found.passes
      refine ⟨.mk leading.entry grown, List.mem_append_right _ (.head _), ?_⟩
      have below := (Node.ordered_iff.1 (ordered.mem membership)).2
      cases leads with
      | here same embeds =>
          exact .here same ((embeds.trans inner.embeds.1).append inner.embeds.2)
      | under contains inChildren deeper =>
          obtain ⟨child, inGrown, settled⟩ := innerIh rfl below ⟨_, inChildren, deeper⟩
          exact .under contains inGrown settled
  | place outside _ _ _ _ =>
      cases single
      obtain ⟨leading, membership, leads⟩ := shelters
      have contains := Entry.contains_trans leads.contains inside
      exact absurd contains (Bool.eq_false_iff.1 (outside leading membership))

/-- What a forest shelters is embedded in it. -/
theorem Shelters.embedsIn {forest : Forest} (shelters : forest.Shelters target content) :
    (Node.mk target content).EmbedsIn forest := by
  obtain ⟨node, membership, found⟩ := shelters
  induction found generalizing forest with
  | @here node same embeds => exact ⟨node, .here membership, same, embeds⟩
  | under _ inChildren _ ih => exact (ih inChildren).of_below (.here membership)

/-! ## Inserting many trees -/

theorem inserted_foldl (siblings nodes : Forest) :
    Inserted siblings nodes (nodes.foldl insert siblings) := by
  induction nodes generalizing siblings with
  | nil => exact .done
  | cons node rest ih => exact (insert_inserted siblings node).append (ih _)

variable {holds : Entry → Prop}

theorem filed_foldl (laminar : Laminar holds) {siblings nodes : Forest}
    (all : siblings.All holds) (nodesAll : nodes.All holds) :
    Filed siblings nodes (nodes.foldl insert siblings) ∧
      All holds (nodes.foldl insert siblings) :=
  (inserted_foldl siblings nodes).filed laminar all nodesAll

/-- Trees that lie inside a sheltered symbol go below it one after the other. -/
theorem foldl_insert_settles (laminar : Laminar holds) {siblings nodes : Forest}
    (all : siblings.All holds) (nodesAll : nodes.All holds) (ordered : siblings.Ordered)
    (nodesOrdered : ∀ node ∈ nodes, node.Ordered)
    (nonempty : ∀ node ∈ nodes, node.entry.start < node.entry.stop)
    (inside : ∀ node ∈ nodes,
      target.contains node.entry = true ∧ node.entry.contains target = false)
    (shelters : siblings.Shelters target content) :
    Shelters (nodes.foldl insert siblings) target (content ++ nodes) := by
  induction nodes generalizing siblings content with
  | nil => simpa using shelters
  | cons node rest ih =>
      obtain ⟨nodeAll, restAll⟩ := all_cons.1 nodesAll
      obtain ⟨nodeOrdered, restOrdered⟩ := List.forall_mem_cons.1 nodesOrdered
      obtain ⟨nodeNonempty, restNonempty⟩ := List.forall_mem_cons.1 nonempty
      obtain ⟨⟨contains, strictly⟩, restInside⟩ := List.forall_mem_cons.1 inside
      obtain ⟨filed, nextAll⟩ :=
        (insert_inserted siblings node).filed laminar all (all_cons.2 ⟨nodeAll, all_nil⟩)
      have settled := filed.settles rfl ordered shelters nodeNonempty contains strictly
      have rested := ih nextAll restAll (ordered.insert nodeOrdered) restOrdered restNonempty
        restInside settled
      rwa [List.append_assoc] at rested

/-- So they do when other trees are inserted before and after them. -/
theorem foldl_insert_shelters (laminar : Laminar holds) {siblings before own after : Forest}
    (all : siblings.All holds) (nodesAll : All holds (before ++ (own ++ after)))
    (ordered : siblings.Ordered) (nodesOrdered : ∀ node ∈ before ++ (own ++ after), node.Ordered)
    (nonempty : ∀ node ∈ own, node.entry.start < node.entry.stop)
    (inside : ∀ node ∈ own,
      target.contains node.entry = true ∧ node.entry.contains target = false)
    (shelters : siblings.Shelters target []) :
    Shelters ((before ++ (own ++ after)).foldl insert siblings) target own := by
  simp only [all_append] at nodesAll
  simp only [List.forall_mem_append] at nodesOrdered
  rw [List.foldl_append, List.foldl_append]
  obtain ⟨filedBefore, allBefore⟩ := filed_foldl laminar all nodesAll.1
  have orderedBefore := (inserted_foldl siblings before).ordered ordered nodesOrdered.1
  have settled := foldl_insert_settles laminar allBefore nodesAll.2.1 orderedBefore
    nodesOrdered.2.1 nonempty inside (filedBefore.shelters.1 shelters)
  have allOwn := (filed_foldl laminar allBefore nodesAll.2.1).2
  exact (filed_foldl laminar allOwn nodesAll.2.2).1.shelters.1 settled

/-! ## Normal form -/

theorem normalizeInto_eq_foldl (built forest : Forest) :
    built.normalizeInto forest = (forest.map Node.normalize).foldl insert built := by
  induction forest generalizing built with
  | nil => rfl
  | cons node rest ih => rw [normalizeInto, ih, List.map_cons, List.foldl_cons]

theorem normalize_inserted (forest : Forest) :
    Inserted [] (forest.map Node.normalize) (normalize forest) := by
  rw [normalize, normalizeInto_eq_foldl]
  exact inserted_foldl [] _

end Forest

theorem Node.children_normalize (node : Node) :
    node.normalize.children = Forest.normalize node.children := by
  cases node with
  | mk entry children => rfl

variable {holds : Entry → Prop}

mutual

/-- The normal form of a tree has the same entries, and keeps what is below them. -/
theorem Node.normalize_kept (laminar : Laminar holds) :
    ∀ {node : Node}, node.children.All holds →
      node.normalize.children.All holds ∧ node.children.EmbedsIn node.normalize.children
  | .mk _ children, all => by
      obtain ⟨formsAll, kept⟩ := Forest.map_normalize_kept laminar all
      obtain ⟨filed, resultAll⟩ :=
        (Forest.normalize_inserted children).filed laminar Forest.all_nil formsAll
      exact ⟨resultAll, kept.trans filed.embeds.2⟩

theorem Forest.map_normalize_kept (laminar : Laminar holds) :
    ∀ {forest : Forest}, forest.All holds →
      Forest.All holds (forest.map Node.normalize) ∧
        forest.EmbedsIn (forest.map Node.normalize)
  | [], _ => ⟨trivial, trivial⟩
  | node :: rest, all => by
      obtain ⟨⟨nodeHolds, childrenAll⟩, restAll⟩ := Forest.all_cons.1 all
      obtain ⟨formAll, kept⟩ := Node.normalize_kept laminar childrenAll
      obtain ⟨formsAll, restKept⟩ := Forest.map_normalize_kept laminar restAll
      have image : node.EmbedsIn (node.normalize :: rest.map Node.normalize) :=
        Node.embedsIn_iff.2 ⟨node.normalize, .here (.head _),
          by rw [Node.entry_normalize]; exact Entry.same_refl _, kept⟩
      have later : Forest.EmbedsIn (rest.map Node.normalize)
          (node.normalize :: rest.map Node.normalize) :=
        Forest.embedsIn_of_subset fun _ membership => .tail _ membership
      refine ⟨Forest.all_cons.2 ⟨⟨?_, formAll⟩, formsAll⟩, image, restKept.trans later⟩
      rwa [Node.entry_normalize]

end

namespace Forest

/-! ## Merging -/

/-- The trees of an outline as they are inserted: placed in the document and brought to
normal form. -/
def Embedded.placed (outline : Embedded) : Forest :=
  (Forest.place outline.mapping outline.forest).map Node.normalize

theorem merge_eq_foldl (host : Forest) (embedded : List Embedded) :
    merge host embedded = (embedded.flatMap Embedded.placed).foldl insert (normalize host) := by
  simp only [merge, List.foldl_flatMap, Embedded.placed, place_eq_map, List.map_map,
    List.foldl_map, Function.comp_apply]

theorem merge_inserted (host : Forest) (embedded : List Embedded) :
    Inserted (normalize host) (embedded.flatMap Embedded.placed) (merge host embedded) := by
  rw [merge_eq_foldl]
  exact inserted_foldl _ _

theorem all_placed {embedded : List Embedded} :
    All holds (embedded.flatMap Embedded.placed) ↔
      ∀ outline ∈ embedded, All holds outline.placed := by
  constructor
  · intro all outline listed
    exact all_iff.2 fun node inPlaced =>
      all_iff.1 all node (List.mem_flatMap.2 ⟨outline, listed, inPlaced⟩)
  · intro all
    refine all_iff.2 fun node membership => ?_
    obtain ⟨outline, listed, inPlaced⟩ := List.mem_flatMap.1 membership
    exact all_iff.1 (all outline listed) node inPlaced

/-- The inserted trees have the entries of the placed outlines. -/
theorem placed_all (laminar : Laminar holds) {embedded : List Embedded}
    (embeddedAll : ∀ outline ∈ embedded, (Forest.place outline.mapping outline.forest).All holds) :
    All holds (embedded.flatMap Embedded.placed) :=
  all_placed.2 fun outline listed => (map_normalize_kept laminar (embeddedAll outline listed)).1

/-- In normal form every symbol of a forest is sheltered. -/
theorem normalize_shelters (laminar : Laminar holds) {forest : Forest} (all : forest.All holds)
    {node : Node} (membership : node ∈ forest) :
    (normalize forest).All holds ∧ (normalize forest).Shelters node.entry [] := by
  have formsAll := (map_normalize_kept laminar all).1
  obtain ⟨filed, resultAll⟩ := (normalize_inserted forest).filed laminar all_nil formsAll
  have itself : node.normalize.Shelters node.entry [] :=
    .here (by rw [Node.entry_normalize]; exact Entry.same_refl _) trivial
  exact ⟨resultAll, filed.shelters.2 ⟨_, List.mem_map_of_mem membership, itself⟩⟩

/-- Where no two ranges cross, an outline that lies inside a symbol of the host forest is
embedded below that symbol in the merged forest. -/
theorem merge_embeds (laminar : Laminar holds) {host : Forest} {embedded : List Embedded}
    (hostAll : host.All holds) (hostRanged : host.Ranged)
    (embeddedAll : ∀ outline ∈ embedded, (Forest.place outline.mapping outline.forest).All holds)
    (embeddedRanged : ∀ outline ∈ embedded, outline.forest.Ranged)
    {symbol : Node} (inHost : symbol ∈ host) {outline : Embedded} (listed : outline ∈ embedded)
    (nonempty : ∀ root ∈ Forest.place outline.mapping outline.forest,
      root.entry.start < root.entry.stop)
    (inside : ∀ root ∈ Forest.place outline.mapping outline.forest,
      symbol.entry.contains root.entry = true ∧ root.entry.contains symbol.entry = false) :
    (Node.mk symbol.entry (Forest.place outline.mapping outline.forest)).EmbedsIn
      (merge host embedded) := by
  have treesAll := placed_all laminar embeddedAll
  have treesOrdered : ∀ node ∈ embedded.flatMap Embedded.placed, node.Ordered := by
    intro node membership
    obtain ⟨outline, inEmbedded, inPlaced⟩ := List.mem_flatMap.1 membership
    obtain ⟨root, inForest, rfl⟩ := List.mem_map.1 inPlaced
    have ranged := place_ranged outline.mapping (embeddedRanged outline inEmbedded)
    exact Node.normalize_ordered (each_iff.1 ranged root inForest)
  have roots : ∀ node ∈ outline.placed, node.entry.start < node.entry.stop ∧
      symbol.entry.contains node.entry = true ∧ node.entry.contains symbol.entry = false := by
    intro node inPlaced
    obtain ⟨root, inForest, rfl⟩ := List.mem_map.1 inPlaced
    rw [Node.entry_normalize]
    exact ⟨nonempty root inForest, inside root inForest⟩
  obtain ⟨normalAll, sheltered⟩ := normalize_shelters laminar hostAll inHost
  have kept := (map_normalize_kept laminar (embeddedAll outline listed)).2
  obtain ⟨earlier, later, rfl⟩ := List.append_of_mem listed
  rw [List.flatMap_append, List.flatMap_cons] at treesAll treesOrdered
  have filled := foldl_insert_shelters laminar normalAll treesAll (normalize_ordered hostRanged)
    treesOrdered (fun node membership => (roots node membership).1)
    (fun node membership => (roots node membership).2) sheltered
  rw [merge_eq_foldl, List.flatMap_append, List.flatMap_cons]
  obtain ⟨image, held, same, below⟩ := filled.embedsIn
  exact ⟨image, held, same, kept.trans below⟩

end Forest

end Inlay
