import Inlay.Proofs.Symbol.Accounting
import Inlay.Proofs.Symbol.Filing

/-!
# Outlines of tags that do not match

Whatever the tags of a content, its outline is a proper one: the elements nest, siblings
are in order and apart, and every tag is accounted for.

That elements nest is part of `OutlineBuilder.Sound`.  That siblings are in order is not,
for an element may join siblings long after it was opened, when elements around it are
closed with it.  `OutlineBuilder.Aligned` therefore compares what is closed with what is
still open: siblings closed before an element was opened end where it starts or before.
-/

namespace Inlay

/-! ## The order of siblings -/

theorem Forest.Ordered.attach {siblings : Forest} {node : Node} (ordered : siblings.Ordered)
    (last : node.Ordered) (behind : ∀ sibling ∈ siblings, sibling.entry.stop ≤ node.entry.start) :
    Forest.Ordered (siblings ++ [node]) := by
  obtain ⟨apart, each⟩ := Forest.ordered_iff.1 ordered
  refine Forest.ordered_iff.2 ⟨List.pairwise_append.2 ⟨apart, List.pairwise_singleton _ _, ?_⟩, ?_⟩
  · intro sibling membership other new
    obtain rfl := List.mem_singleton.1 new
    exact behind sibling membership
  · intro other membership
    rcases List.mem_append.1 membership with old | new
    · exact each other old
    · obtain rfl := List.mem_singleton.1 new
      exact last

theorem Marker.element_ordered (marker : Marker) (stop : Nat) {children : Forest}
    (ordered : children.Ordered) : (marker.element stop children).Ordered :=
  Node.ordered_iff.2 ⟨Nat.le_max_right stop marker.offset, ordered⟩

namespace OutlineBuilder

/-- Closed siblings are in order, and what was closed before an element was opened ends
where the element starts or before. -/
structure Aligned (builder : OutlineBuilder) : Prop where
  roots : builder.outline.roots.Ordered
  children : ∀ element ∈ builder.stack, element.children.Ordered
  rootsEnd : ∀ element ∈ builder.stack, ∀ root ∈ builder.outline.roots,
    root.entry.stop ≤ element.marker.offset
  childrenEnd : builder.stack.Pairwise fun inner outer =>
    ∀ child ∈ outer.children, child.entry.stop ≤ inner.marker.offset

/-- The closed elements next to which the next one is put. -/
def siblings (builder : OutlineBuilder) : Forest :=
  match builder.stack with
  | [] => builder.outline.roots
  | parent :: _ => parent.children

variable {builder : OutlineBuilder} {read : Nat}

theorem Sound.siblings_stop_le (sound : builder.Sound read) :
    ∀ sibling ∈ builder.siblings, sibling.entry.stop ≤ read := by
  intro sibling membership
  obtain ⟨stack, outline⟩ := builder
  cases stack with
  | nil => exact (sound.roots sibling membership).2
  | cons parent outer => exact ((sound.stack parent (.head _)).children sibling membership).2.2

/-- An element that begins behind its siblings keeps them in order. -/
theorem Aligned.attach {node : Node} (aligned : builder.Aligned) (ordered : node.Ordered)
    (behind : ∀ sibling ∈ builder.siblings, sibling.entry.stop ≤ node.entry.start) :
    (builder.attach node).Aligned := by
  obtain ⟨stack, outline⟩ := builder
  cases stack with
  | nil =>
      exact ⟨aligned.roots.attach ordered behind, by simp [OutlineBuilder.attach],
        by simp [OutlineBuilder.attach], .nil⟩
  | cons parent outer =>
      obtain ⟨parentChildren, outerChildren⟩ := List.forall_mem_cons.1 aligned.children
      exact ⟨aligned.roots,
        List.forall_mem_cons.2 ⟨parentChildren.attach ordered behind, outerChildren⟩,
        List.forall_mem_cons.2 (List.forall_mem_cons.1 aligned.rootsEnd),
        List.pairwise_cons.2 (List.pairwise_cons.1 aligned.childrenEnd)⟩

/-- An element that is closed goes behind those that were read before it. -/
theorem Aligned.closeInner (aligned : builder.Aligned) (stop : Nat) :
    (builder.closeInner stop).Aligned := by
  obtain ⟨stack, outline⟩ := builder
  cases stack with
  | nil => exact aligned
  | cons inner outer =>
      obtain ⟨innerChildren, outerChildren⟩ := List.forall_mem_cons.1 aligned.children
      obtain ⟨rootsEnd, outerRootsEnd⟩ := List.forall_mem_cons.1 aligned.rootsEnd
      obtain ⟨childrenEnd, outerChildrenEnd⟩ := List.pairwise_cons.1 aligned.childrenEnd
      have rest : Aligned ⟨outer, outline⟩ :=
        ⟨aligned.roots, outerChildren, outerRootsEnd, outerChildrenEnd⟩
      refine rest.attach (inner.marker.element_ordered stop innerChildren) ?_
      -- the element joins those closed before its own tag was read
      cases outer with
      | nil => exact rootsEnd
      | cons parent outermost => exact childrenEnd parent (.head _)

theorem Aligned.abandon (catalog : Catalog) (stop count : Nat) (aligned : builder.Aligned) :
    (builder.abandon catalog stop count).Aligned := by
  induction count generalizing builder with
  | zero => exact aligned
  | succ count ih =>
      refine ih ?_
      rw [abandonInner_eq]
      have reported : (builder.report
          ((builder.opened.take 1).filter (Marker.needsEnd catalog))).Aligned :=
        ⟨aligned.roots, aligned.children, aligned.rootsEnd, aligned.childrenEnd⟩
      exact reported.closeInner stop

/-- One marker keeps the elements in order, if it begins behind what was read. -/
theorem Aligned.step (catalog : Catalog) {marker : Marker} (aligned : builder.Aligned)
    (sound : builder.Sound read) (next : read ≤ marker.offset) :
    (builder.step catalog marker).Aligned := by
  cases Marker.role catalog builder.opened marker with
  | leaf begins shut =>
      rw [step_of_leaf builder begins shut]
      exact aligned.attach (marker.element_ordered marker.stop ⟨.nil, trivial⟩)
        fun sibling membership => Nat.le_trans (sound.siblings_stop_le sibling membership) next
  | push opens =>
      rw [step_of_push builder opens]
      refine ⟨aligned.roots, List.forall_mem_cons.2 ⟨⟨.nil, trivial⟩, aligned.children⟩,
        List.forall_mem_cons.2 ⟨?_, aligned.rootsEnd⟩,
        List.pairwise_cons.2 ⟨?_, aligned.childrenEnd⟩⟩
      · exact fun root membership => Nat.le_trans (sound.roots root membership).2 next
      · intro element listed child membership
        exact Nat.le_trans ((sound.stack element listed).children child membership).2.2 next
  | close kind parts passed same =>
      rw [step_of_close builder kind parts passed same]
      exact (aligned.abandon catalog _ _).closeInner _
  | stray kind unmatched =>
      rw [step_of_stray builder kind unmatched]
      exact ⟨aligned.roots, aligned.children, aligned.rootsEnd, aligned.childrenEnd⟩
  | plain kind =>
      rw [step_of_isTag_eq_false catalog builder kind]
      exact aligned

theorem Aligned.foldl_step (catalog : Catalog) {length : Nat} {markers : List Marker}
    (aligned : builder.Aligned) (sound : builder.Sound read)
    (inOrder : Marker.InOrder length markers) (next : ∀ marker ∈ markers, read ≤ marker.offset) :
    (markers.foldl (OutlineBuilder.step catalog) builder).Aligned := by
  induction markers generalizing builder read with
  | nil => exact aligned
  | cons marker rest ih =>
      obtain ⟨behind, restApart⟩ := List.pairwise_cons.1 inOrder.apart
      obtain ⟨⟨nonempty, -⟩, restFits⟩ := List.forall_mem_cons.1 inOrder.within
      have here := next marker (.head _)
      exact ih (aligned.step catalog sound here) (sound.step catalog here nonempty)
        ⟨restApart, restFits⟩ behind

end OutlineBuilder

/-! ## What the outline of any tags holds -/

namespace Outline

variable (catalog : Catalog) {length : Nat} {markers : List Marker}

/-- An outline has one element for each tag that begins one, in the order of the text. -/
theorem heads_build (length : Nat) (markers : List Marker) :
    (build catalog length markers).roots.heads =
      (markers.filter Marker.begins).map Marker.head := by
  obtain ⟨passed, stray, reading⟩ := OutlineBuilder.reading_foldl catalog {} markers
  exact (OutlineBuilder.heads_abandon_all catalog _ length).trans reading.preorder

/-- An element with a closing tag of its own ends with that tag. -/
theorem closings_mem_build (length : Nat) {tag closer : Marker}
    (paired : (tag, closer) ∈ Marker.closings catalog [] markers) :
    Entry.of tag.elementName .ofElement tag.offset closer.stop .embedded ∈
      (build catalog length markers).roots.entries := by
  obtain ⟨passed, stray, reading⟩ := OutlineBuilder.reading_foldl catalog {} markers
  exact OutlineBuilder.mem_entries_abandon_all catalog _ length (reading.ended tag closer paired)

/-- In a forest of solid trees that ends by some offset, every range does. -/
theorem all_of_solid {forest : Forest} {length : Nat}
    (solid : ∀ root ∈ forest, root.Solid ∧ root.entry.stop ≤ length) :
    forest.All fun entry => entry.start < entry.stop ∧ entry.stop ≤ length := by
  have filled : forest.Filled := Forest.each_iff.2 fun root membership =>
    Node.Each.imp (fun _ _ both => both.1) (solid root membership).1
  have ends : forest.All fun entry => entry.stop ≤ length := by
    refine Forest.each_iff.2 fun root membership => ?_
    have itself : root.entry.contains root.entry = true :=
      Entry.contains_iff.2 ⟨Nat.le_refl _, Nat.le_refl _⟩
    exact Node.Each.imp
      (fun _ _ inside => Nat.le_trans (Entry.contains_iff.1 inside).2 (solid root membership).2)
      (Node.Nested.all_within (solid root membership).1.nested itself)
  exact Forest.all_entries.2 fun entry listed =>
    ⟨Forest.all_entries.1 filled entry listed, Forest.all_entries.1 ends entry listed⟩

/-- Siblings are in order, elements nest, and none is empty or runs past the content. -/
theorem build_shaped (inOrder : Marker.InOrder length (markers.filter (·.kind.isTag))) :
    (build catalog length markers).roots.Ordered ∧
      (∀ root ∈ (build catalog length markers).roots,
        root.Solid ∧ root.entry.stop ≤ length) := by
  have begun : OutlineBuilder.Sound {} 0 := ⟨by simp, by simp, .nil⟩
  have aligned : OutlineBuilder.Aligned {} := ⟨⟨.nil, trivial⟩, by simp, by simp, .nil⟩
  have sound := begun.foldl_step catalog inOrder (by simp) (Nat.zero_le _)
  have ordered := aligned.foldl_step catalog begun inOrder (by simp)
  rw [OutlineBuilder.foldl_step_filter] at sound ordered
  exact ⟨(ordered.abandon catalog length _).roots,
    (sound.abandon catalog _ (Nat.le_refl _)).roots⟩

/-- The stray tags are the closing tags that pair with none. -/
theorem strayClosers_build (inOrder : Marker.InOrder length (markers.filter (·.kind.isTag))) :
    (build catalog length markers).strayClosers = markers.filter fun marker =>
      marker.kind = .closeTag ∧ marker ∉ (Marker.closings catalog [] markers).map Prod.snd := by
  obtain ⟨passed, stray, reading⟩ := OutlineBuilder.reading_foldl catalog {} markers
  have sorted := inOrder.pairwise_filter fun marker kind =>
    Marker.isTag_of_closeTag (of_decide_eq_true kind)
  have left := Marker.perm_filter_of_perm (Marker.nodup_of_pairwise sorted) reading.closers
  have equal := Marker.eq_of_perm_of_sorted ((sorted.sublist reading.among).imp Nat.le_of_lt)
    (sorted.sublist List.filter_sublist) left
  refine (OutlineBuilder.strayClosers_abandon catalog _ length _).trans
    (reading.strayClosers.trans ?_)
  rw [OutlineBuilder.opened_empty] at equal
  rw [List.nil_append, equal, List.filter_filter]
  congr 1
  funext marker
  simp [Bool.and_comm]

/-- The unclosed tags are the opening ones that pair with none and need an end. -/
theorem unclosed_build (inOrder : Marker.InOrder length (markers.filter (·.kind.isTag))) :
    (build catalog length markers).unclosed = markers.filter fun marker =>
      marker.opens catalog ∧ marker ∉ (Marker.closings catalog [] markers).map Prod.fst ∧
        catalog.hasOptionalEnd marker.name = false := by
  let read := markers.foldl (OutlineBuilder.step catalog) {}
  obtain ⟨passed, stray, reading⟩ := OutlineBuilder.reading_foldl catalog {} markers
  have reported : read.outline.unclosed = passed.filter (Marker.needsEnd catalog) :=
    reading.unclosed
  have perm : ((Marker.closings catalog [] markers).map Prod.fst ++ (passed ++ read.opened)).Perm
      (markers.filter (Marker.opens catalog)) := by
    rw [← List.append_assoc]
    exact reading.tags
  let missing : Marker → Bool := fun marker =>
    marker ∉ (Marker.closings catalog [] markers).map Prod.fst
  have sorted : (markers.filter (Marker.opens catalog)).Pairwise fun a b => a.offset < b.offset :=
    inOrder.pairwise_filter fun _ => Marker.isTag_of_opens
  have left :
      (passed ++ read.opened).Perm ((markers.filter (Marker.opens catalog)).filter missing) :=
    Marker.perm_filter_of_perm (Marker.nodup_of_pairwise sorted) perm
  have listed : (build catalog length markers).unclosed =
      ((passed ++ read.opened).filter (Marker.needsEnd catalog)).mergeSort
        fun a b => a.offset ≤ b.offset := by
    rw [List.filter_append, ← reported, ← OutlineBuilder.unclosed_abandon_all catalog read length]
    rfl
  have equal := Marker.eq_of_perm_of_sorted (Marker.pairwise_mergeSort_offset _)
    ((sorted.sublist List.filter_sublist).sublist List.filter_sublist)
    ((List.mergeSort_perm _ _).trans (left.filter (Marker.needsEnd catalog)))
  rw [listed, equal, List.filter_filter, List.filter_filter]
  congr 1
  funext marker
  simp [missing, Marker.needsEnd, Bool.and_comm]

theorem closings_paired (inOrder : Marker.InOrder length (markers.filter (·.kind.isTag))) :
    Marker.Paired catalog markers (Marker.closings catalog [] markers) := by
  obtain ⟨passed, stray, reading⟩ := OutlineBuilder.reading_foldl catalog {} markers
  have tags : (markers.filter (Marker.opens catalog)).Nodup :=
    Marker.nodup_of_pairwise (inOrder.pairwise_filter fun _ => Marker.isTag_of_opens)
  have closers : (markers.filter (·.kind = .closeTag)).Nodup :=
    Marker.nodup_of_pairwise (inOrder.pairwise_filter fun _ kind =>
      Marker.isTag_of_closeTag (of_decide_eq_true kind))
  exact {
    matching := fun _ _ paired => (Marker.closings_sound (by simp) paired).1
    later := fun _ _ paired => (Marker.closings_sound (by simp) paired).2
    closedOnce := (reading.tags.nodup_iff.2 tags).of_append_left.of_append_left
    closesOnce := (reading.closers.nodup_iff.2 closers).of_append_left }

/-- Whatever the tags, the elements are those whose first tags were read, in that order;
they nest, in order, and none is empty or runs past the content.  Every closing tag ends
the element of one earlier tag of its name, which no other tag ends, or is stray.  The
tags of the other elements are unclosed when they need a closing tag. -/
theorem build_tagSoup (catalog : Catalog) (length : Nat) (markers : List Marker)
    (inOrder : Marker.InOrder length (markers.filter (·.kind.isTag))) :
    let outline := build catalog length markers
    let closings := Marker.closings catalog [] markers
    outline.roots.heads = (markers.filter Marker.begins).map Marker.head ∧
      outline.roots.Ordered ∧ outline.roots.Nested ∧
      (outline.roots.All fun entry => entry.start < entry.stop ∧ entry.stop ≤ length) ∧
      Marker.Paired catalog markers closings ∧
      (∀ tag closer, (tag, closer) ∈ closings →
        Entry.of tag.elementName .ofElement tag.offset closer.stop .embedded ∈
          outline.roots.entries) ∧
      (outline.strayClosers = markers.filter fun marker =>
        marker.kind = .closeTag ∧ marker ∉ closings.map Prod.snd) ∧
      outline.unclosed = markers.filter fun marker =>
        marker.opens catalog ∧ marker ∉ closings.map Prod.fst ∧
          catalog.hasOptionalEnd marker.name = false := by
  obtain ⟨ordered, solid⟩ := build_shaped catalog inOrder
  exact ⟨heads_build catalog length markers, ordered,
    Forest.nested_iff.2 fun root membership => (solid root membership).1.nested,
    all_of_solid solid, closings_paired catalog inOrder,
    fun tag closer => closings_mem_build catalog length,
    strayClosers_build catalog inOrder, unclosed_build catalog inOrder⟩

/-- A catalog in which only `br` is void and only the end of `p` may be left out. -/
def sparseCatalog : Catalog where
  tags := ⟨[]⟩
  voidTags := ⟨["br"]⟩
  optionalEndTags := ⟨["p"]⟩
  attributes := ⟨[]⟩
  deprecatedTags := []

/-- The tags of `<ul><p><b></ul></i><br>`. -/
def crossedTags : List Marker :=
  let tag := fun (kind : MarkerKind) (name : String) (offset length : Nat) =>
    ({ kind, name, offset, length, known := false } : Marker)
  [tag .openTag "ul" 0 4, tag .openTag "p" 4 3, tag .openTag "b" 7 3, tag .closeTag "ul" 10 5,
    tag .closeTag "i" 15 4, tag .openTag "br" 19 4]

/-- The list is closed although a paragraph and a bold text in it are not, of which only
the latter should be; what should close the italics closes nothing. -/
theorem build_tagSoup_crossed :
    let outline := build sparseCatalog 23 crossedTags
    outline.roots.heads = [("ul", 0), ("p", 4), ("b", 7), ("br", 19)] ∧
      Entry.of "ul" .ofElement 0 15 .embedded ∈ outline.roots.entries ∧
      outline.strayClosers.map Marker.name = ["i"] ∧ outline.unclosed.map Marker.name = ["b"] := by
  have inOrder : Marker.InOrder 23 (crossedTags.filter (·.kind.isTag)) :=
    ⟨by decide, by decide⟩
  obtain ⟨heads, -, -, -, -, ends, stray, unclosed⟩ :=
    build_tagSoup sparseCatalog 23 crossedTags inOrder
  refine ⟨heads, ends crossedTags[0] crossedTags[3] (by decide), ?_, ?_⟩
  · rw [stray]
    decide
  · rw [unclosed]
    decide

end Outline

end Inlay
