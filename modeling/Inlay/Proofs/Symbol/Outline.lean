import Inlay.Proofs.Marker.Tags
import Inlay.Proofs.Symbol.WellFormed
import Inlay.Symbol.Outline

/-!
# The shape of an outline

Elements are closed in the order of their ends, and an element is never closed before
one that was opened inside it.  So the elements of an outline nest, none of them is
empty, and all lie in the content.  The invariant, `OutlineBuilder.Sound`, speaks of
the offset up to which the content has been read: what is closed ends there or before,
and what is open starts before everything that is still to come.
-/

namespace Inlay

/-- No range of the tree is empty, and every symbol lies inside the one that owns it. -/
def Node.Solid (node : Node) : Prop :=
  node.Each fun entry children => entry.start < entry.stop ∧ children.Within entry

theorem Node.Solid.nested {node : Node} (solid : node.Solid) : node.Nested :=
  Node.Each.imp (fun _ _ both => both.2) solid

theorem Node.Solid.start_lt_stop {node : Node} (solid : node.Solid) :
    node.entry.start < node.entry.stop :=
  (Node.each_iff.1 solid).1.1

/-- The element of a tag is solid when its children are and lie behind the tag. -/
theorem Marker.element_solid {marker : Marker} {stop : Nat} {children : Forest}
    (nonempty : 0 < marker.length) (ends : marker.stop ≤ stop)
    (below : ∀ child ∈ children,
      child.Solid ∧ marker.offset ≤ child.entry.start ∧ child.entry.stop ≤ stop) :
    (marker.element stop children).Solid := by
  have reaches : marker.offset < stop := by
    simp only [Marker.stop] at ends
    omega
  have range : max stop marker.offset = stop := Nat.max_eq_left (Nat.le_of_lt reaches)
  refine Node.each_iff.2 ⟨⟨?_, ?_⟩, Forest.each_iff.2 fun child membership =>
    (below child membership).1⟩
  · simpa only [element, Node.entry_mk, Entry.of, range] using reaches
  · intro child membership
    rw [Entry.contains_iff]
    simpa only [element, Node.entry_mk, Entry.of, range] using (below child membership).2

/-! ## Markers that are not tags -/

namespace OutlineBuilder

theorem step_of_isTag_eq_false (catalog : Catalog) (builder : OutlineBuilder) {marker : Marker}
    (other : marker.kind.isTag = false) : builder.step catalog marker = builder := by
  unfold step
  split
  next kind => simp [kind, MarkerKind.isTag] at other
  next kind => simp [kind, MarkerKind.isTag] at other
  next kind => simp [kind, MarkerKind.isTag] at other
  next => rfl
  next => rfl

/-- Only tags matter to an outline. -/
theorem foldl_step_filter (catalog : Catalog) (markers : List Marker) (builder : OutlineBuilder) :
    (markers.filter (·.kind.isTag)).foldl (step catalog) builder =
      markers.foldl (step catalog) builder := by
  rw [List.foldl_filter]
  congr 1
  funext builder marker
  split
  next => rfl
  next other => exact (step_of_isTag_eq_false catalog builder (by simpa using other)).symm

end OutlineBuilder

/-- Attributes and entities do not matter to an outline. -/
theorem Outline.build_scan (catalog : Catalog) (length : Nat) (content : List Char) :
    Outline.build catalog length (Marker.scan catalog content) =
      Outline.build catalog length (Marker.tags catalog content) := by
  rw [Outline.build, ← OutlineBuilder.foldl_step_filter, Marker.filter_isTag_scan]
  rfl

/-! ## What reading a tag preserves -/

/-- What is open when the content has been read up to an offset: its tag has been read,
and what is closed inside it lies between the tag and the offset. -/
structure OpenElement.Sound (element : OpenElement) (read : Nat) : Prop where
  nonempty : 0 < element.marker.length
  begun : element.marker.stop ≤ read
  children : ∀ child ∈ element.children,
    child.Solid ∧ element.marker.offset ≤ child.entry.start ∧ child.entry.stop ≤ read

/-- What has been built when the content has been read up to an offset. -/
structure OutlineBuilder.Sound (builder : OutlineBuilder) (read : Nat) : Prop where
  roots : ∀ node ∈ builder.outline.roots, node.Solid ∧ node.entry.stop ≤ read
  stack : ∀ element ∈ builder.stack, element.Sound read
  /-- Inner elements start behind outer ones. -/
  order : builder.stack.Pairwise fun inner outer => outer.marker.offset ≤ inner.marker.offset

theorem OpenElement.Sound.mono {element : OpenElement} {read later : Nat}
    (sound : element.Sound read) (le : read ≤ later) : element.Sound later where
  nonempty := sound.nonempty
  begun := Nat.le_trans sound.begun le
  children child membership :=
    have below := sound.children child membership
    ⟨below.1, below.2.1, Nat.le_trans below.2.2 le⟩

namespace OutlineBuilder

variable {builder : OutlineBuilder} {read stop : Nat}

theorem Sound.mono (sound : builder.Sound read) (le : read ≤ stop) : builder.Sound stop where
  roots node membership :=
    have closed := sound.roots node membership
    ⟨closed.1, Nat.le_trans closed.2 le⟩
  stack element membership := (sound.stack element membership).mono le
  order := sound.order

/-- A closed element may be attached when it starts behind every open one. -/
theorem Sound.attach {node : Node} (sound : builder.Sound read) (solid : node.Solid)
    (ends : node.entry.stop ≤ read)
    (behind : ∀ element ∈ builder.stack, element.marker.offset ≤ node.entry.start) :
    (builder.attach node).Sound read := by
  obtain ⟨stack, outline⟩ := builder
  cases stack with
  | nil =>
      refine ⟨?_, by simp [OutlineBuilder.attach], .nil⟩
      intro root membership
      rcases List.mem_append.1 membership with old | new
      · exact sound.roots root old
      · obtain rfl := List.mem_singleton.1 new
        exact ⟨solid, ends⟩
  | cons parent outer =>
      obtain ⟨parentSound, outerSound⟩ := List.forall_mem_cons.1 sound.stack
      refine ⟨sound.roots, List.forall_mem_cons.2 ⟨?_, outerSound⟩, ?_⟩
      · refine ⟨parentSound.nonempty, parentSound.begun, ?_⟩
        intro child membership
        rcases List.mem_append.1 membership with old | new
        · exact parentSound.children child old
        · obtain rfl := List.mem_singleton.1 new
          exact ⟨solid, behind parent (.head _), ends⟩
      · exact List.pairwise_cons.2 (List.pairwise_cons.1 sound.order)

/-- An element that is closed no earlier than what was read last is solid. -/
theorem Sound.closeInner (sound : builder.Sound read) (le : read ≤ stop) :
    (builder.closeInner stop).Sound stop := by
  obtain ⟨stack, outline⟩ := builder
  cases stack with
  | nil => exact sound.mono le
  | cons inner outer =>
      obtain ⟨innerSound, outerSound⟩ := List.forall_mem_cons.1 (sound.mono le).stack
      obtain ⟨behind, outerOrder⟩ := List.pairwise_cons.1 sound.order
      have rest : Sound ⟨outer, outline⟩ stop := ⟨(sound.mono le).roots, outerSound, outerOrder⟩
      refine rest.attach (Marker.element_solid innerSound.nonempty innerSound.begun
        innerSound.children) ?_ behind
      have begun := innerSound.begun
      simp only [Marker.stop] at begun
      simp only [Marker.element, Node.entry_mk, Entry.of]
      omega

theorem Sound.abandonInner (catalog : Catalog) (sound : builder.Sound read) (le : read ≤ stop) :
    (builder.abandonInner catalog stop).Sound stop := by
  obtain ⟨stack, outline⟩ := builder
  cases stack with
  | nil => exact sound.mono le
  | cons inner outer =>
      let reported := if catalog.hasOptionalEnd inner.marker.name then [] else [inner.marker]
      have noted : Sound ⟨inner :: outer, { outline with unclosed := outline.unclosed ++ reported }⟩
          read := ⟨sound.roots, sound.stack, sound.order⟩
      exact noted.closeInner le

/-- Elements that are abandoned end where they are abandoned, and are solid. -/
theorem Sound.abandon (catalog : Catalog) (count : Nat) (sound : builder.Sound read)
    (le : read ≤ stop) : (builder.abandon catalog stop count).Sound stop := by
  induction count generalizing builder read with
  | zero => exact sound.mono le
  | succ count ih => exact ih (sound.abandonInner catalog le) (Nat.le_refl stop)

/-- A tag is read after everything before it. -/
theorem Sound.step (catalog : Catalog) {marker : Marker} (sound : builder.Sound read)
    (next : read ≤ marker.offset) (nonempty : 0 < marker.length) :
    (builder.step catalog marker).Sound marker.stop := by
  have past : marker.offset ≤ marker.stop := Nat.le_add_right _ _
  have later := sound.mono (Nat.le_trans next past)
  have opened : ∀ element ∈ builder.stack, element.marker.offset ≤ marker.offset := by
    intro element membership
    have begun := (sound.stack element membership).begun
    simp only [Marker.stop] at begun
    omega
  have leaf : (builder.attach (marker.element marker.stop [])).Sound marker.stop := by
    refine later.attach (Marker.element_solid nonempty (Nat.le_refl _) (by simp)) ?_ opened
    simp only [Marker.element, Node.entry_mk, Entry.of, Nat.max_eq_left past, Nat.le_refl]
  unfold OutlineBuilder.step
  split
  next =>
    split
    · exact leaf
    · refine ⟨later.roots, List.forall_mem_cons.2 ⟨⟨nonempty, Nat.le_refl _, by simp⟩,
        later.stack⟩, List.pairwise_cons.2 ⟨opened, sound.order⟩⟩
  next => exact leaf
  next =>
    split
    next depth found => exact (sound.abandon catalog depth next).closeInner past
    next => exact ⟨later.roots, later.stack, later.order⟩
  next => exact later
  next => exact later

/-- Markers in order keep the builder sound to the end of the text. -/
theorem Sound.foldl_step (catalog : Catalog) {length : Nat} {markers : List Marker}
    (sound : builder.Sound read) (inOrder : Marker.InOrder length markers)
    (next : ∀ marker ∈ markers, read ≤ marker.offset) (le : read ≤ length) :
    (markers.foldl (OutlineBuilder.step catalog) builder).Sound length := by
  induction markers generalizing builder read with
  | nil => exact sound.mono le
  | cons marker rest ih =>
      obtain ⟨behind, restApart⟩ := List.pairwise_cons.1 inOrder.apart
      obtain ⟨⟨nonempty, fits⟩, restFits⟩ := List.forall_mem_cons.1 inOrder.within
      have stepped := sound.step catalog (next marker (.head _)) nonempty
      exact ih stepped ⟨restApart, restFits⟩ behind fits

end OutlineBuilder

/-- The elements of a content nest, none of them is empty, and none runs past the
content. -/
theorem Outline.build_solid (catalog : Catalog) (content : List Char) :
    ∀ root ∈ (Outline.build catalog content.length (Marker.scan catalog content)).roots,
      root.Solid ∧ root.entry.stop ≤ content.length := by
  have begun : OutlineBuilder.Sound {} 0 := ⟨by simp, by simp, .nil⟩
  have read := begun.foldl_step catalog (Marker.tags_inOrder catalog content) (by simp)
    (Nat.zero_le _)
  rw [build_scan]
  exact (read.abandon catalog _ (Nat.le_refl _)).roots

end Inlay
