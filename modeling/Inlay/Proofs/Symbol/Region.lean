import Inlay.Proofs.Literal
import Inlay.Proofs.Symbol.Outline
import Inlay.Proofs.Symbol.Shelter
import Inlay.Symbol.Host

/-!
# The symbols of a region

A region brings a symbol for its literal and the elements of its outline.  The elements
lie in the content, so placing them in the document moves them by the region's start and
cuts none of them; and the content lies between the delimiters of the literal, so every
element lies strictly inside the symbol of the literal.
-/

namespace Inlay

/-! ## Moving a forest -/

def Entry.shift (distance : Nat) (entry : Entry) : Entry :=
  { entry with start := entry.start + distance, stop := entry.stop + distance }

mutual

/-- The tree with every range moved by a distance. -/
def Node.shift (distance : Nat) : Node → Node
  | .mk entry children => .mk (entry.shift distance) (Forest.shift distance children)

/-- The forest with every range moved by a distance. -/
def Forest.shift (distance : Nat) : Forest → Forest
  | [] => []
  | node :: rest => node.shift distance :: Forest.shift distance rest

end

/-- A range inside the content is placed by moving it, uncut. -/
theorem Entry.place_eq_shift {mapping : Mapping} {entry : Entry} (ranged : entry.start ≤ entry.stop)
    (fits : entry.stop ≤ mapping.contentLength) :
    entry.place mapping = entry.shift mapping.documentStart := by
  have starts : min entry.start mapping.contentLength = entry.start := by omega
  have stops : min entry.stop mapping.contentLength = entry.stop := by omega
  simp only [Entry.place, Entry.shift, Mapping.clampToDocument, Mapping.toDocument, starts, stops,
    Nat.add_comm mapping.documentStart]

mutual

/-- A tree that lies in the content is placed by moving it. -/
theorem Node.place_eq_shift {mapping : Mapping} :
    ∀ {node : Node}, node.Solid → node.entry.stop ≤ mapping.contentLength →
      node.place mapping = node.shift mapping.documentStart
  | .mk entry children, ⟨⟨nonempty, within⟩, below⟩, fits => by
      have inside : ∀ child ∈ children,
          child.Solid ∧ child.entry.stop ≤ mapping.contentLength := by
        intro child membership
        have contained := Entry.contains_iff.1 (within child membership)
        exact ⟨Forest.each_iff.1 below child membership, Nat.le_trans contained.2 fits⟩
      rw [Node.place, Node.shift, Entry.place_eq_shift (Nat.le_of_lt nonempty) fits,
        Forest.place_eq_shift inside]

theorem Forest.place_eq_shift {mapping : Mapping} :
    ∀ {forest : Forest},
      (∀ node ∈ forest, node.Solid ∧ node.entry.stop ≤ mapping.contentLength) →
      Forest.place mapping forest = Forest.shift mapping.documentStart forest
  | [], _ => rfl
  | _ :: _, solid => by
      obtain ⟨first, rest⟩ := List.forall_mem_cons.1 solid
      rw [Forest.place, Forest.shift, Node.place_eq_shift first.1 first.2,
        Forest.place_eq_shift rest]

end

theorem Forest.exists_of_mem_shift {distance : Nat} {forest : Forest} {node : Node}
    (membership : node ∈ Forest.shift distance forest) :
    ∃ original ∈ forest, node.entry = original.entry.shift distance := by
  induction forest with
  | nil => cases membership
  | cons first rest ih =>
      rcases List.mem_cons.1 membership with rfl | later
      · cases first with
        | mk entry children => exact ⟨_, .head _, rfl⟩
      · obtain ⟨original, inRest, same⟩ := ih later
        exact ⟨original, .tail _ inRest, same⟩

/-! ## Literal and elements -/

namespace Region

variable {catalog : Catalog} {region : Region}

/-- The elements of the region where they stand in the document. -/
def elements (catalog : Catalog) (region : Region) : Forest :=
  Forest.shift region.start (region.outline catalog).roots

/-- The elements of a region are solid and end inside its content. -/
theorem Framed.outline_solid (framed : region.Framed catalog) :
    ∀ root ∈ (region.outline catalog).roots,
      root.Solid ∧ root.entry.stop ≤ region.contentLength := by
  have solid := Outline.build_solid catalog region.content
  rwa [← framed.contentLength_eq, ← framed.scanned] at solid

/-- The outline of a region is placed without being cut. -/
theorem Framed.place_outline (framed : region.Framed catalog) :
    Forest.place (.ofRegion region) (region.outline catalog).roots = region.elements catalog :=
  Forest.place_eq_shift framed.outline_solid

theorem Framed.outline_ranged (framed : region.Framed catalog) :
    (region.outline catalog).roots.Ranged :=
  Forest.each_iff.2 fun root membership =>
    (framed.outline_solid root membership).1.imp fun _ _ both => Nat.le_of_lt both.1

/-- The outline of a region is nested, whatever tags are crossed or missing. -/
theorem Framed.outline_nested (framed : region.Framed catalog) :
    (region.outline catalog).roots.Nested :=
  Forest.nested_iff.2 fun root membership => (framed.outline_solid root membership).1.nested

/-- The symbol of the literal has the range of the literal. -/
theorem Framed.literalNode_stop (framed : region.Framed catalog) :
    region.literalNode.entry.stop = region.literalStop := by
  have opened := framed.opened
  have filled := framed.filled
  have closed := framed.closed
  exact Nat.max_eq_left (by omega)

/-- The outermost elements are not empty and lie strictly inside the symbol of the
literal. -/
theorem Framed.element_inside (framed : region.Framed catalog) :
    ∀ root ∈ region.elements catalog, root.entry.start < root.entry.stop ∧
      region.literalNode.entry.contains root.entry = true ∧
      root.entry.contains region.literalNode.entry = false := by
  intro root membership
  obtain ⟨original, inRoots, moved⟩ := Forest.exists_of_mem_shift membership
  obtain ⟨solid, fits⟩ := framed.outline_solid original inRoots
  have nonempty := solid.start_lt_stop
  have starts : region.literalNode.entry.start = region.literalStart := rfl
  have stops := framed.literalNode_stop
  have opened := framed.opened
  have filled := framed.filled
  have closed := framed.closed
  rw [framed.contentLength_eq] at fits
  rw [Entry.contains_iff, Entry.not_contains_iff, moved, starts, stops]
  simp only [Entry.shift]
  omega

/-- The tree has a host symbol with the name and the range of the region's literal, and
the elements of the region are embedded below it. -/
def ShownIn (catalog : Catalog) (region : Region) (tree : Forest) : Prop :=
  ∃ literal, tree.Holds literal ∧ literal.entry.name = language ++ " literal" ∧
    literal.entry.origin = .host ∧ literal.entry.start = region.literalStart ∧
    literal.entry.stop = region.literalStop ∧ (region.elements catalog).EmbedsIn literal.children

/-- A region is shown where its literal and its elements are embedded as one tree. -/
theorem Framed.shownIn (framed : region.Framed catalog) {tree : Forest}
    (embeds : (Node.mk region.literalNode.entry (region.elements catalog)).EmbedsIn tree) :
    region.ShownIn catalog tree := by
  obtain ⟨literal, held, same, below⟩ := embeds
  obtain ⟨name, _, start, stop, origin⟩ := Entry.same_iff.1 same
  exact ⟨literal, held, name, origin, start, stop.trans framed.literalNode_stop, below⟩

end Region

/-! ## The symbols of a forest as a list -/

mutual

theorem Node.each_flatten {holds : Entry → Prop} (depth : Nat) :
    ∀ {node : Node}, node.Each (fun entry _ => holds entry) ↔
      ∀ listed ∈ node.flatten depth, holds listed.2
  | .mk entry children => by
      rw [Node.Each, Node.flatten, List.forall_mem_cons, Forest.each_flatten (depth + 1)]

theorem Forest.each_flatten {holds : Entry → Prop} (depth : Nat) :
    ∀ {forest : Forest}, forest.Each (fun entry _ => holds entry) ↔
      ∀ listed ∈ forest.flatten depth, holds listed.2
  | [] => by simp [Forest.Each, Forest.flatten]
  | node :: rest => by
      rw [Forest.Each, Forest.flatten, List.forall_mem_append, Node.each_flatten depth,
        Forest.each_flatten depth]

end

/-- The symbols of a forest, at all depths. -/
def Forest.entries (forest : Forest) : List Entry := (forest.flatten 0).map Prod.snd

theorem Forest.all_entries {forest : Forest} {holds : Entry → Prop} :
    forest.All holds ↔ ∀ entry ∈ forest.entries, holds entry := by
  rw [All, each_flatten 0, entries, List.forall_mem_map]

end Inlay
