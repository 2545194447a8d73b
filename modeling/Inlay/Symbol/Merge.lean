import Inlay.Symbol.Node

/-!
# Merging symbol trees

Host symbols and the outlines of embedded regions end up in one tree.  A symbol
is nested under the deepest symbol that contains it; siblings are ordered by
start, host symbols first, and never overlap: a symbol that straddles the
boundary of a sibling is cut there.

Inserting a symbol can move others, since a new symbol takes over the siblings
it contains.  Each recursive insertion works on fewer symbols than the one that
started it, so `Forest.insert` runs `Forest.insertWithin` with the total number
of symbols as its bound.
-/

namespace Inlay

namespace Forest

/-! ## Parts of an insertion -/

/-- Applies a change to the children of the first sibling that satisfies a
condition; nothing when there is none. -/
def updateFirst (isTarget : Entry → Bool) (change : Node → Forest) : Forest → Option Forest
  | [] => none
  | sibling :: rest =>
      if isTarget sibling.entry then some (.mk sibling.entry (change sibling) :: rest)
      else (updateFirst isTarget change rest).map (sibling :: ·)

/-- Whether an entry starts inside a sibling, past its first character. -/
def startsWithin (sibling entry : Entry) : Bool :=
  sibling.start < entry.start && entry.start < sibling.stop

/-- The starts of the siblings that an entry overlaps without containing them. -/
def straddledStarts (siblings : Forest) (entry : Entry) : List Nat :=
  (siblings.filter fun sibling => sibling.entry.overlaps entry && !entry.contains sibling.entry).map
    fun sibling => sibling.entry.start

/-- The node cut where the first sibling it straddles begins. -/
def clipAtSiblings (siblings : Forest) (node : Node) : Node :=
  match (straddledStarts siblings node.entry).min? with
  | some bound => node.clip bound
  | none => node

/-- Puts a node before the first sibling that must follow it. -/
def insertOrdered (node : Node) : Forest → Forest
  | [] => [node]
  | sibling :: rest =>
      if node.entry.precedes sibling.entry then node :: sibling :: rest
      else sibling :: insertOrdered node rest

/-! ## Insertion -/

/-- Inserts a node among ordered siblings that do not overlap.  In order of
preference the node is

* unified with the sibling that stands for the same symbol, its children going
  to that sibling's children;
* nested under the first sibling that contains it;
* nested under the sibling inside which it starts, cut at that sibling's end;
* put among the siblings, cut where the first sibling it straddles begins, with
  the siblings it contains moved below it.

The first argument bounds the depth of the recursion. -/
def insertWithin : Nat → Forest → Node → Forest
  | 0, siblings, _ => siblings
  | bound + 1, siblings, node =>
      match updateFirst (fun sibling => sibling.same node.entry)
        (fun sibling => node.children.foldl (insertWithin bound) sibling.children) siblings with
      | some unified => unified
      | none =>
      match updateFirst (fun sibling => sibling.contains node.entry)
        (fun parent => insertWithin bound parent.children node) siblings with
      | some nested => nested
      | none =>
      match updateFirst (fun sibling => startsWithin sibling node.entry)
        (fun parent => insertWithin bound parent.children (node.clip parent.entry.stop))
        siblings with
      | some cut => cut
      | none =>
          let node := clipAtSiblings siblings node
          let inside := siblings.filter fun sibling => node.entry.contains sibling.entry
          let outside := siblings.filter fun sibling => !node.entry.contains sibling.entry
          insertOrdered (.mk node.entry (inside.foldl (insertWithin bound) node.children)) outside

/-- Inserts a node among ordered siblings that do not overlap. -/
def insert (siblings : Forest) (node : Node) : Forest :=
  insertWithin (Forest.size siblings + node.size) siblings node

end Forest

/-! ## Normal form and merging -/

mutual

/-- The tree with its children in normal form. -/
def Node.normalize : Node → Node
  | .mk entry children => .mk entry (Forest.normalizeInto [] children)

/-- Inserts every tree of a forest, each in normal form, into a built forest. -/
def Forest.normalizeInto (built : Forest) : Forest → Forest
  | [] => built
  | node :: rest => Forest.normalizeInto (Forest.insert built node.normalize) rest

end

namespace Forest

/-- The forest with the rules of order and nesting established throughout. -/
def normalize (forest : Forest) : Forest := normalizeInto [] forest

/-- An outline and where its content stands in the document. -/
structure Embedded where
  mapping : Mapping
  forest : Forest

/-- The host forest in normal form, with the embedded outlines placed in it. -/
def merge (host : Forest) (embedded : List Embedded) : Forest :=
  embedded.foldl
    (fun merged outline =>
      outline.forest.foldl
        (fun merged node => insert merged (node.place outline.mapping).normalize) merged)
    (normalize host)

end Forest

end Inlay
