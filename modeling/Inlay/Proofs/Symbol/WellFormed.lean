import Inlay.Proofs.Symbol.Insertion

/-!
# Order and nesting of merged symbols

A forest is *ordered* when, at every depth, no range ends before it starts and
each sibling ends where the next one starts or before.  It is *nested* when every
symbol lies inside the symbol that owns it.

Insertion keeps both.  The one case with an argument in it is that of a symbol
that becomes a sibling: it is cut at the first sibling it straddles, and once the
siblings it contains have moved below it, every remaining one lies wholly to one
side of it (`Fits`).  No two of them start at the same place, so the tie between
host and embedded symbols never decides anything among disjoint siblings.

Nesting is one case of an *ownership*, a relation between a symbol and those directly
below it that containment implies and that cutting keeps.  Insertion keeps each of them,
since it puts below a symbol only what the symbol contains or owned before.

Merging inserts trees whose ranges are proper but whose siblings may overlap in
any way, so the normal form of each tree comes first.
-/

namespace Inlay

/-! ## Properties of whole trees -/

mutual

/-- A property of an entry and the trees below it holds throughout a tree. -/
def Node.Each (holds : Entry → Forest → Prop) : Node → Prop
  | .mk entry children => holds entry children ∧ Forest.Each holds children

/-- A property of an entry and the trees below it holds throughout a forest. -/
def Forest.Each (holds : Entry → Forest → Prop) : Forest → Prop
  | [] => True
  | node :: rest => node.Each holds ∧ Forest.Each holds rest

end

theorem Node.each_iff {holds : Entry → Forest → Prop} {node : Node} :
    node.Each holds ↔ holds node.entry node.children ∧ node.children.Each holds := by
  cases node with
  | mk entry children => rfl

theorem Forest.each_iff {holds : Entry → Forest → Prop} {forest : Forest} :
    forest.Each holds ↔ ∀ node ∈ forest, node.Each holds := by
  induction forest with
  | nil => simp [Forest.Each]
  | cons node rest ih => simp only [Forest.Each, ih, List.forall_mem_cons]

mutual

theorem Node.Each.imp {holds follows : Entry → Forest → Prop}
    (imply : ∀ entry children, holds entry children → follows entry children) :
    ∀ {node : Node}, node.Each holds → node.Each follows
  | .mk _ _, ⟨here, below⟩ => ⟨imply _ _ here, Forest.Each.imp imply below⟩

theorem Forest.Each.imp {holds follows : Entry → Forest → Prop}
    (imply : ∀ entry children, holds entry children → follows entry children) :
    ∀ {forest : Forest}, forest.Each holds → forest.Each follows
  | [], _ => trivial
  | _ :: _, ⟨first, rest⟩ => ⟨Node.Each.imp imply first, Forest.Each.imp imply rest⟩

end

namespace Forest

/-- No range ends before it starts. -/
def Ranged (forest : Forest) : Prop :=
  forest.Each fun entry _ => entry.start ≤ entry.stop

/-- Every sibling ends before the later ones start. -/
def Apart (siblings : Forest) : Prop :=
  siblings.Pairwise fun earlier later => earlier.entry.stop ≤ later.entry.start

/-- No range ends before it starts, and siblings are apart at every depth. -/
def Ordered (forest : Forest) : Prop :=
  forest.Apart ∧ forest.Each fun entry children => entry.start ≤ entry.stop ∧ children.Apart

/-- All siblings lie inside a range. -/
def Within (siblings : Forest) (outer : Entry) : Prop :=
  ∀ sibling ∈ siblings, outer.contains sibling.entry = true

/-- Every symbol lies inside the one that owns it. -/
def Nested (forest : Forest) : Prop :=
  forest.Each fun entry children => children.Within entry

end Forest

/-- The tree's ranges do not end before they start, and siblings are apart at
every depth. -/
def Node.Ordered (node : Node) : Prop :=
  node.Each fun entry children => entry.start ≤ entry.stop ∧ children.Apart

/-- Every symbol of the tree but its root lies inside the one that owns it. -/
def Node.Nested (node : Node) : Prop :=
  node.Each fun entry children => children.Within entry

theorem Node.ordered_iff {node : Node} :
    node.Ordered ↔ node.entry.start ≤ node.entry.stop ∧ node.children.Ordered := by
  rw [Node.Ordered, Node.each_iff, Forest.Ordered]
  exact and_assoc

namespace Forest

theorem ordered_iff {forest : Forest} :
    forest.Ordered ↔ forest.Apart ∧ ∀ node ∈ forest, node.Ordered := by
  rw [Forest.Ordered, Forest.each_iff]
  rfl

theorem nested_iff {forest : Forest} : forest.Nested ↔ ∀ node ∈ forest, node.Nested :=
  Forest.each_iff

theorem Ordered.mem {forest : Forest} (ordered : forest.Ordered) {node : Node}
    (membership : node ∈ forest) : node.Ordered :=
  (ordered_iff.1 ordered).2 node membership

end Forest

/-! ## Containment as inequalities -/

namespace Entry

theorem contains_iff {outer inner : Entry} :
    outer.contains inner = true ↔ outer.start ≤ inner.start ∧ inner.stop ≤ outer.stop := by
  simp [contains]

theorem not_contains_iff {outer inner : Entry} :
    outer.contains inner = false ↔ inner.start < outer.start ∨ outer.stop < inner.stop := by
  rw [← Bool.not_eq_true, contains_iff]
  omega

/-- Entries that stand for the same symbol have one range. -/
theorem same_range {a b : Entry} (same : a.same b = true) :
    a.start = b.start ∧ a.stop = b.stop := by
  simp only [Entry.same, Bool.and_eq_true, beq_iff_eq] at same
  exact ⟨same.1.1.2, same.1.2⟩

theorem contains_trans {a b c : Entry} (outer : a.contains b = true) (inner : b.contains c = true) :
    a.contains c = true := by
  rw [contains_iff] at outer inner ⊢
  omega

theorem clip_start (entry : Entry) (bound : Nat) :
    (entry.clip bound).start = min entry.start (min entry.stop bound) := rfl

theorem clip_stop (entry : Entry) (bound : Nat) :
    (entry.clip bound).stop = min entry.stop bound := rfl

/-- Cutting both ranges keeps one inside the other. -/
theorem contains_clip {outer inner : Entry} (bound : Nat) (ranged : inner.start ≤ inner.stop)
    (contains : outer.contains inner = true) :
    (outer.clip bound).contains (inner.clip bound) = true := by
  rw [contains_iff] at contains ⊢
  simp only [clip_start, clip_stop]
  omega

end Entry

/-! ## Owners -/

/-- A relation between a symbol and what it owns that insertion respects: it holds where
one range contains the other, and it survives the cuts that insertion makes. -/
structure Ownership (owns : Entry → Entry → Prop) : Prop where
  of_contains {outer inner : Entry} : outer.contains inner = true → owns outer inner
  of_same {outer other inner : Entry} : outer.same other = true → owns other inner →
    owns outer inner
  /-- A tree is cut as a whole. -/
  clip {outer inner : Entry} (bound : Nat) : inner.start ≤ inner.stop → owns outer inner →
    owns (outer.clip bound) (inner.clip bound)
  /-- A tree is cut where it stands, behind its start. -/
  shorten {outer inner : Entry} (bound : Nat) : inner.start ≤ inner.stop →
    inner.start ≤ bound → owns outer inner → owns outer (inner.clip bound)

/-- To own as a range that contains another is to own in the sense of a merge. -/
theorem Ownership.contains : Ownership fun outer inner => outer.contains inner = true where
  of_contains inside := inside
  of_same same inside := by
    obtain ⟨sameStart, sameStop⟩ := Entry.same_range same
    rw [Entry.contains_iff] at inside ⊢
    omega
  clip bound ranged inside := Entry.contains_clip bound ranged inside
  shorten bound ranged begun inside := by
    rw [Entry.contains_iff] at inside ⊢
    simp only [Entry.clip_start, Entry.clip_stop]
    omega

variable {owns : Entry → Entry → Prop}

/-- All siblings are owned by a symbol. -/
def Forest.OwnedBy (owns : Entry → Entry → Prop) (siblings : Forest) (outer : Entry) : Prop :=
  ∀ sibling ∈ siblings, owns outer sibling.entry

/-- Every symbol of the forest owns those directly below it. -/
def Forest.Owned (owns : Entry → Entry → Prop) (forest : Forest) : Prop :=
  forest.Each fun entry children => children.OwnedBy owns entry

/-- Every symbol of the tree owns those directly below it. -/
def Node.Owned (owns : Entry → Entry → Prop) (node : Node) : Prop :=
  node.Each fun entry children => children.OwnedBy owns entry

theorem Node.owned_iff {node : Node} :
    node.Owned owns ↔ node.children.OwnedBy owns node.entry ∧ node.children.Owned owns :=
  Node.each_iff

theorem Forest.owned_iff {forest : Forest} :
    forest.Owned owns ↔ ∀ node ∈ forest, node.Owned owns :=
  Forest.each_iff

/-! ## Cutting a tree -/

theorem Node.entry_clip (bound : Nat) (node : Node) :
    (node.clip bound).entry = node.entry.clip bound := by
  cases node with
  | mk entry children => rfl

theorem Forest.clip_eq_map (bound : Nat) (forest : Forest) :
    Forest.clip bound forest = forest.map (Node.clip bound) := by
  induction forest with
  | nil => rfl
  | cons node rest ih => rw [Forest.clip, List.map_cons, ih]

mutual

/-- Cutting keeps a tree in order at every depth. -/
theorem Node.Ordered.clip (bound : Nat) : ∀ {node : Node}, node.Ordered → (node.clip bound).Ordered
  | .mk entry children, ordered => by
      obtain ⟨ranged, below⟩ := Node.ordered_iff.1 ordered
      rw [Node.clip, Node.ordered_iff]
      refine ⟨?_, Forest.Ordered.clip bound below⟩
      simp only [Node.entry_mk, Entry.clip_start, Entry.clip_stop]
      omega

theorem Forest.Ordered.clip (bound : Nat) :
    ∀ {forest : Forest}, forest.Ordered → (Forest.clip bound forest).Ordered
  | [], _ => ⟨List.Pairwise.nil, trivial⟩
  | node :: rest, ⟨apart, first, later⟩ => by
      obtain ⟨afterNode, restApart⟩ := List.pairwise_cons.1 apart
      obtain ⟨clippedApart, clippedEach⟩ := Forest.Ordered.clip bound ⟨restApart, later⟩
      refine ⟨List.pairwise_cons.2 ⟨?_, clippedApart⟩, Node.Ordered.clip bound first, clippedEach⟩
      intro clipped membership
      rw [Forest.clip_eq_map] at membership
      obtain ⟨original, inRest, rfl⟩ := List.mem_map.1 membership
      have apartBefore := afterNode original inRest
      have ranged := (Node.ordered_iff.1 (Forest.each_iff.1 later original inRest)).1
      rw [Node.entry_clip, Node.entry_clip]
      simp only [Entry.clip_start, Entry.clip_stop]
      omega

end

mutual

/-- Cutting a whole tree keeps who owns what. -/
theorem Node.Owned.clip (ownership : Ownership owns) (bound : Nat) :
    ∀ {node : Node}, node.Owned owns → node.Ordered → (node.clip bound).Owned owns
  | .mk entry children, owned, ordered => by
      obtain ⟨_, childrenOrdered⟩ := Node.ordered_iff.1 ordered
      obtain ⟨here, below⟩ := Node.owned_iff.1 owned
      refine Node.owned_iff.2 ⟨?_, Forest.Owned.clip ownership bound below childrenOrdered.2⟩
      intro clipped membership
      rw [Node.clip, Node.children_mk, Forest.clip_eq_map] at membership
      obtain ⟨child, inChildren, rfl⟩ := List.mem_map.1 membership
      have ranged := (Node.ordered_iff.1 (childrenOrdered.mem inChildren)).1
      rw [Node.entry_clip, Node.entry_clip]
      exact ownership.clip bound ranged (here child inChildren)

theorem Forest.Owned.clip (ownership : Ownership owns) (bound : Nat) :
    ∀ {forest : Forest}, forest.Owned owns →
      forest.Each (fun entry children => entry.start ≤ entry.stop ∧ children.Apart) →
      (Forest.clip bound forest).Owned owns
  | [], _, _ => trivial
  | _ :: _, ⟨firstOwned, restOwned⟩, ⟨firstOrdered, restOrdered⟩ =>
      ⟨Node.Owned.clip ownership bound firstOwned firstOrdered,
        Forest.Owned.clip ownership bound restOwned restOrdered⟩

end

namespace Forest

/-! ## A symbol among its siblings -/

/-- An entry lies wholly to one side of another, and does not start with it. -/
def Fits (entry sibling : Entry) : Prop :=
  (sibling.start < entry.start ∧ sibling.stop ≤ entry.start) ∨
    (entry.start < sibling.start ∧ entry.stop ≤ sibling.start)

/-- The bounds at which an entry might be cut are the starts of the siblings it overlaps and
does not contain. -/
theorem mem_straddledStarts {siblings : Forest} {entry : Entry} {start : Nat} :
    start ∈ straddledStarts siblings entry ↔
      ∃ sibling ∈ siblings, sibling.entry.start < entry.stop ∧ entry.start < sibling.entry.stop ∧
        entry.contains sibling.entry = false ∧ sibling.entry.start = start := by
  simp only [straddledStarts, List.mem_map, List.mem_filter, Bool.and_eq_true, Entry.overlaps,
    decide_eq_true_eq, Bool.not_eq_true', and_assoc]

/-- Two siblings that are apart are so in one order or the other. -/
theorem Apart.either {siblings : Forest} (apart : siblings.Apart) {a b : Node}
    (first : a ∈ siblings) (second : b ∈ siblings) :
    a = b ∨ a.entry.stop ≤ b.entry.start ∨ b.entry.stop ≤ a.entry.start := by
  induction siblings with
  | nil => cases first
  | cons sibling rest ih =>
      obtain ⟨afterSibling, restApart⟩ := List.pairwise_cons.1 apart
      rcases List.mem_cons.1 first with rfl | firstLater
      · rcases List.mem_cons.1 second with rfl | secondLater
        · exact .inl rfl
        · exact .inr (.inl (afterSibling b secondLater))
      · rcases List.mem_cons.1 second with rfl | secondLater
        · exact .inr (.inr (afterSibling a firstLater))
        · exact ih restApart firstLater secondLater

/-- A symbol that no sibling contains and that starts inside none, once cut at the
first sibling it straddles, lies to one side of every sibling it does not contain. -/
theorem fits_clipAtSiblings {siblings : Forest} {node : Node} (ordered : siblings.Ordered)
    (ranged : node.entry.start ≤ node.entry.stop)
    (outside : siblings.Lacks fun sibling => sibling.contains node.entry)
    (unstarted : siblings.Lacks fun sibling => startsWithin sibling node.entry)
    {sibling : Node} (membership : sibling ∈ siblings)
    (kept : (clipAtSiblings siblings node).entry.contains sibling.entry = false) :
    Fits (clipAtSiblings siblings node).entry sibling.entry := by
  -- What the failed tests say about a sibling, as inequalities.
  have known (other : Node) (present : other ∈ siblings) :
      other.entry.start ≤ other.entry.stop ∧
      (node.entry.start < other.entry.start ∨ other.entry.stop < node.entry.stop) ∧
      (node.entry.start ≤ other.entry.start ∨ other.entry.stop ≤ node.entry.start) := by
    have otherRanged := (Node.ordered_iff.1 (ordered.mem present)).1
    have notContaining := Entry.not_contains_iff.1 (outside other present)
    have notStarted := unstarted other present
    simp only [startsWithin, Bool.and_eq_false_iff, decide_eq_false_iff_not] at notStarted
    omega
  have here := known sibling membership
  unfold Fits
  unfold clipAtSiblings at kept ⊢
  split at kept
  next bound least =>
    -- The node is cut at the start of a sibling `first` that it straddles.
    obtain ⟨firstStarts, leastStart⟩ := List.min?_eq_some_iff.1 least
    obtain ⟨first, firstMem, startsBefore, endsAfter, notInside, rfl⟩ :=
      mem_straddledStarts.1 firstStarts
    have there := known first firstMem
    rw [Entry.not_contains_iff] at notInside
    rw [Node.entry_clip, Entry.not_contains_iff] at kept
    rw [Node.entry_clip]
    simp only [Entry.clip_start, Entry.clip_stop] at kept ⊢
    by_cases straddled : sibling.entry.start < node.entry.stop ∧
        node.entry.start < sibling.entry.stop ∧ node.entry.contains sibling.entry = false
    · have notEarlier := leastStart _ (mem_straddledStarts.2
        ⟨sibling, membership, straddled.1, straddled.2.1, straddled.2.2, rfl⟩)
      omega
    · rw [Entry.not_contains_iff] at straddled
      rcases ordered.1.either membership firstMem with rfl | before | after <;> omega
  next none =>
    have notStraddled : ¬(sibling.entry.start < node.entry.stop ∧
        node.entry.start < sibling.entry.stop ∧ node.entry.contains sibling.entry = false) := by
      rintro ⟨startsBefore, endsAfter, notInside⟩
      have listed := mem_straddledStarts.2
        ⟨sibling, membership, startsBefore, endsAfter, notInside, rfl⟩
      rw [List.min?_eq_none_iff.1 none] at listed
      cases listed
    rw [Entry.not_contains_iff] at kept notStraddled
    omega

theorem mem_insertOrdered {node other : Node} {siblings : Forest} :
    other ∈ insertOrdered node siblings ↔ other = node ∨ other ∈ siblings := by
  induction siblings with
  | nil => simp [insertOrdered]
  | cons sibling rest ih =>
      rw [insertOrdered]
      split
      · simp
      · simp only [List.mem_cons, ih]
        exact or_left_comm

/-- A node goes between the siblings on its left and those on its right. -/
theorem Apart.insertOrdered {node : Node} {siblings : Forest} (apart : siblings.Apart)
    (ranged : ∀ sibling ∈ siblings, sibling.entry.start ≤ sibling.entry.stop)
    (fits : ∀ sibling ∈ siblings, Fits node.entry sibling.entry) :
    (insertOrdered node siblings).Apart := by
  induction siblings with
  | nil => exact List.pairwise_singleton _ _
  | cons sibling rest ih =>
      obtain ⟨afterSibling, restApart⟩ := List.pairwise_cons.1 apart
      have siblingRanged := ranged sibling (.head _)
      have siblingFits := fits sibling (.head _)
      unfold Fits at siblingFits
      rw [Forest.insertOrdered]
      split
      next precedes =>
        simp only [Entry.precedes, Bool.or_eq_true, Bool.and_eq_true, beq_iff_eq,
          decide_eq_true_eq] at precedes
        refine List.pairwise_cons.2 ⟨?_, apart⟩
        intro other membership
        rcases List.mem_cons.1 membership with rfl | later
        · omega
        · have otherAfter := afterSibling other later
          omega
      next follows =>
        simp only [Entry.precedes, Bool.or_eq_true, Bool.and_eq_true, beq_iff_eq,
          decide_eq_true_eq] at follows
        refine List.pairwise_cons.2 ⟨?_, ih restApart ?_ ?_⟩
        · intro other membership
          rcases mem_insertOrdered.1 membership with rfl | later
          · omega
          · exact afterSibling other later
        · exact fun other later => ranged other (.tail _ later)
        · exact fun other later => fits other (.tail _ later)

/-! ## Insertion keeps the order -/

/-- What lies below a sibling may be replaced by any ordered forest. -/
theorem Ordered.replace {test : Entry → Bool} {siblings before after grown : Forest}
    {sibling : Node} (ordered : siblings.Ordered)
    (first : FirstAt test siblings before sibling after) (grownOrdered : grown.Ordered) :
    Ordered (before ++ .mk sibling.entry grown :: after) := by
  have siblingOrdered := ordered.mem first.mem
  rw [first.split] at ordered
  obtain ⟨apart, each⟩ := ordered_iff.1 ordered
  refine ordered_iff.2 ⟨?_, ?_⟩
  · -- Siblings are apart by their entries, and the entry stays.
    simpa only [Apart, List.pairwise_append, List.pairwise_cons, List.forall_mem_cons,
      Node.entry_mk] using apart
  · intro node membership
    rcases List.mem_append.1 membership with early | rest
    · exact each node (List.mem_append_left _ early)
    · rcases List.mem_cons.1 rest with rfl | late
      · exact Node.ordered_iff.2 ⟨(Node.ordered_iff.1 siblingOrdered).1, grownOrdered⟩
      · exact each node (List.mem_append_right _ (.tail _ late))

theorem clipAtSiblings_ordered (siblings : Forest) {node : Node} (ordered : node.Ordered) :
    (clipAtSiblings siblings node).Ordered := by
  unfold clipAtSiblings
  split
  · exact ordered.clip _
  · exact ordered

/-- A node that is put among the siblings, cut where the first one it straddles begins and with
those it contains moved below it, leaves them in order. -/
theorem Ordered.place {siblings grown : Forest} {node placed : Node} (ordered : siblings.Ordered)
    (nodeOrdered : node.Ordered)
    (outside : siblings.Lacks fun sibling => sibling.contains node.entry)
    (unstarted : siblings.Lacks fun sibling => startsWithin sibling node.entry)
    (placing : placed = clipAtSiblings siblings node) (grownOrdered : grown.Ordered) :
    (insertOrdered (.mk placed.entry grown)
      (siblings.filter fun sibling => !placed.entry.contains sibling.entry)).Ordered := by
  have nodeRanged := (Node.ordered_iff.1 nodeOrdered).1
  have placedRanged := (Node.ordered_iff.1 (clipAtSiblings_ordered siblings nodeOrdered)).1
  rw [← placing] at placedRanged
  refine ordered_iff.2 ⟨?_, ?_⟩
  · refine Apart.insertOrdered (List.Pairwise.filter _ ordered.1) ?_ ?_
    · intro sibling membership
      exact (Node.ordered_iff.1 (ordered.mem (List.mem_filter.1 membership).1)).1
    · intro sibling membership
      obtain ⟨present, kept⟩ := List.mem_filter.1 membership
      subst placing
      exact fits_clipAtSiblings ordered nodeRanged outside unstarted present (by simpa using kept)
  · intro other membership
    rcases mem_insertOrdered.1 membership with rfl | present
    · exact Node.ordered_iff.2 ⟨placedRanged, grownOrdered⟩
    · exact ordered.mem (List.mem_filter.1 present).1

/-- Inserting ordered trees into an ordered forest gives an ordered forest. -/
theorem Inserted.ordered {siblings nodes result : Forest}
    (inserted : Inserted siblings nodes result) :
    siblings.Ordered → (∀ node ∈ nodes, node.Ordered) → result.Ordered := by
  induction inserted with
  | done => exact fun ordered _ => ordered
  | unify found _ _ innerIh nextIh =>
      intro ordered nodesOrdered
      obtain ⟨nodeOrdered, restOrdered⟩ := List.forall_mem_cons.1 nodesOrdered
      have childrenOrdered := (Node.ordered_iff.1 nodeOrdered).2
      have grownOrdered := innerIh (Node.ordered_iff.1 (ordered.mem found.mem)).2
        fun child => childrenOrdered.mem
      exact nextIh (ordered.replace found grownOrdered) restOrdered
  | nest _ found _ _ innerIh nextIh =>
      intro ordered nodesOrdered
      obtain ⟨nodeOrdered, restOrdered⟩ := List.forall_mem_cons.1 nodesOrdered
      have grownOrdered := innerIh (Node.ordered_iff.1 (ordered.mem found.mem)).2
        (by simpa using nodeOrdered)
      exact nextIh (ordered.replace found grownOrdered) restOrdered
  | cut _ _ found _ _ innerIh nextIh =>
      intro ordered nodesOrdered
      obtain ⟨nodeOrdered, restOrdered⟩ := List.forall_mem_cons.1 nodesOrdered
      have grownOrdered := innerIh (Node.ordered_iff.1 (ordered.mem found.mem)).2
        (by simpa using nodeOrdered.clip _)
      exact nextIh (ordered.replace found grownOrdered) restOrdered
  | @place siblings grown rest result node placed _ outside unstarted placing _ _ innerIh nextIh =>
      intro ordered nodesOrdered
      obtain ⟨nodeOrdered, restOrdered⟩ := List.forall_mem_cons.1 nodesOrdered
      have placedOrdered := clipAtSiblings_ordered siblings nodeOrdered
      rw [← placing] at placedOrdered
      have grownOrdered := innerIh (Node.ordered_iff.1 placedOrdered).2
        fun inner membership => ordered.mem (List.mem_filter.1 membership).1
      exact nextIh (ordered.place nodeOrdered outside unstarted placing grownOrdered) restOrdered

/-! ## Insertion keeps the owners -/

/-- A symbol that starts inside no sibling keeps its start, and with it its owner, when it
is cut at one of them. -/
theorem owns_clipAtSiblings (ownership : Ownership owns) {siblings : Forest} {node : Node}
    {outer : Entry} (ranged : node.entry.start ≤ node.entry.stop)
    (unstarted : siblings.Lacks fun sibling => startsWithin sibling node.entry)
    (owned : owns outer node.entry) : owns outer (clipAtSiblings siblings node).entry := by
  unfold clipAtSiblings
  split
  next bound least =>
    obtain ⟨first, firstMem, _, endsAfter, _, rfl⟩ :=
      mem_straddledStarts.1 (List.min?_eq_some_iff.1 least).1
    have notStarted := unstarted first firstMem
    simp only [startsWithin, Bool.and_eq_false_iff, decide_eq_false_iff_not] at notStarted
    rw [Node.entry_clip]
    exact ownership.shorten _ ranged (by omega) owned
  next none => exact owned

/-- What owns the siblings owns them still when one of them gets other children. -/
theorem OwnedBy.replace {test : Entry → Bool} {siblings before after grown : Forest}
    {sibling : Node} {outer : Entry} (owned : siblings.OwnedBy owns outer)
    (first : FirstAt test siblings before sibling after) :
    OwnedBy owns (before ++ .mk sibling.entry grown :: after) outer := by
  rw [first.split] at owned
  simpa only [OwnedBy, List.forall_mem_append, List.forall_mem_cons, Node.entry_mk] using owned

/-- Who owns what is inserted and where it is inserted owns the result. -/
theorem Inserted.ownedBy (ownership : Ownership owns) {siblings nodes result : Forest}
    {outer : Entry} (inserted : Inserted siblings nodes result) :
    (∀ node ∈ nodes, node.entry.start ≤ node.entry.stop) → siblings.OwnedBy owns outer →
      nodes.OwnedBy owns outer → result.OwnedBy owns outer := by
  induction inserted with
  | done => exact fun _ owned _ => owned
  | unify found _ _ _ nextIh =>
      intro ranged owned nodesOwned
      exact nextIh (List.forall_mem_cons.1 ranged).2 (owned.replace found)
        (List.forall_mem_cons.1 nodesOwned).2
  | nest _ found _ _ _ nextIh =>
      intro ranged owned nodesOwned
      exact nextIh (List.forall_mem_cons.1 ranged).2 (owned.replace found)
        (List.forall_mem_cons.1 nodesOwned).2
  | cut _ _ found _ _ _ nextIh =>
      intro ranged owned nodesOwned
      exact nextIh (List.forall_mem_cons.1 ranged).2 (owned.replace found)
        (List.forall_mem_cons.1 nodesOwned).2
  | place _ _ unstarted placing _ _ _ nextIh =>
      intro ranged owned nodesOwned
      obtain ⟨nodeRanged, restRanged⟩ := List.forall_mem_cons.1 ranged
      obtain ⟨nodeOwned, restOwned⟩ := List.forall_mem_cons.1 nodesOwned
      refine nextIh restRanged ?_ restOwned
      intro other membership
      rcases mem_insertOrdered.1 membership with rfl | present
      · rw [placing]
        exact owns_clipAtSiblings ownership nodeRanged unstarted nodeOwned
      · exact owned other (List.mem_filter.1 present).1

/-- What lies below a sibling may be replaced by what the sibling owns. -/
theorem Owned.replace {test : Entry → Bool} {siblings before after grown : Forest}
    {sibling : Node} (owned : siblings.Owned owns)
    (first : FirstAt test siblings before sibling after)
    (grownBy : grown.OwnedBy owns sibling.entry) (grownOwned : grown.Owned owns) :
    Owned owns (before ++ .mk sibling.entry grown :: after) := by
  rw [first.split] at owned
  have grownNode : (Node.mk sibling.entry grown).Owned owns :=
    Node.owned_iff.2 ⟨grownBy, grownOwned⟩
  simp only [owned_iff, List.forall_mem_append, List.forall_mem_cons] at owned ⊢
  exact ⟨owned.1, grownNode, owned.2.2⟩

/-- Ownership below a tree outlasts its being cut at the siblings. -/
theorem clipAtSiblings_owned (ownership : Ownership owns) (siblings : Forest) {node : Node}
    (ordered : node.Ordered) (owned : node.Owned owns) :
    (clipAtSiblings siblings node).Owned owns := by
  unfold clipAtSiblings
  split
  · exact owned.clip ownership _ ordered
  · exact owned

/-- A range that holds another's start holds it once it is cut at the range's end. -/
theorem contains_clip_of_startsWithin {sibling entry : Entry}
    (starts : startsWithin sibling entry = true) (ranged : entry.start ≤ entry.stop) :
    sibling.contains (entry.clip sibling.stop) = true := by
  simp only [startsWithin, Bool.and_eq_true, decide_eq_true_eq] at starts
  rw [Entry.contains_iff]
  simp only [Entry.clip_start, Entry.clip_stop]
  omega

/-- Inserting below a sibling what it owns keeps the order of the siblings and who owns
what. -/
theorem Inserted.owned_below (ownership : Ownership owns) {test : Entry → Bool}
    {siblings before after more grown : Forest} {sibling : Node}
    (inner : Inserted sibling.children more grown)
    (first : FirstAt test siblings before sibling after)
    (ordered : siblings.Ordered) (owned : siblings.Owned owns)
    (moreOrdered : ∀ node ∈ more, node.Ordered) (moreBy : more.OwnedBy owns sibling.entry)
    (grownOwned : sibling.children.Ordered → sibling.children.Owned owns → grown.Owned owns) :
    Ordered (before ++ .mk sibling.entry grown :: after) ∧
      Owned owns (before ++ .mk sibling.entry grown :: after) := by
  have below := (Node.ordered_iff.1 (ordered.mem first.mem)).2
  obtain ⟨belowBy, belowOwned⟩ := Node.owned_iff.1 (owned_iff.1 owned _ first.mem)
  have moreRanged : ∀ node ∈ more, node.entry.start ≤ node.entry.stop :=
    fun node membership => (Node.ordered_iff.1 (moreOrdered node membership)).1
  exact ⟨ordered.replace first (inner.ordered below moreOrdered),
    owned.replace first (inner.ownedBy ownership moreRanged belowBy moreBy)
      (grownOwned below belowOwned)⟩

/-- A symbol that takes its place among the siblings goes on to own what lies below
it. -/
theorem Owned.place {siblings grown : Forest} {placed : Entry} {test : Node → Bool}
    (owned : siblings.Owned owns) (grownBy : grown.OwnedBy owns placed)
    (grownOwned : grown.Owned owns) :
    Owned owns (insertOrdered (.mk placed grown) (siblings.filter test)) := by
  refine owned_iff.2 fun other membership => ?_
  rcases mem_insertOrdered.1 membership with rfl | present
  · exact Node.owned_iff.2 ⟨grownBy, grownOwned⟩
  · exact owned_iff.1 owned other (List.mem_filter.1 present).1

theorem Owned.filter {siblings : Forest} (owned : siblings.Owned owns) (test : Node → Bool) :
    Owned owns (siblings.filter test) :=
  owned_iff.2 fun sibling membership => owned_iff.1 owned sibling (List.mem_filter.1 membership).1

/-- Inserting trees into a forest keeps who owns what. -/
theorem Inserted.owned (ownership : Ownership owns) {siblings nodes result : Forest}
    (inserted : Inserted siblings nodes result) :
    siblings.Ordered → (∀ node ∈ nodes, node.Ordered) → siblings.Owned owns → nodes.Owned owns →
      result.Owned owns := by
  induction inserted with
  | done => exact fun _ _ owned _ => owned
  | @unify siblings before after grown rest result node sibling found inner _ innerIh nextIh =>
      intro ordered nodesOrdered owned nodesOwned
      obtain ⟨nodeOrdered, restOrdered⟩ := List.forall_mem_cons.1 nodesOrdered
      obtain ⟨nodeOwned, restOwned⟩ := nodesOwned
      obtain ⟨childrenBy, childrenOwned⟩ := Node.owned_iff.1 nodeOwned
      have children : ∀ child ∈ node.children, child.Ordered :=
        fun child => (Node.ordered_iff.1 nodeOrdered).2.mem
      -- Both entries stand for one symbol, so what one owns the other does.
      have childrenBySibling : node.children.OwnedBy owns sibling.entry :=
        fun child membership => ownership.of_same found.passes (childrenBy child membership)
      obtain ⟨nextOrdered, nextOwned⟩ := inner.owned_below ownership found ordered owned children
        childrenBySibling fun below belowOwned => innerIh below children belowOwned childrenOwned
      exact nextIh nextOrdered restOrdered nextOwned restOwned
  | @nest siblings before after grown rest result node sibling _ found inner _ innerIh nextIh =>
      intro ordered nodesOrdered owned nodesOwned
      obtain ⟨nodeOrdered, restOrdered⟩ := List.forall_mem_cons.1 nodesOrdered
      obtain ⟨nodeOwned, restOwned⟩ := nodesOwned
      have single : ∀ other ∈ [node], other.Ordered := by simpa using nodeOrdered
      have singleBy : OwnedBy owns [node] sibling.entry := by
        simpa [OwnedBy] using ownership.of_contains found.passes
      obtain ⟨nextOrdered, nextOwned⟩ := inner.owned_below ownership found ordered owned single
        singleBy fun below belowOwned => innerIh below single belowOwned ⟨nodeOwned, trivial⟩
      exact nextIh nextOrdered restOrdered nextOwned restOwned
  | @cut siblings before after grown rest result node sibling _ _ found inner _ innerIh nextIh =>
      intro ordered nodesOrdered owned nodesOwned
      obtain ⟨nodeOrdered, restOrdered⟩ := List.forall_mem_cons.1 nodesOrdered
      obtain ⟨nodeOwned, restOwned⟩ := nodesOwned
      have single : ∀ other ∈ [node.clip sibling.entry.stop], other.Ordered := by
        simpa using nodeOrdered.clip sibling.entry.stop
      have clipOwned := Node.Owned.clip ownership sibling.entry.stop nodeOwned nodeOrdered
      have clipInside := contains_clip_of_startsWithin found.passes
        (Node.ordered_iff.1 nodeOrdered).1
      have singleBy : OwnedBy owns [node.clip sibling.entry.stop] sibling.entry := by
        simpa [OwnedBy, Node.entry_clip] using ownership.of_contains clipInside
      obtain ⟨nextOrdered, nextOwned⟩ := inner.owned_below ownership found ordered owned single
        singleBy fun below belowOwned => innerIh below single belowOwned ⟨clipOwned, trivial⟩
      exact nextIh nextOrdered restOrdered nextOwned restOwned
  | @place siblings grown rest result node placed _ outside unstarted placing inner _ innerIh
      nextIh =>
      intro ordered nodesOrdered owned nodesOwned
      obtain ⟨nodeOrdered, restOrdered⟩ := List.forall_mem_cons.1 nodesOrdered
      obtain ⟨nodeOwned, restOwned⟩ := nodesOwned
      have placedOrdered := clipAtSiblings_ordered siblings nodeOrdered
      have placedOwned := clipAtSiblings_owned ownership siblings nodeOrdered nodeOwned
      rw [← placing] at placedOrdered placedOwned
      obtain ⟨childrenBy, childrenOwned⟩ := Node.owned_iff.1 placedOwned
      have below := (Node.ordered_iff.1 placedOrdered).2
      have moved : ∀ sibling ∈ siblings.filter fun sibling => placed.entry.contains sibling.entry,
          sibling.Ordered :=
        fun sibling membership => ordered.mem (List.mem_filter.1 membership).1
      have movedBy : OwnedBy owns
          (siblings.filter fun sibling => placed.entry.contains sibling.entry) placed.entry :=
        fun sibling membership => ownership.of_contains (List.mem_filter.1 membership).2
      have grownBy := inner.ownedBy ownership
        (fun sibling membership => (Node.ordered_iff.1 (moved sibling membership)).1)
        childrenBy movedBy
      have grownOwned := innerIh below moved childrenOwned (owned.filter _)
      exact nextIh (ordered.place nodeOrdered outside unstarted placing
        (inner.ordered below moved)) restOrdered (owned.place grownBy grownOwned) restOwned

theorem Ordered.insert {siblings : Forest} {node : Node} (ordered : siblings.Ordered)
    (nodeOrdered : node.Ordered) : (siblings.insert node).Ordered :=
  (insert_inserted siblings node).ordered ordered (by simpa using nodeOrdered)

theorem Owned.insert (ownership : Ownership owns) {siblings : Forest} {node : Node}
    (owned : siblings.Owned owns) (ordered : siblings.Ordered) (nodeOrdered : node.Ordered)
    (nodeOwned : node.Owned owns) : (siblings.insert node).Owned owns :=
  (insert_inserted siblings node).owned ownership ordered (by simpa using nodeOrdered) owned
    ⟨nodeOwned, trivial⟩

/-- What owns the siblings and the new symbol owns all that insertion leaves at the top. -/
theorem OwnedBy.insert (ownership : Ownership owns) {siblings : Forest} {node : Node}
    {outer : Entry} (owned : siblings.OwnedBy owns outer)
    (ranged : node.entry.start ≤ node.entry.stop) (nodeOwned : owns outer node.entry) :
    (siblings.insert node).OwnedBy owns outer :=
  (insert_inserted siblings node).ownedBy ownership (by simpa using ranged) owned
    (by simpa [OwnedBy] using nodeOwned)

end Forest

/-! ## Normal form -/

@[simp] theorem Node.entry_normalize (node : Node) : node.normalize.entry = node.entry := by
  cases node with
  | mk entry children => rfl

mutual

/-- The normal form of a tree is in order at every depth, if none of its ranges is turned
around. -/
theorem Node.normalize_ordered :
    ∀ {node : Node}, node.Each (fun entry _ => entry.start ≤ entry.stop) → node.normalize.Ordered
  | .mk _ _, ⟨ranged, below⟩ =>
      Node.ordered_iff.2 ⟨ranged, Forest.normalizeInto_ordered ⟨.nil, trivial⟩ below⟩

theorem Forest.normalizeInto_ordered :
    ∀ {built forest : Forest}, built.Ordered → forest.Ranged →
      (built.normalizeInto forest).Ordered
  | _, [], ordered, _ => ordered
  | _, _ :: _, ordered, ⟨first, rest⟩ => by
      rw [Forest.normalizeInto]
      exact Forest.normalizeInto_ordered (ordered.insert (Node.normalize_ordered first)) rest

end

/-- What owns the forest built so far and the trees still to come owns the result. -/
theorem Forest.normalizeInto_ownedBy (ownership : Ownership owns) {outer : Entry} :
    ∀ {built forest : Forest}, built.OwnedBy owns outer → forest.Ranged →
      forest.OwnedBy owns outer → (built.normalizeInto forest).OwnedBy owns outer
  | _, [], owned, _, _ => owned
  | _, node :: _, owned, ⟨firstRanged, restRanged⟩, forestOwned => by
      obtain ⟨first, rest⟩ := List.forall_mem_cons.1 forestOwned
      have ranged := (Node.each_iff.1 firstRanged).1
      rw [Forest.normalizeInto]
      exact Forest.normalizeInto_ownedBy ownership
        (owned.insert ownership (by rwa [Node.entry_normalize]) (by rwa [Node.entry_normalize]))
        restRanged rest

mutual

/-- The normal form keeps the ownership in a tree, however the symbols below it are rearranged.
-/
theorem Node.normalize_owned (ownership : Ownership owns) :
    ∀ {node : Node}, node.Each (fun entry _ => entry.start ≤ entry.stop) → node.Owned owns →
      node.normalize.Owned owns
  | .mk _ _, ⟨_, ranged⟩, ⟨here, below⟩ =>
      Node.owned_iff.2
        ⟨Forest.normalizeInto_ownedBy ownership (by simp [Forest.OwnedBy]) ranged here,
          Forest.normalizeInto_owned ownership ⟨.nil, trivial⟩ trivial ranged below⟩

theorem Forest.normalizeInto_owned (ownership : Ownership owns) :
    ∀ {built forest : Forest}, built.Ordered → built.Owned owns → forest.Ranged →
      forest.Owned owns → (built.normalizeInto forest).Owned owns
  | _, [], _, owned, _, _ => owned
  | _, _ :: _, ordered, owned, ⟨firstRanged, restRanged⟩, ⟨firstOwned, restOwned⟩ => by
      have firstOrdered := Node.normalize_ordered firstRanged
      rw [Forest.normalizeInto]
      exact Forest.normalizeInto_owned ownership (ordered.insert firstOrdered)
        (owned.insert ownership ordered firstOrdered
          (Node.normalize_owned ownership firstRanged firstOwned))
        restRanged restOwned

end

/-! ## Placing an outline in the document -/

/-- Placing keeps the order of offsets, even of those that the mapping does not cover. -/
theorem Mapping.clampToDocument_le (mapping : Mapping) {a b : Nat} (le : a ≤ b) :
    mapping.clampToDocument a ≤ mapping.clampToDocument b := by
  simp only [Mapping.clampToDocument, Mapping.toDocument]
  omega

/-- A range that contains another does so wherever the two are placed. -/
theorem Entry.contains_place {outer inner : Entry} (mapping : Mapping)
    (contains : outer.contains inner = true) :
    (outer.place mapping).contains (inner.place mapping) = true := by
  rw [Entry.contains_iff] at contains ⊢
  exact ⟨mapping.clampToDocument_le contains.1, mapping.clampToDocument_le contains.2⟩

theorem Forest.place_eq_map (mapping : Mapping) (forest : Forest) :
    Forest.place mapping forest = forest.map (Node.place mapping) := by
  induction forest with
  | nil => rfl
  | cons node rest ih => rw [Forest.place, List.map_cons, ih]

theorem Node.entry_place (mapping : Mapping) (node : Node) :
    (node.place mapping).entry = node.entry.place mapping := by
  cases node with
  | mk entry children => rfl

mutual

/-- Placing turns no range around. -/
theorem Node.place_ranged (mapping : Mapping) :
    ∀ {node : Node}, node.Each (fun entry _ => entry.start ≤ entry.stop) →
      (node.place mapping).Each fun entry _ => entry.start ≤ entry.stop
  | .mk _ _, ⟨ranged, below⟩ =>
      ⟨mapping.clampToDocument_le ranged, Forest.place_ranged mapping below⟩

theorem Forest.place_ranged (mapping : Mapping) :
    ∀ {forest : Forest}, forest.Ranged → (Forest.place mapping forest).Ranged
  | [], _ => trivial
  | _ :: _, ⟨first, rest⟩ => ⟨Node.place_ranged mapping first, Forest.place_ranged mapping rest⟩

end

mutual

theorem Node.place_nested (mapping : Mapping) :
    ∀ {node : Node}, node.Nested → (node.place mapping).Nested
  | .mk _ _, ⟨within, below⟩ => by
      refine ⟨?_, Forest.place_nested mapping below⟩
      intro placed membership
      rw [Forest.place_eq_map] at membership
      obtain ⟨child, inChildren, rfl⟩ := List.mem_map.1 membership
      rw [Node.entry_place]
      exact Entry.contains_place mapping (within child inChildren)

theorem Forest.place_nested (mapping : Mapping) :
    ∀ {forest : Forest}, forest.Nested → (Forest.place mapping forest).Nested
  | [], _ => trivial
  | _ :: _, ⟨first, rest⟩ => ⟨Node.place_nested mapping first, Forest.place_nested mapping rest⟩

end

namespace Forest

/-! ## Merging -/

/-- A property of forests that the insertion of every placed tree keeps holds of the
merged forest. -/
theorem merge_induction {motive : Forest → Prop} {host : Forest} {embedded : List Embedded}
    (start : motive (normalize host))
    (step : ∀ merged outline node, outline ∈ embedded → node ∈ outline.forest → motive merged →
      motive (merged.insert (node.place outline.mapping).normalize)) :
    motive (merge host embedded) := by
  refine List.foldlRecOn embedded _ start ?_
  intro merged merging outline inEmbedded
  refine List.foldlRecOn outline.forest _ merging ?_
  intro merged merging node inForest
  exact step merged outline node inEmbedded inForest merging

/-- A normal form is in order, whatever the order and the nesting of the forest. -/
theorem normalize_ordered {forest : Forest} (ranged : forest.Ranged) :
    (normalize forest).Ordered :=
  normalizeInto_ordered ⟨.nil, trivial⟩ ranged

theorem normalize_owned (ownership : Ownership owns) {forest : Forest} (ranged : forest.Ranged)
    (owned : forest.Owned owns) : (normalize forest).Owned owns :=
  normalizeInto_owned ownership ⟨.nil, trivial⟩ trivial ranged owned

/-- A nested forest has a nested normal form. -/
theorem normalize_nested {forest : Forest} (ranged : forest.Ranged) (nested : forest.Nested) :
    (normalize forest).Nested :=
  normalize_owned Ownership.contains ranged nested

/-- The trees that merging inserts are ordered. -/
theorem placed_ordered {embedded : List Embedded} {outline : Embedded} {node : Node}
    (ranged : ∀ outline ∈ embedded, outline.forest.Ranged) (inEmbedded : outline ∈ embedded)
    (inForest : node ∈ outline.forest) : (node.place outline.mapping).normalize.Ordered := by
  have nodeRanged := Forest.each_iff.1 (ranged outline inEmbedded) node inForest
  exact Node.normalize_ordered (Node.place_ranged outline.mapping nodeRanged)

/-- A merged forest is in order, whatever the host forest and the outlines are like. -/
theorem merge_ordered {host : Forest} {embedded : List Embedded} (hostRanged : host.Ranged)
    (embeddedRanged : ∀ outline ∈ embedded, outline.forest.Ranged) :
    (merge host embedded).Ordered := by
  refine merge_induction (normalize_ordered hostRanged) ?_
  intro merged outline node inEmbedded inForest ordered
  exact ordered.insert (placed_ordered embeddedRanged inEmbedded inForest)

/-- Merging keeps who owns what, in the host forest and in the placed outlines. -/
theorem merge_owned (ownership : Ownership owns) {host : Forest} {embedded : List Embedded}
    (hostRanged : host.Ranged) (embeddedRanged : ∀ outline ∈ embedded, outline.forest.Ranged)
    (hostOwned : host.Owned owns)
    (placedOwned : ∀ outline ∈ embedded, (Forest.place outline.mapping outline.forest).Owned owns) :
    (merge host embedded).Owned owns := by
  -- A tree is only known to find its place in an ordered forest, so both go together.
  have both : (merge host embedded).Ordered ∧ (merge host embedded).Owned owns := by
    refine merge_induction (motive := fun merged => merged.Ordered ∧ merged.Owned owns)
      ⟨normalize_ordered hostRanged, normalize_owned ownership hostRanged hostOwned⟩ ?_
    intro merged outline node inEmbedded inForest ⟨ordered, owned⟩
    have nodeRanged := Forest.each_iff.1 (embeddedRanged outline inEmbedded) node inForest
    have nodeOwned : (node.place outline.mapping).Owned owns := by
      refine owned_iff.1 (placedOwned outline inEmbedded) _ ?_
      rw [place_eq_map]
      exact List.mem_map_of_mem inForest
    have placedOrdered := placed_ordered embeddedRanged inEmbedded inForest
    exact ⟨ordered.insert placedOrdered, owned.insert ownership ordered placedOrdered
      (Node.normalize_owned ownership (Node.place_ranged outline.mapping nodeRanged) nodeOwned)⟩
  exact both.2

/-- A merged forest is nested where the host forest and the outlines are. -/
theorem merge_nested {host : Forest} {embedded : List Embedded} (hostRanged : host.Ranged)
    (embeddedRanged : ∀ outline ∈ embedded, outline.forest.Ranged) (hostNested : host.Nested)
    (embeddedNested : ∀ outline ∈ embedded, outline.forest.Nested) :
    (merge host embedded).Nested :=
  merge_owned Ownership.contains hostRanged embeddedRanged hostNested
    fun outline inEmbedded => place_nested outline.mapping (embeddedNested outline inEmbedded)

/-- Normal form and merging order the symbols at every depth, however the ranges of
the given symbols overlap; and when the given symbols lie inside those that own
them, so do the symbols of the result. -/
theorem merge_wellFormed (host : Forest) (embedded : List Embedded) (hostRanged : host.Ranged)
    (embeddedRanged : ∀ outline ∈ embedded, outline.forest.Ranged) :
    ((normalize host).Ordered ∧ (merge host embedded).Ordered) ∧
      (host.Nested → (normalize host).Nested) ∧
      (host.Nested → (∀ outline ∈ embedded, outline.forest.Nested) →
        (merge host embedded).Nested) :=
  ⟨⟨normalize_ordered hostRanged, merge_ordered hostRanged embeddedRanged⟩,
    normalize_nested hostRanged, merge_nested hostRanged embeddedRanged⟩

/-- Two functions that overlap, an empty one at their border, and an outline that
straddles both and reaches past the end of its content. -/
theorem merge_wellFormed_overlapping :
    let host : Forest := [.leaf (.of "f" .ofFunction 0 10 .host),
      .leaf (.of "g" .ofFunction 5 15 .host), .leaf (.of "e" .ofVariable 10 10 .host)]
    let embedded : List Embedded := [⟨⟨8, 6⟩, [.mk (.of "ul" .ofElement 0 9 .embedded)
      [.leaf (.of "li" .ofElement 1 5 .embedded), .leaf (.of "li" .ofElement 4 8 .embedded)]]⟩]
    (merge host embedded).Ordered ∧ (merge host embedded).Nested := by
  intro host embedded
  have hostRanged : host.Ranged := by
    simp [host, Ranged, Forest.Each, Node.Each, Node.leaf, Entry.of]
  have embeddedRanged : ∀ outline ∈ embedded, outline.forest.Ranged := by
    simp [embedded, Ranged, Forest.Each, Node.Each, Node.leaf, Entry.of]
  have hostNested : host.Nested := by
    simp [host, Nested, Forest.Each, Node.Each, Node.leaf, Within]
  have embeddedNested : ∀ outline ∈ embedded, outline.forest.Nested := by
    simp [embedded, Nested, Forest.Each, Node.Each, Node.leaf, Within, Entry.of, Entry.contains]
  have result := merge_wellFormed host embedded hostRanged embeddedRanged
  exact ⟨result.1.2, result.2.2 hostNested embeddedNested⟩

end Forest

end Inlay
