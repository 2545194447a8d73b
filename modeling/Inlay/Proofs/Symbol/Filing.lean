import Inlay.Proofs.Symbol.WellFormed

/-!
# Insertion without cutting

When no two of the ranges at hand cross, an insertion never cuts a symbol: a tree is
unified, nested or placed as it is.  `Forest.Filed` is the relation of insertion with
the rules for cutting left out, and `Forest.Inserted.filed` says that it is enough for
ranges that do not cross.

A filed tree may be moved, but what was below a symbol stays below it.  This is
`Forest.EmbedsIn`: every tree of one forest has an image in the other, an entry for the
same symbol somewhere in it, and the trees below it have their images below that
image.
-/

namespace Inlay

/-! ## Ranges that do not cross -/

/-- Ranges that share characters lie one inside the other. -/
def Entry.Uncrossed (a b : Entry) : Prop :=
  a.overlaps b = true → a.contains b = true ∨ b.contains a = true

instance (a b : Entry) : Decidable (a.Uncrossed b) :=
  inferInstanceAs (Decidable (a.overlaps b = true → _))

/-- No two ranges with the property cross. -/
def Laminar (holds : Entry → Prop) : Prop := ∀ a b, holds a → holds b → a.Uncrossed b

namespace Entry

/-- Entries stand for the same symbol if they agree in everything but the detail. -/
theorem same_iff {a b : Entry} :
    a.same b = true ↔ a.name = b.name ∧ a.kind = b.kind ∧ a.start = b.start ∧
      a.stop = b.stop ∧ a.origin = b.origin := by
  simp only [same, Bool.and_eq_true, beq_iff_eq, and_assoc]

theorem same_refl (entry : Entry) : entry.same entry = true :=
  same_iff.2 ⟨rfl, rfl, rfl, rfl, rfl⟩

theorem same_trans {a b c : Entry} (first : a.same b = true) (second : b.same c = true) :
    a.same c = true := by
  rw [same_iff] at first second ⊢
  grind

theorem contains_of_same {a b : Entry} (same : a.same b = true) : a.contains b = true := by
  obtain ⟨starts, stops⟩ := same_range same
  rw [contains_iff]
  omega

/-- Where ranges do not cross, an entry outside a sibling does not start inside it. -/
theorem not_startsWithin_of_uncrossed {sibling entry : Entry} (uncrossed : sibling.Uncrossed entry)
    (outside : sibling.contains entry = false) : Forest.startsWithin sibling entry = false := by
  rw [Uncrossed, contains_iff, contains_iff] at uncrossed
  rw [not_contains_iff] at outside
  simp only [overlaps, Forest.startsWithin, Bool.and_eq_true, Bool.and_eq_false_iff,
    decide_eq_true_eq, decide_eq_false_iff_not] at uncrossed ⊢
  omega

end Entry

namespace Forest

/-- All entries of the forest have the property. -/
def All (holds : Entry → Prop) (forest : Forest) : Prop :=
  forest.Each fun entry _ => holds entry

theorem all_iff {holds : Entry → Prop} {forest : Forest} :
    forest.All holds ↔ ∀ node ∈ forest, holds node.entry ∧ node.children.All holds := by
  rw [All, each_iff]
  exact forall₂_congr fun _ _ => Node.each_iff

theorem all_nil {holds : Entry → Prop} : All holds [] := trivial

theorem all_cons {holds : Entry → Prop} {node : Node} {rest : Forest} :
    All holds (node :: rest) ↔
      (holds node.entry ∧ node.children.All holds) ∧ rest.All holds :=
  and_congr_left' Node.each_iff

theorem all_append {holds : Entry → Prop} {first second : Forest} :
    All holds (first ++ second) ↔ first.All holds ∧ second.All holds := by
  rw [all_iff, all_iff, all_iff, List.forall_mem_append]

/-- Other children below a symbol are all that a property of all entries has to be shown of. -/
theorem All.replace {test : Entry → Bool} {holds : Entry → Prop}
    {siblings before after grown : Forest} {sibling : Node} (all : siblings.All holds)
    (first : FirstAt test siblings before sibling after) (grownAll : grown.All holds) :
    All holds (before ++ .mk sibling.entry grown :: after) := by
  rw [first.split, all_iff, List.forall_mem_append, List.forall_mem_cons] at all
  rw [all_iff, List.forall_mem_append, List.forall_mem_cons]
  exact ⟨all.1, ⟨all.2.1.1, grownAll⟩, all.2.2⟩

/-- No range of the forest is empty. -/
abbrev Filled (forest : Forest) : Prop := forest.All fun entry => entry.start < entry.stop

end Forest

mutual

/-- What contains the root of a nested tree contains all its symbols. -/
theorem Node.Nested.all_within {outer : Entry} : ∀ {node : Node}, node.Nested →
    outer.contains node.entry = true → node.Each fun entry _ => outer.contains entry = true
  | .mk _ _, ⟨within, below⟩, contains =>
      ⟨contains, Forest.Nested.all_within below fun child membership =>
        Entry.contains_trans contains (within child membership)⟩

/-- What contains the outermost symbols of a nested forest contains all of them. -/
theorem Forest.Nested.all_within {outer : Entry} : ∀ {forest : Forest}, forest.Nested →
    forest.Within outer → forest.All fun entry => outer.contains entry = true
  | [], _, _ => trivial
  | _ :: _, ⟨first, rest⟩, within => by
      obtain ⟨here, later⟩ := List.forall_mem_cons.1 within
      exact ⟨Node.Nested.all_within first here, Forest.Nested.all_within rest later⟩

end

namespace Forest

/-- A tree that no sibling contains and that crosses none is not cut. -/
theorem clipAtSiblings_eq_self {siblings : Forest} {node : Node}
    (outside : siblings.Lacks fun sibling => sibling.contains node.entry)
    (uncrossed : ∀ sibling ∈ siblings, sibling.entry.Uncrossed node.entry) :
    clipAtSiblings siblings node = node := by
  have none : straddledStarts siblings node.entry = [] := by
    rw [straddledStarts, List.map_eq_nil_iff, List.filter_eq_nil_iff]
    intro sibling membership straddles
    simp only [Bool.and_eq_true, Bool.not_eq_true'] at straddles
    rcases uncrossed sibling membership straddles.1 with holds | held
    · exact absurd holds (Bool.eq_false_iff.1 (outside sibling membership))
    · exact absurd held (Bool.eq_false_iff.1 straddles.2)
  rw [clipAtSiblings, none]
  rfl

/-! ## Filing -/

/-- Inserting the trees of the second forest, one after the other, into the first forest
gives the third, and none of them is cut. -/
inductive Filed : Forest → Forest → Forest → Prop where
  | done {siblings : Forest} : Filed siblings [] siblings
  | unify {siblings before after grown rest result : Forest} {node sibling : Node} :
      FirstAt (fun sibling => sibling.same node.entry) siblings before sibling after →
      Filed sibling.children node.children grown →
      Filed (before ++ .mk sibling.entry grown :: after) rest result →
      Filed siblings (node :: rest) result
  | nest {siblings before after grown rest result : Forest} {node sibling : Node} :
      FirstAt (fun sibling => sibling.contains node.entry) siblings before sibling after →
      Filed sibling.children [node] grown →
      Filed (before ++ .mk sibling.entry grown :: after) rest result →
      Filed siblings (node :: rest) result
  | place {siblings grown rest result : Forest} {node : Node} :
      siblings.Lacks (fun sibling => sibling.contains node.entry) →
      Filed node.children (siblings.filter fun sibling => node.entry.contains sibling.entry)
        grown →
      Filed (insertOrdered (.mk node.entry grown)
        (siblings.filter fun sibling => !node.entry.contains sibling.entry)) rest result →
      Filed siblings (node :: rest) result

/-- Where no two ranges cross, insertion is filing: it cuts nothing and brings in no entry that
was not there. -/
theorem Inserted.filed {holds : Entry → Prop} (laminar : Laminar holds)
    {siblings nodes result : Forest} (inserted : Inserted siblings nodes result) :
    siblings.All holds → nodes.All holds → Filed siblings nodes result ∧ result.All holds := by
  induction inserted with
  | done => exact fun all _ => ⟨.done, all⟩
  | unify found _ _ innerIh nextIh =>
      intro all nodesAll
      obtain ⟨⟨_, childrenAll⟩, restAll⟩ := all_cons.1 nodesAll
      obtain ⟨inner, grownAll⟩ := innerIh (all_iff.1 all _ found.mem).2 childrenAll
      obtain ⟨next, resultAll⟩ := nextIh (all.replace found grownAll) restAll
      exact ⟨.unify found inner next, resultAll⟩
  | nest _ found _ _ innerIh nextIh =>
      intro all nodesAll
      obtain ⟨nodeAll, restAll⟩ := all_cons.1 nodesAll
      obtain ⟨inner, grownAll⟩ := innerIh (all_iff.1 all _ found.mem).2
        (all_cons.2 ⟨nodeAll, all_nil⟩)
      obtain ⟨next, resultAll⟩ := nextIh (all.replace found grownAll) restAll
      exact ⟨.nest found inner next, resultAll⟩
  | cut _ outside found _ _ _ _ =>
      -- The sibling inside which the tree starts would have to cross it.
      intro all nodesAll
      have uncrossed := laminar _ _ (all_iff.1 all _ found.mem).1 (all_cons.1 nodesAll).1.1
      have starts := found.passes
      rw [Entry.not_startsWithin_of_uncrossed uncrossed (outside _ found.mem)] at starts
      cases starts
  | @place siblings grown rest result node placed _ outside _ placing _ _ innerIh nextIh =>
      intro all nodesAll
      obtain ⟨⟨nodeHolds, childrenAll⟩, restAll⟩ := all_cons.1 nodesAll
      have whole : placed = node := placing.trans (clipAtSiblings_eq_self outside
        fun sibling membership => laminar _ _ (all_iff.1 all sibling membership).1 nodeHolds)
      subst whole
      have part (test : Node → Bool) : All holds (siblings.filter test) :=
        all_iff.2 fun sibling membership => all_iff.1 all sibling (List.mem_filter.1 membership).1
      obtain ⟨inner, grownAll⟩ := innerIh childrenAll (part _)
      have placedAll : All holds (insertOrdered (.mk placed.entry grown)
          (siblings.filter fun sibling => !placed.entry.contains sibling.entry)) := by
        refine all_iff.2 fun other membership => ?_
        rcases mem_insertOrdered.1 membership with rfl | kept
        · exact ⟨nodeHolds, grownAll⟩
        · exact all_iff.1 (part _) other kept
      obtain ⟨next, resultAll⟩ := nextIh placedAll restAll
      exact ⟨.place outside inner next, resultAll⟩

/-! ## Embeddings of forests -/

/-- A tree is one of the forest's, or below one of them. -/
inductive Holds : Forest → Node → Prop where
  | here {forest : Forest} {node : Node} : node ∈ forest → Holds forest node
  | under {forest : Forest} {parent node : Node} :
      parent ∈ forest → Holds parent.children node → Holds forest node

/-- What is below a tree that is somewhere in a forest is in the forest too. -/
theorem Holds.trans {forest : Forest} {middle node : Node} (first : forest.Holds middle)
    (second : middle.children.Holds node) : forest.Holds node := by
  induction first with
  | here membership => exact .under membership second
  | under membership _ ih => exact .under membership (ih second)

end Forest

mutual

/-- The symbol of the tree is somewhere in the forest, and the trees below it are
embedded below it there. -/
def Node.EmbedsIn : Node → Forest → Prop
  | .mk entry children, forest => ∃ image, forest.Holds image ∧ image.entry.same entry = true ∧
      Forest.EmbedsIn children image.children

/-- Every tree of the first forest is embedded in the second. -/
def Forest.EmbedsIn : Forest → Forest → Prop
  | [], _ => True
  | node :: rest, forest => node.EmbedsIn forest ∧ Forest.EmbedsIn rest forest

end

/-- A tree is embedded in a forest if one of its trees stands for the same symbol and has what
is below embedded below it. -/
theorem Node.embedsIn_iff {node : Node} {forest : Forest} :
    node.EmbedsIn forest ↔ ∃ image, forest.Holds image ∧ image.entry.same node.entry = true ∧
      node.children.EmbedsIn image.children := by
  cases node with
  | mk entry children => rfl

theorem Forest.embedsIn_iff {nodes forest : Forest} :
    nodes.EmbedsIn forest ↔ ∀ node ∈ nodes, node.EmbedsIn forest := by
  induction nodes with
  | nil => simp [Forest.EmbedsIn]
  | cons node rest ih => simp only [Forest.EmbedsIn, ih, List.forall_mem_cons]

mutual

/-- A tree of a forest, at whatever depth, is embedded in it. -/
theorem Node.embedsIn_of_holds : ∀ {node : Node} {forest : Forest}, forest.Holds node →
    node.EmbedsIn forest
  | .mk entry _, _, holds =>
      ⟨_, holds, Entry.same_refl entry, Forest.embedsIn_of_subset fun _ membership => membership⟩

theorem Forest.embedsIn_of_subset : ∀ {nodes forest : Forest}, (∀ node ∈ nodes, node ∈ forest) →
    nodes.EmbedsIn forest
  | [], _, _ => trivial
  | _ :: _, _, subset =>
      ⟨Node.embedsIn_of_holds (.here (subset _ (.head _))),
        Forest.embedsIn_of_subset fun node membership => subset node (.tail _ membership)⟩

end

/-- What is embedded below a tree is embedded where the tree is. -/
theorem Node.EmbedsIn.of_below {node parent : Node} {forest : Forest} (holds : forest.Holds parent)
    (embeds : node.EmbedsIn parent.children) : node.EmbedsIn forest := by
  obtain ⟨image, inside, same, below⟩ := Node.embedsIn_iff.1 embeds
  exact Node.embedsIn_iff.2 ⟨image, holds.trans inside, same, below⟩

/-- Not only the trees of an embedded forest are embedded, but those below them too. -/
theorem Forest.EmbedsIn.holds {nodes forest : Forest} {node : Node} (holds : nodes.Holds node)
    (embeds : nodes.EmbedsIn forest) : node.EmbedsIn forest := by
  induction holds generalizing forest with
  | here membership => exact Forest.embedsIn_iff.1 embeds _ membership
  | under membership _ ih =>
      obtain ⟨image, inside, _, below⟩ :=
        Node.embedsIn_iff.1 (Forest.embedsIn_iff.1 embeds _ membership)
      exact (ih below).of_below inside

mutual

theorem Node.EmbedsIn.trans : ∀ {node : Node} {middle forest : Forest}, node.EmbedsIn middle →
    middle.EmbedsIn forest → node.EmbedsIn forest
  | .mk _ _, _, _, ⟨_, inside, same, below⟩, second => by
      obtain ⟨image, deeper, alike, lower⟩ := Node.embedsIn_iff.1 (second.holds inside)
      exact ⟨image, deeper, Entry.same_trans alike same, below.trans lower⟩

theorem Forest.EmbedsIn.trans : ∀ {nodes middle forest : Forest}, nodes.EmbedsIn middle →
    middle.EmbedsIn forest → nodes.EmbedsIn forest
  | [], _, _, _, _ => trivial
  | _ :: _, _, _, ⟨first, rest⟩, second => ⟨first.trans second, rest.trans second⟩

end

namespace Forest

theorem EmbedsIn.append {first second forest : Forest} (left : first.EmbedsIn forest)
    (right : second.EmbedsIn forest) : (first ++ second).EmbedsIn forest := by
  rw [embedsIn_iff] at left right ⊢
  exact List.forall_mem_append.2 ⟨left, right⟩

/-- A forest is embedded in what it becomes when the trees below one of its symbols
grow. -/
theorem FirstAt.embedsIn {test : Entry → Bool} {siblings before after grown : Forest}
    {sibling : Node} (first : FirstAt test siblings before sibling after)
    (grows : sibling.children.EmbedsIn grown) :
    siblings.EmbedsIn (before ++ .mk sibling.entry grown :: after) := by
  rw [first.split, embedsIn_iff]
  intro node membership
  rcases List.mem_append.1 membership with early | rest
  · exact Node.embedsIn_of_holds (.here (List.mem_append_left _ early))
  · rcases List.mem_cons.1 rest with rfl | late
    · exact Node.embedsIn_iff.2 ⟨.mk node.entry grown, .here (by simp), Entry.same_refl _, grows⟩
    · exact Node.embedsIn_of_holds (.here (List.mem_append_right _ (.tail _ late)))

/-- A forest is embedded in what it becomes when a symbol takes over the trees it
contains. -/
theorem embedsIn_insertOrdered {siblings grown : Forest} {entry : Entry}
    (moved : EmbedsIn (siblings.filter fun sibling => entry.contains sibling.entry) grown) :
    siblings.EmbedsIn (insertOrdered (.mk entry grown)
      (siblings.filter fun sibling => !entry.contains sibling.entry)) := by
  rw [embedsIn_iff] at moved ⊢
  intro sibling membership
  cases inside : entry.contains sibling.entry with
  | true =>
      have grew := moved sibling (List.mem_filter.2 ⟨membership, inside⟩)
      exact .of_below (.here (mem_insertOrdered.2 (.inl rfl))) grew
  | false =>
      refine Node.embedsIn_of_holds (.here (mem_insertOrdered.2 (.inr ?_)))
      exact List.mem_filter.2 ⟨membership, by rw [inside]; rfl⟩

/-- Filing keeps what was there and what is filed. -/
theorem Filed.embeds {siblings nodes result : Forest} (filed : Filed siblings nodes result) :
    siblings.EmbedsIn result ∧ nodes.EmbedsIn result := by
  induction filed with
  | done => exact ⟨embedsIn_of_subset fun _ membership => membership, trivial⟩
  | @unify siblings before after grown rest result node sibling found _ _ innerIh nextIh =>
      have image : node.EmbedsIn (before ++ .mk sibling.entry grown :: after) :=
        Node.embedsIn_iff.2 ⟨.mk sibling.entry grown, .here (by simp), found.passes, innerIh.2⟩
      exact ⟨(found.embedsIn innerIh.1).trans nextIh.1, image.trans nextIh.1, nextIh.2⟩
  | @nest siblings before after grown rest result node sibling found _ _ innerIh nextIh =>
      have image : node.EmbedsIn (before ++ .mk sibling.entry grown :: after) :=
        .of_below (.here (List.mem_append_right _ (.head _))) innerIh.2.1
      exact ⟨(found.embedsIn innerIh.1).trans nextIh.1, image.trans nextIh.1, nextIh.2⟩
  | @place siblings grown rest result node _ _ _ innerIh nextIh =>
      have image : node.EmbedsIn (insertOrdered (.mk node.entry grown)
          (siblings.filter fun sibling => !node.entry.contains sibling.entry)) :=
        Node.embedsIn_iff.2 ⟨.mk node.entry grown, .here (mem_insertOrdered.2 (.inl rfl)),
          Entry.same_refl _, innerIh.1⟩
      exact ⟨(embedsIn_insertOrdered innerIh.2).trans nextIh.1, image.trans nextIh.1, nextIh.2⟩

end Forest

end Inlay
