import Inlay.Proofs.Symbol.Region
import Mathlib.Data.List.Perm.Subperm

/-!
# Merging loses no symbol and invents none

Insertion moves symbols and cuts their ranges, and it drops a symbol only where another
entry already stands for it.  So every symbol of a merged forest is one of the given
symbols with its range cut at some bound, and every given symbol is shown by one of
these.  Several cuts amount to one, which is why a single bound is enough.

The number of symbols can only shrink, and it does so only where two of the given
symbols agree in name, kind and origin.  Where no two ranges cross nothing is cut, and
every range stays as it was given.
-/

namespace Inlay

/-! ## Entries that show a symbol -/

/-- The second entry shows the first: it has the name, the kind and the origin, and the
range cut at some bound. -/
structure Entry.ShownBy (given shown : Entry) : Prop where
  name : shown.name = given.name
  kind : shown.kind = given.kind
  origin : shown.origin = given.origin
  cut : ∃ bound, shown.start = min given.start bound ∧ shown.stop = min given.stop bound

namespace Entry

/-- What two entries for one symbol agree in, whatever their ranges. -/
def label (entry : Entry) : String × SymbolKind × Origin := (entry.name, entry.kind, entry.origin)

theorem ShownBy.label {given shown : Entry} (shownBy : given.ShownBy shown) :
    shown.label = given.label := by
  rw [Entry.label, Entry.label, shownBy.name, shownBy.kind, shownBy.origin]

theorem ShownBy.refl (entry : Entry) : entry.ShownBy entry :=
  ⟨rfl, rfl, rfl, max entry.start entry.stop, by omega, by omega⟩

/-- Two cuts amount to the nearer one. -/
theorem ShownBy.trans {given middle shown : Entry} (first : given.ShownBy middle)
    (second : middle.ShownBy shown) : given.ShownBy shown := by
  obtain ⟨outer, outerStart, outerStop⟩ := first.cut
  obtain ⟨inner, innerStart, innerStop⟩ := second.cut
  refine ⟨second.name.trans first.name, second.kind.trans first.kind,
    second.origin.trans first.origin, min outer inner, ?_, ?_⟩
  · rw [innerStart, outerStart, Nat.min_assoc]
  · rw [innerStop, outerStop, Nat.min_assoc]

/-- A cut entry shows the whole one. -/
theorem shownBy_clip (entry : Entry) (bound : Nat) : entry.ShownBy (entry.clip bound) := by
  refine ⟨rfl, rfl, rfl, min entry.stop bound, clip_start entry bound, ?_⟩
  rw [clip_stop]
  omega

/-- Entries for the same symbol show each other. -/
theorem shownBy_of_same {given shown : Entry} (same : shown.same given = true) :
    given.ShownBy shown := by
  obtain ⟨name, kind, start, stop, origin⟩ := same_iff.1 same
  exact ⟨name, kind, origin, max given.start given.stop, by omega, by omega⟩

end Entry

/-! ## The entries of a forest -/

mutual

theorem Node.map_snd_flatten (depth : Nat) :
    ∀ node : Node, (node.flatten depth).map Prod.snd = node.entry :: node.children.entries
  | .mk entry children => by
      rw [Node.flatten, List.map_cons, Forest.map_snd_flatten]
      rfl

/-- Entries do not depend on the depth at which a forest is listed. -/
theorem Forest.map_snd_flatten (depth : Nat) :
    ∀ forest : Forest, (forest.flatten depth).map Prod.snd = forest.entries
  | [] => rfl
  | node :: rest => by
      rw [Forest.entries, Forest.flatten, Forest.flatten, List.map_append, List.map_append,
        Node.map_snd_flatten depth, Node.map_snd_flatten 0, Forest.map_snd_flatten depth,
        Forest.map_snd_flatten 0]

end

namespace Forest

@[simp] theorem entries_nil : entries [] = [] := rfl

@[simp] theorem entries_cons (node : Node) (rest : Forest) :
    entries (node :: rest) = node.entry :: (node.children.entries ++ rest.entries) := by
  rw [entries, flatten, List.map_append, Node.map_snd_flatten, map_snd_flatten, List.cons_append]

theorem mem_entries {entry : Entry} {forest : Forest} :
    entry ∈ forest.entries ↔
      ∃ node ∈ forest, entry = node.entry ∨ entry ∈ node.children.entries := by
  induction forest with
  | nil => simp
  | cons node rest ih => simp only [entries_cons, List.mem_cons, List.mem_append, ih,
      exists_eq_or_imp, or_assoc]

end Forest

mutual

theorem Node.entries_clip (bound : Nat) : ∀ node : Node,
    (node.clip bound).children.entries = node.children.entries.map fun entry => entry.clip bound
  | .mk _ children => Forest.entries_clip bound children

theorem Forest.entries_clip (bound : Nat) : ∀ forest : Forest,
    (Forest.clip bound forest).entries = forest.entries.map fun entry => entry.clip bound
  | [] => rfl
  | node :: rest => by
      rw [Forest.clip, Forest.entries_cons, Forest.entries_cons, Node.entry_clip,
        Node.entries_clip bound node, Forest.entries_clip bound rest, List.map_cons,
        List.map_append]

end

mutual

theorem Node.length_entries : ∀ node : Node, node.children.entries.length + 1 = node.size
  | .mk _ children => by rw [Node.size, Node.children_mk, Forest.length_entries, Nat.add_comm]

theorem Forest.length_entries : ∀ forest : Forest, forest.entries.length = Forest.size forest
  | [] => rfl
  | node :: rest => by
      rw [Forest.entries_cons, List.length_cons, List.length_append, Forest.length_entries rest,
        Forest.size_cons, ← Node.length_entries node]
      omega

end

namespace Forest

variable {holds : Entry → Prop} {siblings nodes result : Forest}

/-! ## Every symbol of the result was given -/

/-- What holds of all entries and survives cutting holds after a cut. -/
theorem All.clip {forest : Forest} (all : forest.All holds) (bound : Nat)
    (survives : ∀ entry bound, holds entry → holds (entry.clip bound)) :
    (Forest.clip bound forest).All holds := by
  rw [all_entries, entries_clip, List.forall_mem_map]
  exact fun entry membership => survives entry bound (all_entries.1 all entry membership)

theorem All.filter (all : siblings.All holds) (test : Node → Bool) :
    All holds (siblings.filter test) :=
  all_iff.2 fun sibling membership => all_iff.1 all sibling (List.mem_filter.1 membership).1

/-- What holds of a symbol, of all below it and of its siblings holds when it stands among them.
-/
theorem All.insertOrdered {entry : Entry} {grown : Forest} (all : siblings.All holds)
    (here : holds entry) (below : grown.All holds) :
    All holds (insertOrdered (.mk entry grown) siblings) := by
  refine all_iff.2 fun other membership => ?_
  rcases mem_insertOrdered.1 membership with rfl | kept
  · exact ⟨here, below⟩
  · exact all_iff.1 all other kept

/-- At its siblings a tree is cut at one bound or not at all. -/
theorem clipAtSiblings_eq (siblings : Forest) (node : Node) :
    clipAtSiblings siblings node = node ∨
      ∃ bound, clipAtSiblings siblings node = node.clip bound := by
  unfold clipAtSiblings
  split
  · exact .inr ⟨_, rfl⟩
  · exact .inl rfl

/-- What holds of all entries and survives cutting holds after an insertion. -/
theorem Inserted.all (inserted : Inserted siblings nodes result)
    (survives : ∀ entry bound, holds entry → holds (entry.clip bound)) :
    siblings.All holds → nodes.All holds → result.All holds := by
  induction inserted with
  | done => exact fun all _ => all
  | unify found _ _ innerIh nextIh =>
      intro all nodesAll
      obtain ⟨⟨_, childrenAll⟩, restAll⟩ := all_cons.1 nodesAll
      have grownAll := innerIh (all_iff.1 all _ found.mem).2 childrenAll
      exact nextIh (all.replace found grownAll) restAll
  | nest _ found _ _ innerIh nextIh =>
      intro all nodesAll
      obtain ⟨nodeAll, restAll⟩ := all_cons.1 nodesAll
      have grownAll := innerIh (all_iff.1 all _ found.mem).2 (all_cons.2 ⟨nodeAll, all_nil⟩)
      exact nextIh (all.replace found grownAll) restAll
  | @cut _ _ _ _ _ _ node sibling _ _ found _ _ innerIh nextIh =>
      intro all nodesAll
      have single : All holds [node] := ⟨nodesAll.1, trivial⟩
      have grownAll := innerIh (all_iff.1 all _ found.mem).2
        (single.clip sibling.entry.stop survives)
      exact nextIh (all.replace found grownAll) nodesAll.2
  | @place siblings _ _ _ node placed _ _ _ placing _ _ innerIh nextIh =>
      intro all nodesAll
      have single : All holds [node] := ⟨nodesAll.1, trivial⟩
      have placedAll : All holds [placed] := by
        rcases clipAtSiblings_eq siblings node with whole | ⟨bound, cut⟩
        · rwa [placing, whole]
        · rw [placing, cut]
          exact single.clip bound survives
      obtain ⟨⟨placedHolds, childrenAll⟩, _⟩ := all_cons.1 placedAll
      have grownAll := innerIh childrenAll (all.filter _)
      exact nextIh ((all.filter _).insertOrdered placedHolds grownAll) nodesAll.2

end Forest

mutual

/-- What survives every cut and holds of what is below a tree holds of what is below its normal
form. -/
theorem Node.normalize_all {holds : Entry → Prop}
    (survives : ∀ entry bound, holds entry → holds (entry.clip bound)) :
    ∀ {node : Node}, node.children.All holds → node.normalize.children.All holds
  | .mk _ children, all =>
      (Forest.normalize_inserted children).all survives Forest.all_nil
        (Forest.map_normalize_all survives all)

theorem Forest.map_normalize_all {holds : Entry → Prop}
    (survives : ∀ entry bound, holds entry → holds (entry.clip bound)) :
    ∀ {forest : Forest}, forest.All holds → Forest.All holds (forest.map Node.normalize)
  | [], _ => trivial
  | node :: _, all => by
      obtain ⟨⟨nodeHolds, childrenAll⟩, restAll⟩ := Forest.all_cons.1 all
      refine Forest.all_cons.2 ⟨⟨?_, Node.normalize_all survives childrenAll⟩,
        Forest.map_normalize_all survives restAll⟩
      rwa [Node.entry_normalize]

end

namespace Forest

variable {siblings nodes result : Forest}

/-! ## Every given symbol is shown -/

/-- Some symbol of the forest shows the entry. -/
def Shows (forest : Forest) (given : Entry) : Prop :=
  ∃ shown ∈ forest.entries, given.ShownBy shown

theorem shows_of_mem {forest : Forest} {entry : Entry} (listed : entry ∈ forest.entries) :
    forest.Shows entry :=
  ⟨entry, listed, .refl entry⟩

theorem Shows.trans {middle forest : Forest} {given : Entry} (shows : middle.Shows given)
    (further : middle.All forest.Shows) : forest.Shows given := by
  obtain ⟨shown, listed, first⟩ := shows
  obtain ⟨last, inForest, second⟩ := all_entries.1 further shown listed
  exact ⟨last, inForest, first.trans second⟩

/-- All symbols of one forest are shown by another that has all of them. -/
theorem all_shows_of_subset {given forest : Forest}
    (subset : ∀ entry ∈ given.entries, entry ∈ forest.entries) : given.All forest.Shows :=
  all_entries.2 fun entry listed => shows_of_mem (subset entry listed)

theorem All.shows_trans {given middle forest : Forest} (first : given.All middle.Shows)
    (second : middle.All forest.Shows) : given.All forest.Shows :=
  first.imp fun _ _ shows => shows.trans second

/-- What the trees below a symbol show, every forest with that symbol shows. -/
theorem Shows.of_below {entry given : Entry} {below forest : Forest} (shows : below.Shows given)
    (membership : .mk entry below ∈ forest) : forest.Shows given := by
  obtain ⟨shown, listed, shownBy⟩ := shows
  exact ⟨shown, mem_entries.2 ⟨_, membership, .inr listed⟩, shownBy⟩

/-- What is shown below a tree is shown in the forest of that tree. -/
theorem All.shows_of_below {entry : Entry} {given below forest : Forest}
    (all : given.All below.Shows) (membership : .mk entry below ∈ forest) :
    given.All forest.Shows :=
  all.imp fun _ _ shows => shows.of_below membership

/-- A cut forest shows what it was cut from. -/
theorem all_shows_clip (forest : Forest) (bound : Nat) :
    forest.All (Forest.clip bound forest).Shows := by
  refine all_entries.2 fun entry listed => ⟨entry.clip bound, ?_, entry.shownBy_clip bound⟩
  rw [entries_clip]
  exact List.mem_map_of_mem listed

/-- A tree that is cut at its siblings still shows all its symbols. -/
theorem all_shows_clipAtSiblings (siblings : Forest) (node : Node) :
    All (Shows [clipAtSiblings siblings node]) [node] := by
  rcases clipAtSiblings_eq siblings node with whole | ⟨bound, cut⟩
  · rw [whole]
    exact all_shows_of_subset fun _ listed => listed
  · rw [cut]
    exact all_shows_clip [node] bound

/-- A forest is shown by what it becomes when the trees below one of its symbols grow. -/
theorem FirstAt.all_shows {test : Entry → Bool} {siblings before after grown : Forest}
    {sibling : Node} (first : FirstAt test siblings before sibling after)
    (grows : sibling.children.All grown.Shows) :
    siblings.All (Shows (before ++ .mk sibling.entry grown :: after)) := by
  refine all_entries.2 fun entry listed => ?_
  obtain ⟨node, membership, here⟩ := mem_entries.1 listed
  rw [first.split] at membership
  rcases List.mem_append.1 membership with early | rest
  · exact shows_of_mem (mem_entries.2 ⟨node, List.mem_append_left _ early, here⟩)
  · rcases List.mem_cons.1 rest with rfl | late
    · have there : .mk node.entry grown ∈ before ++ .mk node.entry grown :: after :=
        List.mem_append_right _ (.head _)
      rcases here with rfl | below
      · exact shows_of_mem (mem_entries.2 ⟨_, there, .inl rfl⟩)
      · exact (all_entries.1 grows entry below).of_below there
    · exact shows_of_mem (mem_entries.2 ⟨node, List.mem_append_right _ (.tail _ late), here⟩)

/-- A forest is shown by what it becomes when a symbol takes over the trees it
contains. -/
theorem all_shows_insertOrdered {siblings grown : Forest} {entry : Entry}
    (moved : All grown.Shows (siblings.filter fun sibling => entry.contains sibling.entry)) :
    siblings.All (Shows (insertOrdered (.mk entry grown)
      (siblings.filter fun sibling => !entry.contains sibling.entry))) := by
  refine all_entries.2 fun given listed => ?_
  obtain ⟨node, membership, here⟩ := mem_entries.1 listed
  cases inside : entry.contains node.entry with
  | true =>
      have kept := all_entries.1 moved given
        (mem_entries.2 ⟨node, List.mem_filter.2 ⟨membership, inside⟩, here⟩)
      exact kept.of_below (mem_insertOrdered.2 (.inl rfl))
  | false =>
      refine shows_of_mem (mem_entries.2 ⟨node, mem_insertOrdered.2 (.inr ?_), here⟩)
      exact List.mem_filter.2 ⟨membership, by rw [inside]; rfl⟩

/-- Trees that are inserted below a symbol are shown by the whole forest, and so is what
was there. -/
theorem FirstAt.all_shows_below {test : Entry → Bool} {siblings before after more grown : Forest}
    {sibling : Node} (first : FirstAt test siblings before sibling after)
    (inner : sibling.children.All grown.Shows ∧ more.All grown.Shows) :
    siblings.All (Shows (before ++ .mk sibling.entry grown :: after)) ∧
      more.All (Shows (before ++ .mk sibling.entry grown :: after)) :=
  ⟨first.all_shows inner.1, inner.2.shows_of_below (List.mem_append_right _ (.head _))⟩

/-- What was there and what is inserted is shown by the result. -/
theorem Inserted.all_shows (inserted : Inserted siblings nodes result) :
    siblings.All result.Shows ∧ nodes.All result.Shows := by
  induction inserted with
  | done => exact ⟨all_shows_of_subset fun _ listed => listed, all_nil⟩
  | @unify siblings before after grown rest result node sibling found _ _ innerIh nextIh =>
      obtain ⟨kept, children⟩ := found.all_shows_below innerIh
      -- The symbol itself is shown by the sibling that stands for it.
      have here : Shows (before ++ .mk sibling.entry grown :: after) node.entry :=
        ⟨sibling.entry, mem_entries.2 ⟨.mk sibling.entry grown, by simp, .inl rfl⟩,
          Entry.shownBy_of_same found.passes⟩
      have added : All (Shows (before ++ .mk sibling.entry grown :: after)) [node] :=
        all_cons.2 ⟨⟨here, children⟩, all_nil⟩
      exact ⟨kept.shows_trans nextIh.1, (added.shows_trans nextIh.1).1, nextIh.2⟩
  | nest _ found _ _ innerIh nextIh =>
      obtain ⟨kept, added⟩ := found.all_shows_below innerIh
      exact ⟨kept.shows_trans nextIh.1, (added.shows_trans nextIh.1).1, nextIh.2⟩
  | @cut _ _ _ _ _ _ node sibling _ _ found _ _ innerIh nextIh =>
      obtain ⟨kept, cut⟩ := found.all_shows_below innerIh
      have added := (all_shows_clip [node] sibling.entry.stop).shows_trans cut
      exact ⟨kept.shows_trans nextIh.1, (added.shows_trans nextIh.1).1, nextIh.2⟩
  | @place siblings grown rest result node placed _ _ _ placing _ _ innerIh nextIh =>
      have kept := all_shows_insertOrdered innerIh.2
      have there : .mk placed.entry grown ∈ insertOrdered (.mk placed.entry grown)
          (siblings.filter fun sibling => !placed.entry.contains sibling.entry) :=
        mem_insertOrdered.2 (.inl rfl)
      have here := shows_of_mem (mem_entries.2 ⟨_, there, .inl rfl⟩)
      have cut : All (Shows _) [placed] :=
        all_cons.2 ⟨⟨here, innerIh.1.shows_of_below there⟩, all_nil⟩
      have added := (placing ▸ all_shows_clipAtSiblings siblings node).shows_trans cut
      exact ⟨kept.shows_trans nextIh.1, (added.shows_trans nextIh.1).1, nextIh.2⟩

end Forest

mutual

/-- A normal form shows every symbol below the tree. -/
theorem Node.normalize_shows : ∀ node : Node, node.children.All node.normalize.children.Shows
  | .mk _ children =>
      (Forest.map_normalize_shows children).shows_trans
        (Forest.normalize_inserted children).all_shows.2

theorem Forest.map_normalize_shows :
    ∀ forest : Forest, forest.All (Forest.Shows (forest.map Node.normalize))
  | [] => trivial
  | node :: rest => by
      have here : Forest.Shows ((node :: rest).map Node.normalize) node.entry :=
        Forest.shows_of_mem (Forest.mem_entries.2
          ⟨node.normalize, .head _, .inl (Node.entry_normalize node).symm⟩)
      have below : node.children.All (Forest.Shows ((node :: rest).map Node.normalize)) := by
        have member : .mk node.entry node.normalize.children ∈
            (node :: rest).map Node.normalize := by
          cases node with
          | mk entry children => exact .head _
        exact (Node.normalize_shows node).shows_of_below member
      have later : Forest.All (Forest.Shows ((node :: rest).map Node.normalize))
          (rest.map Node.normalize) := by
        refine Forest.all_shows_of_subset fun entry listed => ?_
        rw [List.map_cons, Forest.entries_cons]
        exact .tail _ (List.mem_append_right _ listed)
      exact Forest.all_cons.2 ⟨⟨here, below⟩, (Forest.map_normalize_shows rest).shows_trans later⟩

end

/-! ## The number of symbols -/

mutual

theorem Node.size_normalize_le : ∀ node : Node, node.normalize.size ≤ node.size
  | .mk _ children => by
      have fewer := (Forest.normalize_inserted children).size_le
      have forms := Forest.size_map_normalize_le children
      rw [Forest.size_nil] at fewer
      rw [Node.size_eq, Node.children_normalize, Node.size, Node.children_mk]
      omega

theorem Forest.size_map_normalize_le :
    ∀ forest : Forest, Forest.size (forest.map Node.normalize) ≤ Forest.size forest
  | [] => Nat.le_refl _
  | node :: rest => by
      have first := Node.size_normalize_le node
      have later := Forest.size_map_normalize_le rest
      rw [List.map_cons, Forest.size_cons, Forest.size_cons]
      omega

end

namespace Forest

variable {holds : Entry → Prop} {host : Forest} {embedded : List Embedded}

/-! ## Merging -/

/-- The symbols that are merged, at all depths: those of the host forest and those of the
outlines where they stand in the document. -/
def givenEntries (host : Forest) (embedded : List Embedded) : List Entry :=
  host.entries ++ embedded.flatMap fun outline =>
    (Forest.place outline.mapping outline.forest).entries

/-- The given symbols are those of the host forest and those of the outlines where they are
placed. -/
theorem all_givenEntries : (∀ entry ∈ givenEntries host embedded, holds entry) ↔
    host.All holds ∧ ∀ outline ∈ embedded,
      (Forest.place outline.mapping outline.forest).All holds := by
  simp only [givenEntries, List.forall_mem_append, List.forall_mem_flatMap, all_entries]

/-- What holds of all given symbols and survives cutting holds of all merged symbols. -/
theorem merge_all (survives : ∀ entry bound, holds entry → holds (entry.clip bound))
    (given : ∀ entry ∈ givenEntries host embedded, holds entry) :
    (merge host embedded).All holds := by
  obtain ⟨hostAll, embeddedAll⟩ := all_givenEntries.1 given
  have normalAll := (normalize_inserted host).all survives all_nil
    (map_normalize_all survives hostAll)
  exact (merge_inserted host embedded).all survives normalAll
    (all_placed.2 fun outline listed => map_normalize_all survives (embeddedAll outline listed))

/-- Every given symbol is shown, whatever is cut and whatever is unified. -/
theorem merge_shows (host : Forest) (embedded : List Embedded) :
    ∀ given ∈ givenEntries host embedded, (merge host embedded).Shows given := by
  obtain ⟨kept, placed⟩ := (merge_inserted host embedded).all_shows
  refine all_givenEntries.2 ⟨?_, fun outline listed => ?_⟩
  · have normal := (map_normalize_shows host).shows_trans (normalize_inserted host).all_shows.2
    exact normal.shows_trans kept
  · exact (map_normalize_shows _).shows_trans (all_placed.1 placed outline listed)

theorem size_placed_le (embedded : List Embedded) :
    Forest.size (embedded.flatMap Embedded.placed) ≤
      (embedded.flatMap fun outline =>
        (Forest.place outline.mapping outline.forest).entries).length := by
  induction embedded with
  | nil => simp
  | cons outline rest ih =>
      have forms := size_map_normalize_le (Forest.place outline.mapping outline.forest)
      rw [List.flatMap_cons, List.flatMap_cons, size_append, List.length_append, length_entries]
      exact Nat.add_le_add forms ih

/-- A merged forest has no more symbols than were given. -/
theorem size_merge_le (host : Forest) (embedded : List Embedded) :
    Forest.size (merge host embedded) ≤ (givenEntries host embedded).length := by
  have merged := (merge_inserted host embedded).size_le
  have normal := (normalize_inserted host).size_le
  have forms := size_map_normalize_le host
  have outlines := size_placed_le embedded
  rw [size_nil] at normal
  rw [givenEntries, List.length_append, length_entries]
  omega

/-- No two given symbols that agree in name, kind and origin: each is shown by a symbol of
its own. -/
theorem length_given_le
    (distinct : ((givenEntries host embedded).map Entry.label).Nodup) :
    (givenEntries host embedded).length ≤ Forest.size (merge host embedded) := by
  have shown : (givenEntries host embedded).map Entry.label ⊆
      (merge host embedded).entries.map Entry.label := by
    intro label listed
    obtain ⟨given, isGiven, rfl⟩ := List.mem_map.1 listed
    obtain ⟨entry, inMerged, shownBy⟩ := merge_shows host embedded given isGiven
    exact List.mem_map.2 ⟨entry, inMerged, shownBy.label⟩
  have fewer := (List.subperm_of_subset distinct shown).length_le
  rwa [List.length_map, List.length_map, length_entries] at fewer

/-! ## Ranges that do not cross -/

theorem Holds.entries_subset {forest : Forest} {node : Node} (holds : forest.Holds node) :
    ∀ entry ∈ entries [node], entry ∈ forest.entries := by
  induction holds with
  | here membership =>
      intro entry listed
      obtain ⟨_, single, here⟩ := mem_entries.1 listed
      rw [List.mem_singleton.1 single] at here
      exact mem_entries.2 ⟨_, membership, here⟩
  | under membership _ ih =>
      exact fun entry listed => mem_entries.2 ⟨_, membership, .inr (ih entry listed)⟩

end Forest

mutual

/-- For every symbol of an embedded tree there is an entry of the forest that stands for it. -/
theorem Node.EmbedsIn.each_same : ∀ {node : Node} {forest : Forest}, node.EmbedsIn forest →
    node.Each fun entry _ => ∃ shown ∈ forest.entries, shown.same entry = true
  | .mk _ _, _, ⟨image, held, same, below⟩ => by
      have inForest := held.entries_subset
      rw [Forest.entries_cons, Forest.entries_nil, List.append_nil] at inForest
      refine ⟨⟨image.entry, inForest _ (.head _), same⟩, (Forest.EmbedsIn.all_same below).imp ?_⟩
      rintro entry _ ⟨shown, listed, alike⟩
      exact ⟨shown, inForest shown (.tail _ listed), alike⟩

/-- Every symbol of an embedded forest has an entry that stands for it. -/
theorem Forest.EmbedsIn.all_same : ∀ {nodes forest : Forest}, nodes.EmbedsIn forest →
    nodes.All fun entry => ∃ shown ∈ forest.entries, shown.same entry = true
  | [], _, _ => trivial
  | _ :: _, _, ⟨first, rest⟩ => ⟨Node.EmbedsIn.each_same first, Forest.EmbedsIn.all_same rest⟩

end

namespace Forest

variable {holds : Entry → Prop} {host : Forest} {embedded : List Embedded}

/-- Where no two given ranges cross, merging cuts nothing. -/
theorem merge_filed (laminar : Laminar holds)
    (given : ∀ entry ∈ givenEntries host embedded, holds entry) :
    Filed (normalize host) (embedded.flatMap Embedded.placed) (merge host embedded) ∧
      (merge host embedded).All holds := by
  obtain ⟨hostAll, embeddedAll⟩ := all_givenEntries.1 given
  have normalAll := ((normalize_inserted host).filed laminar all_nil
    (map_normalize_kept laminar hostAll).1).2
  exact (merge_inserted host embedded).filed laminar normalAll (placed_all laminar embeddedAll)

/-- Where no two given ranges cross, every given symbol keeps its range. -/
theorem merge_same (laminar : Laminar (· ∈ givenEntries host embedded)) :
    ∀ given ∈ givenEntries host embedded, ∃ entry ∈ (merge host embedded).entries,
      entry.same given = true := by
  obtain ⟨hostAll, embeddedAll⟩ := all_givenEntries.1 fun entry isGiven => isGiven
  obtain ⟨hostFormsAll, hostKept⟩ := map_normalize_kept laminar hostAll
  obtain ⟨normalKept, placedKept⟩ := (merge_filed laminar fun _ isGiven => isGiven).1.embeds
  have normal := ((normalize_inserted host).filed laminar all_nil hostFormsAll).1.embeds.2
  refine all_givenEntries.2 ⟨((hostKept.trans normal).trans normalKept).all_same,
    fun outline listed => ?_⟩
  have kept := (map_normalize_kept laminar (embeddedAll outline listed)).2
  refine (kept.trans (embedsIn_iff.2 fun node inPlaced => ?_)).all_same
  exact embedsIn_iff.1 placedKept node (List.mem_flatMap.2 ⟨outline, listed, inPlaced⟩)

/-- Merging loses no symbol and invents none. -/
theorem merge_conserves (host : Forest) (embedded : List Embedded) :
    (∀ entry ∈ (merge host embedded).entries, ∃ given ∈ givenEntries host embedded,
      given.ShownBy entry ∧ entry.detail = given.detail) ∧
    (∀ given ∈ givenEntries host embedded, ∃ entry ∈ (merge host embedded).entries,
      given.ShownBy entry) ∧
    Forest.size (merge host embedded) ≤ (givenEntries host embedded).length ∧
    (((givenEntries host embedded).map Entry.label).Nodup →
      Forest.size (merge host embedded) = (givenEntries host embedded).length) ∧
    ((∀ a ∈ givenEntries host embedded, ∀ b ∈ givenEntries host embedded, a.Uncrossed b) →
      (∀ entry ∈ (merge host embedded).entries, entry ∈ givenEntries host embedded) ∧
      ∀ given ∈ givenEntries host embedded, ∃ entry ∈ (merge host embedded).entries,
        entry.same given = true) := by
  refine ⟨all_entries.1 (merge_all ?_ ?_), merge_shows host embedded,
    size_merge_le host embedded, fun distinct => ?_, fun uncrossed => ?_⟩
  · rintro entry bound ⟨given, isGiven, shownBy, detail⟩
    exact ⟨given, isGiven, shownBy.trans (entry.shownBy_clip bound), detail⟩
  · exact fun entry isGiven => ⟨entry, isGiven, .refl entry, rfl⟩
  · exact Nat.le_antisymm (size_merge_le host embedded) (length_given_le distinct)
  · have laminar : Laminar (· ∈ givenEntries host embedded) :=
      fun a b aGiven bGiven => uncrossed a aGiven b bGiven
    exact ⟨all_entries.1 (merge_filed laminar fun _ isGiven => isGiven).2, merge_same laminar⟩

/-- An outline below a function, and a variable inside the outline's only element: five
symbols with names of their own, none of which crosses another. -/
theorem merge_conserves_nested :
    let host : Forest := [.mk (.of "f" .ofFunction 0 40 .host)
      [.leaf (.of "html literal" .ofLiteral 9 31 .host), .leaf (.of "x" .ofVariable 14 15 .host)]]
    let embedded : List Embedded := [⟨⟨10, 20⟩, [.mk (.of "ul" .ofElement 0 20 .embedded)
      [.leaf (.of "li" .ofElement 4 15 .embedded)]]⟩]
    Forest.size (merge host embedded) = 5 ∧
      ∀ given ∈ givenEntries host embedded, ∃ entry ∈ (merge host embedded).entries,
        entry.same given = true := by
  intro host embedded
  obtain ⟨-, -, -, exact, kept⟩ := merge_conserves host embedded
  exact ⟨exact (by decide), (kept (by decide)).2⟩

/-- Two functions that overlap: the later one is cut where the earlier one ends, and both
are still there. -/
example :
    (merge
        [.leaf (.of "f" .ofFunction 0 10 .host), .leaf (.of "g" .ofFunction 5 15 .host)] []).entries
      = [.of "f" .ofFunction 0 10 .host, .of "g" .ofFunction 5 10 .host] := by
  decide

end Forest

end Inlay
