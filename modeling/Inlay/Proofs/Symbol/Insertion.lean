import Inlay.Symbol.Merge

/-!
# How an insertion proceeds

`Forest.Inserted siblings nodes result` says that the trees of `nodes`, inserted
one after the other into `siblings`, give `result`.  It has one rule for each way
in which a tree can find its place, with everything that is known when the rule
applies, and it does not mention the bound under which `Forest.insertWithin` runs.

`Forest.insert_inserted` ties the relation to the program: the number of symbols
at hand is bound enough, because every recursive insertion leaves out the symbol
it goes below.  What an insertion preserves is then proved by induction on the
relation.
-/

namespace Inlay

/-! ## Parts of a tree -/

@[simp] theorem Node.entry_mk (entry : Entry) (children : Forest) :
    (Node.mk entry children).entry = entry := rfl

@[simp] theorem Node.children_mk (entry : Entry) (children : Forest) :
    (Node.mk entry children).children = children := rfl

theorem Node.size_eq (node : Node) : node.size = 1 + Forest.size node.children := by
  cases node with
  | mk entry children => rfl

namespace Forest

@[simp] theorem size_nil : Forest.size [] = 0 := rfl

@[simp] theorem size_cons (node : Node) (rest : Forest) :
    Forest.size (node :: rest) = node.size + Forest.size rest := rfl

@[simp] theorem size_append (left right : Forest) :
    Forest.size (left ++ right) = Forest.size left + Forest.size right := by
  induction left with
  | nil => simp
  | cons node rest ih =>
      simp only [List.cons_append, size_cons, ih]
      omega

/-- A forest has as many symbols as its two halves under any test. -/
theorem size_filter_add (test : Node → Bool) (forest : Forest) :
    Forest.size (forest.filter test) + Forest.size (forest.filter fun node => !test node)
      = Forest.size forest := by
  induction forest with
  | nil => rfl
  | cons node rest ih =>
      cases found : test node <;> simp [found] <;> omega

theorem size_insertOrdered (node : Node) (siblings : Forest) :
    Forest.size (insertOrdered node siblings) = node.size + Forest.size siblings := by
  induction siblings with
  | nil => rfl
  | cons sibling rest ih =>
      rw [insertOrdered]
      split
      · rfl
      · simp only [size_cons, ih]
        omega

end Forest

mutual

/-- Cutting drops no symbol. -/
theorem Node.size_clip (bound : Nat) : ∀ node : Node, (node.clip bound).size = node.size
  | .mk _ children => by rw [Node.clip, Node.size, Node.size, Forest.size_clip bound children]

theorem Forest.size_clip (bound : Nat) :
    ∀ forest : Forest, Forest.size (Forest.clip bound forest) = Forest.size forest
  | [] => rfl
  | node :: rest => by
      rw [Forest.clip, Forest.size_cons, Forest.size_cons, Node.size_clip bound node,
        Forest.size_clip bound rest]

end

namespace Forest

theorem size_clipAtSiblings (siblings : Forest) (node : Node) :
    (clipAtSiblings siblings node).size = node.size := by
  unfold clipAtSiblings
  split
  · exact Node.size_clip _ node
  · rfl

/-! ## The first sibling that satisfies a test -/

/-- No sibling satisfies the test. -/
def Lacks (siblings : Forest) (test : Entry → Bool) : Prop :=
  ∀ sibling ∈ siblings, test sibling.entry = false

/-- The siblings are cut at the first one that satisfies the test. -/
structure FirstAt (test : Entry → Bool) (siblings before : Forest) (sibling : Node)
    (after : Forest) : Prop where
  split : siblings = before ++ sibling :: after
  earlier : before.Lacks test
  passes : test sibling.entry = true

theorem FirstAt.mem {test : Entry → Bool} {siblings before after : Forest} {sibling : Node}
    (first : FirstAt test siblings before sibling after) : sibling ∈ siblings := by
  rw [first.split]
  simp

/-- No change is made only where no sibling passes the test. -/
theorem updateFirst_eq_none {test : Entry → Bool} {change : Node → Forest} {siblings : Forest}
    (absent : updateFirst test change siblings = none) : siblings.Lacks test := by
  induction siblings with
  | nil => simp [Lacks]
  | cons sibling rest ih =>
      rw [updateFirst] at absent
      split at absent
      next passes => cases absent
      next fails =>
        have inRest := ih (Option.map_eq_none_iff.1 absent)
        intro other membership
        rcases List.mem_cons.1 membership with rfl | later
        · simpa using fails
        · exact inRest other later

/-- A change is made to the children of the first sibling that passes the test, and to nothing
else. -/
theorem updateFirst_eq_some {test : Entry → Bool} {change : Node → Forest}
    {siblings result : Forest} (found : updateFirst test change siblings = some result) :
    ∃ before sibling after, FirstAt test siblings before sibling after ∧
      result = before ++ .mk sibling.entry (change sibling) :: after := by
  induction siblings generalizing result with
  | nil => cases found
  | cons sibling rest ih =>
      rw [updateFirst] at found
      split at found
      next passes =>
        refine ⟨[], sibling, rest, ⟨rfl, by simp [Lacks], passes⟩, ?_⟩
        exact (Option.some.inj found).symm
      next fails =>
        obtain ⟨changed, foundLater, rfl⟩ := Option.map_eq_some_iff.1 found
        obtain ⟨before, target, after, first, rfl⟩ := ih foundLater
        refine ⟨sibling :: before, target, after, ⟨?_, ?_, first.passes⟩, rfl⟩
        · rw [first.split]
          rfl
        · intro other membership
          rcases List.mem_cons.1 membership with rfl | later
          · simpa using fails
          · exact first.earlier other later

/-! ## The rules of insertion -/

/-- Inserting the trees of the second forest, one after the other, into the first
forest gives the third. -/
inductive Inserted : Forest → Forest → Forest → Prop where
  /-- Nothing is left to insert. -/
  | done {siblings : Forest} : Inserted siblings [] siblings
  /-- A sibling stands for the same symbol and takes the children over. -/
  | unify {siblings before after grown rest result : Forest} {node sibling : Node} :
      FirstAt (fun sibling => sibling.same node.entry) siblings before sibling after →
      Inserted sibling.children node.children grown →
      Inserted (before ++ .mk sibling.entry grown :: after) rest result →
      Inserted siblings (node :: rest) result
  /-- A sibling contains the symbol. -/
  | nest {siblings before after grown rest result : Forest} {node sibling : Node} :
      siblings.Lacks (fun sibling => sibling.same node.entry) →
      FirstAt (fun sibling => sibling.contains node.entry) siblings before sibling after →
      Inserted sibling.children [node] grown →
      Inserted (before ++ .mk sibling.entry grown :: after) rest result →
      Inserted siblings (node :: rest) result
  /-- The symbol starts inside a sibling and runs past its end. -/
  | cut {siblings before after grown rest result : Forest} {node sibling : Node} :
      siblings.Lacks (fun sibling => sibling.same node.entry) →
      siblings.Lacks (fun sibling => sibling.contains node.entry) →
      FirstAt (fun sibling => startsWithin sibling node.entry) siblings before sibling after →
      Inserted sibling.children [node.clip sibling.entry.stop] grown →
      Inserted (before ++ .mk sibling.entry grown :: after) rest result →
      Inserted siblings (node :: rest) result
  /-- The symbol becomes a sibling and takes over those it contains. -/
  | place {siblings grown rest result : Forest} {node placed : Node} :
      siblings.Lacks (fun sibling => sibling.same node.entry) →
      siblings.Lacks (fun sibling => sibling.contains node.entry) →
      siblings.Lacks (fun sibling => startsWithin sibling node.entry) →
      placed = clipAtSiblings siblings node →
      Inserted placed.children (siblings.filter fun sibling => placed.entry.contains sibling.entry)
        grown →
      Inserted (insertOrdered (.mk placed.entry grown)
        (siblings.filter fun sibling => !placed.entry.contains sibling.entry)) rest result →
      Inserted siblings (node :: rest) result

/-- Insertions compose. -/
theorem Inserted.append {siblings nodes middle more result : Forest}
    (first : Inserted siblings nodes middle) (second : Inserted middle more result) :
    Inserted siblings (nodes ++ more) result := by
  induction first with
  | done => exact second
  | unify found inner _ _ ih => exact .unify found inner (ih second)
  | nest fresh found inner _ _ ih => exact .nest fresh found inner (ih second)
  | cut fresh outside found inner _ _ ih => exact .cut fresh outside found inner (ih second)
  | place fresh outside apart placing inner _ _ ih =>
      exact .place fresh outside apart placing inner (ih second)

/-- The number of symbols never exceeds that of both sides together. -/
theorem Inserted.size_le {siblings nodes result : Forest}
    (inserted : Inserted siblings nodes result) :
    Forest.size result ≤ Forest.size siblings + Forest.size nodes := by
  induction inserted with
  | done => simp
  | unify found _ _ innerLe nextLe =>
      rw [found.split]
      simp only [size_append, size_cons, Node.size_eq, Node.children_mk] at innerLe nextLe ⊢
      omega
  | nest _ found _ _ innerLe nextLe =>
      rw [found.split]
      simp only [size_append, size_cons, size_nil, Node.size_eq, Node.children_mk]
        at innerLe nextLe ⊢
      omega
  | cut _ _ found _ _ innerLe nextLe =>
      rw [found.split]
      simp only [size_cons, size_nil, Node.size_clip] at innerLe
      simp only [size_append, size_cons, Node.size_eq, Node.children_mk] at innerLe nextLe ⊢
      omega
  | @place siblings grown rest result node placed _ _ _ placing _ _ innerLe nextLe =>
      have halves := size_filter_add (fun sibling => placed.entry.contains sibling.entry) siblings
      have clipped : placed.size = node.size := by rw [placing, size_clipAtSiblings]
      simp only [size_insertOrdered, Node.size_eq placed, Node.size_eq (.mk placed.entry grown),
        Node.children_mk] at innerLe nextLe clipped
      simp only [size_cons]
      omega

/-! ## The bound is enough -/

/-- The trees of one forest, inserted into another under the bound, follow the rules
whenever the bound reaches the number of symbols at hand. -/
def BoundSuffices (bound : Nat) : Prop :=
  ∀ siblings nodes : Forest, Forest.size siblings + Forest.size nodes ≤ bound →
    Inserted siblings nodes (nodes.foldl (insertWithin bound) siblings)

/-- A single insertion recurses under the next smaller bound. -/
theorem inserted_insertWithin {bound : Nat} (recursive : BoundSuffices bound)
    (siblings : Forest) (node : Node) (enough : Forest.size siblings + node.size ≤ bound + 1) :
    Inserted siblings [node] (insertWithin (bound + 1) siblings node) := by
  have nodeSize := Node.size_eq node
  rw [insertWithin]
  split
  next unified unifying =>
    obtain ⟨before, sibling, after, first, rfl⟩ := updateFirst_eq_some unifying
    rw [first.split] at enough
    simp only [size_append, size_cons, Node.size_eq sibling] at enough
    exact .unify first (recursive _ _ (by omega)) .done
  next notSame =>
  split
  next nested nesting =>
    obtain ⟨before, sibling, after, first, rfl⟩ := updateFirst_eq_some nesting
    rw [first.split] at enough
    simp only [size_append, size_cons, Node.size_eq sibling] at enough
    refine .nest (updateFirst_eq_none notSame) first (recursive _ [node] ?_) .done
    simp only [size_cons, size_nil]
    omega
  next notInside =>
  split
  next clipped cutting =>
    obtain ⟨before, sibling, after, first, rfl⟩ := updateFirst_eq_some cutting
    rw [first.split] at enough
    simp only [size_append, size_cons, Node.size_eq sibling] at enough
    refine .cut (updateFirst_eq_none notSame) (updateFirst_eq_none notInside) first
      (recursive _ [node.clip sibling.entry.stop] ?_) .done
    simp only [size_cons, size_nil, Node.size_clip]
    omega
  next notWithin =>
    have halves := size_filter_add
      (fun sibling => (clipAtSiblings siblings node).entry.contains sibling.entry) siblings
    have clipped := size_clipAtSiblings siblings node
    rw [Node.size_eq (clipAtSiblings siblings node)] at clipped
    exact .place (updateFirst_eq_none notSame) (updateFirst_eq_none notInside)
      (updateFirst_eq_none notWithin) rfl (recursive _ _ (by omega)) .done

/-- Every bound suffices for as many symbols, by induction on the bound. -/
theorem boundSuffices (bound : Nat) : BoundSuffices bound := by
  induction bound with
  | zero =>
      intro siblings nodes enough
      cases nodes with
      | nil => exact .done
      | cons node rest =>
          rw [size_cons, Node.size_eq] at enough
          omega
  | succ bound ih =>
      intro siblings nodes
      induction nodes generalizing siblings with
      | nil => intro _; exact .done
      | cons node rest restIh =>
          intro enough
          rw [size_cons] at enough
          have head := inserted_insertWithin ih siblings node (by omega)
          have headLe := head.size_le
          simp only [size_cons, size_nil] at headLe
          exact head.append (restIh _ (by omega))

/-- The program follows the rules. -/
theorem insert_inserted (siblings : Forest) (node : Node) :
    Inserted siblings [node] (insert siblings node) :=
  boundSuffices _ siblings [node] (by simp)

end Forest

end Inlay
