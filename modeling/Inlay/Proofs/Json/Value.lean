import Inlay.Json.Value

/-!
# Objects have one representation

The members of an object are kept in the order of their keys, each key once (`InOrder`).
Setting a member keeps the order, so an object that is built from members has it, whatever the
members are (`inOrder_ofMembers`), and it has no other members (`exists_ofMembers`).  Members
that are in order are left as they are (`ofMembers_of_inOrder`).  What an object has under a
name is what was set there last (`get?_ofMembers`).
-/

namespace Inlay.Json

/-! ## Everywhere in a value -/

mutual

/-- A property holds of a value and of every value inside it. -/
def Each (holds : Json → Prop) : Json → Prop
  | .arr items => holds (.arr items) ∧ EachItem holds items
  | .obj members => holds (.obj members) ∧ EachMember holds members
  | value => holds value

/-- A property holds of some values and of every value inside them. -/
def EachItem (holds : Json → Prop) : List Json → Prop
  | [] => True
  | item :: rest => item.Each holds ∧ EachItem holds rest

/-- A property holds of the values of some members and of every value inside them. -/
def EachMember (holds : Json → Prop) : List (String × Json) → Prop
  | [] => True
  | (_, value) :: rest => value.Each holds ∧ EachMember holds rest

end

theorem eachMember_iff {holds : Json → Prop} {members : List (String × Json)} :
    EachMember holds members ↔ ∀ member ∈ members, member.2.Each holds := by
  induction members with
  | nil => simp [EachMember]
  | cons member rest ih => simp [EachMember, ih]

/-! ## The order of members -/

/-- The members of an object come in the order of their keys, each key once. -/
def InOrder : Json → Prop
  | .obj members => members.Pairwise fun a b => a.1 < b.1
  | _ => True

theorem mem_insertMember {key : String} {value : Json} {members : List (String × Json)}
    {member : String × Json} (listed : member ∈ insertMember key value members) :
    member = (key, value) ∨ member ∈ members := by
  induction members with
  | nil => simpa [insertMember] using listed
  | cons first rest ih =>
      rw [insertMember] at listed
      split at listed
      · rcases List.mem_cons.1 listed with new | old
        · exact .inl new
        · exact .inr (List.mem_cons_of_mem _ old)
      · split at listed
        · exact List.mem_cons.1 listed
        · rcases List.mem_cons.1 listed with same | later
          · exact .inr (same ▸ List.mem_cons_self)
          · exact (ih later).imp_right (List.mem_cons_of_mem _)

/-- Inserting a member keeps the keys in order, and replaces the member of its key. -/
theorem inOrder_insertMember (key : String) (value : Json) {members : List (String × Json)}
    (inOrder : InOrder (.obj members)) : InOrder (.obj (insertMember key value members)) := by
  rw [InOrder] at inOrder ⊢
  induction members with
  | nil => simp [insertMember]
  | cons first rest ih =>
      obtain ⟨least, sorted⟩ := List.pairwise_cons.1 inOrder
      rw [insertMember]
      split
      next same =>
        exact List.pairwise_cons.2 ⟨fun member listed => same ▸ least member listed, sorted⟩
      next other =>
        split
        next before =>
          refine List.pairwise_cons.2 ⟨fun member listed => ?_, inOrder⟩
          rcases List.mem_cons.1 listed with rfl | later
          · exact before
          · exact String.lt_trans before (least member later)
        next behind =>
          -- The first key stays least: the new one is neither before it nor the same.
          refine List.pairwise_cons.2 ⟨fun member listed => ?_, ih sorted⟩
          rcases mem_insertMember listed with rfl | old
          · exact Decidable.by_contra fun notBefore =>
              other (String.le_antisymm (String.not_lt.1 notBefore) (String.not_lt.1 behind))
          · exact least member old

/-- Whatever members an object is built from, they end up in order. -/
theorem inOrder_ofMembers (members : List (String × Json)) : InOrder (ofMembers members) :=
  List.foldlRecOn (motive := fun built => InOrder (.obj built)) members _ List.Pairwise.nil
    fun _ inOrder member _ => inOrder_insertMember member.1 member.2 inOrder

/-- An object that is built from members has no others. -/
theorem exists_ofMembers (members : List (String × Json)) :
    ∃ built, ofMembers members = .obj built ∧ built ⊆ members := by
  refine ⟨_, rfl, List.foldlRecOn (motive := (· ⊆ members)) members _ (List.nil_subset _) ?_⟩
  intro built sub member listed other found
  rcases mem_insertMember found with rfl | old
  · exact listed
  · exact sub old

theorem each_inOrder_ofMembers {members : List (String × Json)}
    (ordered : EachMember InOrder members) : (ofMembers members).Each InOrder := by
  have inOrder := inOrder_ofMembers members
  obtain ⟨built, same, sub⟩ := exists_ofMembers members
  rw [same] at inOrder ⊢
  exact ⟨inOrder,
    eachMember_iff.2 fun member listed => eachMember_iff.1 ordered member (sub listed)⟩

theorem insertMember_of_lt {key : String} {value : Json} {members : List (String × Json)}
    (behind : ∀ member ∈ members, member.1 < key) :
    insertMember key value members = members ++ [(key, value)] := by
  induction members with
  | nil => rfl
  | cons member rest ih =>
      obtain ⟨here, others⟩ := List.forall_mem_cons.1 behind
      have other : key ≠ member.1 := fun same => String.lt_irrefl _ (same ▸ here)
      rw [insertMember, if_neg other, if_neg (String.lt_asymm here), ih others, List.cons_append]

/-- Members whose keys are in order are inserted as they are. -/
theorem foldl_insertMember {built members : List (String × Json)}
    (sorted : (built ++ members).Pairwise fun a b => a.1 < b.1) :
    members.foldl (fun built member => insertMember member.1 member.2 built) built =
      built ++ members := by
  induction members generalizing built with
  | nil => simp
  | cons member rest ih =>
      have behind : ∀ earlier ∈ built, earlier.1 < member.1 := fun earlier listed =>
        (List.pairwise_append.1 sorted).2.2 earlier listed member List.mem_cons_self
      rw [List.foldl_cons, insertMember_of_lt behind, ih (by simpa using sorted)]
      simp

/-- Members that are in order are an object as they are. -/
theorem ofMembers_of_inOrder {members : List (String × Json)} (inOrder : InOrder (.obj members)) :
    ofMembers members = .obj members := by
  have sorted : List.Pairwise (fun a b => a.1 < b.1) ([] ++ members) := inOrder
  rw [ofMembers, foldl_insertMember sorted, List.nil_append]

/-! ## Looking up members -/

/-- What stands at the end of a path of names. -/
def at? : List String → Json → Option Json
  | [], value => some value
  | name :: rest, value => (value.get? name).bind (at? rest)

theorem exists_of_isObject {value : Json} (object : value.isObject = true) :
    ∃ members, value = .obj members := by
  cases value with
  | obj members => exact ⟨members, rfl⟩
  | _ => cases object

theorem lookup_member (name : String) (member : String × Json) (rest : List (String × Json)) :
    (member :: rest).lookup name =
      if name = member.1 then some member.2 else rest.lookup name := by
  rw [List.lookup_cons]
  by_cases here : name = member.1
  · rw [if_pos here, beq_iff_eq.2 here]
  · rw [if_neg here, beq_false_of_ne here]

theorem mem_of_lookup {name : String} {value : Json} {members : List (String × Json)}
    (found : members.lookup name = some value) : (name, value) ∈ members := by
  obtain ⟨before, after, rfl, _⟩ := List.lookup_eq_some_iff.1 found
  exact List.mem_append_right _ List.mem_cons_self

/-- Members that are in order have each key once, so every one of them is found. -/
theorem lookup_of_mem {member : String × Json} {members : List (String × Json)}
    (inOrder : InOrder (.obj members)) (listed : member ∈ members) :
    members.lookup member.1 = some member.2 := by
  induction members with
  | nil => cases listed
  | cons first rest ih =>
      obtain ⟨least, sorted⟩ := List.pairwise_cons.1 inOrder
      rw [lookup_member]
      rcases List.mem_cons.1 listed with rfl | later
      · rw [if_pos rfl]
      · have behind : first.1 < member.1 := least member later
        rw [if_neg fun same => String.lt_irrefl _ (same ▸ behind), ih sorted later]

theorem lookup_insertMember (key : String) (value : Json) (members : List (String × Json))
    (name : String) :
    (insertMember key value members).lookup name =
      if name = key then some value else members.lookup name := by
  induction members with
  | nil => exact lookup_member name (key, value) []
  | cons member rest ih =>
      rw [insertMember]
      split
      next same =>
        subst same
        rw [lookup_member, lookup_member]
        split <;> rfl
      next apart =>
        split
        · rw [lookup_member]
        · rw [lookup_member, ih, lookup_member]
          -- The two keys differ, so it does not matter which is looked at first.
          by_cases here : name = key
          · rw [if_pos here, if_pos here, if_neg (here ▸ apart)]
          · rw [if_neg here, if_neg here]

/-- Of two members of one key the later is found. -/
theorem get?_ofMembers (members : List (String × Json)) (name : String) :
    (ofMembers members).get? name = members.reverse.lookup name := by
  rw [ofMembers, ← List.foldr_reverse, get?]
  induction members.reverse with
  | nil => rfl
  | cons member rest ih => rw [List.foldr_cons, lookup_insertMember, lookup_member, ih]

/-- Setting a member to the value it has changes nothing. -/
theorem insertMember_of_lookup {key : String} {value : Json} {members : List (String × Json)}
    (inOrder : InOrder (.obj members)) (found : members.lookup key = some value) :
    insertMember key value members = members := by
  induction members with
  | nil => cases found
  | cons member rest ih =>
      obtain ⟨least, sorted⟩ := List.pairwise_cons.1 inOrder
      rw [lookup_member] at found
      rw [insertMember]
      by_cases here : key = member.1
      · rw [if_pos here] at found ⊢
        cases found
        rw [here]
      · rw [if_neg here] at found ⊢
        have behind : member.1 < key := least _ (mem_of_lookup found)
        rw [if_neg (String.lt_asymm behind), ih sorted found]

end Inlay.Json
