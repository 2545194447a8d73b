import Inlay.Proofs.Bridge.Pending

/-!
# How registrations end

Operations on the table of pending calls come in any order, and ids and generations may be
used again and again.  How a registration ends is said here without the table: the first
operation after it that concerns it decides (`ending?`).  A reply to its id or the loss of its
interpreter answers it; retiring its id or registering the id once more gives it up.  Callers
that go away or look into their mailboxes decide nothing.

The table after a run is then the list of the registrations that have not ended
(`table_run`), whatever the mailboxes hold.
-/

namespace Inlay

namespace Pending

/-! ## Operations and runs -/

/-- What is done to the table of pending calls, or by a caller to its mailbox. -/
inductive Operation where
  | register (id generation : Nat)
  | complete (id : Nat) (outcome : Outcome Json)
  | retire (id : Nat)
  | fail (generation : Nat) (failure : Failure)
  /-- The caller of a mailbox goes away. -/
  | drop (mailbox : Nat)
  /-- The caller of a mailbox looks into it. -/
  | poll (mailbox : Nat)

namespace Operation

/-- The entry that an operation adds to the table, the next mailbox being given. -/
def entry (next : Nat) : Operation → List Registration
  | register id generation => [⟨id, generation, next⟩]
  | _ => []

end Operation

/-- The pending calls after an operation. -/
def after (pending : Pending) : Operation → Pending
  | .register id generation => (pending.register id generation).1
  | .complete id outcome => (pending.complete id outcome).1
  | .retire id => (pending.retire id).1
  | .fail generation failure => (pending.failGeneration generation failure).1
  | .drop mailbox => pending.drop mailbox
  | .poll mailbox => (pending.poll mailbox).1

/-- The pending calls after some operations. -/
def runFrom (pending : Pending) (operations : List Operation) : Pending :=
  operations.foldl after pending

/-- The pending calls after some operations, none being pending at first. -/
def run (operations : List Operation) : Pending := runFrom {} operations

/-- The number of registrations made by some operations, which is the number of the next
mailbox. -/
def registered (operations : List Operation) : Nat :=
  operations.countP fun
    | .register _ _ => true
    | _ => false

/-! ## The end of a registration -/

/-- How a registration ends. -/
inductive Ending where
  | answered (outcome : Outcome Json)
  /-- It was retired, or replaced by another of its id. -/
  | givenUp

/-- How an operation ends a registration with the given id and generation, if it does. -/
def Operation.ends? (id generation : Nat) : Operation → Option Ending
  | complete other outcome => if other = id then some (.answered outcome) else none
  | fail other failure => if other = generation then some (.answered (.error failure)) else none
  | retire other | register other _ => if other = id then some .givenUp else none
  | drop _ | poll _ => none

/-- How later operations end a registration: the first one that does decides. -/
def ending? (id generation : Nat) (later : List Operation) : Option Ending :=
  later.findSome? (Operation.ends? id generation)

/-- The registrations made by some operations that none of the later ones ends; the first to
be made has the mailbox `next`. -/
def standing (next : Nat) : List Operation → List Registration
  | [] => []
  | .register id generation :: later =>
      if (ending? id generation later).isNone then
        ⟨id, generation, next⟩ :: standing (next + 1) later
      else standing (next + 1) later
  | _ :: later => standing next later

section

variable {pending : Pending} {operation : Operation} {registration : Registration}
  {id generation next : Nat}

theorem runFrom_cons (pending : Pending) (operation : Operation) (later : List Operation) :
    pending.runFrom (operation :: later) = (pending.after operation).runFrom later := rfl

theorem runFrom_append (pending : Pending) (earlier later : List Operation) :
    pending.runFrom (earlier ++ later) = (pending.runFrom earlier).runFrom later :=
  List.foldl_append ..

theorem registered_cons (operation : Operation) (later : List Operation) (next : Nat) :
    registered (operation :: later) = (operation.entry next).length + registered later := by
  cases operation <;> simp [registered, Operation.entry, Nat.add_comm]

theorem ending?_cons (operation : Operation) (later : List Operation) :
    ending? id generation (operation :: later) =
      (operation.ends? id generation).or (ending? id generation later) := by
  rw [ending?, List.findSome?_cons]
  cases operation.ends? id generation <;> rfl

/-- What one operation registers stands if none of the later ones ends it; then come the
registrations of these. -/
theorem standing_cons (next : Nat) (operation : Operation) (later : List Operation) :
    standing next (operation :: later) =
      ((operation.entry next).filter fun made =>
        (ending? made.id made.generation later).isNone) ++
      standing (next + (operation.entry next).length) later := by
  cases operation with
  | register id generation =>
      rw [standing, Operation.entry, List.filter_cons, List.filter_nil]
      split <;> rfl
  | _ => rfl

/-! ## The table after a run -/

/-- An operation ends the registrations that concern it and adds its own at the end. -/
theorem table_after (pending : Pending) (operation : Operation) :
    (pending.after operation).table =
      (pending.table.filter fun registration =>
        (operation.ends? registration.id registration.generation).isNone) ++
      operation.entry pending.mailboxes.length := by
  have spared (number other : Nat) (ending : Ending) :
      (if number = other then some ending else none).isNone = (other != number) := by
    split
    next same => simp [same]
    next different => simp [Ne.symm different]
  cases operation with
  | register id generation =>
      simp only [after, register, table_remove, length_mailboxes_remove, Operation.ends?, spared,
        Operation.entry]
  | complete id outcome =>
      simp only [after, complete_eq_remove, table_remove, Operation.ends?, spared,
        Operation.entry, List.append_nil]
  | retire id =>
      simp only [after, retire, table_remove, Operation.ends?, spared, Operation.entry,
        List.append_nil]
  | fail generation failure =>
      simp only [after, failGeneration, Operation.ends?, spared, Operation.entry, List.append_nil]
  | drop =>
      simp only [Operation.entry, List.append_nil]
      exact (List.filter_eq_self.2 fun _ _ => rfl).symm
  | poll number =>
      have kept : (pending.poll number).1.table = pending.table := by
        rw [poll]
        split <;> rfl
      simp only [Operation.entry, List.append_nil, after, kept]
      exact (List.filter_eq_self.2 fun _ _ => rfl).symm

theorem length_mailboxes_after (pending : Pending) (operation : Operation) :
    (pending.after operation).mailboxes.length =
      pending.mailboxes.length + (operation.entry pending.mailboxes.length).length := by
  cases operation with
  | register id generation => simp [after, register, length_mailboxes_remove, Operation.entry]
  | complete id outcome =>
      simp [after, complete_eq_remove, length_mailboxes_remove, Operation.entry]
  | retire id => simp [after, retire, length_mailboxes_remove, Operation.entry]
  | fail generation failure =>
      refine List.foldlRecOn (motive := fun mailboxes : List Mailbox =>
        mailboxes.length = pending.mailboxes.length) _ _ rfl ?_
      intro mailboxes same lost _
      rw [List.length_modify, same]
  | drop mailbox => simp [after, drop, Operation.entry]
  | poll mailbox =>
      simp only [after, poll, Operation.entry]
      split <;> simp

/-- Every registration makes one mailbox, and none is ever taken away. -/
theorem length_mailboxes_runFrom (pending : Pending) (operations : List Operation) :
    (pending.runFrom operations).mailboxes.length =
      pending.mailboxes.length + registered operations := by
  induction operations generalizing pending with
  | nil => rfl
  | cons operation later ih =>
      rw [runFrom_cons, ih, length_mailboxes_after,
        registered_cons operation later pending.mailboxes.length, Nat.add_assoc]

/-- The table after a run: the old entries that no operation ends, and the new ones that
still stand. -/
theorem table_runFrom (pending : Pending) (operations : List Operation) :
    (pending.runFrom operations).table =
      (pending.table.filter fun registration =>
        (ending? registration.id registration.generation operations).isNone) ++
      standing pending.mailboxes.length operations := by
  induction operations generalizing pending with
  | nil =>
      rw [standing, List.append_nil]
      exact (List.filter_eq_self.2 fun _ _ => rfl).symm
  | cons operation later ih =>
      rw [runFrom_cons, ih, table_after, length_mailboxes_after, List.filter_append,
        List.filter_filter, standing_cons, List.append_assoc]
      congr 1
      congr 1
      funext registration
      rw [ending?_cons, Option.isNone_or, Bool.and_comm]

/-- The table after a run is the list of the registrations that stand. -/
theorem table_run (operations : List Operation) :
    (run operations).table = standing 0 operations := by
  rw [run, table_runFrom]
  rfl

/-- Only registering adds an entry, with the next mailbox. -/
theorem mem_entry :
    registration ∈ operation.entry next ↔
      operation = .register registration.id registration.generation ∧
        registration.mailbox = next := by
  obtain ⟨id, generation, mailbox⟩ := registration
  cases operation <;> simp [Operation.entry, eq_comm, and_assoc]

/-- A registration stands when it was made and nothing after it has ended it. -/
theorem mem_standing {operations : List Operation} :
    registration ∈ standing next operations ↔
      ∃ earlier later,
        operations = earlier ++ .register registration.id registration.generation :: later ∧
        registration.mailbox = next + registered earlier ∧
        ending? registration.id registration.generation later = none := by
  induction operations generalizing next with
  | nil => simp [standing]
  | cons operation rest ih =>
      rw [standing_cons, List.mem_append, List.mem_filter, mem_entry, ih]
      constructor
      · rintro (⟨⟨made, box⟩, stands⟩ | ⟨earlier, later, made, box, stands⟩)
        · exact ⟨[], rest, by rw [made, List.nil_append], box, Option.isNone_iff_eq_none.1 stands⟩
        · refine ⟨operation :: earlier, later, by rw [made, List.cons_append], ?_, stands⟩
          rw [box, registered_cons operation earlier next, Nat.add_assoc]
      · rintro ⟨earlier, later, made, box, stands⟩
        cases earlier with
        | nil =>
            obtain ⟨rfl, rfl⟩ := List.cons.inj made
            exact .inl ⟨⟨rfl, box⟩, Option.isNone_iff_eq_none.2 stands⟩
        | cons first earlier =>
            obtain ⟨rfl, rfl⟩ := List.cons.inj made
            refine .inr ⟨earlier, later, rfl, ?_, stands⟩
            rw [box, registered_cons operation earlier next, Nat.add_assoc]

/-- An entry is in the table if it was registered and no later operation ends it; its mailbox is
numbered by the registrations before it. -/
theorem mem_table_run {operations : List Operation} :
    registration ∈ (run operations).table ↔
      ∃ earlier later,
        operations = earlier ++ .register registration.id registration.generation :: later ∧
        registration.mailbox = registered earlier ∧
        ending? registration.id registration.generation later = none := by
  rw [table_run, mem_standing]
  simp only [Nat.zero_add]

/-! ## Entries and their mailboxes -/

/-- No two entries share an id, and the mailbox of each has been handed out. -/
structure Keyed (pending : Pending) : Prop where
  ids : pending.table.Pairwise fun a b => a.id ≠ b.id
  given : ∀ registration ∈ pending.table, registration.mailbox < pending.mailboxes.length

/-- An operation keeps ids apart and mailboxes handed out, since registering ends what has the
id. -/
theorem Keyed.after (keyed : pending.Keyed) (operation : Operation) :
    (pending.after operation).Keyed := by
  constructor
  · rw [table_after]
    refine List.pairwise_append.2 ⟨keyed.ids.filter _, ?_, ?_⟩
    · cases operation with
      | register => exact List.pairwise_singleton _ _
      | _ => exact .nil
    · intro kept listed made new
      obtain ⟨rfl, -⟩ := mem_entry.1 new
      have spared := (List.mem_filter.1 listed).2
      rw [Operation.ends?, Option.isNone_iff_eq_none] at spared
      split at spared
      next => cases spared
      next different => exact Ne.symm different
  · intro registration listed
    rw [table_after] at listed
    rw [length_mailboxes_after]
    rcases List.mem_append.1 listed with kept | new
    · exact Nat.lt_of_lt_of_le (keyed.given registration (List.mem_filter.1 kept).1)
        (Nat.le_add_right _ _)
    · obtain ⟨rfl, box⟩ := mem_entry.1 new
      rw [box]
      exact Nat.lt_add_one _

theorem keyed_run (operations : List Operation) : (run operations).Keyed :=
  List.foldlRecOn operations _ ⟨.nil, by simp⟩ fun _ keyed operation _ => keyed.after operation

end

end Pending

end Inlay
