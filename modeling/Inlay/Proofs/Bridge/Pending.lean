import Inlay.Bridge.Pending

/-!
# The table of pending calls

Each operation on the table is described by what it does to the registrations and
to the single mailbox at a given number.  A table is *sound* when no two
registrations share an id or a mailbox and every registered mailbox still waits;
every operation of the bridge keeps it so.

An outcome that has arrived stays where it is: delivering to a mailbox and closing
one only change a mailbox that waits.
-/

namespace Inlay

namespace Pending

/-- No two registrations share an id or a mailbox, and each has a mailbox that
waits. -/
structure Sound (pending : Pending) : Prop where
  ids : pending.table.Pairwise fun a b => a.id ≠ b.id
  boxes : pending.table.Pairwise fun a b => a.mailbox ≠ b.mailbox
  waiting : ∀ registration ∈ pending.table,
    pending.mailboxes[registration.mailbox]? = some .waiting

/-- The id is registered. -/
def Holds (pending : Pending) (id : Nat) : Prop :=
  ∃ registration ∈ pending.table, registration.id = id

theorem sound_empty : Sound {} := ⟨.nil, .nil, by simp⟩

/-- Members of a list whose keys are pairwise different are equal when their keys
are. -/
theorem eq_of_pairwise_ne {key : Registration → Nat} {table : List Registration}
    (different : table.Pairwise fun a b => key a ≠ key b) {a b : Registration}
    (first : a ∈ table) (second : b ∈ table) (same : key a = key b) : a = b := by
  induction table with
  | nil => cases first
  | cons head rest ih =>
      obtain ⟨headDifferent, restDifferent⟩ := List.pairwise_cons.1 different
      rcases List.mem_cons.1 first with rfl | firstLater
      · rcases List.mem_cons.1 second with rfl | secondLater
        · rfl
        · exact absurd same (headDifferent b secondLater)
      · rcases List.mem_cons.1 second with rfl | secondLater
        · exact absurd same.symm (headDifferent a firstLater)
        · exact ih restDifferent firstLater secondLater

/-- In a sound table a mailbox belongs to one registration only. -/
theorem Sound.eq_of_mailbox {pending : Pending} (sound : pending.Sound) {a b : Registration}
    (first : a ∈ pending.table) (second : b ∈ pending.table) (same : a.mailbox = b.mailbox) :
    a = b :=
  eq_of_pairwise_ne sound.boxes first second same

theorem find?_eq_none_iff {pending : Pending} {id : Nat} :
    pending.find? id = none ↔ ¬pending.Holds id := by
  simp [find?, Holds]

theorem mem_of_find? {pending : Pending} {id : Nat} {registration : Registration}
    (found : pending.find? id = some registration) :
    registration ∈ pending.table ∧ registration.id = id :=
  ⟨List.mem_of_find?_eq_some found, by simpa using List.find?_some found⟩

/-- Where no two registrations share an id, each is found under its own. -/
theorem find?_of_mem {pending : Pending}
    (ids : pending.table.Pairwise fun a b => a.id ≠ b.id) {registration : Registration}
    (registered : registration ∈ pending.table) :
    pending.find? registration.id = some registration := by
  cases found : pending.find? registration.id with
  | none => exact absurd ⟨registration, registered, rfl⟩ (find?_eq_none_iff.1 found)
  | some other =>
      obtain ⟨otherRegistered, sameId⟩ := mem_of_find? found
      rw [eq_of_pairwise_ne ids otherRegistered registered sameId]

/-! ## Removing a registration -/

theorem remove_of_not_holds {pending : Pending} {id : Nat} {change : Mailbox → Mailbox}
    (absent : ¬pending.Holds id) : pending.remove id change = pending := by
  rw [remove, find?_eq_none_iff.2 absent]

theorem table_remove (pending : Pending) (id : Nat) (change : Mailbox → Mailbox) :
    (pending.remove id change).table = pending.table.filter fun other => other.id != id := by
  rw [remove]
  split
  next missing =>
    symm
    rw [List.filter_eq_self]
    intro other registered
    simpa using fun same => find?_eq_none_iff.1 missing ⟨other, registered, same⟩
  next => rfl

theorem mem_remove {pending : Pending} {id : Nat} {change : Mailbox → Mailbox}
    {registration : Registration} :
    registration ∈ (pending.remove id change).table ↔
      registration ∈ pending.table ∧ registration.id ≠ id := by
  rw [table_remove]
  simp

/-- No mailbox is ever taken away, so that its number stays its own. -/
theorem length_mailboxes_remove (pending : Pending) (id : Nat) (change : Mailbox → Mailbox) :
    (pending.remove id change).mailboxes.length = pending.mailboxes.length := by
  rw [remove]
  split
  next => rfl
  next => exact List.length_modify ..

/-- Removing an id changes the mailbox it was registered with, and no other. -/
theorem mailbox_remove {pending : Pending}
    (ids : pending.table.Pairwise fun a b => a.id ≠ b.id) {registration : Registration}
    (registered : registration ∈ pending.table) (change : Mailbox → Mailbox) (mailbox : Nat) :
    (pending.remove registration.id change).mailboxes[mailbox]? =
      if registration.mailbox = mailbox then pending.mailboxes[mailbox]?.map change
      else pending.mailboxes[mailbox]? := by
  rw [remove, find?_of_mem ids registered]
  simp only [List.getElem?_modify]
  split <;> simp

/-- A removal leaves a mailbox alone unless the removed registration has it. -/
theorem mailbox_remove_of_ne {pending : Pending}
    (ids : pending.table.Pairwise fun a b => a.id ≠ b.id) {id mailbox : Nat}
    {change : Mailbox → Mailbox}
    (others : ∀ registration ∈ pending.table, registration.id = id →
      registration.mailbox ≠ mailbox) :
    (pending.remove id change).mailboxes[mailbox]? = pending.mailboxes[mailbox]? := by
  by_cases held : pending.Holds id
  · obtain ⟨registration, registered, rfl⟩ := held
    rw [mailbox_remove ids registered, if_neg (others registration registered rfl)]
  · rw [remove_of_not_holds held]

/-- An outcome that has arrived is not touched when an id is removed. -/
theorem ready_remove {pending : Pending} (sound : pending.Sound) {id mailbox : Nat}
    {change : Mailbox → Mailbox} {outcome : Outcome Json}
    (ready : pending.mailboxes[mailbox]? = some (.ready outcome)) :
    (pending.remove id change).mailboxes[mailbox]? = some (.ready outcome) := by
  rw [mailbox_remove_of_ne sound.ids, ready]
  intro registration registered _ same
  rw [← same, sound.waiting registration registered] at ready
  cases ready

theorem Sound.remove {pending : Pending} (sound : pending.Sound) (id : Nat)
    (change : Mailbox → Mailbox) : (pending.remove id change).Sound := by
  refine ⟨?_, ?_, ?_⟩
  · rw [table_remove]
    exact sound.ids.filter _
  · rw [table_remove]
    exact sound.boxes.filter _
  · intro registration kept
    obtain ⟨registered, different⟩ := mem_remove.1 kept
    rw [mailbox_remove_of_ne sound.ids, sound.waiting registration registered]
    intro other otherRegistered sameId sameBox
    have same := sound.eq_of_mailbox otherRegistered registered sameBox
    exact different (same ▸ sameId)

/-! ## Registering, completing and retiring -/

/-- A new id gets a registration and a mailbox of its own. -/
theorem register_eq {pending : Pending} {id : Nat} (absent : ¬pending.Holds id)
    (generation : Nat) :
    pending.register id generation =
      ({ table := pending.table ++ [⟨id, generation, pending.mailboxes.length⟩]
         mailboxes := pending.mailboxes ++ [.waiting] }, pending.mailboxes.length) := by
  rw [register, remove_of_not_holds absent]

/-- Registering an id that is not in the table keeps it sound, since the mailbox is new. -/
theorem Sound.register {pending : Pending} (sound : pending.Sound) {id : Nat}
    (absent : ¬pending.Holds id) (generation : Nat) :
    (pending.register id generation).1.Sound := by
  have inRange (registration : Registration) (registered : registration ∈ pending.table) :
      registration.mailbox < pending.mailboxes.length :=
    (List.getElem?_eq_some_iff.1 (sound.waiting registration registered)).1
  rw [register_eq absent]
  refine ⟨?_, ?_, ?_⟩
  · refine List.pairwise_append.2 ⟨sound.ids, List.pairwise_singleton _ _, ?_⟩
    intro registration registered new isNew
    rw [List.mem_singleton.1 isNew]
    exact fun same => absent ⟨registration, registered, same⟩
  · refine List.pairwise_append.2 ⟨sound.boxes, List.pairwise_singleton _ _, ?_⟩
    intro registration registered new isNew
    rw [List.mem_singleton.1 isNew]
    exact Nat.ne_of_lt (inRange registration registered)
  · intro registration registered
    rcases List.mem_append.1 registered with old | isNew
    · rw [List.getElem?_append_left (inRange registration old)]
      exact sound.waiting registration old
    · rw [List.mem_singleton.1 isNew]
      simp

/-- A new mailbox waits. -/
theorem waiting_register (pending : Pending) (id generation : Nat) :
    (pending.register id generation).1.mailboxes[(pending.register id generation).2]? =
      some .waiting := by
  simp [register]

/-- To complete a call is to remove it and to deliver the outcome. -/
theorem complete_eq_remove (pending : Pending) (id : Nat) (outcome : Outcome Json) :
    (pending.complete id outcome).1 = pending.remove id (deliver outcome) := by
  rw [complete, remove]
  cases pending.find? id <;> rfl

/-! ## Failing the calls of an interpreter -/

/-- Delivering one outcome to the mailboxes of some registrations. -/
theorem mailbox_foldl_deliver (outcome : Outcome Json) (mailbox : Nat)
    (lost : List Registration) (mailboxes : List Mailbox) :
    (lost.foldl (fun mailboxes registration =>
        mailboxes.modify registration.mailbox (deliver outcome)) mailboxes)[mailbox]? =
      if ∃ registration ∈ lost, registration.mailbox = mailbox then
        mailboxes[mailbox]?.map (deliver outcome)
      else mailboxes[mailbox]? := by
  induction lost generalizing mailboxes with
  | nil => simp
  | cons registration rest ih =>
      rw [List.foldl_cons, ih, List.getElem?_modify]
      have twice (box : Mailbox) : deliver outcome (deliver outcome box) = deliver outcome box := by
        cases box <;> rfl
      by_cases here : registration.mailbox = mailbox
      · cases mailboxes[mailbox]? <;> simp [here, twice]
      · simp [here]

/-- The calls that outlast the end of an interpreter are those sent to others. -/
theorem mem_failGeneration {pending : Pending} {generation : Nat} {failure : Failure}
    {registration : Registration} :
    registration ∈ (pending.failGeneration generation failure).1.table ↔
      registration ∈ pending.table ∧ registration.generation ≠ generation := by
  simp [failGeneration]

/-- A call of the interpreter finds the failure in its mailbox. -/
theorem ready_failGeneration {pending : Pending} (sound : pending.Sound) {generation : Nat}
    (failure : Failure) {registration : Registration} (registered : registration ∈ pending.table)
    (sent : registration.generation = generation) :
    (pending.failGeneration generation failure).1.mailboxes[registration.mailbox]? =
      some (.ready (.error failure)) := by
  have among : ∃ other ∈ pending.ofGeneration generation, other.mailbox = registration.mailbox :=
    ⟨registration, by simp [ofGeneration, registered, sent], rfl⟩
  rw [failGeneration, mailbox_foldl_deliver, if_pos among, sound.waiting registration registered]
  rfl

/-- Every other mailbox is left alone. -/
theorem mailbox_failGeneration_of_ne {pending : Pending} {generation mailbox : Nat}
    {failure : Failure}
    (others : ∀ registration ∈ pending.table, registration.generation = generation →
      registration.mailbox ≠ mailbox) :
    (pending.failGeneration generation failure).1.mailboxes[mailbox]? =
      pending.mailboxes[mailbox]? := by
  rw [failGeneration, mailbox_foldl_deliver, if_neg]
  rintro ⟨registration, lost, same⟩
  simp only [ofGeneration, List.mem_filter, beq_iff_eq] at lost
  exact others registration lost.1 lost.2 same

theorem Sound.failGeneration {pending : Pending} (sound : pending.Sound) (generation : Nat)
    (failure : Failure) : (pending.failGeneration generation failure).1.Sound := by
  refine ⟨sound.ids.filter _, sound.boxes.filter _, ?_⟩
  intro registration kept
  obtain ⟨registered, different⟩ := mem_failGeneration.1 kept
  rw [mailbox_failGeneration_of_ne, sound.waiting registration registered]
  intro other otherRegistered sent sameBox
  have same := sound.eq_of_mailbox otherRegistered registered sameBox
  exact different (same ▸ sent)

/-- An outcome that has arrived is not replaced by a later failure. -/
theorem ready_failGeneration_of_ready {pending : Pending} (sound : pending.Sound)
    {generation mailbox : Nat} {failure : Failure} {outcome : Outcome Json}
    (ready : pending.mailboxes[mailbox]? = some (.ready outcome)) :
    (pending.failGeneration generation failure).1.mailboxes[mailbox]? = some (.ready outcome) := by
  rw [mailbox_failGeneration_of_ne, ready]
  intro registration registered _ same
  rw [← same, sound.waiting registration registered] at ready
  cases ready

/-! ## Looking into a mailbox -/

/-- Taking an outcome empties that mailbox and changes nothing else. -/
theorem poll_outcome {pending polled : Pending} {mailbox : Nat} {outcome : Outcome Json}
    (found : pending.poll mailbox = (polled, .outcome outcome)) :
    pending.mailboxes[mailbox]? = some (.ready outcome) ∧ polled.table = pending.table ∧
      ∀ other, other ≠ mailbox → polled.mailboxes[other]? = pending.mailboxes[other]? := by
  rw [poll] at found
  split at found
  next => cases found
  next ready content =>
    cases found
    refine ⟨content, rfl, ?_⟩
    intro other different
    simp [Ne.symm different]
  next => cases found

/-- A mailbox is found closed only if nothing is in it and nothing will come. -/
theorem poll_closed {pending polled : Pending} {mailbox : Nat}
    (found : pending.poll mailbox = (polled, .closed)) :
    polled = pending ∧ pending.mailboxes[mailbox]? ≠ some .waiting ∧
      ∀ outcome, pending.mailboxes[mailbox]? ≠ some (.ready outcome) := by
  rw [poll] at found
  split at found
  next => cases found
  next => cases found
  next notWaiting notReady =>
    cases found
    exact ⟨rfl, notWaiting, notReady⟩

/-! ## Outcomes come from deliveries -/

/-- A change that makes no outcome leaves only outcomes that were there. -/
theorem ready_of_modify {mailboxes : List Mailbox} {number mailbox : Nat}
    {change : Mailbox → Mailbox} {outcome : Outcome Json}
    (idle : ∀ box, change box = .ready outcome → box = .ready outcome)
    (ready : (mailboxes.modify number change)[mailbox]? = some (.ready outcome)) :
    mailboxes[mailbox]? = some (.ready outcome) := by
  rw [List.getElem?_modify, Option.map_eq_map, Option.map_eq_some_iff] at ready
  obtain ⟨box, here, changed⟩ := ready
  split at changed
  next => rw [here, idle box changed]
  next => rw [here, changed]

/-- Giving up a call delivers no outcome. -/
theorem ready_of_remove_close {pending : Pending} {id mailbox : Nat} {outcome : Outcome Json}
    (ready : (pending.remove id close).mailboxes[mailbox]? = some (.ready outcome)) :
    pending.mailboxes[mailbox]? = some (.ready outcome) := by
  rw [remove] at ready
  split at ready
  next => exact ready
  next =>
    refine ready_of_modify (fun box closed => ?_) ready
    cases box with
    | waiting => cases closed
    | _ => exact closed

/-- A registration delivers no outcome, not even to the one it replaces. -/
theorem ready_of_register {pending : Pending} {id generation mailbox : Nat}
    {outcome : Outcome Json}
    (ready : (pending.register id generation).1.mailboxes[mailbox]? = some (.ready outcome)) :
    pending.mailboxes[mailbox]? = some (.ready outcome) := by
  simp only [register] at ready
  rw [List.getElem?_append] at ready
  split at ready
  next => exact ready_of_remove_close ready
  next =>
    rw [List.getElem?_singleton] at ready
    split at ready <;> cases ready

/-- After a failure every outcome was there before or is the failure. -/
theorem ready_of_failGeneration {pending : Pending} {generation mailbox : Nat} {failure : Failure}
    {outcome : Outcome Json}
    (ready : (pending.failGeneration generation failure).1.mailboxes[mailbox]? =
      some (.ready outcome)) :
    pending.mailboxes[mailbox]? = some (.ready outcome) ∨ outcome = .error failure := by
  rw [failGeneration, mailbox_foldl_deliver] at ready
  split at ready
  next =>
    obtain ⟨box, here, delivered⟩ := Option.map_eq_some_iff.1 ready
    cases box with
    | waiting =>
        cases delivered
        exact .inr rfl
    | _ => exact .inl (here.trans (congrArg some delivered))
  next => exact .inl ready

theorem ready_of_poll {pending polled : Pending} {number mailbox : Nat} {found : Poll}
    {outcome : Outcome Json} (looked : pending.poll number = (polled, found))
    (ready : polled.mailboxes[mailbox]? = some (.ready outcome)) :
    pending.mailboxes[mailbox]? = some (.ready outcome) := by
  rw [poll] at looked
  split at looked
  next =>
    cases looked
    exact ready
  next =>
    cases looked
    refine ready_of_modify (fun box closed => ?_) ready
    cases closed
  next =>
    cases looked
    exact ready

end Pending

end Inlay
