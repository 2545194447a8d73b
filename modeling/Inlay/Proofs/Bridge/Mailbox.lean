import Inlay.Proofs.Bridge.Ending

/-!
# What callers find in their mailboxes

The mailbox of one registration is followed through a run.  As long as the registration
stands it is the only entry with that mailbox, and once it has ended there is none
(`Tracks`), so only the operation that ends it and its own caller touch the mailbox.  How the
mailbox then goes together with the end of the registration and with what its caller does is
a small table (`Agrees`), which every operation keeps.

Callers may go away before their calls end, so a registered mailbox need not wait, and
`Sound` does not hold here.
-/

namespace Inlay

namespace Pending

/-! ## What is done to a mailbox -/

/-- A mailbox after its outcome has been taken, if there was one. -/
def emptied : Mailbox → Mailbox
  | .ready _ => .closed
  | other => other

namespace Operation

/-- Whether the caller of a mailbox goes away. -/
def drops (mailbox : Nat) : Operation → Bool
  | drop number => number == mailbox
  | _ => false

/-- What the caller of a mailbox does to it. -/
def handle (mailbox : Nat) : Operation → Mailbox → Mailbox
  | drop number => if number = mailbox then fun _ => .dropped else id
  | poll number => if number = mailbox then emptied else id
  | _ => id

end Operation

/-- What the end of a registration does to its mailbox. -/
def Ending.settle : Ending → Mailbox → Mailbox
  | answered outcome => deliver outcome
  | givenUp => close

/-! ## What is taken out of a mailbox -/

/-- What a look at a mailbox shows. -/
def view : Mailbox → Poll
  | .waiting => .waiting
  | .ready outcome => .outcome outcome
  | _ => .closed

/-- The outcome that a look into a mailbox finds. -/
def Poll.taken : Poll → List (Outcome Json)
  | Poll.outcome found => [found]
  | _ => []

/-- The outcome that an operation takes out of a mailbox. -/
def taken (pending : Pending) (mailbox : Nat) : Operation → List (Outcome Json)
  | .poll number => if number = mailbox then (pending.poll number).2.taken else []
  | _ => []

/-- All outcomes that are taken out of a mailbox during a run, in order. -/
def obtainedFrom (pending : Pending) (mailbox : Nat) : List Operation → List (Outcome Json)
  | [] => []
  | operation :: later =>
      pending.taken mailbox operation ++ obtainedFrom (pending.after operation) mailbox later

/-- All outcomes that are taken out of a mailbox during a run from the start. -/
def obtained (mailbox : Nat) (operations : List Operation) : List (Outcome Json) :=
  obtainedFrom {} mailbox operations

/-- What a caller that is still there finds in its mailbox, by the end of its registration
and what it has taken out before. -/
def shows : Option Ending → List (Outcome Json) → Poll
  | none, _ => .waiting
  | some (.answered outcome), [] => .outcome outcome
  | _, _ => .closed

section

variable {pending : Pending} {operation : Operation} {registration : Registration}
  {id generation mailbox : Nat}

/-! ## The mailbox of a registration -/

theorem mailbox_poll (pending : Pending) (number mailbox : Nat) :
    (pending.poll number).1.mailboxes[mailbox]? =
      pending.mailboxes[mailbox]?.map ((Operation.poll number).handle mailbox) := by
  by_cases here : number = mailbox
  · subst here
    rw [Operation.handle, if_pos rfl, poll]
    split
    next waiting =>
      rw [waiting]
      rfl
    next outcome ready => simp [ready, emptied]
    next notReady =>
      cases found : pending.mailboxes[number]? with
      | none => rfl
      | some box =>
          cases box with
          | ready outcome => exact absurd found (notReady outcome)
          | _ => rfl
  · rw [Operation.handle, if_neg here, Option.map_id_apply, poll]
    split
    next => rfl
    next => simp [here]
    next => rfl

theorem poll_eq_view {box : Mailbox} (here : pending.mailboxes[mailbox]? = some box) :
    (pending.poll mailbox).2 = view box := by
  rw [poll, here]
  cases box <;> rfl

/-- An operation that ends a registration settles its mailbox. -/
theorem mailbox_after_of_ends (keyed : pending.Keyed) (registered : registration ∈ pending.table)
    {ending : Ending}
    (ends : operation.ends? registration.id registration.generation = some ending) :
    (pending.after operation).mailboxes[registration.mailbox]? =
      pending.mailboxes[registration.mailbox]?.map ending.settle := by
  have removed (change : Mailbox → Mailbox) :
      (pending.remove registration.id change).mailboxes[registration.mailbox]? =
        pending.mailboxes[registration.mailbox]?.map change := by
    rw [mailbox_remove keyed.ids registered, if_pos rfl]
  cases operation with
  | register other =>
      obtain ⟨rfl, ⟨⟩⟩ := Option.ite_none_right_eq_some.1 ends
      simp only [after, register]
      rw [List.getElem?_append_left, removed]
      · rfl
      · rw [length_mailboxes_remove]
        exact keyed.given registration registered
  | complete other outcome =>
      obtain ⟨rfl, ⟨⟩⟩ := Option.ite_none_right_eq_some.1 ends
      simp only [after, complete_eq_remove]
      exact removed _
  | retire other =>
      obtain ⟨rfl, ⟨⟩⟩ := Option.ite_none_right_eq_some.1 ends
      exact removed _
  | fail other failure =>
      obtain ⟨rfl, ⟨⟩⟩ := Option.ite_none_right_eq_some.1 ends
      have lost : ∃ other ∈ pending.ofGeneration registration.generation,
          other.mailbox = registration.mailbox :=
        ⟨registration, by simp [ofGeneration, registered], rfl⟩
      simp only [after, failGeneration, mailbox_foldl_deliver, if_pos lost]
      rfl
  | drop => cases ends
  | poll => cases ends

/-- An operation that ends a registration is not one of a caller. -/
theorem aside_of_ends {ending : Ending} (ends : operation.ends? id generation = some ending)
    (pending : Pending) (mailbox : Nat) :
    operation.drops mailbox = false ∧ pending.taken mailbox operation = [] := by
  cases operation with
  | drop => cases ends
  | poll => cases ends
  | _ => exact ⟨rfl, rfl⟩

/-- Any other operation leaves the mailbox to its caller. -/
theorem mailbox_after_of_spares (keyed : pending.Keyed)
    (owner : ∀ other ∈ pending.table, other.mailbox = registration.mailbox → other = registration)
    (given : registration.mailbox < pending.mailboxes.length)
    (spares : registration ∈ pending.table →
      operation.ends? registration.id registration.generation = none) :
    (pending.after operation).mailboxes[registration.mailbox]? =
      pending.mailboxes[registration.mailbox]?.map (operation.handle registration.mailbox) := by
  have kept (id : Nat) (change : Mailbox → Mailbox)
      (different : registration ∈ pending.table → id ≠ registration.id) :
      (pending.remove id change).mailboxes[registration.mailbox]? =
        pending.mailboxes[registration.mailbox]? := by
    refine mailbox_remove_of_ne keyed.ids ?_
    rintro other listed sameId sameBox
    obtain rfl := owner other listed sameBox
    exact different listed sameId.symm
  cases operation with
  | register id generation =>
      simp only [after, register, Operation.handle, Option.map_id_apply]
      rw [List.getElem?_append_left, kept]
      · simpa [Operation.ends?] using spares
      · rwa [length_mailboxes_remove]
  | complete id outcome =>
      simp only [after, complete_eq_remove, Operation.handle, Option.map_id_apply]
      exact kept _ _ (by simpa [Operation.ends?] using spares)
  | retire id =>
      simp only [after, retire, Operation.handle, Option.map_id_apply]
      exact kept _ _ (by simpa [Operation.ends?] using spares)
  | fail generation failure =>
      simp only [after, Operation.handle, Option.map_id_apply]
      refine mailbox_failGeneration_of_ne ?_
      rintro other listed rfl sameBox
      obtain rfl := owner other listed sameBox
      exact absurd (spares listed) (by simp [Operation.ends?])
  | drop number =>
      simp only [after, drop, List.getElem?_modify]
      by_cases here : number = registration.mailbox <;> simp [Operation.handle, here]
  | poll number => exact mailbox_poll pending number registration.mailbox

/-- How the end of a registration, its caller's going away, the mailbox and what was taken
out of it go together. -/
inductive Agrees : Option Ending → Bool → Mailbox → List (Outcome Json) → Prop where
  | waiting : Agrees none false .waiting []
  | ready (outcome : Outcome Json) :
      Agrees (some (.answered outcome)) false (.ready outcome) []
  | received (outcome : Outcome Json) :
      Agrees (some (.answered outcome)) false .closed [outcome]
  | closed : Agrees (some .givenUp) false .closed []
  | dropped (ending : Option Ending) : Agrees ending true .dropped []
  /-- The caller went away with its outcome. -/
  | served (outcome : Outcome Json) :
      Agrees (some (.answered outcome)) true .dropped [outcome]

/-- The first end of a registration settles its mailbox, and later ones find it settled. -/
theorem Agrees.settle {gone : Bool} {box : Mailbox} {taken : List (Outcome Json)}
    (agrees : Agrees none gone box taken) (ending : Ending) :
    Agrees (some ending) gone (ending.settle box) taken := by
  cases agrees with
  | waiting =>
      cases ending with
      | answered outcome => exact .ready outcome
      | givenUp => exact .closed
  | dropped =>
      cases ending with
      | answered outcome => exact .dropped _
      | givenUp => exact .dropped _

/-- Looking into a mailbox takes what it shows, at most once. -/
theorem Agrees.empty {ending : Option Ending} {gone : Bool} {box : Mailbox}
    {taken : List (Outcome Json)} (agrees : Agrees ending gone box taken) :
    Agrees ending gone (emptied box) (taken ++ (view box).taken) := by
  cases agrees with
  | waiting => exact .waiting
  | ready outcome => exact .received outcome
  | received outcome => exact .received outcome
  | closed => exact .closed
  | dropped => exact .dropped ending
  | served outcome => exact .served outcome

theorem Agrees.leave {ending : Option Ending} {gone : Bool} {box : Mailbox}
    {taken : List (Outcome Json)} (agrees : Agrees ending gone box taken) :
    Agrees ending true .dropped taken := by
  cases agrees with
  | received outcome => exact .served outcome
  | served outcome => exact .served outcome
  | _ => exact .dropped _

/-- Whatever a caller does, its mailbox agrees with how the registration has ended and what was
taken. -/
theorem Agrees.handle {ending : Option Ending} {gone : Bool} {box : Mailbox}
    {taken : List (Outcome Json)} (agrees : Agrees ending gone box taken)
    (here : pending.mailboxes[mailbox]? = some box) (operation : Operation) :
    Agrees ending (gone || operation.drops mailbox) (operation.handle mailbox box)
      (taken ++ pending.taken mailbox operation) := by
  have idle : Agrees ending (gone || false) box (taken ++ []) := by
    rwa [Bool.or_false, List.append_nil]
  cases operation with
  | drop number =>
      by_cases same : number = mailbox
      · simpa [Operation.drops, Operation.handle, Pending.taken, same] using agrees.leave
      · have other : (number == mailbox) = false := beq_false_of_ne same
        simpa [Operation.drops, Operation.handle, Pending.taken, same, other] using agrees
  | poll number =>
      by_cases same : number = mailbox
      · subst same
        simpa [Operation.drops, Operation.handle, Pending.taken, poll_eq_view here]
          using agrees.empty
      · simpa [Operation.drops, Operation.handle, Pending.taken, same] using agrees
  | _ => exact idle

/-- What a mailbox shows depends only on how the registration has ended and on what was taken
before. -/
theorem Agrees.view_eq {ending : Option Ending} {box : Mailbox} {taken : List (Outcome Json)}
    (agrees : Agrees ending false box taken) : view box = shows ending taken := by
  cases agrees <;> rfl

theorem Agrees.of_waiting {ending : Option Ending} {gone : Bool} {taken : List (Outcome Json)}
    (agrees : Agrees ending gone .waiting taken) : ending = none ∧ gone = false ∧ taken = [] := by
  cases agrees
  exact ⟨rfl, rfl, rfl⟩

theorem Agrees.eq_waiting {box : Mailbox} {taken : List (Outcome Json)}
    (agrees : Agrees none false box taken) : box = .waiting := by
  cases agrees
  rfl

/-- One outcome is taken at most, and only the one the registration ended with. -/
theorem Agrees.taken_cases {ending : Option Ending} {gone : Bool} {box : Mailbox}
    {taken : List (Outcome Json)} (agrees : Agrees ending gone box taken) :
    taken = [] ∨ ∃ outcome, ending = some (.answered outcome) ∧ taken = [outcome] := by
  cases agrees with
  | received outcome => exact .inr ⟨outcome, rfl, rfl⟩
  | served outcome => exact .inr ⟨outcome, rfl, rfl⟩
  | _ => exact .inl rfl

/-! ## One registration through a run -/

/-- How a registration stands in the table, and its mailbox: by how it has ended, whether its
caller has gone away and what the caller has taken out. -/
structure Tracks (pending : Pending) (registration : Registration) (ending : Option Ending)
    (gone : Bool) (taken : List (Outcome Json)) : Prop where
  owner : ∀ other ∈ pending.table, other.mailbox = registration.mailbox → other = registration
  listed : registration ∈ pending.table ↔ ending = none
  box : ∃ box, pending.mailboxes[registration.mailbox]? = some box ∧
    Agrees ending gone box taken

/-- Every operation is tracked, whether it concerns the registration, its mailbox or neither. -/
theorem Tracks.after {ending : Option Ending} {gone : Bool} {taken : List (Outcome Json)}
    (keyed : pending.Keyed) (tracks : Tracks pending registration ending gone taken)
    (operation : Operation) :
    Tracks (pending.after operation) registration
      (ending.or (operation.ends? registration.id registration.generation))
      (gone || operation.drops registration.mailbox)
      (taken ++ pending.taken registration.mailbox operation) := by
  obtain ⟨box, here, agrees⟩ := tracks.box
  have given := (List.getElem?_eq_some_iff.1 here).1
  -- A new entry has a mailbox of its own.
  have notNew (other : Registration)
      (new : other ∈ operation.entry pending.mailboxes.length) :
      other.mailbox ≠ registration.mailbox := by
    rw [(mem_entry.1 new).2]
    exact Nat.ne_of_gt given
  refine ⟨?_, ?_, ?_⟩
  · intro other listed sameBox
    rw [table_after] at listed
    rcases List.mem_append.1 listed with kept | new
    · exact tracks.owner other (List.mem_filter.1 kept).1 sameBox
    · exact absurd sameBox (notNew other new)
  · rw [table_after, List.mem_append, List.mem_filter, tracks.listed, Option.or_eq_none_iff,
      Option.isNone_iff_eq_none]
    exact or_iff_left fun new => notNew registration new rfl
  · by_cases ends : registration ∈ pending.table ∧
        (operation.ends? registration.id registration.generation).isSome
    · obtain ⟨registered, some⟩ := ends
      obtain ⟨decided, ends⟩ := Option.isSome_iff_exists.1 some
      have undecided := tracks.listed.1 registered
      obtain ⟨stays, nothing⟩ := aside_of_ends ends pending registration.mailbox
      rw [mailbox_after_of_ends keyed registered ends, here, undecided, Option.none_or, ends, stays,
        nothing, Bool.or_false, List.append_nil]
      exact ⟨_, rfl, (undecided ▸ agrees).settle decided⟩
    · have spares (registered : registration ∈ pending.table) :
          operation.ends? registration.id registration.generation = none :=
        Option.not_isSome_iff_eq_none.1 fun some => ends ⟨registered, some⟩
      have same : ending.or (operation.ends? registration.id registration.generation) = ending := by
        cases decided : ending with
        | none => exact spares (tracks.listed.2 decided)
        | some _ => rfl
      rw [mailbox_after_of_spares keyed tracks.owner given spares, here, same]
      exact ⟨_, rfl, agrees.handle here operation⟩

theorem Tracks.runFrom {ending : Option Ending} {gone : Bool} {taken : List (Outcome Json)}
    (keyed : pending.Keyed) (tracks : Tracks pending registration ending gone taken)
    (later : List Operation) :
    Tracks (pending.runFrom later) registration
      (ending.or (ending? registration.id registration.generation later))
      (gone || later.any (Operation.drops registration.mailbox))
      (taken ++ obtainedFrom pending registration.mailbox later) := by
  induction later generalizing pending ending gone taken with
  | nil => simpa [ending?, obtainedFrom, Pending.runFrom] using tracks
  | cons operation later ih =>
      have kept := ih (keyed.after operation) (tracks.after keyed operation)
      rwa [Option.or_assoc, ← ending?_cons, Bool.or_assoc, ← List.any_cons,
        List.append_assoc] at kept

/-- A fresh registration stands, and its mailbox waits. -/
theorem Tracks.register (keyed : pending.Keyed) (id generation : Nat) :
    Tracks (pending.register id generation).1 ⟨id, generation, pending.mailboxes.length⟩ none
      false [] := by
  have entries : (pending.register id generation).1.table =
      (pending.remove id close).table ++ [⟨id, generation, pending.mailboxes.length⟩] := by
    rw [Pending.register, length_mailboxes_remove]
  refine ⟨?_, ?_, .waiting, ?_, .waiting⟩
  · intro other listed sameBox
    rw [entries] at listed
    rcases List.mem_append.1 listed with old | new
    · exact absurd sameBox (Nat.ne_of_lt (keyed.given other (mem_remove.1 old).1))
    · exact List.mem_singleton.1 new
  · simp [entries]
  · simp [Pending.register, length_mailboxes_remove]

theorem obtainedFrom_append (pending : Pending) (mailbox : Nat) (earlier later : List Operation) :
    obtainedFrom pending mailbox (earlier ++ later) =
      obtainedFrom pending mailbox earlier ++
        obtainedFrom (pending.runFrom earlier) mailbox later := by
  induction earlier generalizing pending with
  | nil => rfl
  | cons operation rest ih =>
      rw [List.cons_append, obtainedFrom, ih, obtainedFrom, List.append_assoc, runFrom_cons]

/-- Nothing is taken out of a mailbox that has not been handed out. -/
theorem obtainedFrom_eq_nil {operations : List Operation}
    (unborn : pending.mailboxes.length + registered operations ≤ mailbox) :
    obtainedFrom pending mailbox operations = [] := by
  induction operations generalizing pending with
  | nil => rfl
  | cons operation rest ih =>
      rw [registered_cons operation rest pending.mailboxes.length, ← Nat.add_assoc,
        ← length_mailboxes_after] at unborn
      have absent : pending.mailboxes[mailbox]? = none := by
        rw [length_mailboxes_after] at unborn
        exact List.getElem?_eq_none_iff.2 (by omega)
      have nothing : pending.taken mailbox operation = [] := by
        cases operation with
        | poll number =>
            rw [taken]
            split
            next same => rw [same, poll, absent]; rfl
            next => rfl
        | _ => rfl
      rw [obtainedFrom, nothing, ih unborn]
      rfl

/-- A registration through a whole run. -/
theorem tracks_run (earlier : List Operation) (id generation : Nat) (later : List Operation) :
    let operations := earlier ++ .register id generation :: later
    Tracks (run operations) ⟨id, generation, registered earlier⟩ (ending? id generation later)
      (later.any (Operation.drops (registered earlier)))
      (obtained (registered earlier) operations) := by
  have keyed := keyed_run earlier
  have count : (run earlier).mailboxes.length = registered earlier := by
    rw [run, length_mailboxes_runFrom]
    exact Nat.zero_add _
  have before : obtainedFrom {} (registered earlier) earlier = [] :=
    obtainedFrom_eq_nil (Nat.le_of_eq (Nat.zero_add _))
  have made :=
    (Tracks.register keyed id generation).runFrom (keyed.after (.register id generation)) later
  rw [count, Option.none_or, Bool.false_or, List.nil_append] at made
  intro operations
  rw [obtained, obtainedFrom_append, before, run, runFrom_append]
  exact made

theorem any_drops_eq_false_iff {later : List Operation} :
    later.any (Operation.drops mailbox) = false ↔ .drop mailbox ∉ later := by
  rw [List.any_eq_false]
  constructor
  · exact fun stays listed => stays _ listed (beq_self_eq_true mailbox)
  · rintro stays operation listed gone
    cases operation with
    | drop number =>
        obtain rfl := eq_of_beq gone
        exact stays listed
    | _ => cases gone

theorem Tracks.poll_eq {ending : Option Ending} {taken : List (Outcome Json)}
    (tracks : Tracks pending registration ending false taken) :
    (pending.poll registration.mailbox).2 = shows ending taken := by
  obtain ⟨box, here, agrees⟩ := tracks.box
  rw [poll_eq_view here, agrees.view_eq]

/-! ## What the operations report -/

/-- A completion reports whether there is a mailbox that waits for it. -/
theorem complete_eq_true_iff (keyed : pending.Keyed) {outcome : Outcome Json} :
    (pending.complete id outcome).2 = true ↔
      ∃ registration ∈ pending.table, registration.id = id ∧
        pending.mailboxes[registration.mailbox]? = some .waiting := by
  rw [complete]
  cases found : pending.find? id with
  | none =>
      have absent := find?_eq_none_iff.1 found
      simp only [Bool.false_eq_true, false_iff]
      rintro ⟨registration, listed, same, -⟩
      exact absent ⟨registration, listed, same⟩
  | some registration =>
      obtain ⟨listed, same⟩ := mem_of_find? found
      constructor
      · intro waits
        refine ⟨registration, listed, same, ?_⟩
        cases here : pending.mailboxes[registration.mailbox]? with
        | none => simp [here] at waits
        | some box =>
            cases box with
            | waiting => rfl
            | _ => simp [here, isWaiting] at waits
      · rintro ⟨other, otherListed, otherSame, waits⟩
        obtain rfl := eq_of_pairwise_ne keyed.ids otherListed listed (otherSame.trans same.symm)
        simp [waits, isWaiting]

/-- The completion of a call is received exactly when a registration of its id stands whose
caller has not gone away, and that caller then finds the outcome. -/
theorem complete_run_iff (operations : List Operation) (id : Nat) (outcome : Outcome Json) :
    ((run operations).complete id outcome).2 = true ↔
      ∃ earlier generation later,
        operations = earlier ++ .register id generation :: later ∧
        ending? id generation later = none ∧ .drop (registered earlier) ∉ later ∧
        (((run operations).complete id outcome).1.poll (registered earlier)).2 =
          .outcome outcome := by
  have keyed := keyed_run operations
  rw [complete_eq_true_iff keyed]
  constructor
  · rintro ⟨registration, listed, rfl, waits⟩
    obtain ⟨earlier, later, made, box, stands⟩ := mem_table_run.1 listed
    have tracks := tracks_run earlier registration.id registration.generation later
    obtain ⟨found, here, agrees⟩ := tracks.box
    rw [← made, ← box, waits] at here
    obtain rfl := Option.some.inj here
    obtain ⟨-, present, untaken⟩ := agrees.of_waiting
    refine ⟨earlier, registration.generation, later, made, stands,
      any_drops_eq_false_iff.1 present, ?_⟩
    have completed := tracks.after (keyed_run _) (.complete registration.id outcome)
    rw [stands, present, untaken, ← made] at completed
    have ends : (Operation.complete registration.id outcome).ends? registration.id
        registration.generation = some (.answered outcome) := if_pos rfl
    simp only [ends] at completed
    exact completed.poll_eq
  · rintro ⟨earlier, generation, later, rfl, stands, stays, -⟩
    have tracks := tracks_run earlier id generation later
    obtain ⟨box, here, agrees⟩ := tracks.box
    rw [stands, any_drops_eq_false_iff.2 stays] at agrees
    exact ⟨_, tracks.listed.2 stands, rfl, by rw [here, agrees.eq_waiting]⟩

/-- After any run the table holds the registrations that have not ended, and as many as there
are.  A caller has taken at most one outcome out of its mailbox, the one that ended its
registration; while it is there, its mailbox waits as long as the registration stands, then
shows the outcome until it is taken, and is closed from then on, or from the moment the
registration is given up.  Completing a call reports whether somebody was there to receive
the outcome, and failing the calls of an interpreter removes its entries and counts them. -/
theorem run_registrations (operations : List Operation) :
    ((run operations).table = standing 0 operations ∧
      (run operations).size = (standing 0 operations).length) ∧
    (∀ earlier id generation later,
      operations = earlier ++ .register id generation :: later →
        (⟨id, generation, registered earlier⟩ ∈ (run operations).table ↔
          ending? id generation later = none) ∧
        (obtained (registered earlier) operations = [] ∨
          ∃ outcome, ending? id generation later = some (.answered outcome) ∧
            obtained (registered earlier) operations = [outcome]) ∧
        (.drop (registered earlier) ∉ later →
          ((run operations).poll (registered earlier)).2 =
            shows (ending? id generation later) (obtained (registered earlier) operations))) ∧
    (∀ id outcome, ((run operations).complete id outcome).2 = true ↔
      ∃ earlier generation later,
        operations = earlier ++ .register id generation :: later ∧
        ending? id generation later = none ∧ .drop (registered earlier) ∉ later ∧
        (((run operations).complete id outcome).1.poll (registered earlier)).2 =
          .outcome outcome) ∧
    ∀ generation failure,
      ((run operations).failGeneration generation failure).1.table =
          (standing 0 operations).filter (fun registration =>
            registration.generation != generation) ∧
        ((run operations).failGeneration generation failure).2 =
          (standing 0 operations).countP fun registration =>
            registration.generation == generation := by
  refine ⟨⟨table_run operations, ?_⟩, ?_, complete_run_iff operations, ?_⟩
  · rw [size, table_run]
  · rintro earlier id generation later rfl
    have tracks := tracks_run earlier id generation later
    obtain ⟨box, -, agrees⟩ := tracks.box
    refine ⟨tracks.listed, agrees.taken_cases, fun stays => ?_⟩
    rw [any_drops_eq_false_iff.2 stays] at tracks
    exact tracks.poll_eq
  · intro generation failure
    rw [← table_run, List.countP_eq_length_filter]
    exact ⟨rfl, rfl⟩

/-- An id that is registered twice: the second registration is answered, and its outcome taken
once. -/
theorem run_registrations_reused :
    let later : List Operation :=
      [.drop 0, .register 8 1, .complete 7 (.ok .null), .poll 1, .poll 1]
    let operations := [.register 7 0] ++ .register 7 1 :: later
    .drop 1 ∉ later ∧ ending? 7 1 later = some (.answered (.ok .null)) ∧
      obtained 1 operations = [.ok .null] ∧ ((run operations).poll 1).2 = .closed ∧
      (run operations).size = 1 := by
  intro later operations
  have stays : .drop 1 ∉ later := by simp [later]
  obtain ⟨⟨-, count⟩, callers, -⟩ := run_registrations operations
  obtain ⟨-, -, shown⟩ := callers [.register 7 0] 7 1 later rfl
  exact ⟨stays, rfl, rfl, shown stays, count⟩

end

end Pending

end Inlay
