import Inlay.Proofs.Bridge.Pending
import Inlay.Proofs.Bridge.Step

/-!
# Who a registration belongs to

In every world that a run reaches, the table of pending calls and the stages of the
callers agree (`World.Attended`): each entry belongs to a call that is inside its
enqueueing or waits, and each such call either still has its entry or finds its
outcome in its mailbox.

A move of a caller does one of four things to this: nothing, a registration, the
end of one, or the taking of an outcome.
-/

namespace Inlay

namespace Bridge

variable {bridge after : Bridge} {holder kept : Option Nat} {id : Nat} {send : Send}
  {stage next : Stage}

/-- A reply completes the call with its id, and any other line changes nothing. -/
theorem dispatch_cases (bridge : Bridge) (text : String) :
    (∃ id outcome, Response.ofLine text = .ok (.reply id outcome) ∧
      (bridge.dispatch text).1 =
        { bridge with pending := bridge.pending.remove id (Pending.deliver outcome) }) ∨
    ((∀ id outcome, Response.ofLine text ≠ .ok (.reply id outcome)) ∧
      (bridge.dispatch text).1 = bridge) := by
  rw [dispatch]
  split
  next id outcome decoded =>
    rw [Pending.complete_eq_remove]
    exact .inl ⟨id, outcome, decoded, rfl⟩
  next level message decoded =>
    rw [decoded]
    exact .inr ⟨by simp, rfl⟩
  next failure decoded =>
    rw [decoded]
    exact .inr ⟨by simp, rfl⟩

/-- A line leaves the connection alone and adds no entry to the table. -/
theorem dispatch_frame (bridge : Bridge) (text : String) :
    (bridge.dispatch text).1.connection = bridge.connection ∧
      (bridge.dispatch text).1.generations = bridge.generations ∧
      ∀ registration ∈ (bridge.dispatch text).1.pending.table,
        registration ∈ bridge.pending.table := by
  rcases dispatch_cases bridge text with ⟨_, _, _, dispatched⟩ | ⟨_, dispatched⟩
  · rw [dispatched]
    exact ⟨rfl, rfl, fun _ kept => (Pending.mem_remove.1 kept).1⟩
  · rw [dispatched]
    exact ⟨rfl, rfl, fun _ kept => kept⟩

/-- What a caller's move does to the table and to its own registration. -/
inductive Booking (pending : Pending) (id : Nat) (stage next : Stage) : Pending → Prop where
  /-- Nothing. -/
  | keep :
      next.registration? = stage.registration? →
      Booking pending id stage next pending
  /-- The call is registered. -/
  | register {generation : Nat} :
      stage = .registering generation →
      next.registration? = some ⟨id, generation, (pending.register id generation).2⟩ →
      Booking pending id stage next (pending.register id generation).1
  /-- The call gives up its registration. -/
  | retire :
      next.registration? = none →
      Booking pending id stage next (pending.remove id Pending.close)
  /-- The call takes its outcome, and what is left of its registration goes. -/
  | receive {registration : Registration} {polled : Pending} {outcome : Outcome Json} :
      stage = .waiting registration →
      pending.poll registration.mailbox = (polled, .outcome outcome) →
      next = .returned outcome →
      Booking pending id stage next (polled.remove id Pending.close)

theorem Move.booking (move : Move bridge holder id send stage after kept next) :
    Booking bridge.pending id stage next after.pending := by
  cases move with
  | register => exact .register rfl rfl
  | withdraw => exact .retire rfl
  | receive found => exact .receive rfl found rfl
  | miss found =>
      obtain ⟨rfl, _⟩ := Pending.poll_closed found
      exact .retire rfl
  | expire => exact .retire rfl
  | leaveWait => exact .retire rfl
  | _ => exact .keep rfl

theorem Move.nextId_eq (move : Move bridge holder id send stage after kept next) :
    after.nextId = bridge.nextId := by
  cases move with
  | _ => rfl

/-- A move adds no entry to the table but one of its own. -/
theorem Booking.mem_table {pending after : Pending} {id : Nat} {stage next : Stage}
    (booking : Booking pending id stage next after) {registration : Registration}
    (registered : registration ∈ after.table) (different : registration.id ≠ id) :
    registration ∈ pending.table := by
  cases booking with
  | keep => exact registered
  | register =>
      rcases List.mem_append.1 registered with old | new
      · exact (Pending.mem_remove.1 old).1
      · rw [List.mem_singleton.1 new] at different
        exact absurd rfl different
  | retire => exact (Pending.mem_remove.1 registered).1
  | receive _ found =>
      rw [← (Pending.poll_outcome found).2.1]
      exact (Pending.mem_remove.1 registered).1

/-! ## The calls of a world -/

namespace World

theorem registration?_put (world : World) (id other : Nat) (send : Send) (stage : Stage) :
    (world.put id send stage).registration? other =
      if other = id then stage.registration? else world.registration? other := by
  simp only [registration?, put]
  split <;> rfl

theorem registration?_eq {world : World} {id : Nat} {send : Send} {stage : Stage}
    (here : world.sends id = some (send, stage)) :
    world.registration? id = stage.registration? := by
  rw [registration?, here]
  rfl

/-- The table of pending calls agrees with the stages of the callers. -/
structure Attended (world : World) : Prop where
  sound : world.bridge.pending.Sound
  /-- An entry belongs to the call with its id. -/
  owned : ∀ registration ∈ world.table, world.registration? registration.id = some registration
  /-- A registered call has its entry or its outcome. -/
  served : ∀ id registration, world.registration? id = some registration →
    registration.id = id ∧ (registration ∈ world.table ∨
      ∃ outcome, world.mailbox? registration.mailbox = some (.ready outcome))
  /-- No two calls share a mailbox. -/
  distinct : ∀ id other registration another, world.registration? id = some registration →
    world.registration? other = some another → registration.mailbox = another.mailbox → id = other
  /-- No call has an id that has not been taken. -/
  fresh : ∀ id, world.bridge.nextId ≤ id → world.sends id = none

namespace Attended

variable {world : World} {id : Nat} {send : Send} {stage next : Stage}

theorem start : Attended {} :=
  ⟨Pending.sound_empty, by simp [table], by simp [registration?], by simp [registration?],
    by simp⟩

/-- Nothing changes for the table and the registrations. -/
theorem frame {changed : World} (attended : world.Attended)
    (pending : changed.bridge.pending = world.bridge.pending)
    (registrations : ∀ id, changed.registration? id = world.registration? id)
    (fresh : ∀ id, changed.bridge.nextId ≤ id → changed.sends id = none) : changed.Attended := by
  refine ⟨?_, ?_, ?_, ?_, fresh⟩
  · rw [pending]
    exact attended.sound
  · intro registration registered
    rw [table, pending] at registered
    rw [registrations]
    exact attended.owned registration registered
  · intro id registration has
    rw [registrations] at has
    rw [table, mailbox?, pending]
    exact attended.served id registration has
  · intro id other registration another first second
    rw [registrations] at first second
    exact attended.distinct id other registration another first second

/-- The mailbox of a registered call has been handed out. -/
theorem mailbox_lt (attended : world.Attended) {registration : Registration}
    (has : world.registration? id = some registration) :
    registration.mailbox < world.bridge.pending.mailboxes.length := by
  rcases (attended.served id registration has).2 with registered | ⟨outcome, ready⟩
  · exact (List.getElem?_eq_some_iff.1 (attended.sound.waiting registration registered)).1
  · exact (List.getElem?_eq_some_iff.1 ready).1

/-- A call without a registration has no entry. -/
theorem not_holds (attended : world.Attended) (none : world.registration? id = none) :
    ¬world.bridge.pending.Holds id := by
  rintro ⟨registration, registered, rfl⟩
  rw [attended.owned registration registered] at none
  cases none

/-- A call whose outcome has come has no entry. -/
theorem not_holds_of_ready (attended : world.Attended) {registration : Registration}
    {outcome : Outcome Json} (has : world.registration? id = some registration)
    (ready : world.mailbox? registration.mailbox = some (.ready outcome)) :
    ¬world.bridge.pending.Holds id := by
  rintro ⟨other, registered, rfl⟩
  rw [attended.owned other registered] at has
  cases has
  rw [mailbox?, attended.sound.waiting _ registered] at ready
  cases ready

/-! ## What a step can do to the table -/

/-- A call gives up its registration. -/
theorem leave {changed : World} (attended : world.Attended)
    (pending : changed.bridge.pending = world.bridge.pending.remove id Pending.close)
    (registrations : ∀ other, changed.registration? other =
      if other = id then none else world.registration? other)
    (fresh : ∀ id, changed.bridge.nextId ≤ id → changed.sends id = none) : changed.Attended := by
  have elsewhere (other : Nat) (registration : Registration)
      (has : changed.registration? other = some registration) :
      other ≠ id ∧ world.registration? other = some registration := by
    rw [registrations] at has
    split at has
    next => cases has
    next different => exact ⟨different, has⟩
  refine ⟨?_, ?_, ?_, ?_, fresh⟩
  · rw [pending]
    exact attended.sound.remove id Pending.close
  · intro registration kept
    rw [table, pending, Pending.mem_remove] at kept
    rw [registrations, if_neg kept.2]
    exact attended.owned registration kept.1
  · intro other registration has
    obtain ⟨different, had⟩ := elsewhere other registration has
    rw [table, mailbox?, pending, Pending.mem_remove]
    obtain ⟨sameId, registered | ⟨outcome, ready⟩⟩ := attended.served other registration had
    · exact ⟨sameId, .inl ⟨registered, sameId ▸ different⟩⟩
    · exact ⟨sameId, .inr ⟨outcome, Pending.ready_remove attended.sound ready⟩⟩
  · intro first second registration another firstHas secondHas
    exact attended.distinct first second registration another (elsewhere _ _ firstHas).2
      (elsewhere _ _ secondHas).2

/-- A call takes its outcome out of its mailbox. -/
theorem receive {changed : World} (attended : world.Attended) {registration : Registration}
    {outcome : Outcome Json} (has : world.registration? id = some registration)
    (ready : world.mailbox? registration.mailbox = some (.ready outcome))
    (sameTable : changed.table = world.table)
    (others : ∀ number, number ≠ registration.mailbox →
      changed.mailbox? number = world.mailbox? number)
    (registrations : ∀ other, changed.registration? other =
      if other = id then none else world.registration? other)
    (fresh : ∀ id, changed.bridge.nextId ≤ id → changed.sends id = none) : changed.Attended := by
  -- Any other call has another mailbox, which is as it was.
  have sameMailbox {other : Nat} {another : Registration} (different : other ≠ id)
      (otherHas : world.registration? other = some another) :
      changed.mailbox? another.mailbox = world.mailbox? another.mailbox :=
    others _ fun same =>
      different (attended.distinct other id another registration otherHas has same)
  have elsewhere (other : Nat) (another : Registration)
      (otherHas : changed.registration? other = some another) :
      other ≠ id ∧ world.registration? other = some another := by
    rw [registrations] at otherHas
    split at otherHas
    next => cases otherHas
    next different => exact ⟨different, otherHas⟩
  have notHere (another : Registration) (registered : another ∈ world.table) : another.id ≠ id :=
    fun sameId => attended.not_holds_of_ready has ready ⟨another, registered, sameId⟩
  refine ⟨⟨?_, ?_, ?_⟩, ?_, ?_, ?_, fresh⟩
  · show changed.table.Pairwise fun a b => a.id ≠ b.id
    rw [sameTable]
    exact attended.sound.ids
  · show changed.table.Pairwise fun a b => a.mailbox ≠ b.mailbox
    rw [sameTable]
    exact attended.sound.boxes
  · intro another registered
    change another ∈ changed.table at registered
    show changed.mailbox? another.mailbox = some .waiting
    rw [sameTable] at registered
    rw [sameMailbox (notHere another registered) (attended.owned another registered)]
    exact attended.sound.waiting another registered
  · intro another registered
    rw [sameTable] at registered
    rw [registrations, if_neg (notHere another registered)]
    exact attended.owned another registered
  · intro other another otherHas
    obtain ⟨different, had⟩ := elsewhere other another otherHas
    rw [sameTable, sameMailbox different had]
    exact attended.served other another had
  · intro first second one another firstHas secondHas
    exact attended.distinct first second one another (elsewhere _ _ firstHas).2
      (elsewhere _ _ secondHas).2

/-- A call registers. -/
theorem register {changed : World} {generation : Nat} (attended : world.Attended)
    (unregistered : world.registration? id = none)
    (pending : changed.bridge.pending = (world.bridge.pending.register id generation).1)
    (registrations : ∀ other, changed.registration? other =
      if other = id then some ⟨id, generation, (world.bridge.pending.register id generation).2⟩
      else world.registration? other)
    (fresh : ∀ id, changed.bridge.nextId ≤ id → changed.sends id = none) : changed.Attended := by
  have absent := attended.not_holds unregistered
  have soundAfter := attended.sound.register absent generation
  rw [← pending] at soundAfter
  rw [Pending.register_eq absent] at pending registrations
  -- A call has the registration it had, or the new one.
  have having (other : Nat) (registration : Registration)
      (has : changed.registration? other = some registration) :
      other = id ∧ registration = ⟨id, generation, world.bridge.pending.mailboxes.length⟩ ∨
        world.registration? other = some registration := by
    rw [registrations] at has
    split at has
    next same => exact .inl ⟨same, (Option.some.inj has).symm⟩
    next => exact .inr has
  refine ⟨soundAfter, ?_, ?_, ?_, fresh⟩
  · intro registration registered
    rw [table, pending] at registered
    rw [registrations]
    rcases List.mem_append.1 registered with old | new
    · rw [if_neg fun same => absent ⟨registration, old, same⟩]
      exact attended.owned registration old
    · rw [List.mem_singleton.1 new, if_pos rfl]
  · intro other registration has
    rw [table, mailbox?, pending]
    rcases having other registration has with ⟨rfl, rfl⟩ | had
    · exact ⟨rfl, .inl (by simp)⟩
    · obtain ⟨sameId, kept⟩ := attended.served other registration had
      rw [List.getElem?_append_left (attended.mailbox_lt had)]
      exact ⟨sameId, kept.imp_left (List.mem_append_left _)⟩
  · intro first second registration another firstHas secondHas sameMailbox
    rcases having first registration firstHas with ⟨rfl, rfl⟩ | firstHad
    · rcases having second another secondHas with ⟨rfl, rfl⟩ | secondHad
      · rfl
      · exact absurd sameMailbox (Nat.ne_of_gt (attended.mailbox_lt secondHad))
    · rcases having second another secondHas with ⟨rfl, rfl⟩ | secondHad
      · exact absurd sameMailbox (Nat.ne_of_lt (attended.mailbox_lt firstHad))
      · exact attended.distinct first second registration another firstHad secondHad sameMailbox

/-- Some entries are taken out of the table, and each of their calls finds its
outcome in its mailbox. -/
theorem deliver {changed : World} (attended : world.Attended)
    (sound : changed.bridge.pending.Sound)
    (kept : ∀ registration ∈ changed.table, registration ∈ world.table)
    (delivered : ∀ registration ∈ world.table, registration ∉ changed.table →
      ∃ outcome, changed.mailbox? registration.mailbox = some (.ready outcome))
    (arrived : ∀ number outcome, world.mailbox? number = some (.ready outcome) →
      changed.mailbox? number = some (.ready outcome))
    (sends : changed.sends = world.sends) (sameNext : changed.bridge.nextId = world.bridge.nextId) :
    changed.Attended := by
  have registrations (id : Nat) : changed.registration? id = world.registration? id := by
    rw [registration?, registration?, sends]
  refine ⟨sound, ?_, ?_, ?_, ?_⟩
  · intro registration registered
    rw [registrations]
    exact attended.owned registration (kept registration registered)
  · intro id registration has
    rw [registrations] at has
    obtain ⟨sameId, registered | ⟨outcome, ready⟩⟩ := attended.served id registration has
    · refine ⟨sameId, ?_⟩
      by_cases still : registration ∈ changed.table
      · exact .inl still
      · exact .inr (delivered registration registered still)
    · exact ⟨sameId, .inr ⟨outcome, arrived _ outcome ready⟩⟩
  · intro id other registration another first second
    rw [registrations] at first second
    exact attended.distinct id other registration another first second
  · rw [sends, sameNext]
    exact attended.fresh

/-! ## Steps -/

theorem fresh_put (attended : world.Attended) (here : world.sends id = some (send, stage))
    {bridge : Bridge} {holder : Option Nat} (sameNext : bridge.nextId = world.bridge.nextId)
    (other : Nat) (untaken : bridge.nextId ≤ other) :
    ({ world with bridge, holder }.put id send next).sends other = none := by
  rw [sameNext] at untaken
  have absent := attended.fresh other untaken
  have different : other ≠ id := by
    rintro rfl
    rw [here] at absent
    cases absent
  simpa [put, different] using absent

theorem move {bridge : Bridge} {holder : Option Nat} (attended : world.Attended)
    (here : world.sends id = some (send, stage))
    (booking : Booking world.bridge.pending id stage next bridge.pending)
    (sameNext : bridge.nextId = world.bridge.nextId) :
    ({ world with bridge, holder }.put id send next).Attended := by
  have registrations (other : Nat) :
      ({ world with bridge, holder }.put id send next).registration? other =
        if other = id then next.registration? else world.registration? other :=
    registration?_put _ _ _ _ _
  have fresh (other : Nat) (untaken : bridge.nextId ≤ other) :
      ({ world with bridge, holder }.put id send next).sends other = none :=
    attended.fresh_put here sameNext other untaken
  generalize changing : bridge.pending = after at booking
  cases booking with
  | keep same =>
      refine attended.frame changing ?_ fresh
      intro other
      rw [registrations]
      split
      next isId => rw [isId, same, registration?_eq here]
      next => rfl
  | register unregistered registered =>
      subst unregistered
      rw [registered] at registrations
      exact attended.register (registration?_eq here) changing registrations fresh
  | retire gone =>
      rw [gone] at registrations
      exact attended.leave changing registrations fresh
  | @receive registration polled outcome waited found returned =>
      subst waited returned
      have has := registration?_eq here
      obtain ⟨ready, sameTable, others⟩ := Pending.poll_outcome found
      have absent : ¬polled.Holds id := by
        rw [Pending.Holds, sameTable]
        exact attended.not_holds_of_ready has ready
      rw [Pending.remove_of_not_holds absent] at changing
      refine attended.receive has ready ?_ ?_ registrations fresh
      · exact (congrArg Pending.table changing).trans sameTable
      · intro number different
        show bridge.pending.mailboxes[number]? = _
        rw [changing]
        exact others number different

theorem line (attended : world.Attended) (text : String) :
    Attended { world with bridge := (world.bridge.dispatch text).1 } := by
  rcases dispatch_cases world.bridge text with ⟨id, outcome, _, dispatched⟩ | ⟨_, dispatched⟩
  · rw [dispatched]
    refine attended.deliver (attended.sound.remove id _) ?_ ?_ ?_ rfl rfl
    · exact fun registration kept => (Pending.mem_remove.1 kept).1
    · intro registration registered removed
      have answered : registration.id = id :=
        Classical.byContradiction fun different =>
          removed (Pending.mem_remove.2 ⟨registered, different⟩)
      refine ⟨outcome, ?_⟩
      subst answered
      rw [mailbox?, Pending.mailbox_remove attended.sound.ids registered, if_pos rfl,
        attended.sound.waiting registration registered]
      rfl
    · exact fun number outcome ready => Pending.ready_remove attended.sound ready
  · rw [dispatched]
    exact attended

theorem failCalls (attended : world.Attended) (generation : Nat) (message : String)
    (tasks : List Task) :
    Attended { world with bridge := world.bridge.failCalls generation message, tasks } := by
  refine attended.deliver (attended.sound.failGeneration generation _) ?_ ?_ ?_ rfl rfl
  · exact fun registration kept => (Pending.mem_failGeneration.1 kept).1
  · intro registration registered removed
    have sent : registration.generation = generation :=
      Classical.byContradiction fun different =>
        removed (Pending.mem_failGeneration.2 ⟨registered, different⟩)
    exact ⟨_, Pending.ready_failGeneration attended.sound _ registered sent⟩
  · exact fun number outcome ready => Pending.ready_failGeneration_of_ready attended.sound ready

theorem work {task : Task} {event : Event} {bridge : Bridge} {more tasks : List Task}
    (attended : world.Attended) (work : Work world.bridge world.holder task event bridge more) :
    Attended { world with bridge, tasks } := by
  cases work with
  | fail => exact attended.failCalls _ _ _
  | clear => exact attended.frame rfl (fun _ => rfl) attended.fresh
  | abort => exact attended.frame rfl (fun _ => rfl) attended.fresh
  | detach => exact attended.frame rfl (fun _ => rfl) attended.fresh
  | detachNone => exact attended.frame rfl (fun _ => rfl) attended.fresh
  | stop => exact attended.frame rfl (fun _ => rfl) attended.fresh
  | drain => exact attended.failCalls _ _ _

theorem step {event : Event} {after : World} (attended : world.Attended)
    (step : Step world event after) : after.Attended := by
  cases step with
  | call send =>
      -- The id is new, so nobody else's call is replaced.
      have unused := attended.fresh world.bridge.nextId (Nat.le_refl _)
      refine attended.frame rfl ?_ ?_
      · intro other
        rw [registration?_put]
        split
        next same =>
          subst same
          rw [registration?, takeId, unused]
          rfl
        next => rfl
      · intro other untaken
        change world.bridge.nextId + 1 ≤ other at untaken
        have different : other ≠ world.bridge.nextId := by omega
        simpa [put, takeId, different] using attended.fresh other (by omega)
  | move here move => exact attended.move here move.booking move.nextId_eq
  | line text => exact attended.line text
  | lose => exact attended.frame rfl (fun _ => rfl) attended.fresh
  | close => exact attended.frame rfl (fun _ => rfl) attended.fresh
  | work _ work => exact attended.work work

end Attended

end World

theorem Run.attended {history : History} {world : World} (run : Run history world) :
    world.Attended := by
  induction run with
  | start => exact .start
  | step _ step ih => exact ih.step step

end Bridge

end Inlay
