import Inlay.Proofs.Bridge.Registration

/-!
# The connection and its generations

The argument about lost interpreters rests on two facts about every world that a run
reaches.

* Only the call that holds the lock touches the connection, and the connection is
  empty while an interpreter is started (`World.Exclusive`).
* Generations are handed out in order, so an interpreter that is gone never comes
  back (`World.Numbered`).
-/

namespace Inlay

namespace Bridge

variable {bridge after : Bridge} {holder kept : Option Nat} {id : Nat} {send : Send}
  {stage next : Stage} {task : Task} {event : Event} {more : List Task}

/-! ## Live interpreters -/

/-- The interpreter is the one at hand, and it is alive. -/
def Live (bridge : Bridge) (generation : Nat) : Prop :=
  ∃ connection, bridge.connection = some connection ∧ connection.generation = generation ∧
    connection.alive = true

/-- An interpreter is alive if looking it up finds a connection. -/
theorem live_iff {bridge : Bridge} {generation : Nat} :
    bridge.Live generation ↔ ∃ connection, bridge.live? generation = some connection := by
  simp only [Live, live?, Option.filter_eq_some_iff, Bool.and_eq_true, beq_iff_eq]

theorem not_live_of_connection_eq_none {bridge : Bridge} (empty : bridge.connection = none)
    (generation : Nat) : ¬bridge.Live generation := by
  simp [Live, empty]

theorem live_congr {bridge changed : Bridge} (same : changed.connection = bridge.connection)
    (generation : Nat) : changed.Live generation ↔ bridge.Live generation := by
  rw [Live, Live, same]

/-- Marking an interpreter dead ends its life and no other. -/
theorem live_markDead {bridge : Bridge} {dead generation : Nat} :
    (bridge.markDead dead).Live generation ↔ bridge.Live generation ∧ generation ≠ dead := by
  simp only [Live, markDead, updateConnection, Option.map_eq_some_iff]
  constructor
  · rintro ⟨_, ⟨connection, here, rfl⟩, number, alive⟩
    split at number
    next marked => simp [marked] at alive
    next kept =>
      rw [if_neg kept] at alive
      exact ⟨⟨connection, here, number, alive⟩, number ▸ kept⟩
  · rintro ⟨⟨connection, here, number, alive⟩, different⟩
    refine ⟨connection, ⟨connection, here, ?_⟩, number, alive⟩
    rw [if_neg (number ▸ different)]

theorem live_release {bridge : Bridge} {lost generation : Nat} :
    (bridge.release lost).Live generation ↔ bridge.Live generation ∧ generation ≠ lost := by
  simp only [Live, release, Option.filter_eq_some_iff, bne_iff_ne, ne_eq]
  constructor
  · rintro ⟨connection, ⟨here, kept⟩, number, alive⟩
    exact ⟨⟨connection, here, number, alive⟩, number ▸ kept⟩
  · rintro ⟨⟨connection, here, number, alive⟩, different⟩
    exact ⟨connection, ⟨here, number ▸ different⟩, number, alive⟩

theorem live_queue {bridge : Bridge} {target generation : Nat} {line : String} :
    (bridge.queue target line).Live generation ↔ bridge.Live generation := by
  simp only [Live, queue, updateConnection, Option.map_eq_some_iff]
  constructor
  · rintro ⟨_, ⟨connection, here, rfl⟩, number, alive⟩
    split at number <;> split at alive <;> exact ⟨connection, here, number, alive⟩
  · rintro ⟨connection, here, number, alive⟩
    refine ⟨_, ⟨connection, here, rfl⟩, ?_, ?_⟩ <;> split <;> assumption

/-- A new interpreter is the only one alive. -/
theorem live_started {bridge : Bridge} {generation : Nat} :
    bridge.started.1.Live generation ↔ generation = bridge.generations := by
  constructor
  · rintro ⟨connection, here, number, _⟩
    cases here
    exact number.symm
  · rintro rfl
    exact ⟨_, rfl, rfl, rfl⟩

/-- A call waits for a new interpreter only when none is alive. -/
theorem not_live_of_absent {bridge : Bridge} (absent : bridge.readiness = .absent)
    (generation : Nat) : ¬bridge.Live generation := by
  rintro ⟨connection, here, _, alive⟩
  rw [readiness, here] at absent
  simp only [alive, if_true] at absent
  split at absent <;> cases absent

/-- A call goes to the interpreter of the connection. -/
theorem connection_of_ready {bridge : Bridge} {generation : Nat}
    (ready : bridge.readiness = .live generation) :
    ∃ connection, bridge.connection = some connection ∧ connection.generation = generation := by
  rw [readiness] at ready
  split at ready
  next => cases ready
  next =>
    split at ready
    next connection here =>
      split at ready
      next => exact ⟨connection, here, Readiness.live.inj ready⟩
      next => cases ready
    next => cases ready

/-! ## The lock -/

/-- A caller without the lock that does not get it leaves the connection alone. -/
theorem Move.unlocked (move : Move bridge holder id send stage after kept next)
    (unlocked : ¬stage.Locked) (held : holder ≠ none) :
    kept = holder ∧ after.connection = bridge.connection := by
  cases move with
  | lock free => exact absurd free held
  | receive => exact ⟨rfl, rfl⟩
  | miss => exact ⟨rfl, rfl⟩
  | expire => exact ⟨rfl, rfl⟩
  | leaveLock => exact ⟨rfl, rfl⟩
  | leaveWait => exact ⟨rfl, rfl⟩
  | _ => exact absurd trivial unlocked

/-- A caller that has the lock after its move is the one the lock is held by. -/
theorem Move.locked (move : Move bridge holder id send stage after kept next)
    (holding : stage.Locked → holder = some id) (locked : next.Locked) : kept = some id := by
  cases move with
  | lock => rfl
  | reuse => exact holding trivial
  | restart => exact holding trivial
  | spawn => exact holding trivial
  | register => exact holding trivial
  | pass => exact holding trivial
  | reject => exact holding trivial
  | block => exact holding trivial
  | _ => cases locked

/-- A caller that goes on to start an interpreter has emptied the connection. -/
theorem Move.starting (move : Move bridge holder id send stage after kept .starting) :
    after.connection = none := by
  cases move with
  | restart => rfl

theorem Work.connection_eq_none (work : Work bridge holder task event after more)
    (empty : bridge.connection = none) : after.connection = none := by
  cases work with
  | clear => simp [release, empty]
  | detach => rfl
  | stop => simp [markDead, updateConnection, empty]
  | _ => exact empty

namespace World

/-- The call that holds the lock is the only one to deal with the connection. -/
structure Exclusive (world : World) : Prop where
  locked : ∀ id send stage, world.sends id = some (send, stage) → stage.Locked →
    world.holder = some id
  emptied : ∀ id send, world.sends id = some (send, .starting) → world.bridge.connection = none

/-- What a world knows about a call after another call, or the same, has been put. -/
theorem sends_put {world : World} {id other : Nat} {send otherSend : Send} {stage here : Stage}
    (found : (world.put id send stage).sends other = some (otherSend, here)) :
    other = id ∧ otherSend = send ∧ here = stage ∨
      other ≠ id ∧ world.sends other = some (otherSend, here) := by
  simp only [put] at found
  split at found
  next same =>
    cases found
    exact .inl ⟨same, rfl, rfl⟩
  next different => exact .inr ⟨different, found⟩

/-- A move keeps the lock exclusive: a call deals with the connection only while it holds the
lock. -/
theorem Exclusive.move {world : World} {id : Nat} {send : Send} {stage next : Stage}
    {bridge : Bridge} {holder : Option Nat} (exclusive : world.Exclusive)
    (here : world.sends id = some (send, stage))
    (move : Move world.bridge world.holder id send stage bridge holder next) :
    ({ world with bridge, holder }.put id send next).Exclusive := by
  -- While another call holds the lock, this one does not.
  have undisturbed {other : Nat} (different : other ≠ id) (held : world.holder = some other) :
      holder = world.holder ∧ bridge.connection = world.bridge.connection := by
    refine move.unlocked ?_ (by simp [held])
    intro locked
    rw [exclusive.locked id send stage here locked] at held
    exact different (Option.some.inj held).symm
  refine ⟨?_, ?_⟩
  · intro other otherSend otherStage found locked
    rcases sends_put found with ⟨rfl, rfl, rfl⟩ | ⟨different, there⟩
    · exact move.locked (exclusive.locked _ _ _ here) locked
    · have held := exclusive.locked other otherSend otherStage there locked
      exact (undisturbed different held).1.trans held
  · intro other otherSend found
    rcases sends_put found with ⟨rfl, rfl, rfl⟩ | ⟨different, there⟩
    · exact move.starting
    · have held := exclusive.locked other otherSend .starting there trivial
      exact (undisturbed different held).2.trans (exclusive.emptied other otherSend there)

/-- Every step keeps the lock exclusive, those of a shutdown included. -/
theorem Exclusive.step {world after : World} {event : Event} (exclusive : world.Exclusive)
    (step : Step world event after) : after.Exclusive := by
  cases step with
  | call send =>
      refine ⟨?_, ?_⟩
      · intro other otherSend stage found locked
        rcases sends_put found with ⟨rfl, rfl, rfl⟩ | ⟨_, there⟩
        · cases locked
        · exact exclusive.locked other otherSend stage there locked
      · intro other otherSend found
        rcases sends_put found with ⟨_, _, impossible⟩ | ⟨_, there⟩
        · cases impossible
        · exact exclusive.emptied other otherSend there
  | move here move => exact exclusive.move here move
  | line text =>
      refine ⟨exclusive.locked, ?_⟩
      intro id send found
      exact (dispatch_frame world.bridge text).1.trans (exclusive.emptied id send found)
  | lose =>
      refine ⟨exclusive.locked, ?_⟩
      intro id send found
      have empty := exclusive.emptied id send found
      simp [markDead, updateConnection, empty]
  | close => exact ⟨exclusive.locked, exclusive.emptied⟩
  | work _ work =>
      refine ⟨exclusive.locked, ?_⟩
      intro id send found
      exact work.connection_eq_none (exclusive.emptied id send found)

end World

/-! ## Generations in order -/

/-- The interpreter that a call is, or is about to be, registered with. -/
def Stage.generation? : Stage → Option Nat
  | .registering generation => some generation
  | stage => stage.registration?.map Registration.generation

/-- Numbers of interpreters are handed out in increasing order. -/
theorem Move.generations_le (move : Move bridge holder id send stage after kept next) :
    bridge.generations ≤ after.generations := by
  cases move with
  | spawn => exact Nat.le_succ _
  | _ => exact Nat.le_refl _

/-- The generation of the connection. -/
def slot? (bridge : Bridge) : Option Nat := bridge.connection.map Connection.generation

theorem slot?_updateConnection {bridge : Bridge} {generation : Nat}
    {change : Connection → Connection}
    (keeps : ∀ connection, (change connection).generation = connection.generation) :
    (bridge.updateConnection generation change).slot? = bridge.slot? := by
  simp only [slot?, updateConnection, Option.map_map]
  congr 1
  funext connection
  simp only [Function.comp]
  split
  · exact keeps connection
  · rfl

theorem slot?_queue (bridge : Bridge) (generation : Nat) (line : String) :
    (bridge.queue generation line).slot? = bridge.slot? :=
  slot?_updateConnection fun _ => rfl

theorem slot?_markDead (bridge : Bridge) (generation : Nat) :
    (bridge.markDead generation).slot? = bridge.slot? :=
  slot?_updateConnection fun _ => rfl

/-- The number at hand has been handed out, also after a call has moved. -/
theorem Move.slot_lt (move : Move bridge holder id send stage after kept next)
    (slot : ∀ generation, bridge.slot? = some generation → generation < bridge.generations) :
    ∀ generation, after.slot? = some generation → generation < after.generations := by
  cases move with
  | restart => simp [slot?, startFailed]
  | spawnFail => simp [slot?, startFailed]
  | spawn => simp [slot?, started]
  | queue =>
      intro generation filled
      rw [slot?_queue] at filled
      exact slot generation filled
  | _ => exact slot

/-- A caller moves on with the generation it had, with that of the connection at hand
or with the next one. -/
theorem Move.generation_lt (move : Move bridge holder id send stage after kept next)
    (slot : ∀ generation, bridge.slot? = some generation → generation < bridge.generations)
    (sent : ∀ generation, stage.generation? = some generation → generation < bridge.generations) :
    ∀ generation, next.generation? = some generation → generation < after.generations := by
  intro generation named
  cases move with
  | reuse ready =>
      obtain ⟨connection, here, number⟩ := connection_of_ready ready
      cases named
      exact slot _ (by rw [slot?, here, Option.map_some, number])
  | spawn =>
      cases named
      exact Nat.lt_succ_self _
  | register => exact sent generation named
  | pass => exact sent generation named
  | reject => exact sent generation named
  | queue => exact sent generation named
  | block => exact sent generation named
  | _ => cases named

/-- A task starts no interpreter and puts no connection in place. -/
theorem Work.slot?_eq (work : Work bridge holder task event after more) :
    after.generations = bridge.generations ∧
      ∀ generation, after.slot? = some generation → bridge.slot? = some generation := by
  cases work with
  | @clear lost =>
      refine ⟨rfl, fun generation filled => ?_⟩
      obtain ⟨connection, kept, number⟩ := Option.map_eq_some_iff.1 filled
      rw [slot?, (Option.filter_eq_some_iff.1 kept).1, Option.map_some, number]
  | detach => exact ⟨rfl, by simp [slot?]⟩
  | stop =>
      refine ⟨rfl, fun generation filled => ?_⟩
      rwa [slot?_markDead] at filled
  | _ => exact ⟨rfl, fun _ filled => filled⟩

namespace World

/-- Every generation in use has been handed out. -/
structure Numbered (world : World) : Prop where
  slot : ∀ generation, world.bridge.slot? = some generation →
    generation < world.bridge.generations
  sent : ∀ id send stage, world.sends id = some (send, stage) →
    ∀ generation, stage.generation? = some generation → generation < world.bridge.generations

/-- A step uses no number that has not been handed out. -/
theorem Numbered.step {world after : World} {event : Event} (numbered : world.Numbered)
    (step : Step world event after) : after.Numbered := by
  cases step with
  | call send =>
      refine ⟨numbered.slot, ?_⟩
      intro other otherSend stage found generation named
      rcases sends_put found with ⟨rfl, rfl, rfl⟩ | ⟨_, there⟩
      · cases named
      · exact numbered.sent other otherSend stage there generation named
  | move here move =>
      refine ⟨move.slot_lt numbered.slot, ?_⟩
      intro other otherSend otherStage found generation named
      rcases sends_put found with ⟨rfl, rfl, rfl⟩ | ⟨_, there⟩
      · exact move.generation_lt numbered.slot (numbered.sent _ _ _ here) generation named
      · exact Nat.lt_of_lt_of_le (numbered.sent other otherSend otherStage there generation named)
          move.generations_le
  | line text =>
      obtain ⟨connection, generations, _⟩ := dispatch_frame world.bridge text
      refine ⟨fun generation filled => ?_, fun id send stage found generation named => ?_⟩
      · rw [slot?, connection] at filled
        exact generations ▸ numbered.slot generation filled
      · exact generations ▸ numbered.sent id send stage found generation named
  | lose =>
      refine ⟨fun generation filled => ?_, numbered.sent⟩
      exact numbered.slot generation ((slot?_markDead _ _).symm.trans filled)
  | close => exact ⟨numbered.slot, numbered.sent⟩
  | work _ work =>
      obtain ⟨same, kept⟩ := work.slot?_eq
      refine ⟨fun generation filled => ?_, fun id send stage found generation named => ?_⟩
      · exact same ▸ numbered.slot generation (kept generation filled)
      · exact same ▸ numbered.sent id send stage found generation named

end World

/-! ## Lost interpreters -/

/-- A move starts the next interpreter, or it leaves the live one as it is. -/
theorem Move.live_cases (move : Move bridge holder id send stage after kept next)
    (emptied : stage = .starting → bridge.connection = none) :
    (after.generations = bridge.generations + 1 ∧
      ∀ generation, after.Live generation ↔
        bridge.Live generation ∨ generation = bridge.generations) ∨
    (after.generations = bridge.generations ∧
      ∀ generation, after.Live generation ↔ bridge.Live generation) := by
  cases move with
  | spawn =>
      refine .inl ⟨rfl, fun generation => ?_⟩
      rw [live_started]
      exact (or_iff_right (not_live_of_connection_eq_none (emptied rfl) generation)).symm
  | restart absent =>
      refine .inr ⟨rfl, fun generation => ?_⟩
      exact iff_of_false (not_live_of_connection_eq_none rfl generation)
        (not_live_of_absent absent generation)
  | spawnFail =>
      refine .inr ⟨rfl, fun generation => ?_⟩
      exact iff_of_false (not_live_of_connection_eq_none rfl generation)
        (not_live_of_connection_eq_none (emptied rfl) generation)
  | queue => exact .inr ⟨rfl, fun _ => live_queue⟩
  | _ => exact .inr ⟨rfl, fun _ => .rfl⟩

/-- An event has happened. -/
def History.Saw (history : History) (event : Event) : Prop := ∃ world, (world, event) ∈ history

theorem History.saw_append {history : History} {world : World} {event past : Event} :
    History.Saw (history ++ [(world, event)]) past ↔ history.Saw past ∨ event = past := by
  simp only [History.Saw, List.mem_append, List.mem_singleton, exists_or, Prod.mk.injEq]
  constructor
  · rintro (before | ⟨_, _, now⟩)
    · exact .inl before
    · exact .inr now.symm
  · rintro (before | now)
    · exact .inl before
    · exact .inr ⟨world, rfl, now.symm⟩

theorem History.failed_append {history : History} {world : World} {event : Event}
    {generation : Nat} :
    History.Failed (history ++ [(world, event)]) generation ↔
      history.Failed generation ∨ event = .failed generation :=
  History.saw_append

end Bridge

end Inlay
