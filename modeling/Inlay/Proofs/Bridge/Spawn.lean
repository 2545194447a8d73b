import Inlay.Proofs.Bridge.Loss

/-!
# One interpreter at a time

An interpreter is started by the call that holds the lock, and only when none is
alive.  The steps of a history tell which interpreters have been started
(`History.spawned`) and which of them have been neither lost nor stopped since
(`History.Alive`).

The connection at hand is not the whole story: a shutdown takes it away before it
stops the interpreter.  In between the interpreter is alive and nobody has it, and it
is the closed bridge, with nobody left who holds the lock, that keeps another one from
being started (`World.Finished`).  `World.Sole` is the invariant that adds this up: at
most one interpreter is alive.
-/

namespace Inlay

namespace Bridge

variable {bridge after : Bridge} {holder kept : Option Nat} {id : Nat} {send : Send}
  {stage next : Stage} {task : Task} {event : Event} {more : List Task}

/-! ## The interpreters of a history -/

/-- The stage of a call. -/
def World.stage? (world : World) (id : Nat) : Option Stage := (world.sends id).map Prod.snd

theorem World.stage?_put_self (world : World) (id : Nat) (send : Send) (stage : Stage) :
    (world.put id send stage).stage? id = some stage := by
  rw [stage?, sends_put_self, Option.map_some]

theorem World.stage?_eq {world : World} (here : world.sends id = some (send, stage)) :
    world.stage? id = some stage := by
  rw [stage?, here, Option.map_some]

theorem World.sends_of_stage? {world : World} (here : world.stage? id = some stage) :
    ∃ send, world.sends id = some (send, stage) := by
  obtain ⟨⟨send, _⟩, found, rfl⟩ := Option.map_eq_some_iff.1 here
  exact ⟨send, found⟩

/-- The world that a history begins in, given the one that it ends in. -/
def History.origin : History → World → World
  | [], last => last
  | (first, _) :: _, _ => first

/-- The steps of a history that ends in a world. -/
def History.steps : History → World → List (World × Event × World)
  | [], _ => []
  | (world, event) :: later, last =>
      (world, event, History.origin later last) :: History.steps later last

theorem History.steps_append (history : History) (world last : World) (event : Event) :
    History.steps (history ++ [(world, event)]) last =
      history.steps world ++ [(world, event, last)] := by
  induction history with
  | nil => rfl
  | cons first later ih =>
      have sameOrigin :
          History.origin (later ++ [(world, event)]) last = History.origin later world := by
        cases later <;> rfl
      simp only [List.cons_append, History.steps, sameOrigin, ih]

/-- The interpreter that a step has started: its caller waited for one and has got
it. -/
def spawnedBy : World × Event × World → Option Nat
  | (world, .caller id, after) =>
      match world.stage? id, after.stage? id with
      | some .starting, some (.registering generation) => some generation
      | _, _ => none
  | _ => none

/-- The interpreters started so far, oldest first. -/
def History.spawned (history : History) (world : World) : List Nat :=
  (history.steps world).filterMap spawnedBy

/-- An interpreter has been lost or stopped. -/
def History.Ended (history : History) (generation : Nat) : Prop :=
  history.Saw (.lost generation) ∨ history.Saw (.stopped generation)

/-- An interpreter has been started, and since then it has been neither lost nor
stopped. -/
def History.Alive (history : History) (world : World) (generation : Nat) : Prop :=
  generation ∈ history.spawned world ∧ ¬history.Ended generation

/-- A history that goes on has ended one more interpreter, if its last event is a loss or a
stop. -/
theorem History.ended_append {history : History} {world : World} {generation : Nat} :
    History.Ended (history ++ [(world, event)]) generation ↔
      history.Ended generation ∨ event = .lost generation ∨ event = .stopped generation := by
  rw [Ended, Ended, saw_append, saw_append, or_or_or_comm]

theorem History.ended_append_of_ne {history : History} {world : World} {generation : Nat}
    (silent : event ≠ .lost generation ∧ event ≠ .stopped generation) :
    History.Ended (history ++ [(world, event)]) generation ↔ history.Ended generation := by
  rw [ended_append]
  exact or_iff_left (not_or.2 silent)

/-! ## Starting an interpreter -/

/-- The move of a call has started an interpreter if the call waited for one and goes on to
register with it. -/
theorem spawnedBy_move {world : World} (here : world.sends id = some (send, stage))
    (changed : World) :
    spawnedBy (world, .caller id, changed.put id send next) =
      match stage, next with
      | .starting, .registering generation => some generation
      | _, _ => none := by
  simp only [spawnedBy, World.stage?_eq here, World.stage?_put_self]
  cases stage <;> cases next <;> rfl

/-- Only a call that waits for an interpreter starts one. -/
theorem Move.eq_starting (move : Move bridge holder id send stage after kept next)
    (more : after.generations = bridge.generations + 1) : stage = .starting := by
  cases move with
  | spawn => rfl
  | _ => exact absurd more (Nat.succ_ne_self _).symm

/-- A step starts the next interpreter, or it leaves their number as it is. -/
theorem Step.spawnedBy_cases {world after : World} (step : Step world event after) :
    spawnedBy (world, event, after) = some world.bridge.generations ∧
      after.bridge.generations = world.bridge.generations + 1 ∨
    spawnedBy (world, event, after) = none ∧
      after.bridge.generations = world.bridge.generations := by
  cases step with
  | call send =>
      refine .inr ⟨?_, rfl⟩
      simp only [spawnedBy, World.stage?_put_self]
      split
      next found => cases found
      next => rfl
  | move here move =>
      rw [spawnedBy_move here]
      cases move with
      | spawn => exact .inl ⟨rfl, rfl⟩
      | _ => exact .inr ⟨rfl, rfl⟩
  | line text => exact .inr ⟨rfl, (dispatch_frame world.bridge text).2.1⟩
  | lose => exact .inr ⟨rfl, rfl⟩
  | close => exact .inr ⟨rfl, rfl⟩
  | work _ work =>
      refine .inr ⟨?_, work.slot?_eq.1⟩
      cases work <;> rfl

/-- The interpreters are numbered in the order in which they were started. -/
theorem Run.spawned_eq {history : History} {world : World} (run : Run history world) :
    history.spawned world = List.range world.bridge.generations := by
  induction run with
  | start => rfl
  | @step history world next event _ step ih =>
      have last : History.spawned (history ++ [(world, event)]) next =
          history.spawned world ++ (spawnedBy (world, event, next)).toList := by
        rw [History.spawned, History.steps_append, List.filterMap_append, History.spawned,
          List.filterMap_cons]
        cases spawnedBy (world, event, next) <;> rfl
      rw [last, ih]
      rcases step.spawnedBy_cases with ⟨spawned, generations⟩ | ⟨silent, generations⟩
      · rw [spawned, generations, List.range_succ, Option.toList_some]
      · rw [silent, generations, Option.toList_none, List.append_nil]

/-- An interpreter is alive if its number has been handed out and it has not ended. -/
theorem Run.alive_iff {history : History} {world : World} (run : Run history world)
    {generation : Nat} :
    history.Alive world generation ↔
      generation < world.bridge.generations ∧ ¬history.Ended generation := by
  rw [History.Alive, run.spawned_eq, List.mem_range]

/-! ## A bridge that has been shut down -/

/-- An empty connection stays empty until an interpreter is started. -/
theorem Move.connection_eq_none (move : Move bridge holder id send stage after kept next)
    (empty : bridge.connection = none) (same : after.generations = bridge.generations) :
    after.connection = none := by
  cases move with
  | restart => rfl
  | spawnFail => rfl
  | spawn => exact absurd same (Nat.succ_ne_self _)
  | queue => simp [Bridge.queue, updateConnection, empty]
  | _ => exact empty

/-- A connection can only be made by starting an interpreter. -/
theorem Step.connection_eq_none {world after : World} (step : Step world event after)
    (empty : world.bridge.connection = none)
    (same : after.bridge.generations = world.bridge.generations) :
    after.bridge.connection = none := by
  cases step with
  | call => exact empty
  | move _ move => exact move.connection_eq_none empty same
  | line text => exact (dispatch_frame world.bridge text).1.trans empty
  | lose => simp [markDead, updateConnection, empty]
  | close => exact empty
  | work _ work => exact work.connection_eq_none empty

theorem Move.closed_eq (move : Move bridge holder id send stage after kept next) :
    after.closed = bridge.closed := by
  cases move with
  | _ => rfl

theorem Work.closed_eq (work : Work bridge holder task event after more) :
    after.closed = bridge.closed := by
  cases work with
  | _ => rfl

/-- A bridge is never opened again. -/
theorem Step.closed_cases {world after : World} (step : Step world event after) :
    after.bridge.closed = world.bridge.closed ∨ event = .closed ∧ after.bridge.closed = true := by
  cases step with
  | call => exact .inl rfl
  | move _ move => exact .inl move.closed_eq
  | line text =>
      left
      rcases dispatch_cases world.bridge text with ⟨_, _, _, dispatched⟩ | ⟨_, dispatched⟩ <;>
        rw [dispatched]
  | lose => exact .inl rfl
  | close => exact .inr ⟨rfl, rfl⟩
  | work _ work => exact .inl work.closed_eq

/-- What a call gets from a bridge that has been shut down. -/
def shutDownFailure : Failure := .bridge .processExited "Bridge has been shut down"

/-- A closed bridge refuses every call, whether an interpreter is there or not. -/
theorem readiness_of_closed (closed : bridge.closed = true) :
    bridge.readiness = .refused shutDownFailure := by
  rw [readiness, if_pos closed, shutDownFailure]

/-- A call may start an interpreter only if the bridge is open and none is alive. -/
theorem readiness_eq_absent_iff :
    bridge.readiness = .absent ↔
      bridge.closed = false ∧ ∀ generation, ¬bridge.Live generation := by
  constructor
  · intro absent
    refine ⟨?_, not_live_of_absent absent⟩
    cases closed : bridge.closed with
    | false => rfl
    | true =>
        rw [readiness_of_closed closed] at absent
        cases absent
  · rintro ⟨opened, gone⟩
    rw [readiness, opened]
    cases here : bridge.connection with
    | none => rfl
    | some connection =>
        have dead : connection.alive = false := by
          cases alive : connection.alive with
          | false => rfl
          | true => exact absurd ⟨connection, here, rfl, alive⟩ (gone connection.generation)
        simp [dead]

/-- The bridge has been closed, its connection is gone, and no call that holds the lock
has got past the check that the bridge is open. -/
structure World.Finished (world : World) : Prop where
  closed : world.bridge.closed = true
  empty : world.bridge.connection = none
  idle : ∀ id send stage, world.sends id = some (send, stage) → stage.Locked → stage = .connecting

/-- A call that has not got past the check does not get past it any more. -/
theorem Move.idle (move : Move bridge holder id send stage after kept next)
    (closed : bridge.closed = true) (idle : stage.Locked → stage = .connecting) :
    after.generations = bridge.generations ∧ (next.Locked → next = .connecting) := by
  cases move with
  | lock => exact ⟨rfl, fun _ => rfl⟩
  | refuse => exact ⟨rfl, nofun⟩
  | reuse ready =>
      rw [readiness_of_closed closed] at ready
      cases ready
  | restart absent =>
      rw [readiness_of_closed closed] at absent
      cases absent
  | receive => exact ⟨rfl, nofun⟩
  | miss => exact ⟨rfl, nofun⟩
  | expire => exact ⟨rfl, nofun⟩
  | leaveLock => exact ⟨rfl, nofun⟩
  | leaveWait => exact ⟨rfl, nofun⟩
  | _ => cases idle trivial

/-- A shutdown that has taken the connection away is final: no interpreter is started after it.
-/
theorem World.Finished.step {world after : World} (finished : world.Finished)
    (step : Step world event after) :
    after.Finished ∧ after.bridge.generations = world.bridge.generations := by
  have closed : after.bridge.closed = true := by
    rcases step.closed_cases with same | ⟨_, closed⟩
    · exact same.trans finished.closed
    · exact closed
  have calls : after.bridge.generations = world.bridge.generations ∧
      ∀ id send stage, after.sends id = some (send, stage) → stage.Locked →
        stage = .connecting := by
    cases step with
    | call send =>
        refine ⟨rfl, fun other otherSend stage found locked => ?_⟩
        rcases World.sends_put found with ⟨_, _, rfl⟩ | ⟨_, there⟩
        · cases locked
        · exact finished.idle other otherSend stage there locked
    | move here move =>
        obtain ⟨same, idle⟩ := move.idle finished.closed (finished.idle _ _ _ here)
        refine ⟨same, fun other otherSend stage found locked => ?_⟩
        rcases World.sends_put found with ⟨_, _, rfl⟩ | ⟨_, there⟩
        · exact idle locked
        · exact finished.idle other otherSend stage there locked
    | line text => exact ⟨(dispatch_frame world.bridge text).2.1, finished.idle⟩
    | lose => exact ⟨rfl, finished.idle⟩
    | close => exact ⟨rfl, finished.idle⟩
    | work _ work => exact ⟨work.slot?_eq.1, finished.idle⟩
  exact ⟨⟨closed, step.connection_eq_none finished.empty calls.1, calls.2⟩, calls.1⟩

/-- A shutdown that has not taken the connection away yet is still waiting for the
lock. -/
structure World.Closing (history : History) (world : World) : Prop where
  closed : .detaching ∈ world.tasks → world.bridge.closed = true
  pending : world.bridge.closed = true → .detaching ∈ world.tasks ∨ history.Saw .detached

/-- Taking the connection away is the end of the task that was to do so, and no other
task takes its place. -/
theorem Work.detaching_cases (work : Work bridge holder task event after more) :
    (task = .detaching ∧ event = .detached ∨ task ≠ .detaching ∧ event ≠ .detached) ∧
      .detaching ∉ more := by
  cases work with
  | detach => exact ⟨.inl ⟨rfl, rfl⟩, by simp⟩
  | detachNone => exact ⟨.inl ⟨rfl, rfl⟩, by simp⟩
  | _ => exact ⟨.inr ⟨nofun, nofun⟩, by simp⟩

/-- A shutdown goes on waiting for the lock until its task takes the connection away. -/
theorem World.Closing.step {history : History} {world after : World}
    (closing : World.Closing history world) (step : Step world event after) :
    World.Closing (history ++ [(world, event)]) after := by
  have opened : event ≠ .closed → after.bridge.closed = world.bridge.closed := by
    intro different
    rcases step.closed_cases with same | ⟨closed, _⟩
    · exact same
    · exact absurd closed different
  -- Only the end of a shutdown takes such a task away, and only its start adds one.
  have tasks : event = .closed ∧ after.bridge.closed = true ∧ .detaching ∈ after.tasks ∨
      event ≠ .closed ∧ (.detaching ∈ after.tasks → .detaching ∈ world.tasks) ∧
        (.detaching ∈ world.tasks → .detaching ∈ after.tasks ∨ event = .detached) := by
    cases step with
    | call => exact .inr ⟨nofun, id, .inl⟩
    | move => exact .inr ⟨nofun, id, .inl⟩
    | line => exact .inr ⟨nofun, id, .inl⟩
    | lose => exact .inr ⟨nofun, by simp, by simp +contextual⟩
    | close => exact .inl ⟨rfl, rfl, .head _⟩
    | work there work =>
        obtain ⟨which, gone⟩ := work.detaching_cases
        refine .inr ⟨?_, ?_, ?_⟩
        · cases work <;> nofun
        · intro listed
          rcases List.mem_append.1 listed with new | old
          · exact absurd new gone
          · exact List.mem_of_mem_erase old
        · intro listed
          rcases which with ⟨_, detached⟩ | ⟨different, _⟩
          · exact .inr detached
          · have kept := (List.mem_erase_of_ne different.symm).2 listed
            exact .inl (List.mem_append_right _ kept)
  rcases tasks with ⟨_, closed, listed⟩ | ⟨different, fewer, kept⟩
  · exact ⟨fun _ => closed, fun _ => .inl listed⟩
  · refine ⟨fun listed => (opened different).trans (closing.closed (fewer listed)), ?_⟩
    intro closed
    rw [History.saw_append]
    rcases closing.pending ((opened different).symm.trans closed) with listed | seen
    · exact (kept listed).imp_right .inr
    · exact .inr (.inl seen)

/-- Once a shutdown has taken the connection away, the bridge is finished. -/
theorem World.Closing.finished {world after : World} {history : History}
    (closing : World.Closing history world) (exclusive : world.Exclusive)
    (step : Step world .detached after) : after.Finished := by
  -- The lock was free, so nobody was past the check.
  have idle (free : world.holder = none) (id : Nat) (send : Send) (stage : Stage)
      (found : world.sends id = some (send, stage)) (locked : stage.Locked) :
      stage = .connecting := by
    have held := exclusive.locked id send stage found locked
    rw [free] at held
    cases held
  cases step with
  | work there work =>
      cases work with
      | detach free => exact ⟨closing.closed there, rfl, idle free⟩
      | detachNone free empty => exact ⟨closing.closed there, empty, idle free⟩

/-- Every closed bridge has a shutdown that waits or one that is done, and after one that is
done nothing is started. -/
theorem Run.finished {history : History} {world : World} (run : Run history world) :
    World.Closing history world ∧ (history.Saw .detached → world.Finished) := by
  induction run with
  | start => exact ⟨⟨by simp, by simp⟩, by simp [History.Saw]⟩
  | step earlier step ih =>
      obtain ⟨closing, finished⟩ := ih
      refine ⟨closing.step step, fun seen => ?_⟩
      rcases History.saw_append.1 seen with before | rfl
      · exact ((finished before).step step).1
      · exact closing.finished earlier.watched.1 step

/-! ## At most one is alive -/

namespace World

/-- At most one interpreter has not ended: the one at hand, or the one that a shutdown
has taken away and is about to stop. -/
structure Sole (history : History) (world : World) : Prop where
  started : ∀ generation, history.Ended generation → generation < world.bridge.generations
  live : ∀ generation, world.bridge.Live generation → ¬history.Ended generation
  present : ∀ generation, generation < world.bridge.generations → ¬history.Ended generation →
    world.bridge.Live generation ∨ .stopping generation ∈ world.tasks
  stopping : ∀ generation, .stopping generation ∈ world.tasks → history.Saw .detached
  unique : ∀ generation other, generation < world.bridge.generations →
    other < world.bridge.generations → ¬history.Ended generation → ¬history.Ended other →
    generation = other

namespace Sole

variable {history : History} {world changed : World}

theorem start : Sole [] {} :=
  ⟨by simp [History.Ended, History.Saw], by simp [Live], by simp, by simp, by simp⟩

/-- No interpreter is started and none ends; one that is no longer at hand is about to
be stopped. -/
theorem quiet (sole : Sole history world)
    (silent : ∀ generation, event ≠ .lost generation ∧ event ≠ .stopped generation)
    (generations : changed.bridge.generations = world.bridge.generations)
    (fewer : ∀ generation, changed.bridge.Live generation → world.bridge.Live generation)
    (covered : ∀ generation,
      world.bridge.Live generation ∨ .stopping generation ∈ world.tasks →
      changed.bridge.Live generation ∨ .stopping generation ∈ changed.tasks)
    (stopping : ∀ generation, .stopping generation ∈ changed.tasks →
      .stopping generation ∈ world.tasks ∨ event = .detached) :
    Sole (history ++ [(world, event)]) changed := by
  have same (generation : Nat) :
      History.Ended (history ++ [(world, event)]) generation ↔ history.Ended generation :=
    History.ended_append_of_ne (silent generation)
  refine ⟨?_, ?_, ?_, ?_, ?_⟩
  · intro generation ended
    rw [generations]
    exact sole.started generation ((same generation).1 ended)
  · intro generation alive
    rw [same]
    exact sole.live generation (fewer generation alive)
  · intro generation started unended
    rw [generations] at started
    rw [same] at unended
    exact covered generation (sole.present generation started unended)
  · intro generation listed
    rw [History.saw_append]
    exact (stopping generation listed).imp_left (sole.stopping generation)
  · intro generation other
    rw [generations, same, same]
    exact sole.unique generation other

/-- An interpreter ends. -/
theorem finish {target : Nat} (sole : Sole history world)
    (ends : event = .lost target ∨ event = .stopped target)
    (started : target < world.bridge.generations)
    (generations : changed.bridge.generations = world.bridge.generations)
    (live : ∀ generation, changed.bridge.Live generation ↔
      world.bridge.Live generation ∧ generation ≠ target)
    (older : ∀ generation, .stopping generation ∈ changed.tasks →
      .stopping generation ∈ world.tasks)
    (others : ∀ generation, generation ≠ target → .stopping generation ∈ world.tasks →
      .stopping generation ∈ changed.tasks) :
    Sole (history ++ [(world, event)]) changed := by
  have endedNow (generation : Nat) :
      History.Ended (history ++ [(world, event)]) generation ↔
        history.Ended generation ∨ generation = target := by
    rw [History.ended_append]
    refine or_congr_right ?_
    rcases ends with rfl | rfl <;> simp [eq_comm]
  refine ⟨?_, ?_, ?_, ?_, ?_⟩
  · intro generation ended
    rw [generations]
    rcases (endedNow generation).1 ended with before | rfl
    · exact sole.started generation before
    · exact started
  · intro generation alive
    obtain ⟨was, different⟩ := (live generation).1 alive
    rw [endedNow]
    exact not_or.2 ⟨sole.live generation was, different⟩
  · intro generation begun unended
    rw [generations] at begun
    rw [endedNow, not_or] at unended
    rcases sole.present generation begun unended.1 with alive | listed
    · exact .inl ((live generation).2 ⟨alive, unended.2⟩)
    · exact .inr (others generation unended.2 listed)
  · intro generation listed
    rw [History.saw_append]
    exact .inl (sole.stopping generation (older generation listed))
  · intro generation other begun otherBegun
    rw [endedNow, endedNow, not_or, not_or]
    intro unended otherUnended
    rw [generations] at begun otherBegun
    exact sole.unique generation other begun otherBegun unended.1 otherUnended.1

/-- An interpreter is started while none is alive. -/
theorem spawn (sole : Sole history world) (alone : ∀ generation,
      generation < world.bridge.generations → history.Ended generation)
    (tasks : changed.tasks = world.tasks)
    (generations : changed.bridge.generations = world.bridge.generations + 1)
    (live : ∀ generation, changed.bridge.Live generation ↔
      generation = world.bridge.generations) :
    Sole (history ++ [(world, .caller id)]) changed := by
  have same (generation : Nat) :
      History.Ended (history ++ [(world, .caller id)]) generation ↔ history.Ended generation :=
    History.ended_append_of_ne (by simp)
  -- Whoever has not ended is the new one.
  have new {generation : Nat} (begun : generation < changed.bridge.generations)
      (unended : ¬History.Ended (history ++ [(world, .caller id)]) generation) :
      generation = world.bridge.generations := by
    rw [generations] at begun
    rw [same] at unended
    rcases Nat.lt_succ_iff_lt_or_eq.1 begun with old | new
    · exact absurd (alone generation old) unended
    · exact new
  refine ⟨?_, ?_, ?_, ?_, ?_⟩
  · intro generation ended
    rw [generations]
    exact Nat.lt_succ_of_lt (sole.started generation ((same generation).1 ended))
  · intro generation alive
    rw [same, (live generation).1 alive]
    exact fun ended => Nat.lt_irrefl _ (sole.started _ ended)
  · intro generation begun unended
    exact .inl ((live generation).2 (new begun unended))
  · intro generation listed
    rw [tasks] at listed
    rw [History.saw_append]
    exact .inl (sole.stopping generation listed)
  · intro generation other begun otherBegun unended otherUnended
    exact (new begun unended).trans (new otherBegun otherUnended).symm

/-- While an interpreter is being started none is alive. -/
theorem ended_of_starting (sole : Sole history world) (exclusive : world.Exclusive)
    (finished : history.Saw .detached → world.Finished)
    (here : world.sends id = some (send, .starting)) {generation : Nat}
    (started : generation < world.bridge.generations) : history.Ended generation := by
  refine Classical.byContradiction fun unended => ?_
  rcases sole.present generation started unended with alive | listed
  · exact not_live_of_connection_eq_none (exclusive.emptied id send here) generation alive
  · have stage := (finished (sole.stopping generation listed)).idle id send _ here trivial
    cases stage

/-- A task that stops no interpreter leaves the connection alone and makes way for others
like it. -/
theorem pass {bridge : Bridge} (sole : Sole history world)
    (silent : ∀ generation, event ≠ .lost generation ∧ event ≠ .stopped generation)
    (harmless : ∀ generation, .stopping generation ≠ task)
    (harmlessMore : ∀ generation, .stopping generation ∉ more)
    (generations : bridge.generations = world.bridge.generations)
    (connection : bridge.connection = world.bridge.connection) :
    Sole (history ++ [(world, event)])
      { world with bridge, tasks := more ++ world.tasks.erase task } := by
  refine sole.quiet silent generations (fun _ => (live_congr connection _).1) ?_ ?_
  · rintro generation (alive | listed)
    · exact .inl ((live_congr connection generation).2 alive)
    · have kept := (List.mem_erase_of_ne (harmless generation)).2 listed
      exact .inr (List.mem_append_right _ kept)
  · intro generation listed
    rcases List.mem_append.1 listed with new | old
    · exact absurd new (harmlessMore generation)
    · exact .inl (List.mem_of_mem_erase old)

/-- Tasks in the background end interpreters and start none. -/
theorem work {bridge : Bridge} (sole : Sole history world) (watched : Watched history world)
    (there : task ∈ world.tasks)
    (work : Work world.bridge world.holder task event bridge more) :
    Sole (history ++ [(world, event)])
      { world with bridge, tasks := more ++ world.tasks.erase task } := by
  cases work with
  | fail => exact sole.pass (by simp) nofun (by simp) rfl rfl
  | abort => exact sole.pass (by simp) nofun (by simp) rfl rfl
  | detachNone => exact sole.pass (by simp) nofun (by simp) rfl rfl
  | drain => exact sole.pass (by simp) nofun (by simp) rfl rfl
  | @clear lost _ =>
      have gone := (watched.dead lost (watched.cleared lost there)).2
      refine sole.quiet (by simp) rfl (fun _ alive => (live_release.1 alive).1) ?_
        (fun _ listed => .inl (List.mem_of_mem_erase listed))
      rintro generation (alive | listed)
      · refine .inl (live_release.2 ⟨alive, ?_⟩)
        rintro rfl
        exact gone alive
      · exact .inr ((List.mem_erase_of_ne (by simp)).2 listed)
  | @detach connection _ here =>
      refine sole.quiet (by simp) rfl ?_ ?_ (fun _ _ => .inr rfl)
      · exact fun generation alive => absurd alive (not_live_of_connection_eq_none rfl generation)
      · rintro generation (⟨other, present, rfl, _⟩ | listed)
        · rw [here] at present
          cases present
          exact .inr (.head _)
        · exact .inr (.tail _ ((List.mem_erase_of_ne (by simp)).2 listed))
  | @stop target =>
      refine sole.finish (.inr rfl) (watched.doomed _ there target rfl).1 rfl
        (fun _ => live_markDead) ?_ ?_
      · rintro _ (_ | ⟨_, listed⟩)
        exact List.mem_of_mem_erase listed
      · intro generation different listed
        have other : Task.stopping generation ≠ .stopping target :=
          fun same => different (Task.stopping.inj same)
        exact .tail _ ((List.mem_erase_of_ne other).2 listed)

/-- A call starts an interpreter only when none is at hand and no shutdown has taken one away.
-/
theorem move {bridge : Bridge} {holder : Option Nat} (sole : Sole history world)
    (exclusive : world.Exclusive) (finished : history.Saw .detached → world.Finished)
    (here : world.sends id = some (send, stage))
    (move : Move world.bridge world.holder id send stage bridge holder next) :
    Sole (history ++ [(world, .caller id)]) ({ world with bridge, holder }.put id send next) := by
  have emptied : stage = .starting → world.bridge.connection = none := by
    rintro rfl
    exact exclusive.emptied id send here
  rcases move.live_cases emptied with ⟨more, live⟩ | ⟨same, live⟩
  · obtain rfl := move.eq_starting more
    refine sole.spawn (fun _ => sole.ended_of_starting exclusive finished here) rfl more ?_
    intro generation
    exact (live generation).trans
      (or_iff_right (not_live_of_connection_eq_none (emptied rfl) generation))
  · exact sole.quiet (by simp) same (fun generation => (live generation).1)
      (fun generation => .imp_left (live generation).2) (fun _ listed => .inl listed)

/-- At most one interpreter has not ended after a step, if that was so before. -/
theorem step {after : World} (sole : Sole history world) (watched : Watched history world)
    (exclusive : world.Exclusive) (finished : history.Saw .detached → world.Finished)
    (step : Step world event after) : Sole (history ++ [(world, event)]) after := by
  cases step with
  | call =>
      exact sole.quiet (by simp) rfl (fun _ alive => alive) (fun _ => id)
        (fun _ listed => .inl listed)
  | move here move => exact sole.move exclusive finished here move
  | line text =>
      obtain ⟨connection, generations, _⟩ := dispatch_frame world.bridge text
      exact sole.quiet (by simp) generations (fun _ => (live_congr connection _).1)
        (fun _ => .imp_left (live_congr connection _).2) (fun _ listed => .inl listed)
  | lose reason started =>
      refine sole.finish (.inl rfl) started rfl (fun _ => live_markDead) ?_
        (fun _ _ listed => .tail _ listed)
      rintro _ (_ | ⟨_, listed⟩)
      exact listed
  | close =>
      refine sole.quiet (by simp) rfl (fun _ alive => alive) (fun _ => .imp_right (.tail _)) ?_
      rintro _ (_ | ⟨_, listed⟩)
      exact .inl listed
  | work there work => exact sole.work watched there work

end Sole

end World

/-- Over a whole run at most one interpreter has not ended. -/
theorem Run.sole {history : History} {world : World} (run : Run history world) :
    World.Sole history world := by
  induction run with
  | start => exact .start
  | step earlier step ih =>
      obtain ⟨exclusive, _, watched⟩ := earlier.watched
      exact ih.step watched exclusive earlier.finished.2 step

end Bridge

end Inlay
