import Mathlib.Logic.Relation
import Inlay.Proofs.Bridge.Spawn

/-!
# The life of a bridge

What a maintainer expects of the bridge over all its interpreters: one after another
they are started, numbered and lost, a start that fails changes nothing, and a
shutdown ends it for good.

The calls and tasks of the bridge are interrupted only where they wait: for the lock,
for an interpreter to start, for an outcome.  A world in which everybody has come to
such a place is at rest (`World.Resting`), and a shutdown is complete when it has taken
the connection away and the world is at rest again.  Everything else is said of every
world, so it holds however finely the steps are taken apart.

A start that has begun may still succeed while a shutdown waits for the lock.  That
shutdown then finds the new interpreter and stops it.
-/

namespace Inlay

namespace Bridge

/-! ## Worlds at rest, and worlds to come -/

/-- The call is where it can be interrupted. -/
def Stage.Resting : Stage → Prop
  | .locking | .starting | .waiting _ | .returned _ | .dropped => True
  | _ => False

/-- The task waits for the lock. -/
def Task.Resting : Task → Prop
  | .clearing _ | .detaching => True
  | _ => False

/-- Nobody is between two places where it can be interrupted. -/
structure World.Resting (world : World) : Prop where
  calls : ∀ id stage, world.stage? id = some stage → stage.Resting
  tasks : ∀ task ∈ world.tasks, task.Resting

/-- Some steps lead from one world to another. -/
def World.Reaches : World → World → Prop :=
  Relation.ReflTransGen fun world after => ∃ event, Step world event after

theorem Run.reaches {history : History} {world later : World} (run : Run history world)
    (reaches : world.Reaches later) : ∃ more, Run (history ++ more) later := by
  induction reaches with
  | refl => exact ⟨[], by rwa [List.append_nil]⟩
  | tail _ step ih =>
      obtain ⟨more, there⟩ := ih
      obtain ⟨event, step⟩ := step
      exact ⟨more ++ [(_, event)], by rw [← List.append_assoc]; exact there.step step⟩

/-! ## Who moves -/

/-- A step of nobody else moves a call. -/
theorem Step.sends_eq {world after : World} {event : Event} {id : Nat}
    (step : Step world event after) (other : event ≠ .caller id) :
    after.sends id = world.sends id := by
  cases step with
  | call => exact if_neg fun same => other (congrArg Event.caller same.symm)
  | move => exact if_neg fun same => other (congrArg Event.caller same.symm)
  | _ => rfl

/-- A step of a call makes it or moves it on. -/
theorem Step.caller_cases {world after : World} {id : Nat} (step : Step world (.caller id) after) :
    (id = world.bridge.nextId ∧ after.stage? id = some .locking) ∨
    ∃ send stage next bridge holder, world.sends id = some (send, stage) ∧
      Move world.bridge world.holder id send stage bridge holder next ∧
      after = { world with bridge, holder }.put id send next := by
  cases step with
  | call send => exact .inl ⟨rfl, World.stage?_put_self _ _ _ _⟩
  | move here move => exact .inr ⟨_, _, _, _, _, here, move, rfl⟩
  | work _ work => cases work

/-- A call comes to another stage by a move of its own. -/
theorem Step.move_of_stage? {world after : World} {event : Event} {id : Nat} {next : Stage}
    (step : Step world event after) (now : after.stage? id = some next)
    (changed : world.stage? id ≠ some next) (called : next ≠ .locking) :
    ∃ send stage bridge holder, world.sends id = some (send, stage) ∧
      Move world.bridge world.holder id send stage bridge holder next ∧
      after = { world with bridge, holder }.put id send next := by
  by_cases mine : event = .caller id
  · subst mine
    rcases step.caller_cases with ⟨_, fresh⟩ | ⟨send, stage, new, bridge, holder, here, move, rfl⟩
    · rw [now] at fresh
      exact absurd (Option.some.inj fresh) called
    · rw [World.stage?_put_self] at now
      cases now
      exact ⟨send, stage, bridge, holder, here, move, rfl⟩
  · rw [World.stage?, step.sends_eq mine] at now
    exact absurd now changed

/-! ## Starts -/

/-- Whatever the call does next, it starts an interpreter. -/
def World.Tries (world : World) (id : Nat) : Prop :=
  (∃ after, Step world (.caller id) after) ∧
    ∀ after, Step world (.caller id) after → after.stage? id = some .starting

theorem World.Attended.tries {world : World} {id : Nat} (attended : world.Attended)
    (here : world.stage? id = some .connecting) (absent : world.bridge.readiness = .absent) :
    world.Tries id := by
  obtain ⟨send, found⟩ := World.sends_of_stage? here
  refine ⟨⟨_, .move found (.restart absent)⟩, fun after step => ?_⟩
  rcases step.caller_cases with ⟨rfl, _⟩ | ⟨_, _, _, _, _, same, move, rfl⟩
  · rw [attended.fresh _ (Nat.le_refl _)] at found
    cases found
  · rw [found] at same
    cases same
    rw [World.stage?_put_self]
    cases move with
    | restart => rfl
    | refuse refused =>
        rw [absent] at refused
        cases refused
    | reuse live =>
        rw [absent] at live
        cases live

/-- A call could not start an interpreter: it fails, nothing is registered or counted,
the connection is empty and the lock is free.  Until an interpreter is started, every
call that gets the lock of the open bridge tries again. -/
structure World.StartFailed (world after : World) (id : Nat) : Prop where
  failure : ∃ description reason,
    after.stage? id = some (.returned (.error (startFailure description reason)))
  pending : after.bridge.pending = world.bridge.pending
  generations : after.bridge.generations = world.bridge.generations
  empty : after.bridge.connection = none
  free : after.holder = none
  retried : ∀ later, after.Reaches later →
    later.bridge.generations = after.bridge.generations → later.bridge.closed = false →
    ∀ other, later.stage? other = some .connecting → later.Tries other

/-- An empty connection stays empty until an interpreter is started. -/
theorem World.Reaches.connection_eq_none {world later : World} (reaches : world.Reaches later)
    (empty : world.bridge.connection = none) :
    world.bridge.generations ≤ later.bridge.generations ∧
      (later.bridge.generations = world.bridge.generations → later.bridge.connection = none) := by
  induction reaches with
  | refl => exact ⟨Nat.le_refl _, fun _ => empty⟩
  | tail _ step ih =>
      obtain ⟨event, step⟩ := step
      obtain ⟨older, unstarted⟩ := ih
      rcases step.spawnedBy_cases with ⟨_, more⟩ | ⟨_, same⟩
      · exact ⟨by omega, fun equal => by omega⟩
      · rw [same]
        exact ⟨older, fun equal => step.connection_eq_none (unstarted equal) same⟩

theorem Run.startFailed {history : History} {world after : World} {event : Event} {id : Nat}
    {outcome : Outcome Json} (run : Run history world) (step : Step world event after)
    (was : world.stage? id = some .starting) (now : after.stage? id = some (.returned outcome)) :
    world.StartFailed after id := by
  obtain ⟨send, stage, bridge, holder, here, move, rfl⟩ :=
    step.move_of_stage? now (by rw [was]; nofun) nofun
  obtain rfl : stage = .starting := by
    rw [World.stage?_eq here] at was
    exact Option.some.inj was
  cases move with
  | spawnFail description reason =>
      refine ⟨⟨description, reason, now⟩, rfl, rfl, rfl, rfl, ?_⟩
      intro later reaches same opened other there
      obtain ⟨_, laterRun⟩ := (run.step step).reaches reaches
      have empty := (reaches.connection_eq_none rfl).2 same
      exact laterRun.attended.tries there
        (readiness_eq_absent_iff.2 ⟨opened, not_live_of_connection_eq_none empty⟩)

/-! ## The lock is given back -/

/-- The lock is held by a call that deals with the connection. -/
def World.Held (world : World) : Prop :=
  ∀ id, world.holder = some id → ∃ stage, world.stage? id = some stage ∧ stage.Locked

theorem World.stage?_put_of_ne {world : World} {id other : Nat} (different : other ≠ id)
    (send : Send) (stage : Stage) :
    (world.put id send stage).stage? other = world.stage? other := by
  simp [stage?, put, different]

/-- A call that goes on without the lock has given it back. -/
theorem Move.held {bridge after : Bridge} {holder kept : Option Nat} {id : Nat} {send : Send}
    {stage next : Stage} (move : Move bridge holder id send stage after kept next) :
    kept = none ∨ kept = some id ∧ next.Locked ∨
      kept = holder ∧ (stage.Locked → next.Locked) := by
  cases move with
  | lock => exact .inr (.inl ⟨rfl, trivial⟩)
  | refuse => exact .inl rfl
  | spawnFail => exact .inl rfl
  | queue => exact .inl rfl
  | withdraw => exact .inl rfl
  | leaveStart => exact .inl rfl
  | receive => exact .inr (.inr ⟨rfl, nofun⟩)
  | miss => exact .inr (.inr ⟨rfl, nofun⟩)
  | expire => exact .inr (.inr ⟨rfl, nofun⟩)
  | leaveLock => exact .inr (.inr ⟨rfl, nofun⟩)
  | leaveWait => exact .inr (.inr ⟨rfl, nofun⟩)
  | _ => exact .inr (.inr ⟨rfl, fun _ => trivial⟩)

theorem World.Held.step {world after : World} {event : Event} (held : world.Held)
    (attended : world.Attended) (step : Step world event after) : after.Held := by
  cases step with
  | call send =>
      intro other holds
      obtain ⟨stage, there, locked⟩ := held other holds
      have different : other ≠ world.bridge.takeId.2 := by
        rintro rfl
        have untaken : world.sends world.bridge.takeId.2 = none :=
          attended.fresh _ (Nat.le_refl _)
        rw [World.stage?, untaken] at there
        cases there
      exact ⟨stage, (World.stage?_put_of_ne different _ _).trans there, locked⟩
  | @move id send stage next bridge holder here move =>
      intro other holds
      change holder = some other at holds
      rcases move.held with free | ⟨mine, locked⟩ | ⟨same, locked⟩
      · rw [free] at holds
        cases holds
      · rw [mine] at holds
        cases holds
        exact ⟨next, World.stage?_put_self _ _ _ _, locked⟩
      · obtain ⟨old, there, wasLocked⟩ := held other (same.symm.trans holds)
        by_cases mine : other = id
        · subst mine
          rw [World.stage?_eq here] at there
          cases there
          exact ⟨next, World.stage?_put_self _ _ _ _, locked wasLocked⟩
        · exact ⟨old, (World.stage?_put_of_ne mine _ _).trans there, wasLocked⟩
  | line => exact held
  | lose => exact held
  | close => exact held
  | work => exact held

theorem Run.held {history : History} {world : World} (run : Run history world) : world.Held := by
  induction run with
  | start => exact nofun
  | step earlier step ih => exact ih.step earlier.attended step

/-! ## After a shutdown -/

/-- The call has not got past the check that the bridge is open: it waits for the lock,
has been refused, or its caller has gone away. -/
def Stage.Refused : Stage → Prop
  | .locking | .connecting | .dropped => True
  | .returned outcome => outcome = .error shutDownFailure
  | _ => False

/-- The call can only be refused, and it can always come to that. -/
structure World.Refuses (world : World) (id : Nat) : Prop where
  only : ∀ later, world.Reaches later → ∃ stage, later.stage? id = some stage ∧ stage.Refused
  returns : ∃ last, world.Reaches last ∧ last.stage? id = some (.returned (.error shutDownFailure))

theorem Move.refused {bridge after : Bridge} {holder kept : Option Nat} {id : Nat} {send : Send}
    {stage next : Stage} (move : Move bridge holder id send stage after kept next)
    (closed : bridge.closed = true) (refused : stage.Refused) : next.Refused := by
  cases move with
  | lock => trivial
  | refuse ready =>
      rw [readiness_of_closed closed] at ready
      cases ready
      rfl
  | reuse ready =>
      rw [readiness_of_closed closed] at ready
      cases ready
  | restart absent =>
      rw [readiness_of_closed closed] at absent
      cases absent
  | leaveLock => trivial
  | _ => cases refused

namespace World.Finished

variable {world later : World} {id : Nat} {send : Send} {stage : Stage}

theorem reaches (finished : world.Finished) (reaches : world.Reaches later) :
    later.Finished ∧ later.bridge.generations = world.bridge.generations := by
  induction reaches with
  | refl => exact ⟨finished, rfl⟩
  | tail _ step ih =>
      obtain ⟨_, step⟩ := step
      obtain ⟨after, same⟩ := ih.1.step step
      exact ⟨after, same.trans ih.2⟩

theorem refused (finished : world.Finished) (here : world.stage? id = some stage)
    (refused : stage.Refused) (reaches : world.Reaches later) :
    ∃ stage, later.stage? id = some stage ∧ stage.Refused := by
  induction reaches with
  | refl => exact ⟨stage, here, refused⟩
  | @tail middle after earlier step ih =>
      obtain ⟨event, step⟩ := step
      obtain ⟨current, there, still⟩ := ih
      by_cases mine : event = .caller id
      · subst mine
        rcases step.caller_cases with ⟨_, fresh⟩ | ⟨_, old, next, _, _, found, move, rfl⟩
        · exact ⟨.locking, fresh, trivial⟩
        · rw [stage?_eq found] at there
          cases there
          exact ⟨next, stage?_put_self _ _ _ _,
            move.refused (finished.reaches earlier).1.closed still⟩
      · rw [stage?, ← step.sends_eq mine] at there
        exact ⟨current, there, still⟩

/-- A call that waits for the free lock takes it and is refused. -/
theorem returns_of_free (finished : world.Finished) (free : world.holder = none)
    (here : world.sends id = some (send, .locking)) :
    ∃ last, world.Reaches last ∧ last.stage? id = some (.returned (.error shutDownFailure)) := by
  have locked := Step.move here (.lock free)
  have refused := Step.move (World.sends_put_self { world with holder := some id } id send _)
    (.refuse (readiness_of_closed finished.closed))
  exact ⟨_, .tail (.single ⟨_, locked⟩) ⟨_, refused⟩, stage?_put_self _ _ _ _⟩

theorem returns (finished : world.Finished) (held : world.Held)
    (here : world.sends id = some (send, .locking)) :
    ∃ last, world.Reaches last ∧ last.stage? id = some (.returned (.error shutDownFailure)) := by
  cases holds : world.holder with
  | none => exact finished.returns_of_free holds here
  | some other =>
      -- Whoever holds the lock is refused first.
      obtain ⟨stage, there, locked⟩ := held other holds
      obtain ⟨otherSend, found⟩ := sends_of_stage? there
      obtain rfl := finished.idle other otherSend stage found locked
      have different : id ≠ other := by
        rintro rfl
        rw [here] at found
        cases found
      have released := Step.move found (.refuse (readiness_of_closed finished.closed))
      obtain ⟨last, reaches, returned⟩ := (finished.step released).1.returns_of_free rfl
        ((if_neg different).trans here)
      exact ⟨last, .head ⟨_, released⟩ reaches, returned⟩

end World.Finished

/-- A shutdown has been completed: no interpreter is alive and no call is pending, no
later step starts an interpreter, and every call that has not got the lock yet is
refused. -/
structure World.ShutDown (history : History) (world : World) : Prop where
  noneAlive : ∀ generation, ¬history.Alive world generation
  nonePending : world.bridge.pendingCount = 0
  unstarted : ∀ later, world.Reaches later → later.bridge.connection = none ∧
    later.bridge.generations = world.bridge.generations ∧
    ∀ id, later.stage? id ≠ some .starting
  refused : ∀ later id, world.Reaches later → later.stage? id = some .locking → later.Refuses id

/-- At rest an interpreter is alive only if it is the one at hand. -/
theorem Run.alive_iff_live {history : History} {world : World} (run : Run history world)
    (resting : world.Resting) (generation : Nat) :
    history.Alive world generation ↔ world.bridge.Live generation := by
  rw [run.alive_iff]
  constructor
  · rintro ⟨started, unended⟩
    rcases run.sole.present generation started unended with alive | listed
    · exact alive
    · exact (resting.tasks _ listed).elim
  · rintro ⟨connection, here, rfl, alive⟩
    exact ⟨run.watched.2.1.slot _ (by rw [slot?, here, Option.map_some]),
      run.sole.live _ ⟨connection, here, rfl, alive⟩⟩

/-- At rest every call in the table waits for the interpreter at hand. -/
theorem Run.live_of_mem_table {history : History} {world : World} (run : Run history world)
    (resting : world.Resting) {registration : Registration}
    (registered : registration ∈ world.table) :
    world.bridge.Live registration.generation := by
  obtain ⟨⟨send, stage⟩, found, has⟩ :=
    Option.bind_eq_some_iff.1 (run.attended.owned registration registered)
  have rests := resting.calls _ stage (World.stage?_eq found)
  cases stage with
  | waiting =>
      cases has
      obtain ⟨_, numbered, watched⟩ := run.watched
      rcases watched.noneStranded run.attended numbered _ send registration found with
        ⟨_, _, _, alive | ⟨task, listed, dooms⟩⟩ | ⟨_, ready⟩
      · exact alive
      · have taskRests := resting.tasks task listed
        cases task with
        | clearing => cases dooms
        | detaching => cases dooms
        | _ => cases taskRests
      · rw [World.mailbox?, run.attended.sound.waiting registration registered] at ready
        cases ready
  | checking => cases rests
  | queueing => cases rests
  | rejected => cases rests
  | _ => cases has

theorem Run.shutDown {history : History} {world : World} (run : Run history world)
    (resting : world.Resting) (detached : history.Saw .detached) :
    World.ShutDown history world := by
  have finished := run.finished.2 detached
  have gone := not_live_of_connection_eq_none finished.empty
  refine ⟨?_, ?_, ?_, ?_⟩
  · intro generation alive
    exact gone generation ((run.alive_iff_live resting generation).1 alive)
  · rw [pendingCount, Pending.size, List.length_eq_zero_iff, List.eq_nil_iff_forall_not_mem]
    exact fun registration registered => gone _ (run.live_of_mem_table resting registered)
  · intro later reaches
    obtain ⟨finishedLater, same⟩ := finished.reaches reaches
    refine ⟨finishedLater.empty, same, fun id there => ?_⟩
    obtain ⟨send, found⟩ := World.sends_of_stage? there
    cases finishedLater.idle id send _ found trivial
  · intro later id reaches there
    obtain ⟨_, laterRun⟩ := run.reaches reaches
    have finishedLater := (finished.reaches reaches).1
    obtain ⟨send, found⟩ := World.sends_of_stage? there
    exact ⟨fun _ => finishedLater.refused there trivial,
      finishedLater.returns laterRun.held found⟩

/-- However the steps of callers, losses and shutdowns interleave: at most one
interpreter is alive, and at rest it is the one at hand; they are numbered from zero in
the order in which they were started, as many as the bridge has counted; a start begins
only on an open bridge that has no live interpreter, and it succeeds only while none is
alive and no shutdown has taken the connection away; a start that fails leaves things
as they were for the next call to try; and a completed shutdown is final. -/
theorem Run.lifecycle {history : History} {world : World} (run : Run history world) :
    (∀ generation other, history.Alive world generation → history.Alive world other →
      generation = other) ∧
    (world.Resting → ∀ generation,
      history.Alive world generation ↔ world.bridge.Live generation) ∧
    history.spawned world = List.range world.bridge.generations ∧
    (∀ event after id, Step world event after →
      (world.stage? id ≠ some .starting → after.stage? id = some .starting →
        world.bridge.closed = false ∧ ∀ generation, ¬world.bridge.Live generation) ∧
      (∀ number, world.stage? id = some .starting → after.stage? id = some (.registering number) →
        (∀ generation, ¬history.Alive world generation) ∧ world.bridge.connection = none ∧
        (world.bridge.closed = false ∨ .detaching ∈ world.tasks)) ∧
      (∀ outcome, world.stage? id = some .starting → after.stage? id = some (.returned outcome) →
        world.StartFailed after id)) ∧
    (world.Resting → history.Saw .detached → World.ShutDown history world) := by
  obtain ⟨closing, finished⟩ := run.finished
  refine ⟨?_, run.alive_iff_live, run.spawned_eq, ?_, run.shutDown⟩
  · intro generation other alive otherAlive
    rw [run.alive_iff] at alive otherAlive
    exact run.sole.unique generation other alive.1 otherAlive.1 alive.2 otherAlive.2
  · intro event after id step
    refine ⟨?_, ?_, fun _ => run.startFailed step⟩
    · intro idle starts
      obtain ⟨_, _, _, _, _, move, _⟩ := step.move_of_stage? starts idle nofun
      cases move with
      | restart absent => exact readiness_eq_absent_iff.1 absent
    · intro number starting _
      obtain ⟨send, found⟩ := World.sends_of_stage? starting
      refine ⟨?_, run.watched.1.emptied id send found, ?_⟩
      · intro generation alive
        rw [run.alive_iff] at alive
        exact alive.2 (run.sole.ended_of_starting run.watched.1 finished found alive.1)
      · cases closed : world.bridge.closed with
        | false => exact .inl rfl
        | true =>
            refine .inr ((closing.pending closed).resolve_right fun detached => ?_)
            cases (finished detached).idle id send _ found trivial

/-- The bridge is closed while its first interpreter is being started.  The start
succeeds and its call is sent; then the shutdown gets the lock and stops it all. -/
theorem Run.lifecycle_closed_while_starting : ∃ history world, Run history world ∧
    history.spawned world = [0] ∧ world.ShutDown history ∧
    ∃ last, world.Reaches last ∧ last.stage? 2 = some (.returned (.error shutDownFailure)) := by
  let send : Send := ⟨"tokenize", .null, 1000⟩
  have called := Run.start.step (.call send)
  have locked := called.move 1 rfl (.lock rfl)
  have starting := locked.move 1 rfl (.restart rfl)
  have closed := starting.step .close
  have started := closed.move 1 rfl .spawn
  have registered := started.move 1 rfl .register
  have passed := registered.move 1 rfl (.pass rfl)
  have waiting := passed.move 1 rfl .queue
  have detached := waiting.work (.head _) (.detach rfl rfl)
  have stopped := detached.work (.head _) .stop
  have drained := stopped.work (.head _) .drain
  obtain ⟨_, _, spawned, _, complete⟩ := drained.lifecycle
  have shutDown := complete ⟨?_, List.forall_mem_nil _⟩
    ⟨_, List.mem_append_left _ (List.mem_append_left _ (List.mem_append_right _ (.head _)))⟩
  · obtain ⟨last, reaches, returned⟩ :=
      (shutDown.refused _ 2 (.single ⟨_, .call send⟩) rfl).returns
    exact ⟨_, _, drained, spawned, shutDown, last, .head ⟨_, .call send⟩ reaches, returned⟩
  · intro id stage found
    by_cases first : id = 1
    · subst first
      cases found
      trivial
    · simp [World.stage?, World.put, takeId, first] at found

end Bridge

end Inlay
