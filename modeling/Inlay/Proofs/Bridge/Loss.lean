import Inlay.Proofs.Bridge.Generation

/-!
# No call waits for a lost interpreter

The loss of an interpreter and the sending of a call race with each other.  The call
registers, then checks that the interpreter is alive, then queues its request; the
loss marks the interpreter dead, then fails its registered calls.  In whichever order
these steps fall, a call that has passed the check is still registered when the calls
are failed, or it was not registered with that interpreter at all.

`World.Watched` is the invariant that says so.  Its conclusions: no entry of the table
outlives its call, no call waits without an entry that somebody will see to or an
outcome, and the loss of an interpreter fails its own calls and no others.
-/

namespace Inlay

namespace Bridge

/-- The registration of a call that has found its interpreter alive. -/
def Stage.passed? : Stage → Option Registration
  | .queueing registration | .waiting registration => some registration
  | _ => none

theorem Stage.registration?_of_passed? {stage : Stage} {registration : Registration}
    (passed : stage.passed? = some registration) :
    stage.registration? = some registration := by
  cases stage with
  | queueing => exact passed
  | waiting => exact passed
  | _ => cases passed

/-- A call passes the check while its interpreter is alive. -/
theorem Move.passed_cases {bridge after : Bridge} {holder kept : Option Nat} {id : Nat}
    {send : Send} {stage next : Stage} (move : Move bridge holder id send stage after kept next)
    {registration : Registration} (passed : next.passed? = some registration) :
    bridge.Live registration.generation ∨
      stage.passed? = some registration ∧ after.pending = bridge.pending := by
  cases move with
  | pass alive =>
      cases passed
      exact .inl (live_iff.2 ⟨_, alive⟩)
  | queue => exact .inr ⟨passed, rfl⟩
  | _ => cases passed

/-- A task that does not doom an interpreter may go without the others being missed. -/
theorem Task.Dooms.mem_erase {tasks : List Task} {task other : Task} {generation : Nat}
    (dooms : other.Dooms generation) (listed : other ∈ tasks) (harmless : ¬task.Dooms generation) :
    other ∈ tasks.erase task := by
  refine (List.mem_erase_of_ne ?_).2 listed
  rintro rfl
  exact harmless dooms

namespace World

/-- Every interpreter that has been started is watched, and no call has got past the
check for one whose calls have been failed. -/
structure Watched (history : History) (world : World) : Prop where
  /-- An interpreter whose calls have been failed is gone for good. -/
  dead : ∀ generation, history.Failed generation →
    generation < world.bridge.generations ∧ ¬world.bridge.Live generation
  /-- So is one whose calls are about to be failed. -/
  doomed : ∀ task ∈ world.tasks, ∀ generation, task.Dooms generation →
    generation < world.bridge.generations ∧ ¬world.bridge.Live generation
  /-- An interpreter that is not alive is one of these. -/
  watched : ∀ generation, generation < world.bridge.generations →
    world.bridge.Live generation ∨ history.Failed generation ∨
      ∃ task ∈ world.tasks, task.Dooms generation
  /-- A connection is cleared after the calls have been failed. -/
  cleared : ∀ generation, .clearing generation ∈ world.tasks → history.Failed generation
  /-- A call that has passed the check has an entry only while the calls of its
  interpreter have not been failed. -/
  passed : ∀ id send stage registration, world.sends id = some (send, stage) →
    stage.passed? = some registration → registration ∈ world.table →
    ¬history.Failed registration.generation

namespace Watched

variable {history : History} {world : World}

theorem start : Watched [] {} :=
  ⟨by simp [History.Failed], by simp, by simp, by simp, by simp⟩

/-- No interpreter is started and no calls are failed; one that is no longer alive has
its calls failed already or soon. -/
theorem quiet {changed : World} {event : Event} (watched : Watched history world)
    (silent : ∀ generation, event ≠ .failed generation)
    (generations : changed.bridge.generations = world.bridge.generations)
    (fewer : ∀ generation, changed.bridge.Live generation → world.bridge.Live generation)
    (doomed : ∀ task ∈ changed.tasks, task ∈ world.tasks ∨ ∀ generation, task.Dooms generation →
      generation < world.bridge.generations ∧ ¬changed.bridge.Live generation)
    (covered : ∀ generation,
      (world.bridge.Live generation ∨ ∃ task ∈ world.tasks, task.Dooms generation) →
      changed.bridge.Live generation ∨ history.Failed generation ∨
        ∃ task ∈ changed.tasks, task.Dooms generation)
    (cleared : ∀ generation, .clearing generation ∈ changed.tasks →
      .clearing generation ∈ world.tasks)
    (passed : ∀ id send stage registration, changed.sends id = some (send, stage) →
      stage.passed? = some registration → registration ∈ changed.table →
      ¬history.Failed registration.generation) :
    Watched (history ++ [(world, event)]) changed := by
  have same (generation : Nat) :
      History.Failed (history ++ [(world, event)]) generation ↔ history.Failed generation := by
    rw [History.failed_append]
    exact or_iff_left (silent generation)
  refine ⟨?_, ?_, ?_, ?_, ?_⟩
  · intro generation failed
    rw [same] at failed
    obtain ⟨started, gone⟩ := watched.dead generation failed
    exact ⟨generations ▸ started, fun alive => gone (fewer generation alive)⟩
  · intro task there generation dooms
    rw [generations]
    rcases doomed task there with old | new
    · obtain ⟨started, gone⟩ := watched.doomed task old generation dooms
      exact ⟨started, fun alive => gone (fewer generation alive)⟩
    · exact new generation dooms
  · intro generation started
    rw [generations] at started
    rw [same]
    rcases watched.watched generation started with alive | failed | ⟨task, there, dooms⟩
    · exact covered generation (.inl alive)
    · exact .inr (.inl failed)
    · exact covered generation (.inr ⟨task, there, dooms⟩)
  · intro generation there
    rw [same]
    exact watched.cleared generation (cleared generation there)
  · intro id send stage registration found hasPassed registered
    rw [same]
    exact passed id send stage registration found hasPassed registered

/-- The calls that have passed the check after a caller's move. -/
theorem passed_move {id : Nat} {send : Send} {stage next : Stage} {bridge : Bridge}
    {holder : Option Nat} (watched : Watched history world) (attended : world.Attended)
    (here : world.sends id = some (send, stage))
    (move : Move world.bridge world.holder id send stage bridge holder next) :
    ∀ other otherSend otherStage registration,
      ({ world with bridge, holder }.put id send next).sends other = some (otherSend, otherStage) →
      otherStage.passed? = some registration → registration ∈ bridge.pending.table →
      ¬history.Failed registration.generation := by
  intro other otherSend otherStage registration found hasPassed registered
  rcases sends_put found with ⟨rfl, rfl, rfl⟩ | ⟨different, there⟩
  · rcases move.passed_cases hasPassed with alive | ⟨hadPassed, unchanged⟩
    · exact fun failed => (watched.dead _ failed).2 alive
    · rw [unchanged] at registered
      exact watched.passed _ _ _ registration here hadPassed registered
  · have has := registration?_eq there
    rw [Stage.registration?_of_passed? hasPassed] at has
    have otherId : registration.id ≠ id := by
      rw [(attended.served other registration has).1]
      exact different
    exact watched.passed other otherSend otherStage registration there hasPassed
      (move.booking.mem_table registered otherId)

/-- An interpreter is started: it is alive and has a new generation. -/
theorem spawn {changed : World} {event : Event} (watched : Watched history world)
    (silent : ∀ generation, event ≠ .failed generation) (tasks : changed.tasks = world.tasks)
    (more : changed.bridge.generations = world.bridge.generations + 1)
    (live : ∀ generation, changed.bridge.Live generation ↔
      world.bridge.Live generation ∨ generation = world.bridge.generations)
    (passed : ∀ id send stage registration, changed.sends id = some (send, stage) →
      stage.passed? = some registration → registration ∈ changed.table →
      ¬history.Failed registration.generation) :
    Watched (history ++ [(world, event)]) changed := by
  have same (generation : Nat) :
      History.Failed (history ++ [(world, event)]) generation ↔ history.Failed generation := by
    rw [History.failed_append]
    exact or_iff_left (silent generation)
  have older {generation : Nat}
      (gone : generation < world.bridge.generations ∧ ¬world.bridge.Live generation) :
      generation < changed.bridge.generations ∧ ¬changed.bridge.Live generation := by
    rw [more, live]
    exact ⟨Nat.lt_succ_of_lt gone.1, fun either =>
      either.elim gone.2 fun new => Nat.lt_irrefl _ (new ▸ gone.1)⟩
  refine ⟨?_, ?_, ?_, ?_, ?_⟩
  · intro generation failed
    rw [same] at failed
    exact older (watched.dead generation failed)
  · intro task there generation dooms
    rw [tasks] at there
    exact older (watched.doomed task there generation dooms)
  · intro generation started
    rw [more] at started
    rw [live, same, tasks]
    rcases Nat.lt_succ_iff_lt_or_eq.1 started with old | new
    · exact (watched.watched generation old).imp_left .inl
    · exact .inl (.inr new)
  · intro generation there
    rw [tasks] at there
    rw [same]
    exact watched.cleared generation there
  · intro other otherSend otherStage registration found hasPassed registered
    rw [same]
    exact passed other otherSend otherStage registration found hasPassed registered

theorem move {id : Nat} {send : Send} {stage next : Stage} {bridge : Bridge}
    {holder : Option Nat} (watched : Watched history world) (attended : world.Attended)
    (exclusive : world.Exclusive) (here : world.sends id = some (send, stage))
    (move : Move world.bridge world.holder id send stage bridge holder next) :
    Watched (history ++ [(world, .caller id)])
      ({ world with bridge, holder }.put id send next) := by
  have emptied : stage = .starting → world.bridge.connection = none := by
    rintro rfl
    exact exclusive.emptied id send here
  have passed := watched.passed_move attended here move
  rcases move.live_cases emptied with ⟨more, live⟩ | ⟨same, live⟩
  · exact watched.spawn (by simp) rfl more live passed
  · refine watched.quiet (by simp) same (fun generation => (live generation).1)
      (fun _ there => .inl there) ?_ (fun _ there => there) passed
    intro generation alive
    exact alive.imp (live generation).2 .inr

/-- The calls of a doomed interpreter are failed. -/
theorem fail {task : Task} {generation : Nat} {message : String} {more : List Task}
    (watched : Watched history world) (there : task ∈ world.tasks)
    (dooms : ∀ other, task.Dooms other ↔ other = generation)
    (clearing : ∀ other ∈ more, other = .clearing generation) :
    Watched (history ++ [(world, .failed generation)])
      { world with
        bridge := world.bridge.failCalls generation message
        tasks := more ++ world.tasks.erase task } := by
  have failedNow (other : Nat) :
      History.Failed (history ++ [(world, .failed generation)]) other ↔
        history.Failed other ∨ other = generation := by
    rw [History.failed_append]
    exact or_congr_right ⟨fun same => (Event.failed.inj same).symm, fun same => by rw [same]⟩
  refine ⟨?_, ?_, ?_, ?_, ?_⟩
  · intro other failed
    rcases (failedNow other).1 failed with before | rfl
    · exact watched.dead other before
    · exact watched.doomed task there other ((dooms other).2 rfl)
  · intro other listed doomed otherDooms
    rcases List.mem_append.1 listed with new | old
    · rw [clearing other new] at otherDooms
      cases otherDooms
    · exact watched.doomed other (List.mem_of_mem_erase old) doomed otherDooms
  · intro other started
    rw [failedNow]
    by_cases same : other = generation
    · exact .inr (.inl (.inr same))
    · rcases watched.watched other started with alive | failed | ⟨saved, listed, otherDooms⟩
      · exact .inl alive
      · exact .inr (.inl (.inl failed))
      · have kept := otherDooms.mem_erase listed fun doomed => same ((dooms other).1 doomed)
        exact .inr (.inr ⟨saved, List.mem_append_right _ kept, otherDooms⟩)
  · intro other listed
    rw [failedNow]
    rcases List.mem_append.1 listed with new | old
    · exact .inr (Task.clearing.inj (clearing _ new))
    · exact .inl (watched.cleared other (List.mem_of_mem_erase old))
  · intro id send stage registration found hasPassed registered
    obtain ⟨was, different⟩ := Pending.mem_failGeneration.1 registered
    rw [failedNow]
    exact not_or.2 ⟨watched.passed id send stage registration found hasPassed was, different⟩

theorem passed_of_subset {changed : World} (watched : Watched history world)
    (sends : changed.sends = world.sends)
    (table : ∀ registration ∈ changed.table, registration ∈ world.table) :
    ∀ id send stage registration, changed.sends id = some (send, stage) →
      stage.passed? = some registration → registration ∈ changed.table →
      ¬history.Failed registration.generation := by
  intro id send stage registration found hasPassed registered
  rw [sends] at found
  exact watched.passed id send stage registration found hasPassed (table registration registered)

/-- A task that dooms nobody ends. -/
theorem finish {task : Task} {event : Event} (watched : Watched history world)
    (silent : ∀ generation, event ≠ .failed generation)
    (harmless : ∀ generation, ¬task.Dooms generation) :
    Watched (history ++ [(world, event)])
      { world with tasks := [] ++ world.tasks.erase task } := by
  refine watched.quiet silent rfl (fun _ alive => alive)
    (fun _ listed => .inl (List.mem_of_mem_erase listed)) ?_
    (fun _ listed => List.mem_of_mem_erase listed)
    (watched.passed_of_subset rfl fun _ registered => registered)
  rintro generation (alive | ⟨other, listed, dooms⟩)
  · exact .inl alive
  · exact .inr (.inr ⟨other, dooms.mem_erase listed (harmless generation), dooms⟩)

/-- The connection to a lost interpreter is cleared. -/
theorem clear {lost : Nat} (watched : Watched history world)
    (there : .clearing lost ∈ world.tasks) :
    Watched (history ++ [(world, .cleared lost)])
      { world with
        bridge := world.bridge.release lost
        tasks := [] ++ world.tasks.erase (.clearing lost) } := by
  refine watched.quiet (by simp) rfl (fun _ alive => (live_release.1 alive).1)
    (fun _ listed => .inl (List.mem_of_mem_erase listed)) ?_
    (fun _ listed => List.mem_of_mem_erase listed)
    (watched.passed_of_subset rfl fun _ registered => registered)
  rintro generation (alive | ⟨other, listed, dooms⟩)
  · by_cases same : generation = lost
    · exact .inr (.inl (same ▸ watched.cleared lost there))
    · exact .inl (live_release.2 ⟨alive, same⟩)
  · have kept := dooms.mem_erase listed fun doomed : Task.Dooms _ (.clearing lost) => nomatch doomed
    exact .inr (.inr ⟨other, kept, dooms⟩)

/-- A task is added that dooms an interpreter, which is no longer alive. -/
theorem pursue {changed : World} {event : Event} {pursuit : Task} {kept : List Task} {target : Nat}
    (watched : Watched history world) (silent : ∀ generation, event ≠ .failed generation)
    (tasks : changed.tasks = pursuit :: kept)
    (dooms : ∀ generation, pursuit.Dooms generation ↔ generation = target)
    (older : ∀ task ∈ kept, task ∈ world.tasks)
    (others : ∀ task ∈ world.tasks, ∀ generation, task.Dooms generation → generation ≠ target →
      task ∈ kept)
    (started : target < world.bridge.generations)
    (generations : changed.bridge.generations = world.bridge.generations)
    (live : ∀ generation, changed.bridge.Live generation ↔
      world.bridge.Live generation ∧ generation ≠ target)
    (sends : changed.sends = world.sends)
    (table : ∀ registration ∈ changed.table, registration ∈ world.table) :
    Watched (history ++ [(world, event)]) changed := by
  refine watched.quiet silent generations (fun generation alive => ((live generation).1 alive).1)
    ?_ ?_ ?_ (watched.passed_of_subset sends table)
  · intro task listed
    rw [tasks] at listed
    rcases List.mem_cons.1 listed with rfl | old
    · refine .inr fun generation doomed => ?_
      rw [(dooms generation).1 doomed]
      exact ⟨started, fun alive => ((live target).1 alive).2 rfl⟩
    · exact .inl (older task old)
  · intro generation covered
    rw [tasks]
    by_cases same : generation = target
    · exact .inr (.inr ⟨pursuit, .head _, (dooms generation).2 same⟩)
    · rcases covered with alive | ⟨task, listed, doomed⟩
      · exact .inl ((live generation).2 ⟨alive, same⟩)
      · exact .inr (.inr ⟨task, .tail _ (others task listed generation doomed same), doomed⟩)
  · intro generation listed
    rw [tasks] at listed
    rcases List.mem_cons.1 listed with rfl | old
    · exact ((dooms target).2 rfl).elim
    · exact older _ old

theorem work {task : Task} {event : Event} {bridge : Bridge} {more : List Task}
    (watched : Watched history world) (numbered : world.Numbered) (there : task ∈ world.tasks)
    (work : Work world.bridge world.holder task event bridge more) :
    Watched (history ++ [(world, event)])
      { world with bridge, tasks := more ++ world.tasks.erase task } := by
  cases work with
  | fail => exact watched.fail there (fun _ => eq_comm) (by simp)
  | drain => exact watched.fail there (fun _ => eq_comm) (by simp)
  | clear => exact watched.clear there
  | abort => exact watched.finish (by simp) fun _ dooms => nomatch dooms
  | detachNone => exact watched.finish (by simp) fun _ dooms => nomatch dooms
  | @detach connection _ here =>
      have started : connection.generation < world.bridge.generations :=
        numbered.slot _ (by rw [slot?, here, Option.map_some])
      refine watched.pursue (by simp) rfl (fun _ => eq_comm)
        (fun _ listed => List.mem_of_mem_erase listed)
        (fun _ listed _ dooms _ => dooms.mem_erase listed nofun) started rfl (fun generation => ?_)
        rfl (fun _ registered => registered)
      refine iff_of_false (not_live_of_connection_eq_none rfl generation) ?_
      rintro ⟨⟨other, present, number, _⟩, different⟩
      rw [here] at present
      cases present
      exact different number.symm
  | @stop stopped =>
      exact watched.pursue (by simp) rfl (fun _ => eq_comm)
        (fun _ listed => List.mem_of_mem_erase listed)
        (fun _ listed _ dooms other => dooms.mem_erase listed fun same => other (Eq.symm same))
        (watched.doomed _ there stopped rfl).1 rfl (fun _ => live_markDead) rfl
        (fun _ registered => registered)

theorem step {event : Event} {after : World} (watched : Watched history world)
    (attended : world.Attended) (exclusive : world.Exclusive) (numbered : world.Numbered)
    (step : Step world event after) : Watched (history ++ [(world, event)]) after := by
  cases step with
  | call send =>
      refine watched.quiet (by simp) rfl (fun _ alive => alive) (fun _ listed => .inl listed)
        (fun _ alive => alive.imp_right .inr) (fun _ listed => listed) ?_
      intro other otherSend stage registration found hasPassed registered
      rcases sends_put found with ⟨rfl, rfl, rfl⟩ | ⟨_, there⟩
      · cases hasPassed
      · exact watched.passed other otherSend stage registration there hasPassed registered
  | move here move => exact watched.move attended exclusive here move
  | line text =>
      obtain ⟨connection, generations, table⟩ := dispatch_frame world.bridge text
      exact watched.quiet (by simp) generations (fun _ => (live_congr connection _).1)
        (fun _ listed => .inl listed)
        (fun _ alive => alive.imp (live_congr connection _).2 .inr) (fun _ listed => listed)
        (watched.passed_of_subset rfl table)
  | lose reason started =>
      exact watched.pursue (by simp) rfl (fun _ => eq_comm) (fun _ listed => listed)
        (fun _ listed _ _ _ => listed) started rfl (fun _ => live_markDead) rfl
        (fun _ registered => registered)
  | close =>
      refine watched.quiet (by simp) rfl (fun _ alive => alive) ?_ ?_ ?_
        (watched.passed_of_subset rfl fun _ registered => registered)
      · intro task listed
        rcases List.mem_cons.1 listed with rfl | old
        · exact .inr fun _ dooms => nomatch dooms
        · exact .inl old
      · rintro generation (alive | ⟨other, listed, dooms⟩)
        · exact .inl alive
        · exact .inr (.inr ⟨other, .tail _ listed, dooms⟩)
      · intro generation listed
        rcases List.mem_cons.1 listed with impossible | old
        · cases impossible
        · exact old
  | work there work => exact watched.work numbered there work

end Watched

/-! ## Conclusions -/

/-- Every entry of the table belongs to a call that is inside its enqueueing or
waits, so a call that is over has left none. -/
def NoneStray (world : World) : Prop :=
  (∀ registration ∈ world.table, ∃ send stage,
    world.sends registration.id = some (send, stage) ∧ (stage.Enqueueing ∨ stage.Waiting)) ∧
  ∀ id send stage, world.sends id = some (send, stage) → ¬(stage.Enqueueing ∨ stage.Waiting) →
    ¬world.bridge.pending.Holds id

/-- Every call that waits has its outcome, or an entry with an interpreter whose calls
have not been failed: one that is alive, or one whose calls are about to be failed. -/
def NoneStranded (history : History) (world : World) : Prop :=
  ∀ id send registration, world.sends id = some (send, .waiting registration) →
    (registration ∈ world.table ∧ registration.id = id ∧
      ¬history.Failed registration.generation ∧
      (world.bridge.Live registration.generation ∨
        ∃ task ∈ world.tasks, task.Dooms registration.generation)) ∨
    ∃ outcome, world.mailbox? registration.mailbox = some (.ready outcome)

/-- The calls of one interpreter are failed: they and no others leave the table, and
the failure goes to their mailboxes and to no others. -/
structure FailsOnly (world : World) (generation : Nat) (after : World) : Prop where
  table : ∀ registration, registration ∈ after.table ↔
    registration ∈ world.table ∧ registration.generation ≠ generation
  delivered : ∃ failure : Failure, failure.layer = .bridge ∧ failure.kind = .processExited ∧
    ∀ registration ∈ world.table, registration.generation = generation →
      world.mailbox? registration.mailbox = some .waiting ∧
      after.mailbox? registration.mailbox = some (.ready (.error failure))
  others : ∀ number, (∀ registration ∈ world.table, registration.generation = generation →
    registration.mailbox ≠ number) → after.mailbox? number = world.mailbox? number

theorem Attended.noneStray {world : World} (attended : world.Attended) : world.NoneStray := by
  have owner (registration : Registration) (registered : registration ∈ world.table) :
      ∃ send stage, world.sends registration.id = some (send, stage) ∧
        stage.registration? = some registration := by
    obtain ⟨⟨send, stage⟩, found, has⟩ :=
      Option.bind_eq_some_iff.1 (attended.owned registration registered)
    exact ⟨send, stage, found, has⟩
  have active {stage : Stage} {registration : Registration}
      (has : stage.registration? = some registration) : stage.Enqueueing ∨ stage.Waiting := by
    cases stage with
    | checking => exact .inl trivial
    | queueing => exact .inl trivial
    | rejected => exact .inl trivial
    | waiting => exact .inr trivial
    | _ => cases has
  refine ⟨?_, ?_⟩
  · intro registration registered
    obtain ⟨send, stage, found, has⟩ := owner registration registered
    exact ⟨send, stage, found, active has⟩
  · rintro id send stage found idle ⟨registration, registered, rfl⟩
    obtain ⟨_, _, sameFound, has⟩ := owner registration registered
    rw [found] at sameFound
    cases sameFound
    exact idle (active has)

theorem Watched.noneStranded {history : History} {world : World} (watched : Watched history world)
    (attended : world.Attended) (numbered : world.Numbered) : NoneStranded history world := by
  intro id send registration found
  have has := registration?_eq found
  obtain ⟨sameId, registered | ready⟩ := attended.served id registration has
  · have unfailed := watched.passed id send _ registration found rfl registered
    have started := numbered.sent id send _ found registration.generation rfl
    rcases watched.watched registration.generation started with alive | failed | doomed
    · exact .inl ⟨registered, sameId, unfailed, .inl alive⟩
    · exact absurd failed unfailed
    · exact .inl ⟨registered, sameId, unfailed, .inr doomed⟩
  · exact .inr ready

theorem Attended.failsOnly {world after : World} {generation : Nat} (attended : world.Attended)
    (step : Step world (.failed generation) after) : world.FailsOnly generation after := by
  -- Only two tasks fail calls, and they differ in the text of the failure alone.
  have failing (message : String) (tasks : List Task) : world.FailsOnly generation
      { world with bridge := world.bridge.failCalls generation message, tasks } := by
    refine ⟨fun _ => Pending.mem_failGeneration, ?_,
      fun _ => Pending.mailbox_failGeneration_of_ne⟩
    refine ⟨.bridge .processExited message, rfl, rfl, fun registration registered sent => ?_⟩
    exact ⟨attended.sound.waiting registration registered,
      Pending.ready_failGeneration attended.sound _ registered sent⟩
  cases step with
  | work _ work =>
      cases work with
      | fail => exact failing _ _
      | drain => exact failing _ _

end World

theorem Run.watched {history : History} {world : World} (run : Run history world) :
    world.Exclusive ∧ world.Numbered ∧ World.Watched history world := by
  induction run with
  | start => exact ⟨⟨by simp, by simp⟩, ⟨by simp [slot?], by simp⟩, .start⟩
  | step earlier step ih =>
      obtain ⟨exclusive, numbered, watched⟩ := ih
      exact ⟨exclusive.step step, numbered.step step,
        watched.step earlier.attended exclusive numbered step⟩

/-- The first and the last step of a loss leave the table of pending calls alone. -/
theorem Step.pending_eq {world after : World} {generation : Nat} {event : Event}
    (step : Step world event after)
    (which : event = .lost generation ∨ event = .cleared generation) :
    after.bridge.pending = world.bridge.pending := by
  cases step with
  | lose => rfl
  | work _ work =>
      cases work with
      | clear => rfl
      | fail => simp at which
      | drain => simp at which
      | _ => rfl
  | _ => simp at which

/-- However the steps of callers, losses and a shutdown interleave: no entry of the
table outlives its call, no call waits for an interpreter that is gone, and the loss
of an interpreter fails its own calls and no others. -/
theorem Run.settled {history : History} {world : World} (run : Run history world) :
    world.NoneStray ∧ World.NoneStranded history world ∧
      (∀ generation after, Step world (.failed generation) after →
        world.FailsOnly generation after) ∧
      ∀ generation after,
        Step world (.lost generation) after ∨ Step world (.cleared generation) after →
          after.bridge.pending = world.bridge.pending := by
  have attended := run.attended
  obtain ⟨_, numbered, watched⟩ := run.watched
  refine ⟨attended.noneStray, watched.noneStranded attended numbered, ?_, ?_⟩
  · exact fun generation after step => attended.failsOnly step
  · rintro generation after (step | step)
    · exact step.pending_eq (.inl rfl)
    · exact step.pending_eq (.inr rfl)

/-- A loss is noticed between a call's check and the queueing of its request: the call
waits, and somebody is about to fail it. -/
theorem Run.settled_at_race : ∃ history world send registration, Run history world ∧
    world.sends 1 = some (send, .waiting registration) ∧
    ¬world.bridge.Live registration.generation ∧ registration ∈ world.table ∧
    ∃ task ∈ world.tasks, task.Dooms registration.generation := by
  let send : Send := ⟨"tokenize", .null, 1000⟩
  have called := Run.start.step (.call send)
  have locked := called.move 1 rfl (.lock rfl)
  have starting := locked.move 1 rfl (.restart rfl)
  have started := starting.move 1 rfl .spawn
  have registered := started.move 1 rfl .register
  have passed := registered.move 1 rfl (.pass rfl)
  have lost := passed.step (.lose "output closed" (Nat.lt_succ_self 0))
  have waiting := lost.move 1 rfl .queue
  obtain ⟨_, stranded, _⟩ := waiting.settled
  refine ⟨_, _, send, ⟨1, 0, 0⟩, waiting, rfl, ?_, ?_⟩
  · rintro ⟨connection, here, _, alive⟩
    cases here
    cases alive
  · rcases stranded 1 send ⟨1, 0, 0⟩ rfl with ⟨registered, _, _, alive | doomed⟩ | ⟨_, ready⟩
    · obtain ⟨connection, here, _, alive⟩ := alive
      cases here
      cases alive
    · exact ⟨registered, doomed⟩
    · cases ready

end Bridge

end Inlay
