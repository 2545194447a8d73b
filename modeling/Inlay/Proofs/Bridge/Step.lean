import Inlay.Bridge.Basic

/-!
# The bridge among its callers

Any number of callers use a bridge at the same time, while the tasks that read from
and write to the interpreters notice their loss and somebody may shut the bridge
down.  A `World` is the bridge together with how far everybody has come; a `Step` is
what one of them does without being interrupted, and a `Run` is any interleaving of
steps from the start, with the worlds that were passed on the way.

A call takes its id, waits for the lock of the connection, makes sure of a live
interpreter, and then, still under the lock, registers, checks that the interpreter
is alive and queues its request, each in a step of its own.  After that it only
waits.  The loss of an interpreter is noticed without the lock: it is marked dead,
its calls fail, and only then does the task wait for the lock to clear the
connection.

The relation allows more than can happen.  Lines arrive at any time and from any
interpreter, a loss may be noticed again and again, the queue may turn out to be
closed whenever a request is put into it, and a caller may give up whenever it
waits, even when its outcome has come.
-/

namespace Inlay

namespace Bridge

/-! ## Callers -/

/-- A call as its caller makes it. -/
structure Send where
  method : String
  params : Json
  timeoutMs : Nat

namespace Send

/-- The request of a call. -/
def request (send : Send) (id : Nat) : Request := ⟨id, send.method, send.params⟩

/-- The interpreter was found dead when the request was about to be queued. -/
def exitedFailure (send : Send) : Failure :=
  .bridge .processExited ("Interpreter exited before '" ++ send.method ++ "' could be sent")

/-- The queue of the interpreter was found closed. -/
def closedFailure (send : Send) : Failure :=
  .bridge .transport ("Interpreter input closed before '" ++ send.method ++ "' could be sent")

end Send

/-- How far a call has come. -/
inductive Stage where
  /-- It has its id and waits for the lock. -/
  | locking
  /-- It holds the lock and looks for a live interpreter. -/
  | connecting
  /-- It holds the lock while an interpreter is started. -/
  | starting
  /-- It holds the lock and is about to register. -/
  | registering (generation : Nat)
  /-- It is registered and is about to check that the interpreter is alive. -/
  | checking (registration : Registration)
  /-- It found the interpreter alive and is about to queue its request. -/
  | queueing (registration : Registration)
  /-- It could not be sent and is about to withdraw its registration. -/
  | rejected (registration : Registration) (failure : Failure)
  /-- It has released the lock and waits for its outcome. -/
  | waiting (registration : Registration)
  /-- Its caller has got the outcome. -/
  | returned (outcome : Outcome Json)
  /-- Its caller has gone away. -/
  | dropped

namespace Stage

/-- The registration of a call that has one and has not given it up. -/
def registration? : Stage → Option Registration
  | .checking registration | .queueing registration | .rejected registration _
  | .waiting registration => some registration
  | _ => none

/-- The call holds the lock of the connection. -/
def Locked : Stage → Prop
  | .connecting | .starting | .registering _ | .checking _ | .queueing _ | .rejected _ _ => True
  | _ => False

/-- The call is between its registration and the end of its enqueueing. -/
def Enqueueing : Stage → Prop
  | .checking _ | .queueing _ | .rejected _ _ => True
  | _ => False

/-- The call has been enqueued and waits for its outcome. -/
def Waiting : Stage → Prop
  | .waiting _ => True
  | _ => False

end Stage

/-- What one caller does next: the bridge, the holder of the lock and the stage it
leaves behind. -/
inductive Move (bridge : Bridge) (holder : Option Nat) (id : Nat) (send : Send) :
    Stage → Bridge → Option Nat → Stage → Prop where
  | lock :
      holder = none →
      Move bridge holder id send .locking bridge (some id) .connecting
  | refuse {failure : Failure} :
      bridge.readiness = .refused failure →
      Move bridge holder id send .connecting bridge none (.returned (.error failure))
  | reuse {generation : Nat} :
      bridge.readiness = .live generation →
      Move bridge holder id send .connecting bridge holder (.registering generation)
  /-- A dead connection is let go before an interpreter is started. -/
  | restart :
      bridge.readiness = .absent →
      Move bridge holder id send .connecting bridge.startFailed holder .starting
  | spawnFail (description reason : String) :
      Move bridge holder id send .starting bridge.startFailed none
        (.returned (.error (startFailure description reason)))
  | spawn :
      Move bridge holder id send .starting bridge.started.1 holder
        (.registering bridge.started.2)
  | register {generation : Nat} :
      Move bridge holder id send (.registering generation) (bridge.register id generation).1 holder
        (.checking ⟨id, generation, (bridge.register id generation).2⟩)
  | pass {registration : Registration} {connection : Connection} :
      bridge.live? registration.generation = some connection →
      Move bridge holder id send (.checking registration) bridge holder (.queueing registration)
  | reject {registration : Registration} :
      bridge.live? registration.generation = none →
      Move bridge holder id send (.checking registration) bridge holder
        (.rejected registration send.exitedFailure)
  | queue {registration : Registration} :
      Move bridge holder id send (.queueing registration)
        (bridge.queue registration.generation (send.request id).line) none (.waiting registration)
  | block {registration : Registration} :
      Move bridge holder id send (.queueing registration) bridge holder
        (.rejected registration send.closedFailure)
  | withdraw {registration : Registration} {failure : Failure} :
      Move bridge holder id send (.rejected registration failure) (bridge.retire id) none
        (.returned (.error failure))
  | receive {registration : Registration} {polled : Pending} {outcome : Outcome Json} :
      bridge.pending.poll registration.mailbox = (polled, .outcome outcome) →
      Move bridge holder id send (.waiting registration)
        ({ bridge with pending := polled }.retire id) holder (.returned outcome)
  /-- The mailbox was closed without an outcome. -/
  | miss {registration : Registration} {polled : Pending} :
      bridge.pending.poll registration.mailbox = (polled, .closed) →
      Move bridge holder id send (.waiting registration)
        ({ bridge with pending := polled }.retire id) holder
        (.returned (.error (droppedFailure id send.method)))
  | expire {registration : Registration} :
      Move bridge holder id send (.waiting registration) (bridge.retire id) holder
        (.returned (.error (timeoutFailure send.method send.timeoutMs)))
  | leaveLock :
      Move bridge holder id send .locking bridge holder .dropped
  | leaveStart :
      Move bridge holder id send .starting bridge none .dropped
  | leaveWait {registration : Registration} :
      Move bridge holder id send (.waiting registration) (bridge.retire id) holder .dropped

/-! ## Tasks -/

/-- What is left to do of the loss of an interpreter, or of a shutdown. -/
inductive Task where
  /-- The interpreter is marked dead, and its calls are to fail. -/
  | failing (generation : Nat) (reason : String)
  /-- Its calls have failed, and the connection is to be cleared. -/
  | clearing (generation : Nat)
  /-- The bridge is closed, and its connection is to be taken away. -/
  | detaching
  /-- The connection has been taken away, and its interpreter is to be stopped. -/
  | stopping (generation : Nat)
  /-- The interpreter has been stopped, and its calls are to fail. -/
  | draining (generation : Nat)
  deriving DecidableEq

/-- The task is going to fail the calls of an interpreter. -/
def Task.Dooms (generation : Nat) : Task → Prop
  | .failing doomed _ | .stopping doomed | .draining doomed => doomed = generation
  | .clearing _ | .detaching => False

/-- What a step was. -/
inductive Event where
  | caller (id : Nat)
  | line (text : String)
  /-- An interpreter was marked dead. -/
  | lost (generation : Nat)
  /-- The calls of an interpreter were failed. -/
  | failed (generation : Nat)
  /-- The connection to a lost interpreter was cleared. -/
  | cleared (generation : Nat)
  /-- A task that was to clear a connection was stopped. -/
  | aborted (generation : Nat)
  | closed
  | detached
  | stopped (generation : Nat)

/-- What a task does next: the event, the bridge it leaves behind and the task that
takes its place. -/
inductive Work (bridge : Bridge) (holder : Option Nat) :
    Task → Event → Bridge → List Task → Prop where
  | fail {generation : Nat} {reason : String} :
      Work bridge holder (.failing generation reason) (.failed generation)
        (bridge.failCalls generation ("Interpreter exited unexpectedly: " ++ reason))
        [.clearing generation]
  | clear {generation : Nat} :
      holder = none →
      Work bridge holder (.clearing generation) (.cleared generation) (bridge.release generation) []
  | abort {generation : Nat} :
      Work bridge holder (.clearing generation) (.aborted generation) bridge []
  | detach {connection : Connection} :
      holder = none → bridge.connection = some connection →
      Work bridge holder .detaching .detached { bridge with connection := none }
        [.stopping connection.generation]
  | detachNone :
      holder = none → bridge.connection = none →
      Work bridge holder .detaching .detached bridge []
  | stop {generation : Nat} :
      Work bridge holder (.stopping generation) (.stopped generation) (bridge.markDead generation)
        [.draining generation]
  | drain {generation : Nat} :
      Work bridge holder (.draining generation) (.failed generation)
        (bridge.failCalls generation "Bridge is shutting down") []

/-! ## Worlds and runs -/

/-- The bridge and how far everybody who uses it has come. -/
structure World where
  bridge : Bridge := {}
  /-- The calls made so far, by id. -/
  sends : Nat → Option (Send × Stage) := fun _ => none
  /-- The call that holds the lock of the connection. -/
  holder : Option Nat := none
  tasks : List Task := []

namespace World

/-- The world in which a call has come to a stage. -/
def put (world : World) (id : Nat) (send : Send) (stage : Stage) : World :=
  { world with sends := fun other => if other = id then some (send, stage) else world.sends other }

theorem sends_put_self (world : World) (id : Nat) (send : Send) (stage : Stage) :
    (world.put id send stage).sends id = some (send, stage) :=
  if_pos rfl

/-- The registration of a call that has one and has not given it up. -/
def registration? (world : World) (id : Nat) : Option Registration :=
  (world.sends id).bind fun call => call.2.registration?

/-- The registered calls. -/
def table (world : World) : List Registration := world.bridge.pending.table

/-- What a mailbox holds. -/
def mailbox? (world : World) (number : Nat) : Option Mailbox :=
  world.bridge.pending.mailboxes[number]?

end World

/-- A step of the world. -/
inductive Step : World → Event → World → Prop where
  /-- Somebody makes a call, which takes its id. -/
  | call {world : World} (send : Send) :
      Step world (.caller world.bridge.takeId.2)
        ({ world with bridge := world.bridge.takeId.1 }.put world.bridge.takeId.2 send .locking)
  | move {world : World} {id : Nat} {send : Send} {stage next : Stage} {bridge : Bridge}
      {holder : Option Nat} :
      world.sends id = some (send, stage) →
      Move world.bridge world.holder id send stage bridge holder next →
      Step world (.caller id) ({ world with bridge, holder }.put id send next)
  | line {world : World} (text : String) :
      Step world (.line text) { world with bridge := (world.bridge.dispatch text).1 }
  | lose {world : World} {generation : Nat} (reason : String) :
      generation < world.bridge.generations →
      Step world (.lost generation)
        { world with
          bridge := world.bridge.markDead generation
          tasks := .failing generation reason :: world.tasks }
  | close {world : World} :
      Step world .closed
        { world with
          bridge := { world.bridge with closed := true }
          tasks := .detaching :: world.tasks }
  | work {world : World} {task : Task} {event : Event} {bridge : Bridge} {more : List Task} :
      task ∈ world.tasks →
      Work world.bridge world.holder task event bridge more →
      Step world event { world with bridge, tasks := more ++ world.tasks.erase task }

/-- What has happened, oldest first, each event with the world it happened in. -/
abbrev History := List (World × Event)

/-- The calls of an interpreter have been failed. -/
def History.Failed (history : History) (generation : Nat) : Prop :=
  ∃ world, (world, Event.failed generation) ∈ history

/-- The steps from the start to a world. -/
inductive Run : History → World → Prop where
  | start : Run [] {}
  | step {history : History} {world next : World} {event : Event} :
      Run history world → Step world event next → Run (history ++ [(world, event)]) next

/-! ## Uninterrupted operations

The steps are the operations of the bridge taken apart: when nothing comes between
them they amount to the operation as a whole. -/

/-- The bridge is left as by an operation, and nobody else has come any further. -/
structure World.Leads (world : World) (bridge : Bridge) (after : World) : Prop where
  bridge : after.bridge = bridge
  holder : after.holder = none
  tasks : after.tasks = world.tasks

namespace Run

variable {history : History} {world : World}

theorem move (run : Run history world) (id : Nat) {send : Send} {stage next : Stage}
    {bridge : Bridge} {holder : Option Nat} (here : world.sends id = some (send, stage))
    (move : Move world.bridge world.holder id send stage bridge holder next) :
    Run (history ++ [(world, .caller id)]) ({ world with bridge, holder }.put id send next) :=
  run.step (.move here move)

theorem work {task : Task} {event : Event} {bridge : Bridge} {more : List Task}
    (run : Run history world) (there : task ∈ world.tasks)
    (work : Work world.bridge world.holder task event bridge more) :
    Run (history ++ [(world, event)])
      { world with bridge, tasks := more ++ world.tasks.erase task } :=
  run.step (.work there work)

theorem reply {text : String} {id : Nat} {outcome : Outcome Json} (run : Run history world)
    (decoded : Response.ofLine text = .ok (.reply id outcome)) :
    Run (history ++ [(world, .line text)])
      { world with
        bridge.pending := (world.bridge.pending.complete id outcome).1 } := by
  have handled := run.step (.line text)
  rwa [dispatch, decoded] at handled

/-- A caller that is about to register enqueues its call. -/
theorem enqueue {id generation : Nat} {send : Send} (run : Run history world)
    (here : world.sends id = some (send, .registering generation)) :
    ∃ later after, Run (history ++ later) after ∧
      World.Leads world (world.bridge.enqueue generation (send.request id)).1 after ∧
      after.sends id = some (send,
        match (world.bridge.enqueue generation (send.request id)).2 with
        | .ok mailbox => .waiting ⟨id, generation, mailbox⟩
        | .error failure => .returned (.error failure)) := by
  have registered := run.move id here .register
  have checking := World.sends_put_self
    { world with bridge := (world.bridge.register id generation).1 } id send
    (.checking ⟨id, generation, (world.bridge.register id generation).2⟩)
  cases found : (world.bridge.register id generation).1.live? generation with
  | some connection =>
      have passed := registered.move id checking (.pass found)
      have queued := passed.move id (World.sends_put_self ..) .queue
      rw [List.append_assoc, List.append_assoc] at queued
      refine ⟨_, _, queued, ⟨?_, rfl, rfl⟩, ?_⟩
      · simp [World.put, Bridge.enqueue, Send.request, found]
      · simp [World.put, Bridge.enqueue, Send.request, found]
  | none =>
      have refused := registered.move id checking (.reject found)
      have withdrawn := refused.move id (World.sends_put_self ..) .withdraw
      rw [List.append_assoc, List.append_assoc] at withdrawn
      refine ⟨_, _, withdrawn, ⟨?_, rfl, rfl⟩, ?_⟩
      · simp [World.put, Bridge.enqueue, Send.request, found]
      · simp [World.put, Bridge.enqueue, Send.request, Send.exitedFailure, found]

/-- The loss of an interpreter is dealt with while nobody holds the lock. -/
theorem lose {generation : Nat} (run : Run history world) (free : world.holder = none)
    (started : generation < world.bridge.generations) (reason : String) :
    ∃ later after, Run (history ++ later) after ∧
      World.Leads world (world.bridge.lose generation reason) after ∧
      after.sends = world.sends := by
  have lost := run.step (.lose reason started)
  have failed := lost.work (.head _) .fail
  have cleared := failed.work (.head _) (.clear free)
  rw [List.append_assoc, List.append_assoc] at cleared
  refine ⟨_, _, cleared, ⟨rfl, free, ?_⟩, rfl⟩
  simp

/-- The bridge is shut down while nobody holds the lock. -/
theorem shutdown (run : Run history world) (free : world.holder = none) :
    ∃ later after, Run (history ++ later) after ∧
      World.Leads world world.bridge.shutdown after ∧ after.sends = world.sends := by
  have closed := run.step .close
  cases here : world.bridge.connection with
  | none =>
      have detached := closed.work (.head _) (.detachNone free here)
      rw [List.append_assoc] at detached
      refine ⟨_, _, detached, ⟨?_, free, ?_⟩, rfl⟩
      · simp [Bridge.shutdown, here]
      · simp
  | some connection =>
      have detached := closed.work (.head _) (.detach free here)
      have stopped := detached.work (.head _) .stop
      have drained := stopped.work (.head _) .drain
      rw [List.append_assoc, List.append_assoc, List.append_assoc] at drained
      refine ⟨_, _, drained, ⟨?_, free, ?_⟩, rfl⟩
      · simp [Bridge.shutdown, Bridge.markDead, Bridge.updateConnection, here]
      · simp

end Run

end Bridge

end Inlay
