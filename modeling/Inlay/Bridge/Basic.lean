import Inlay.Bridge.Pending
import Inlay.Bridge.Wire

/-!
# The bridge to the interpreter

Calls are multiplexed over one interpreter.  Each call takes a fresh id, and
replies are matched by id in any order.  Every interpreter that is started gets a
generation number, so that the loss of an interpreter fails exactly the calls
that were sent to it.

The operations here are the atomic steps of the bridge.  A call registers before
it checks that the interpreter is alive, and a lost interpreter is marked dead
before its calls are failed: whichever comes first, no call is left waiting for
an interpreter that is gone.
-/

namespace Inlay

/-- The connection to a started interpreter. -/
structure Connection where
  generation : Nat
  /-- False as soon as the interpreter is known to be gone. -/
  alive : Bool := true
  /-- Request lines not yet written to the interpreter. -/
  outgoing : List String := []
  deriving Repr, DecidableEq

/-- The state of the bridge. -/
structure Bridge where
  /-- The id of the next call. -/
  nextId : Nat := 1
  /-- The number of interpreters started, and the generation of the next one. -/
  generations : Nat := 0
  pending : Pending := {}
  connection : Option Connection := none
  /-- Set once the bridge has been shut down. -/
  closed : Bool := false

namespace Bridge

/-- The number of calls awaiting a reply. -/
def pendingCount (bridge : Bridge) : Nat := bridge.pending.size

/-- Whether there is a live interpreter. -/
def isRunning (bridge : Bridge) : Bool :=
  match bridge.connection with
  | some connection => connection.alive
  | none => false

/-- The live connection to an interpreter, if that is the one at hand. -/
def live? (bridge : Bridge) (generation : Nat) : Option Connection :=
  bridge.connection.filter fun connection => connection.generation == generation && connection.alive

/-- Changes the connection to an interpreter, if that is the one at hand. -/
def updateConnection (bridge : Bridge) (generation : Nat) (change : Connection → Connection) :
    Bridge :=
  { bridge with
    connection := bridge.connection.map fun connection =>
      if connection.generation = generation then change connection else connection }

/-! ## Sending a call -/

/-- Takes the id of a new call. -/
def takeId (bridge : Bridge) : Bridge × Nat :=
  ({ bridge with nextId := bridge.nextId + 1 }, bridge.nextId)

/-- What stands in the way of sending a call. -/
inductive Readiness where
  /-- The bridge has been shut down. -/
  | refused (failure : Failure)
  /-- There is a live interpreter. -/
  | live (generation : Nat)
  /-- An interpreter has to be started first. -/
  | absent
  deriving Repr, DecidableEq

/-- Whether a call can be sent now. -/
def readiness (bridge : Bridge) : Readiness :=
  if bridge.closed then .refused (.bridge .processExited "Bridge has been shut down")
  else
    match bridge.connection with
    | some connection => if connection.alive then .live connection.generation else .absent
    | none => .absent

/-- The failure of a start. -/
def startFailure (description reason : String) : Failure :=
  (Failure.bridge .processExited ("Failed to start interpreter '" ++ description ++ "'")).withCause
    (.io reason)

/-- Gives up a connection that could not be replaced. -/
def startFailed (bridge : Bridge) : Bridge := { bridge with connection := none }

/-- Takes over a newly started interpreter and returns its generation. -/
def started (bridge : Bridge) : Bridge × Nat :=
  ({ bridge with
     generations := bridge.generations + 1
     connection := some { generation := bridge.generations } }, bridge.generations)

/-- Registers a call sent to an interpreter and returns its mailbox. -/
def register (bridge : Bridge) (id generation : Nat) : Bridge × Nat :=
  let (pending, mailbox) := bridge.pending.register id generation
  ({ bridge with pending }, mailbox)

/-- Gives up a call: a reply that comes later is discarded. -/
def retire (bridge : Bridge) (id : Nat) : Bridge :=
  { bridge with pending := (bridge.pending.retire id).1 }

/-- Queues a request line for an interpreter. -/
def queue (bridge : Bridge) (generation : Nat) (line : String) : Bridge :=
  bridge.updateConnection generation fun connection =>
    { connection with outgoing := connection.outgoing ++ [line] }

/-- Registers a call and queues its request; a call to an interpreter that turns
out to be dead is retired again. -/
def enqueue (bridge : Bridge) (generation : Nat) (request : Request) : Bridge × Outcome Nat :=
  let (bridge, mailbox) := bridge.register request.id generation
  match bridge.live? generation with
  | some _ => (bridge.queue generation request.line, .ok mailbox)
  | none =>
      (bridge.retire request.id, .error (.bridge .processExited
        ("Interpreter exited before '" ++ request.method ++ "' could be sent")))

/-- Takes the request lines queued for an interpreter. -/
def takeOutgoing (bridge : Bridge) : Bridge × List String :=
  match bridge.connection with
  | some connection =>
      ({ bridge with connection := some { connection with outgoing := [] } }, connection.outgoing)
  | none => (bridge, [])

/-! ## Output of the interpreter -/

/-- A log record of the interpreter. -/
structure LogRecord where
  level : LogLevel
  message : String
  deriving Repr, DecidableEq

/-- Handles a line of output: a reply completes its call, a log record is passed
on, anything else is ignored. -/
def dispatch (bridge : Bridge) (line : String) : Bridge × Option LogRecord :=
  match Response.ofLine line with
  | .ok (.reply id outcome) =>
      ({ bridge with pending := (bridge.pending.complete id outcome).1 }, none)
  | .ok (.log level message) => (bridge, some ⟨.ofName level, message⟩)
  | .error _ => (bridge, none)

/-! ## Loss of the interpreter -/

/-- Marks an interpreter as gone. -/
def markDead (bridge : Bridge) (generation : Nat) : Bridge :=
  bridge.updateConnection generation fun connection => { connection with alive := false }

/-- Fails every call sent to an interpreter. -/
def failCalls (bridge : Bridge) (generation : Nat) (message : String) : Bridge :=
  { bridge with
    pending := (bridge.pending.failGeneration generation (.bridge .processExited message)).1 }

/-- Lets go of the connection to an interpreter. -/
def release (bridge : Bridge) (generation : Nat) : Bridge :=
  { bridge with
    connection := bridge.connection.filter fun connection => connection.generation != generation }

/-- Handles the loss of an interpreter: its calls fail, and the next call starts
another one. -/
def lose (bridge : Bridge) (generation : Nat) (reason : String) : Bridge :=
  ((bridge.markDead generation).failCalls generation
    ("Interpreter exited unexpectedly: " ++ reason)).release generation

/-- Shuts the bridge down: the interpreter is stopped, its calls fail, and no
later call starts one. -/
def shutdown (bridge : Bridge) : Bridge :=
  let bridge := { bridge with closed := true }
  match bridge.connection with
  | none => bridge
  | some connection =>
      { bridge with connection := none }.failCalls connection.generation "Bridge is shutting down"

/-! ## Failures of a waiting call -/

/-- No reply came in time. -/
def timeoutFailure (method : String) (timeoutMs : Nat) : Failure :=
  .bridge .timeout ("No reply to '" ++ method ++ "' within " ++ toString timeoutMs ++ " ms")

/-- The mailbox was closed without an outcome. -/
def droppedFailure (id : Nat) (method : String) : Failure :=
  .bridge .processExited
    ("Call " ++ toString id ++ " ('" ++ method ++ "') was dropped by the bridge")

end Bridge

end Inlay
