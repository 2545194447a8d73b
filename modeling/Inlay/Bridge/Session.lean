import Inlay.Bridge.Basic
import Inlay.Interpreter.Basic
import Inlay.Text.Blank
import Inlay.Text.Utf8

/-!
# Running the bridge

A session runs the bridge against an interpreter on a clock of its own.  Time
only moves when nothing is left to do: a session looks for the earliest effect of
the interpreter or time limit of a call, moves the clock there, and lets it
happen.

Calls are numbered in the order in which they are made.  Each has a time limit,
so waiting for one always ends.
-/

namespace Inlay

/-- How far a call has come. -/
inductive Progress where
  | waiting (mailbox : Nat)
  | finished (outcome : Outcome Json)
  | abandoned

/-- A call made in a session. -/
structure Call where
  id : Nat
  method : String
  timeoutMs : Nat
  /-- The time at which the call times out. -/
  deadline : Nat
  progress : Progress

/-- Whether a call still waits. -/
def Call.isWaiting (call : Call) : Bool :=
  match call.progress with
  | .waiting _ => true
  | _ => false

/-- An effect an interpreter will have. -/
structure Planned where
  time : Nat
  generation : Nat
  effect : Effect

/-- The state of a run: the bridge, the interpreter, and what lies between. -/
structure Session (σ : Type) where
  interpreter : σ
  bridge : Bridge := {}
  now : Nat := 0
  /-- Output of the running interpreter that is not a whole line yet. -/
  unread : List UInt8 := []
  /-- Whether the running interpreter reads its input. -/
  reading : Bool := true
  agenda : List Planned := []
  calls : List Call := []
  logs : List Bridge.LogRecord := []

namespace Session

variable {σ : Type}

/-! ## Output of the interpreter -/

/-- Handles the loss of an interpreter. -/
def lose (session : Session σ) (generation : Nat) (reason : String) : Session σ :=
  { session with bridge := session.bridge.lose generation reason, unread := [] }

/-- The byte that ends a line. -/
def lineFeed : UInt8 := 10

/-- Handles a whole line of output; blank lines are skipped. -/
def readLine (generation : Nat) (session : Session σ) (bytes : List UInt8) : Session σ :=
  match session.bridge.live? generation with
  | none => session
  | some _ =>
      match Text.decode? bytes with
      | none => session.lose generation "read failed: stream did not contain valid UTF-8"
      | some line =>
          if (Text.trim line).isEmpty then session
          else
            let (bridge, record) := session.bridge.dispatch line
            { session with bridge, logs := session.logs ++ record.toList }

/-- Whole lines and the rest of some bytes. -/
def cutLines : List UInt8 → List (List UInt8) × List UInt8
  | [] => ([], [])
  | byte :: rest =>
      let (lines, left) := cutLines rest
      if byte = lineFeed then ([] :: lines, left)
      else
        match lines with
        | line :: lines => ((byte :: line) :: lines, left)
        | [] => ([], byte :: left)

/-- Lets an effect of an interpreter happen, unless the interpreter is gone. -/
def perform (session : Session σ) (generation : Nat) (effect : Effect) : Session σ :=
  match session.bridge.live? generation, effect with
  | none, _ => session
  | some _, .closeInput => { session with reading := false }
  | some _, .output bytes =>
      let (lines, unread) := cutLines (session.unread ++ bytes)
      lines.foldl (readLine generation) { session with unread }
  | some _, .exit =>
      let session :=
        if session.unread.isEmpty then session else readLine generation session session.unread
      match session.bridge.live? generation with
      | some _ => session.lose generation "output closed"
      | none => session

/-- Plans an effect. -/
def plan (generation : Nat) (session : Session σ) (delayed : Delayed) : Session σ :=
  { session with
    agenda := session.agenda ++ [⟨session.now + delayed.delay, generation, delayed.effect⟩] }

/-- Lets effects happen now or plans them for later. -/
def schedule (session : Session σ) (generation : Nat) (effects : List Delayed) : Session σ :=
  effects.foldl
    (fun session delayed =>
      if delayed.delay = 0 then session.perform generation delayed.effect
      else session.plan generation delayed)
    session

/-! ## Requests -/

/-- Lets an interpreter read a line that has been written to it; one that has
stopped reading leaves it unread. -/
def feed (model : Interpreter σ) (generation : Nat) (session : Session σ) (line : String) :
    Session σ :=
  match session.bridge.live? generation with
  | none => session
  | some _ =>
      if session.reading then
        let (interpreter, effects) := model.receive session.interpreter line
        { session with interpreter }.schedule generation effects
      else session

/-- Writes all queued request lines and lets the interpreter read them.  Writing
to an interpreter that has stopped reading loses it. -/
def writeAll (model : Interpreter σ) (session : Session σ) : Session σ :=
  match session.bridge.connection with
  | none => session
  | some connection =>
      let (bridge, lines) := session.bridge.takeOutgoing
      let session := { session with bridge }
      if lines.isEmpty then session
      else if session.reading then lines.foldl (feed model connection.generation) session
      else session.lose connection.generation "write failed: broken pipe"

/-- Looks into the mailbox of a waiting call. -/
def checkMailbox (session : Session σ) (call : Call) : Pending × Call :=
  match call.progress with
  | .waiting mailbox =>
      match session.bridge.pending.poll mailbox with
      | (pending, .outcome outcome) => (pending, { call with progress := .finished outcome })
      | (pending, .closed) =>
          (pending, { call with
            progress := .finished (.error (Bridge.droppedFailure call.id call.method)) })
      | (pending, .waiting) => (pending, call)
  | _ => (session.bridge.pending, call)

/-- Hands out the outcomes that have come. -/
def collect (session : Session σ) : Session σ :=
  session.calls.foldl
    (fun collected call =>
      let (pending, call) := collected.checkMailbox call
      { collected with bridge.pending := pending, calls := collected.calls ++ [call] })
    { session with calls := [] }

/-- Lets everything happen that needs no time. -/
def settle (model : Interpreter σ) (session : Session σ) : Session σ :=
  (session.writeAll model).collect

/-! ## Time -/

/-- Ends a waiting call whose time is up. -/
def expireCall (session : Session σ) (call : Call) : Bridge × Call :=
  if call.isWaiting && call.deadline ≤ session.now then
    (session.bridge.retire call.id,
      { call with
        progress := .finished (.error (Bridge.timeoutFailure call.method call.timeoutMs)) })
  else (session.bridge, call)

/-- Ends every waiting call whose time is up. -/
def expire (session : Session σ) : Session σ :=
  session.calls.foldl
    (fun expired call =>
      let (bridge, call) := expired.expireCall call
      { expired with bridge, calls := expired.calls ++ [call] })
    { session with calls := [] }

/-- The time of the next event. -/
def nextTime? (session : Session σ) : Option Nat :=
  (session.agenda.map Planned.time
    ++ (session.calls.filter Call.isWaiting).map Call.deadline).min?

/-- Moves the clock and lets everything due happen: first what the interpreter
does, then the time limits. -/
def moveTo (session : Session σ) (time : Nat) : Session σ :=
  let due := session.agenda.filter fun planned => planned.time ≤ time
  let later := session.agenda.filter fun planned => time < planned.time
  let moved := { session with now := time, agenda := later }
  (due.foldl (fun session planned => session.perform planned.generation planned.effect) moved
    |>.collect).expire

/-- The number of events that can still happen without a new call. -/
def eventBound (session : Session σ) : Nat :=
  session.agenda.length + (session.calls.filter Call.isWaiting).length

/-- Lets events happen until a condition holds or the clock would pass a limit;
the first argument bounds their number. -/
def runEvents (stop : Session σ → Bool) (limit : Option Nat) : Nat → Session σ → Session σ
  | 0, session => session
  | bound + 1, session =>
      if stop session then session
      else
        match session.nextTime? with
        | none => session
        | some time =>
            if (limit.map fun limit => decide (limit < time)).getD false then session
            else runEvents stop limit bound (session.moveTo (max time session.now))

/-- Lets time pass. -/
def advance (model : Interpreter σ) (ms : Nat) (session : Session σ) : Session σ :=
  let session := session.settle model
  let limit := session.now + ms
  let session := runEvents (fun _ => false) (some limit) session.eventBound session
  { session with now := limit }

/-! ## Calls -/

/-- The outcome of a call that has finished. -/
def outcome? (session : Session σ) (number : Nat) : Option (Outcome Json) :=
  match session.calls[number]?.map Call.progress with
  | some (.finished outcome) => some outcome
  | _ => none

/-- Adds a call. -/
def addCall (session : Session σ) (call : Call) : Session σ × Nat :=
  ({ session with calls := session.calls ++ [call] }, session.calls.length)

/-- Makes sure that there is an interpreter to talk to. -/
def connect (model : Interpreter σ) (session : Session σ) : Session σ × Outcome Nat :=
  match session.bridge.readiness with
  | .refused failure => (session, .error failure)
  | .live generation => (session, .ok generation)
  | .absent =>
      match model.start session.interpreter with
      | (interpreter, .error reason) =>
          ({ session with interpreter, bridge := session.bridge.startFailed },
            .error (Bridge.startFailure model.description reason))
      | (interpreter, .ok effects) =>
          let (bridge, generation) := session.bridge.started
          let session := { session with interpreter, bridge, unread := [], reading := true }
          (effects.foldl (plan generation) session, .ok generation)

/-- Makes a call without waiting for it and returns its number.  A call with no
time at all has timed out as soon as it is made. -/
def begin (model : Interpreter σ) (method : String) (params : Json) (timeoutMs : Nat)
    (session : Session σ) : Session σ × Nat :=
  let (bridge, id) := session.bridge.takeId
  let (session, connected) := { session with bridge }.connect model
  let call (progress : Progress) : Call :=
    { id, method, timeoutMs, deadline := session.now + timeoutMs, progress }
  match connected with
  | .error failure => session.addCall (call (.finished (.error failure)))
  | .ok generation =>
      match session.bridge.enqueue generation ⟨id, method, params⟩ with
      | (bridge, .error failure) =>
          { session with bridge }.addCall (call (.finished (.error failure)))
      | (bridge, .ok mailbox) =>
          let (session, number) := { session with bridge }.addCall (call (.waiting mailbox))
          (if timeoutMs = 0 then session.expire else session, number)

/-- Whether a call no longer waits. -/
def isOver (number : Nat) (session : Session σ) : Bool :=
  !(session.calls[number]?.map Call.isWaiting).getD false

/-- Waits for a call. -/
def await (model : Interpreter σ) (number : Nat) (session : Session σ) : Session σ :=
  if session.isOver number then session
  else
    let session := session.settle model
    runEvents (isOver number) none session.eventBound session

/-- Makes a call and waits for its outcome. -/
def send (model : Interpreter σ) (method : String) (params : Json) (timeoutMs : Nat)
    (session : Session σ) : Session σ × Outcome Json :=
  let (session, number) := session.begin model method params timeoutMs
  let session := session.await model number
  (session, (session.outcome? number).getD
    (.error (Bridge.timeoutFailure method timeoutMs)))

/-- Gives up a waiting call. -/
def abandon (session : Session σ) (number : Nat) : Session σ :=
  match session.calls[number]? with
  | some call =>
      if call.isWaiting then
        { session with
          bridge := session.bridge.retire call.id
          calls := session.calls.set number { call with progress := .abandoned } }
      else session
  | none => session

/-- Shuts the bridge down. -/
def shutdown (session : Session σ) : Session σ :=
  { session with bridge := session.bridge.shutdown }

end Session

end Inlay
