import Inlay.Failure
import Inlay.Json.Value

/-!
# Calls awaiting a reply

A caller registers the id of its call and gets a mailbox in which it will find
the outcome.  The table of registrations says which mailbox a reply to an id goes
to; a registration leaves the table as soon as it is completed, retired, failed
with its interpreter, or replaced by another of the same id, so a mailbox gets at
most one outcome.

Mailboxes are numbered in the order of registration.
-/

namespace Inlay

/-- The state of a mailbox. -/
inductive Mailbox where
  /-- The registration is in the table. -/
  | waiting
  /-- The outcome is there to be taken. -/
  | ready (outcome : Outcome Json)
  /-- No outcome will come: it was taken, or the registration was given up. -/
  | closed
  /-- The caller has gone away. -/
  | dropped

/-- A registration: the call's id, the interpreter it was sent to and the number
of the caller's mailbox. -/
structure Registration where
  id : Nat
  generation : Nat
  mailbox : Nat
  deriving Repr, DecidableEq

/-- The registered calls and all mailboxes handed out so far. -/
structure Pending where
  table : List Registration := []
  mailboxes : List Mailbox := []

namespace Pending

/-- The number of registered calls. -/
def size (pending : Pending) : Nat := pending.table.length

/-- Whether no call is registered. -/
def isEmpty (pending : Pending) : Bool := pending.table.isEmpty

/-- The registration of an id. -/
def find? (pending : Pending) (id : Nat) : Option Registration :=
  pending.table.find? fun registration => registration.id == id

/-- Puts an outcome into a mailbox that waits for one. -/
def deliver (outcome : Outcome Json) : Mailbox → Mailbox
  | .waiting => .ready outcome
  | other => other

/-- Closes a mailbox that still waits. -/
def close : Mailbox → Mailbox
  | .waiting => .closed
  | other => other

/-- Whether a mailbox waits for an outcome. -/
def isWaiting : Mailbox → Bool
  | .waiting => true
  | _ => false

/-- Takes an id out of the table and changes the mailbox it was registered
with. -/
def remove (pending : Pending) (id : Nat) (change : Mailbox → Mailbox) : Pending :=
  match pending.find? id with
  | none => pending
  | some registration =>
      { table := pending.table.filter fun other => other.id != id
        mailboxes := pending.mailboxes.modify registration.mailbox change }

/-- Registers an id for a request to an interpreter and returns the number of
the new mailbox.  An older registration of the id is given up. -/
def register (pending : Pending) (id generation : Nat) : Pending × Nat :=
  let cleared := pending.remove id close
  let mailbox := cleared.mailboxes.length
  ({ table := cleared.table ++ [⟨id, generation, mailbox⟩]
     mailboxes := cleared.mailboxes ++ [.waiting] }, mailbox)

/-- Delivers the outcome of a call.  The result says whether a caller was there
to receive it. -/
def complete (pending : Pending) (id : Nat) (outcome : Outcome Json) : Pending × Bool :=
  match pending.find? id with
  | none => (pending, false)
  | some registration =>
      (pending.remove id (deliver outcome),
        (pending.mailboxes[registration.mailbox]?.map isWaiting).getD false)

/-- Gives up a call.  The result says whether it was registered. -/
def retire (pending : Pending) (id : Nat) : Pending × Bool :=
  (pending.remove id close, (pending.find? id).isSome)

/-- The registrations of an interpreter. -/
def ofGeneration (pending : Pending) (generation : Nat) : List Registration :=
  pending.table.filter fun registration => registration.generation == generation

/-- Fails every call sent to an interpreter and returns their number. -/
def failGeneration (pending : Pending) (generation : Nat) (failure : Failure) : Pending × Nat :=
  let lost := pending.ofGeneration generation
  ({ table := pending.table.filter fun registration => registration.generation != generation
     mailboxes := lost.foldl
       (fun mailboxes registration =>
         mailboxes.modify registration.mailbox (deliver (.error failure)))
       pending.mailboxes }, lost.length)

/-- The caller of a mailbox goes away. -/
def drop (pending : Pending) (mailbox : Nat) : Pending :=
  { pending with mailboxes := pending.mailboxes.modify mailbox fun _ => .dropped }

/-- What a caller finds in its mailbox. -/
inductive Poll where
  | waiting
  | closed
  | outcome (outcome : Outcome Json)

/-- Looks into a mailbox and takes the outcome, if it is there. -/
def poll (pending : Pending) (mailbox : Nat) : Pending × Poll :=
  match pending.mailboxes[mailbox]? with
  | some .waiting => (pending, .waiting)
  | some (.ready outcome) =>
      ({ pending with mailboxes := pending.mailboxes.modify mailbox fun _ => .closed },
        .outcome outcome)
  | _ => (pending, .closed)

end Pending

end Inlay
