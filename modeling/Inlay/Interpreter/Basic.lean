/-!
# Interpreters as the bridge sees them

To the bridge an interpreter is something that can be started, takes lines of
input and in response writes bytes, stops reading, or exits, at once or after a
while.  An `Interpreter` is such a program, with a state of any type; the state
outlives a single run, so that a program may behave differently when it is
started again.
-/

namespace Inlay

/-- Something an interpreter does. -/
inductive Effect where
  /-- Writes bytes to its output. -/
  | output (bytes : List UInt8)
  /-- Stops reading its input, so that the next write to it fails. -/
  | closeInput
  /-- Exits, which ends its output. -/
  | exit
  deriving Repr, DecidableEq

/-- An effect and the number of milliseconds after which it happens. -/
structure Delayed where
  delay : Nat
  effect : Effect
  deriving Repr, DecidableEq

/-- A program that can serve as interpreter. -/
structure Interpreter (σ : Type) where
  /-- How the program is named in failures. -/
  description : String
  /-- Starts the program; a failure is described by the operating system. -/
  start : σ → σ × Except String (List Delayed)
  /-- Gives the program a line of input. -/
  receive : σ → String → σ × List Delayed

end Inlay
