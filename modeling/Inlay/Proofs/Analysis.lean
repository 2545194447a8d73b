import Inlay.Analyzer.Basic

/-!
# Running an analysis

A computation that may fail, run from a state, stops at the first failure and leaves the
state as the failed step did.
-/

namespace Inlay

namespace Analysis

variable {σ α β : Type} {work : Analysis σ α} {next : α → Analysis σ β} {state later : σ}

theorem run_bind (work : Analysis σ α) (next : α → Analysis σ β) (state : σ) :
    (work >>= next).run.run state =
      match work.run.run state with
      | (.ok value, middle) => (next value).run.run middle
      | (.error failure, middle) => (.error failure, middle) := by
  rw [ExceptT.run_bind, StateT.run_bind]
  rcases work.run.run state with ⟨failure | value, middle⟩ <;> rfl

/-- What follows a step that succeeds starts where the step has ended. -/
theorem run_bind_ok {value : α} {middle : σ} (ran : work.run.run state = (.ok value, middle)) :
    (work >>= next).run.run state = (next value).run.run middle := by
  rw [run_bind, ran]

theorem run_bind_error {failure : Failure} (ran : work.run.run state = (.error failure, later)) :
    (work >>= next).run.run state = (.error failure, later) := by
  rw [run_bind, ran]

/-- A run that succeeds went through a first step that did. -/
theorem of_run_bind_ok {result : β} (ran : (work >>= next).run.run state = (.ok result, later)) :
    ∃ value middle, work.run.run state = (.ok value, middle) ∧
      (next value).run.run middle = (.ok result, later) := by
  rw [run_bind] at ran
  rcases outcome : work.run.run state with ⟨failure | value, middle⟩
  · rw [outcome] at ran
    cases ran
  · rw [outcome] at ran
    exact ⟨value, middle, rfl, ran⟩

theorem run_tryCatch_ok {value : α} (ran : work.run.run state = (.ok value, later))
    (handler : Failure → Analysis σ α) :
    (tryCatch work handler : Analysis σ α).run.run state = (.ok value, later) := by
  rw [ExceptT.run_tryCatch, StateT.run_bind, ran]
  rfl

/-- An attempt does not fail; it has the outcome as its value. -/
theorem run_attempt (work : Analysis σ α) (state : σ) :
    (attempt work).run.run state =
      (.ok (work.run.run state).1, (work.run.run state).2) := rfl

end Analysis

end Inlay
