/-
**Futures of the bounded executor and the commit state of an edit** (`lsp/executor.py`).

- `Future` is the future of a work item: a worker takes it while it is pending, and it can be
  cancelled only until then.
- `EditCommit` is shared between one queued edit and the caller that waits for it. It moves forward
  only: queued, running, installed, done.
-/

import Mathlib.Tactic.Common

namespace SerenaLight.Lsp

/-- `concurrent.futures.Future`. -/
inductive Future (Value Failure : Type) where
  | pending
  | cancelled
  | running
  | returned (value : Value)
  | raised (failure : Failure)
  deriving DecidableEq, Repr

namespace Future

variable {Value Failure : Type}

/-- `Future.cancel`, with its answer. -/
def cancel : Future Value Failure → Future Value Failure × Bool
  | pending => (cancelled, true)
  | cancelled => (cancelled, true)
  | future => (future, false)

/-- `Future.set_running_or_notify_cancel`; none when the item is dropped. -/
def setRunning : Future Value Failure → Option (Future Value Failure)
  | pending => some running
  | _ => none

/-- `Future.done`. -/
def done : Future Value Failure → Bool
  | pending => false
  | running => false
  | _ => true

end Future

/-- `EditCommitState`. -/
inductive EditCommitState where
  | queued
  | running
  | installed
  | done
  deriving DecidableEq, Repr

namespace EditCommitState

/-- The place of a state in `_COMMIT_ORDER`. -/
def index : EditCommitState → Nat
  | queued => 0
  | running => 1
  | installed => 2
  | done => 3

/-- `EditCommit._advance`; a move that is not forward raises. -/
def advance (current next : EditCommitState) : Option EditCommitState :=
  if next.index ≤ current.index then none else some next

/-- `EditCommit.installed`. -/
def reachedDisk (state : EditCommitState) : Bool := state = installed || state = done

theorem index_of_advance {current next state : EditCommitState}
    (moved : advance current next = some state) : current.index < state.index ∧ state = next := by
  unfold advance at moved
  by_cases back : next.index ≤ current.index
  · rw [if_pos back] at moved
    cases moved
  · rw [if_neg back] at moved
    cases moved
    exact ⟨Nat.not_le.mp back, rfl⟩

end EditCommitState

end SerenaLight.Lsp
