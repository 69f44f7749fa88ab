import Mathlib.Data.Int.Notation
import Mathlib.Tactic.Common

/-!
# `AsyncTaskTracker`

The tracker is told how many tasks to wait for and counts down as they complete.
The completion that brings the count to zero, and no other, invokes the callback.
-/

namespace BiddingAuction

inductive TaskStatus where
  | success
  | emptyResponse
  | skipped
  | error
  | cancelled
deriving DecidableEq, Repr

structure AsyncTaskTracker where
  numTasksToTrack : ℤ
  pendingTasksCount : ℤ
  successfulTasksCount : ℕ := 0
  emptyTasksCount : ℕ := 0
  skippedTasksCount : ℕ := 0
  errorTasksCount : ℕ := 0
  cancelledTasksCount : ℕ := 0
deriving DecidableEq, Repr

namespace AsyncTaskTracker

/-- `SetNumTasksToTrack`, which the constructor amounts to. -/
def setNumTasksToTrack (numTasksToTrack : ℤ) : AsyncTaskTracker where
  numTasksToTrack := numTasksToTrack
  pendingTasksCount := numTasksToTrack

variable (t : AsyncTaskTracker) (taskStatus : TaskStatus)

/-- `AnyTaskSuccessfullyCompleted`: an empty or skipped response may be chaff's. -/
def anyTaskSuccessfullyCompleted : Bool :=
  t.successfulTasksCount > 0 || (t.emptyTasksCount > 0 || t.skippedTasksCount > 0) ||
    t.errorTasksCount = 0

def countTask : AsyncTaskTracker :=
  let t := { t with pendingTasksCount := t.pendingTasksCount - 1 }
  match taskStatus with
  | .success => { t with successfulTasksCount := t.successfulTasksCount + 1 }
  | .emptyResponse => { t with emptyTasksCount := t.emptyTasksCount + 1 }
  | .skipped => { t with skippedTasksCount := t.skippedTasksCount + 1 }
  | .error => { t with errorTasksCount := t.errorTasksCount + 1 }
  | .cancelled => { t with cancelledTasksCount := t.cancelledTasksCount + 1 }

/-- `TaskCompleted`, with what `on_all_tasks_done` is invoked with, if it is. -/
def taskCompleted : AsyncTaskTracker × Option Bool :=
  let t := t.countTask taskStatus
  (t, if t.pendingTasksCount = 0 then some t.anyTaskSuccessfullyCompleted else none)

@[simp] theorem setNumTasksToTrack_pending (n : ℤ) :
    (setNumTasksToTrack n).pendingTasksCount = n := rfl

@[simp] theorem taskCompleted_pending :
    (t.taskCompleted taskStatus).1.pendingTasksCount = t.pendingTasksCount - 1 := by
  cases taskStatus <;> rfl

theorem taskCompleted_isSome :
    (t.taskCompleted taskStatus).2.isSome = true ↔ t.pendingTasksCount = 1 := by
  have hpending := t.taskCompleted_pending taskStatus
  unfold taskCompleted at hpending ⊢
  dsimp only at hpending ⊢
  rw [hpending]
  split
  · simp only [Option.isSome_some, true_iff]
    omega
  · simp only [Option.isSome_none, Bool.false_eq_true, false_iff]
    omega

end AsyncTaskTracker

end BiddingAuction
