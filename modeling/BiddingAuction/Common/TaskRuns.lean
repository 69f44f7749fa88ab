import BiddingAuction.Common.AsyncTaskTracker
import Mathlib.Data.List.Basic

/-!
# Runs of the task tracker

Completions come in from any thread. What a client does for one of them is done under the lock
that the counts are under; the callback is invoked after the lock is left, by the completion that
was last. In any order of the completions it is invoked once, and what it is told depends on how
many tasks ended in which way.
-/

namespace BiddingAuction

namespace AsyncTaskTracker

/-! ## Counts -/

theorem foldl_countTask_counts (statuses : List TaskStatus) (t : AsyncTaskTracker) :
    (statuses.foldl countTask t).successfulTasksCount =
        t.successfulTasksCount + statuses.count .success ∧
      (statuses.foldl countTask t).emptyTasksCount =
        t.emptyTasksCount + statuses.count .emptyResponse ∧
      (statuses.foldl countTask t).skippedTasksCount =
        t.skippedTasksCount + statuses.count .skipped ∧
      (statuses.foldl countTask t).errorTasksCount =
        t.errorTasksCount + statuses.count .error := by
  induction statuses generalizing t with
  | nil => exact ⟨rfl, rfl, rfl, rfl⟩
  | cons status rest ih =>
    obtain ⟨hsuccess, hempty, hskipped, herror⟩ := ih (t.countTask status)
    rw [List.foldl_cons, hsuccess, hempty, hskipped, herror]
    simp only [List.count_cons]
    cases status <;> simp [countTask] <;> omega

theorem foldl_countTask_pending (statuses : List TaskStatus) (t : AsyncTaskTracker) :
    (statuses.foldl countTask t).pendingTasksCount = t.pendingTasksCount - statuses.length := by
  induction statuses generalizing t with
  | nil => exact (Int.sub_zero _).symm
  | cons status rest ih =>
    have hpending : (t.countTask status).pendingTasksCount = t.pendingTasksCount - 1 :=
      t.taskCompleted_pending status
    rw [List.foldl_cons, ih, hpending, List.length_cons]
    omega

/-- A task succeeded, some may have been chaff, or none failed. -/
def isSuccessful (statuses : List TaskStatus) : Bool :=
  statuses.count .success > 0 ||
    (statuses.count .emptyResponse > 0 || statuses.count .skipped > 0) ||
      statuses.count .error = 0

theorem anyTaskSuccessfullyCompleted_eq (n : ℤ) (statuses : List TaskStatus) :
    (statuses.foldl countTask (setNumTasksToTrack n)).anyTaskSuccessfullyCompleted =
      isSuccessful statuses := by
  obtain ⟨hsuccess, hempty, hskipped, herror⟩ :=
    foldl_countTask_counts statuses (setNumTasksToTrack n)
  unfold anyTaskSuccessfullyCompleted isSuccessful
  rw [hsuccess, hempty, hskipped, herror]
  simp only [setNumTasksToTrack, Nat.zero_add]

end AsyncTaskTracker

open AsyncTaskTracker

/-- A call of `TaskCompleted`, with what the client wants done under the lock. -/
structure TaskNotification (σ : Type) where
  taskStatus : TaskStatus
  onSingleTaskDone : Option (σ → σ) := none

/-- A tracker, the state of its client, and what was called so far. -/
structure TaskRun (σ : Type) where
  tracker : AsyncTaskTracker
  client : σ
  notified : List (TaskNotification σ) := []
  /-- Calls that were last, have left the lock, and are yet to invoke the callback. -/
  leaving : List Bool := []
  /-- What the callback was told, each time that it was invoked. -/
  invoked : List Bool := []

/-- A call goes through the lock, or one that has left it invokes the callback. -/
inductive TaskStep (σ : Type) where
  | notify (notification : TaskNotification σ)
  | callback (i : ℕ)

namespace TaskRun

variable {σ : Type}

def start (numTasksToTrack : ℕ) (client : σ) : TaskRun σ where
  tracker := .setNumTasksToTrack numTasksToTrack
  client := client

def statuses (s : TaskRun σ) : List TaskStatus := s.notified.map TaskNotification.taskStatus

def step (s : TaskRun σ) : TaskStep σ → TaskRun σ
  | .notify notification =>
    let completed := s.tracker.taskCompleted notification.taskStatus
    { s with
      tracker := completed.1
      client := notification.onSingleTaskDone.getD id s.client
      notified := s.notified ++ [notification]
      leaving := s.leaving ++ completed.2.toList }
  | .callback i =>
    match s.leaving[i]? with
    | none => s
    | some successful =>
      { s with leaving := s.leaving.eraseIdx i, invoked := s.invoked ++ [successful] }

/-- What the callback is told of `n` tasks, once they are all completed. -/
def verdicts (n : ℕ) (s : TaskRun σ) : List Bool :=
  if 0 < n ∧ n ≤ s.notified.length then [isSuccessful (s.statuses.take n)] else []

/-- The counts are of the calls that were made, and the last of `n` has the callback. -/
structure Inv (n : ℕ) (client : σ) (s : TaskRun σ) : Prop where
  tracker : s.tracker = s.statuses.foldl countTask (setNumTasksToTrack n)
  client : s.client = s.notified.foldl
    (fun client notification => notification.onSingleTaskDone.getD id client) client
  callbacks : s.leaving ++ s.invoked = s.verdicts n

variable {n : ℕ} {client : σ} {s : TaskRun σ}

theorem inv_start : Inv n client (start n client) where
  tracker := rfl
  client := rfl
  callbacks := by
    unfold verdicts
    rw [if_neg]
    · rfl
    · exact fun h => absurd (Nat.lt_of_lt_of_le h.1 h.2) (Nat.lt_irrefl 0)

/-- The call that brings the count to zero is the `n`-th. -/
theorem Inv.taskCompleted (h : Inv n client s) (taskStatus : TaskStatus) :
    (s.tracker.taskCompleted taskStatus).2 =
      if n = s.notified.length + 1 then some (isSuccessful (s.statuses ++ [taskStatus]))
      else none := by
  have hcounted : s.tracker.countTask taskStatus =
      (s.statuses ++ [taskStatus]).foldl countTask (setNumTasksToTrack n) := by
    rw [List.foldl_append, ← h.tracker]
    rfl
  have hpending := foldl_countTask_pending (s.statuses ++ [taskStatus]) (setNumTasksToTrack n)
  have hlength : (s.statuses ++ [taskStatus]).length = s.notified.length + 1 := by
    unfold statuses
    rw [List.length_append, List.length_map, List.length_singleton]
  unfold AsyncTaskTracker.taskCompleted
  dsimp only
  rw [hcounted, hpending, hlength, anyTaskSuccessfullyCompleted_eq, setNumTasksToTrack_pending]
  refine if_congr ?_ rfl rfl
  omega

theorem Inv.notify (h : Inv n client s) (notification : TaskNotification σ) :
    Inv n client (s.step (.notify notification)) where
  tracker := by
    unfold step statuses
    rw [List.map_append, List.foldl_append]
    exact congrArg (countTask · notification.taskStatus) h.tracker
  client := by
    unfold step
    rw [List.foldl_append, ← h.client]
    rfl
  callbacks := by
    have hbefore := h.callbacks
    have hcompleted := h.taskCompleted notification.taskStatus
    have hlength : s.statuses.length = s.notified.length := List.length_map _
    unfold verdicts step statuses at *
    dsimp only at hbefore hcompleted ⊢
    rw [hcompleted, List.length_append, List.length_singleton, List.map_append]
    by_cases hlast : n = s.notified.length + 1
    · -- nothing was called back before
      rw [if_neg (by omega), List.append_eq_nil_iff] at hbefore
      rw [if_pos hlast, if_pos (by omega), hbefore.1, hbefore.2, List.take_of_length_le]
      · rfl
      · rw [List.length_append, hlength, hlast]
        exact Nat.le_refl _
    · rw [if_neg hlast, Option.toList_none, List.append_nil, hbefore]
      by_cases hdone : 0 < n ∧ n ≤ s.notified.length
      · rw [if_pos hdone, if_pos ⟨hdone.1, by omega⟩, List.take_append_of_le_length (by omega)]
      · rw [if_neg hdone, if_neg (by omega)]

theorem length_verdicts_le : (s.verdicts n).length ≤ 1 := by
  unfold verdicts
  split <;> simp

theorem Inv.leaving (h : Inv n client s) :
    s.leaving = [] ∨ ∃ successful, s.leaving = [successful] ∧ s.invoked = [] := by
  have hone : (s.leaving ++ s.invoked).length ≤ 1 := h.callbacks ▸ length_verdicts_le
  rcases hleaving : s.leaving with _ | ⟨successful, rest⟩
  · exact .inl rfl
  · rw [hleaving, List.cons_append, List.length_cons, List.length_append] at hone
    obtain rfl : rest = [] := List.eq_nil_of_length_eq_zero (by omega)
    exact .inr ⟨successful, rfl, List.eq_nil_of_length_eq_zero (by omega)⟩

theorem step_callback (i : ℕ) : s.step (.callback i) =
    match s.leaving[i]? with
    | none => s
    | some successful =>
      { s with leaving := s.leaving.eraseIdx i, invoked := s.invoked ++ [successful] } := rfl

theorem Inv.callback (h : Inv n client s) (i : ℕ) : Inv n client (s.step (.callback i)) := by
  rw [step_callback]
  rcases h.leaving with hleaving | ⟨successful, hleaving, hinvoked⟩
  · rw [hleaving]
    exact h
  · rw [hleaving, hinvoked]
    have hcallbacks := h.callbacks
    rw [hleaving, hinvoked] at hcallbacks
    cases i with
    | zero => exact ⟨h.tracker, h.client, hcallbacks⟩
    | succ i => exact h

theorem Inv.run (h : Inv n client s) (trace : List (TaskStep σ)) :
    Inv n client (trace.foldl step s) := by
  induction trace generalizing s with
  | nil => exact h
  | cons e rest ih =>
    rw [List.foldl_cons]
    cases e with
    | notify notification => exact ih (h.notify notification)
    | callback i => exact ih (h.callback i)

/-- However the calls interleave, the callback of `n` tasks is invoked once, by the last of them,
and is told whether they were successful. Without tasks it is not invoked. -/
theorem callback_once (n : ℕ) (client : σ) (trace : List (TaskStep σ)) :
    let s := trace.foldl step (start n client)
    s.client = s.notified.foldl
        (fun client notification => notification.onSingleTaskDone.getD id client) client ∧
      (s.notified.length < n ∨ n = 0 → s.leaving = [] ∧ s.invoked = []) ∧
      (0 < n → n ≤ s.notified.length →
        s.leaving ++ s.invoked = [isSuccessful (s.statuses.take n)] ∧
        (s.step (.callback 0)).leaving = [] ∧
        (s.step (.callback 0)).invoked = [isSuccessful (s.statuses.take n)]) := by
  intro s
  have h : Inv n client s := inv_start.run trace
  have hcallbacks := h.callbacks
  unfold verdicts at hcallbacks
  refine ⟨h.client, fun hnot => ?_, fun hn hall => ?_⟩
  · rw [if_neg (by omega)] at hcallbacks
    exact List.append_eq_nil_iff.mp hcallbacks
  · rw [if_pos ⟨hn, hall⟩] at hcallbacks
    refine ⟨hcallbacks, ?_⟩
    rw [step_callback]
    rcases h.leaving with hleaving | ⟨successful, hleaving, hinvoked⟩
    · rw [hleaving] at hcallbacks ⊢
      exact ⟨hleaving, hcallbacks⟩
    · rw [hleaving, hinvoked] at hcallbacks ⊢
      exact ⟨rfl, hcallbacks⟩

/-- No call is the last of none, so nothing invokes the callback. -/
theorem not_callback_once : ¬ ∃ trace : List (TaskStep Unit),
    (trace.foldl step (start 0 ())).notified.length = 0 ∧
      (trace.foldl step (start 0 ())).invoked.length = 1 := by
  rintro ⟨trace, -, hinvoked⟩
  have hinv : Inv 0 () (trace.foldl step (start 0 ())) := inv_start.run trace
  have hcallbacks := hinv.callbacks
  unfold verdicts at hcallbacks
  rw [if_neg (by omega), List.append_eq_nil_iff] at hcallbacks
  rw [hcallbacks.2] at hinvoked
  cases hinvoked

end TaskRun

end BiddingAuction
