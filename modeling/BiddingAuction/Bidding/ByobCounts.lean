import BiddingAuction.Bidding.ByobCall

/-!
# What is outstanding of a binary bidding call

What is outstanding is what the tracker or the counter of the batch says, in every state of
every run: each execution is counted once, by its callback, by its failed dispatch or with
the rest of an abandoned batch. Without batching the last count finishes the call.
-/

namespace BiddingAuction

open Foundation

namespace Byob

namespace Setup

variable {F : Type} (u : Setup F)

/-- How often `EncryptResponseAndFinish` calls `Finish`. -/
def finishes : ℕ :=
  match u.encrypts with
  | .ok () => 1
  | .error _ => 2

theorem length_encryptResponseAndFinish (status : GrpcStatusCode × String)
    (bids : List (AdWithBid F)) :
    (u.encryptResponseAndFinish status bids).statuses.length = u.finishes := by
  unfold encryptResponseAndFinish finishes
  cases u.encrypts <;> rfl

theorem length_onAllBidsDone (r : Reactor F) (anySuccessfulBids : Bool) :
    (u.onAllBidsDone r anySuccessfulBids).statuses.length = u.finishes := by
  unfold onAllBidsDone finishWithNoBids
  split
  · exact u.length_encryptResponseAndFinish _ _
  · split
    · exact u.length_encryptResponseAndFinish _ _
    · split <;> exact u.length_encryptResponseAndFinish _ _

theorem length_finishBatch (answers : List (Answer F))
    (executeStatus : Except GrpcStatusCode Unit) :
    (u.finishBatch answers executeStatus).statuses.length = u.finishes := by
  unfold finishBatch finishWithNoBids
  split
  · exact u.length_encryptResponseAndFinish _ _
  · exact u.length_encryptResponseAndFinish _ _
  · exact u.length_onAllBidsDone _ _

end Setup

namespace BinaryCall

variable {F : Type}

/-! ## What is outstanding -/

def Task.outstanding : Task → ℕ
  | .counted => 0
  | _ => 1

/-- How often the slot of an execution of a batch is written. -/
def Task.writes : Task → ℕ
  | .waiting | .running => 0
  | .answered _ | .counted => 1

def Task.rank : Task → ℕ
  | .waiting => 3
  | .running => 2
  | .answered _ => 1
  | .counted => 0

def State.outstanding (s : State F) : ℕ := total (fun slot => slot.task.outstanding) s.slots

def Phase.isActive : Phase → Bool
  | .dispatching _ | .awaiting | .cancelled | .returned | .finished => true
  | .notStarted | .requestingBatch | .queued | .ended => false

variable (c : BinaryCall F)

def isCancelled : Bool := c.setup.enableCancellation && c.isCancelledAtStart

/-- The executions before this one were dispatched, or failed to be. -/
def upTo : Phase → ℕ
  | .dispatching igIndex => igIndex
  | .notStarted | .requestingBatch | .queued | .ended => 0
  | .awaiting | .cancelled | .returned | .finished => c.igNames.length

def Comes : Phase → Prop
  | .notStarted => True
  | .ended => c.isCancelled = true ∨ c.isBatch = true
  | .dispatching igIndex => c.isCancelled = false ∧ igIndex < c.igNames.length
  | .awaiting => c.isCancelled = false
  | .requestingBatch | .queued | .cancelled | .returned | .finished =>
    c.isCancelled = false ∧ c.isBatch = true

def counter (s : State F) : ℤ :=
  if c.isBatch then s.count else s.asyncTaskTracker.pendingTasksCount

def IsFinished (s : State F) : Prop :=
  s.phase = .ended ∨ s.phase = .finished ∨
    (c.isBatch = false ∧ s.phase.isActive = true ∧ c.igNames ≠ [] ∧ s.outstanding = 0)

/-- An execution as it can be while those before `upTo` were dispatched. -/
structure SlotOk (upTo igIndex : ℕ) (slot : Slot F) : Prop where
  waiting : slot.task = .waiting ↔ upTo ≤ igIndex
  writes : slot.writes.length = if c.isBatch then slot.task.writes else 0
  /-- Without batching the status of the task is kept until it is counted. -/
  answered : ∀ taskStatus, slot.task = .answered taskStatus → taskStatus.isNone = c.isBatch

/-- What holds in every state of every run. -/
structure Inv (s : State F) : Prop where
  length : s.slots.length = c.igNames.length
  comes : c.Comes s.phase
  slots : ∀ i slot, s.slots[i]? = some slot → c.SlotOk (c.upTo s.phase) i slot
  counter : s.phase.isActive = true → c.counter s = s.outstanding
  returned : s.phase = .returned ∨ s.phase = .finished → s.outstanding = 0
  finished : c.IsFinished s → s.finished.length = c.setup.finishes
  unfinished : ¬ c.IsFinished s → s.finished = []

variable {c} {s s' : State F} {i : ℕ} {slot : Slot F}

/-! ## The loop over the interest groups -/

theorem comes_loopAt (h : c.isCancelled = false) (i : ℕ) : c.Comes (c.loopAt i) := by
  unfold loopAt
  split
  · rename_i hi
    exact ⟨h, hi⟩
  · exact h

theorem upTo_loopAt (h : i ≤ c.igNames.length) : c.upTo (c.loopAt i) = i := by
  unfold loopAt
  split
  · rfl
  · show c.igNames.length = i
    omega

theorem loopAt_cases (i : ℕ) : c.loopAt i = .dispatching i ∨ c.loopAt i = .awaiting := by
  unfold loopAt
  split
  · exact .inl rfl
  · exact .inr rfl

/-! ## Counting -/

theorem outstanding_eq_one {task : Task} (h : task ≠ .counted) : task.outstanding = 1 := by
  cases task with
  | counted => exact absurd rfl h
  | waiting | running | answered => rfl

theorem outstanding_pos (hslot : s.slots[i]? = some slot) (hcounted : slot.task ≠ .counted) :
    0 < s.outstanding := by
  have hle := le_total_of_mem (fun slot : Slot F => slot.task.outstanding)
    (List.mem_of_getElem? hslot)
  rw [outstanding_eq_one hcounted] at hle
  exact hle

theorem Inv.outstanding_drop (h : c.Inv s) (i : ℕ) (hupTo : c.upTo s.phase ≤ i) :
    total (fun slot => slot.task.outstanding) (s.slots.drop i) = c.igNames.length - i := by
  rw [← h.length, ← List.length_drop]
  apply total_eq_length
  intro slot hslot
  obtain ⟨j, hj⟩ := List.mem_iff_getElem?.mp hslot
  rw [List.getElem?_drop] at hj
  have hwaiting : slot.task = .waiting := by
    rw [(h.slots _ slot hj).waiting]
    omega
  rw [hwaiting]
  rfl

theorem Inv.outstanding_eq_length (h : c.Inv s) (hupTo : c.upTo s.phase = 0) :
    s.outstanding = c.igNames.length :=
  h.outstanding_drop 0 hupTo.le

/-! ## Batches -/

theorem isBatch_of_none (hbatch : c.batchStartTimeout = none) : c.isBatch = false := by
  unfold isBatch
  rw [hbatch]
  rfl

theorem isBatch_of_some {timeout : ℕ} (hbatch : c.batchStartTimeout = some timeout) :
    c.isBatch = true := by
  unfold isBatch
  rw [hbatch]
  rfl

theorem counter_of_batch (hbatch : c.isBatch = true) (s : State F) : c.counter s = s.count := by
  unfold counter
  rw [hbatch]
  rfl

/-! ## Executions under way -/

def Phase.isBusy : Phase → Bool
  | .dispatching _ | .awaiting | .cancelled => true
  | .notStarted | .requestingBatch | .queued | .returned | .finished | .ended => false

theorem isActive_of_isBusy {phase : Phase} (h : phase.isBusy = true) : phase.isActive = true := by
  cases phase <;> first | rfl | cases h

theorem isBusy_loopAt (i : ℕ) : (c.loopAt i).isBusy = true := by
  rcases c.loopAt_cases i with h | h <;> rw [h] <;> rfl

theorem Inv.isBusy (h : c.Inv s) (hslot : s.slots[i]? = some slot) (hwaiting : slot.task ≠ .waiting)
    (hcounted : slot.task ≠ .counted) : s.phase.isBusy = true := by
  have hupTo : ¬ c.upTo s.phase ≤ i := fun hle => hwaiting ((h.slots i slot hslot).waiting.mpr hle)
  have hpos := outstanding_pos hslot hcounted
  have hreturned := h.returned
  cases hphase : s.phase with
  | dispatching | awaiting | cancelled => rfl
  | notStarted | requestingBatch | queued | ended =>
    rw [hphase] at hupTo
    exact absurd (Nat.zero_le i) hupTo
  | returned | finished =>
    have := hreturned (by simp [hphase])
    omega

theorem isFinished_iff_of_isBusy (hbusy : s.phase.isBusy = true) :
    c.IsFinished s ↔ c.isBatch = false ∧ c.igNames ≠ [] ∧ s.outstanding = 0 := by
  have hactive := isActive_of_isBusy hbusy
  have hended : s.phase ≠ .ended := fun h => by rw [h] at hbusy; cases hbusy
  have hfinished : s.phase ≠ .finished := fun h => by rw [h] at hbusy; cases hbusy
  simp [IsFinished, hended, hfinished, hactive]

theorem not_isFinished_of_pos (hbusy : s.phase.isBusy = true) (hpos : 0 < s.outstanding) :
    ¬ c.IsFinished s := by
  rw [isFinished_iff_of_isBusy hbusy]
  rintro ⟨-, -, h⟩
  omega

/-- A step of one execution: what counts down is counted, and the last count of the tracker
finishes the call. -/
theorem Inv.of_set (h : c.Inv s) (hslot : s.slots[i]? = some slot) (slot' : Slot F)
    (hcounted : slot.task ≠ .counted) (hbusy : s.phase.isBusy = true)
    (hbusy' : s'.phase.isBusy = true) (hcomes : c.Comes s'.phase)
    (hslots : s'.slots = s.slots.set i slot')
    (hupTo : ∀ j, j ≠ i → (c.upTo s'.phase ≤ j ↔ c.upTo s.phase ≤ j))
    (hok : c.SlotOk (c.upTo s'.phase) i slot')
    (hcounter : c.counter s' + 1 = c.counter s + slot'.task.outstanding)
    (hfinished : s'.finished.length = s.finished.length +
      if c.isBatch = false ∧ c.counter s' = 0 then c.setup.finishes else 0) : c.Inv s' := by
  have hpos := outstanding_pos hslot hcounted
  have hunfinished := h.unfinished (not_isFinished_of_pos hbusy hpos)
  have houtstanding : s'.outstanding + 1 = s.outstanding + slot'.task.outstanding := by
    have := total_set (fun slot : Slot F => slot.task.outstanding) hslot slot'
    rw [outstanding_eq_one hcounted, ← hslots] at this
    exact this
  have hcount : c.counter s' = s'.outstanding := by
    have := h.counter (isActive_of_isBusy hbusy)
    omega
  have hnames : c.igNames ≠ [] := by
    obtain ⟨hi, -⟩ := List.getElem?_eq_some_iff.mp hslot
    intro hnil
    rw [h.length, hnil] at hi
    exact absurd hi (Nat.not_lt_zero i)
  rw [hunfinished, List.length_nil, Nat.zero_add, hcount] at hfinished
  have hiff := isFinished_iff_of_isBusy (c := c) hbusy'
  refine ⟨?_, hcomes, ?_, fun _ => hcount, ?_, ?_, ?_⟩
  · rw [hslots, List.length_set]
    exact h.length
  · intro j slot₁ hj
    rw [hslots, List.getElem?_set] at hj
    split at hj
    · rename_i hij
      subst hij
      split at hj
      · cases hj
        exact hok
      · cases hj
    · rename_i hij
      have hold := h.slots j slot₁ hj
      refine ⟨?_, hold.writes, hold.answered⟩
      rw [hold.waiting, hupTo j (Ne.symm hij)]
  · intro hreturned
    rcases hreturned with hphase | hphase <;> rw [hphase] at hbusy' <;> cases hbusy'
  · intro hdone
    obtain ⟨hbatch, -, hzero⟩ := hiff.mp hdone
    rw [hfinished, if_pos ⟨hbatch, by omega⟩]
  · intro hnot
    rw [if_neg] at hfinished
    · exact List.eq_nil_of_length_eq_zero hfinished
    · rintro ⟨hbatch, hzero⟩
      exact hnot (hiff.mpr ⟨hbatch, hnames, by omega⟩)

/-! ## What the tracker does -/

@[simp] theorem taskCompleted_phase (taskStatus : TaskStatus) :
    (c.taskCompleted s taskStatus).phase = s.phase := by
  unfold taskCompleted
  dsimp only
  split <;> rfl

@[simp] theorem taskCompleted_slots (taskStatus : TaskStatus) :
    (c.taskCompleted s taskStatus).slots = s.slots := by
  unfold taskCompleted
  dsimp only
  split <;> rfl

theorem counter_taskCompleted (hbatch : c.isBatch = false) (taskStatus : TaskStatus) :
    c.counter (c.taskCompleted s taskStatus) = c.counter s - 1 := by
  have hpending : (c.taskCompleted s taskStatus).asyncTaskTracker =
      (s.asyncTaskTracker.taskCompleted taskStatus).1 := by
    unfold taskCompleted
    dsimp only
    split <;> rfl
  unfold counter
  rw [hbatch, hpending]
  exact s.asyncTaskTracker.taskCompleted_pending taskStatus

theorem length_finished_taskCompleted (hbatch : c.isBatch = false) (taskStatus : TaskStatus) :
    (c.taskCompleted s taskStatus).finished.length = s.finished.length +
      if c.isBatch = false ∧ c.counter (c.taskCompleted s taskStatus) = 0 then c.setup.finishes
      else 0 := by
  have hcounter : c.counter s = s.asyncTaskTracker.pendingTasksCount := by
    unfold counter
    rw [hbatch]
    rfl
  have hlast := s.asyncTaskTracker.taskCompleted_isSome taskStatus
  rw [counter_taskCompleted hbatch, hcounter]
  unfold taskCompleted
  dsimp only
  split
  · rename_i hnone
    rw [hnone] at hlast
    rw [if_neg]
    · rfl
    · rintro ⟨-, hzero⟩
      exact absurd (hlast.mpr (by omega)) (by simp)
  · rename_i any hsome
    rw [hsome] at hlast
    rw [if_pos ⟨hbatch, by have := hlast.mp rfl; omega⟩]
    simp [State.finish, c.setup.length_onAllBidsDone]

/-! ## The steps of an execution -/

theorem Inv.length_finished_of_quiet (h : c.Inv s) (hpos : 0 < s.outstanding)
    (hbusy : s.phase.isBusy = true) (heq : s'.finished = s.finished)
    (hquiet : c.isBatch = true ∨ c.counter s' = c.counter s) :
    s'.finished.length = s.finished.length +
      if c.isBatch = false ∧ c.counter s' = 0 then c.setup.finishes else 0 := by
  rw [heq, if_neg]
  · rfl
  · rintro ⟨hbatch, hzero⟩
    have hcount := h.counter (isActive_of_isBusy hbusy)
    rcases hquiet with hquiet | hquiet
    · rw [hbatch] at hquiet
      cases hquiet
    · omega

theorem Inv.waiting_of_dispatching (h : c.Inv s) (hphase : s.phase = .dispatching i)
    (hslot : s.slots[i]? = some slot) : slot.task = .waiting := by
  rw [(h.slots i slot hslot).waiting, hphase]
  exact Nat.le_refl i

theorem Inv.outstanding_pos_of_dispatching (h : c.Inv s) (hphase : s.phase = .dispatching i)
    (hslot : s.slots[i]? = some slot) : 0 < s.outstanding := by
  apply outstanding_pos hslot
  rw [h.waiting_of_dispatching hphase hslot]
  nofun

theorem Inv.writes_of_dispatching (h : c.Inv s) (hphase : s.phase = .dispatching i)
    (hslot : s.slots[i]? = some slot) : slot.writes = [] := by
  have hwrites := (h.slots i slot hslot).writes
  rw [h.waiting_of_dispatching hphase hslot] at hwrites
  apply List.eq_nil_of_length_eq_zero
  rw [hwrites]
  exact ite_self 0

theorem Inv.of_turn (h : c.Inv s) (hphase : s.phase = .dispatching i)
    (hslot : s.slots[i]? = some slot) (slot' : Slot F) (hphase' : s'.phase = c.loopAt (i + 1))
    (hslots : s'.slots = s.slots.set i slot') (hwaiting : slot'.task ≠ .waiting)
    (hwrites : slot'.writes.length = if c.isBatch then slot'.task.writes else 0)
    (hanswered : ∀ taskStatus, slot'.task = .answered taskStatus → taskStatus.isNone = c.isBatch)
    (hcounter : c.counter s' + 1 = c.counter s + slot'.task.outstanding)
    (hfinished : s'.finished.length = s.finished.length +
      if c.isBatch = false ∧ c.counter s' = 0 then c.setup.finishes else 0) : c.Inv s' := by
  have hcomes := h.comes
  rw [hphase] at hcomes
  obtain ⟨hcancelled, hi⟩ := hcomes
  have hupTo' : c.upTo s'.phase = i + 1 := by
    rw [hphase']
    exact upTo_loopAt hi
  have hcounted : slot.task ≠ .counted := by
    rw [h.waiting_of_dispatching hphase hslot]
    nofun
  refine h.of_set hslot slot' hcounted ?_ ?_ ?_ hslots ?_ ?_ hcounter hfinished
  · rw [hphase]
    rfl
  · rw [hphase']
    exact isBusy_loopAt _
  · rw [hphase']
    exact comes_loopAt hcancelled _
  · intro j hj
    rw [hupTo', hphase]
    show i + 1 ≤ j ↔ i ≤ j
    omega
  · refine ⟨?_, hwrites, hanswered⟩
    rw [hupTo']
    constructor
    · intro hw
      exact absurd hw hwaiting
    · intro hle
      exact absurd hle (Nat.not_succ_le_self i)

theorem Inv.dispatch_ok (h : c.Inv s) (hphase : s.phase = .dispatching i)
    (hslot : s.slots[i]? = some slot) : c.Inv (c.dispatch s i slot (.ok ())) := by
  have hbusy : s.phase.isBusy = true := by rw [hphase]; rfl
  have hpos := h.outstanding_pos_of_dispatching hphase hslot
  refine h.of_turn hphase hslot { slot with task := .running } rfl rfl nofun ?_ nofun rfl
    (h.length_finished_of_quiet hpos hbusy rfl (.inr rfl))
  show slot.writes.length = _
  rw [h.writes_of_dispatching hphase hslot]
  exact (ite_self 0).symm

theorem Inv.dispatch_error_unbatched (h : c.Inv s) (hphase : s.phase = .dispatching i)
    (hslot : s.slots[i]? = some slot) (hbatch : c.batchStartTimeout = none)
    (code : GrpcStatusCode) : c.Inv (c.dispatch s i slot (.error code)) := by
  have hisBatch := isBatch_of_none hbatch
  unfold dispatch
  rw [hbatch]
  refine h.of_turn hphase hslot { slot with task := .counted } ?_ ?_ nofun ?_ nofun ?_
    (length_finished_taskCompleted hisBatch .error)
  · rw [taskCompleted_phase]
    rfl
  · rw [taskCompleted_slots]
    rfl
  · show slot.writes.length = _
    rw [h.writes_of_dispatching hphase hslot, hisBatch]
    rfl
  · rw [counter_taskCompleted hisBatch]
    show c.counter s - 1 + 1 = c.counter s + 0
    omega

theorem Inv.dispatch_error_unwaiting (h : c.Inv s) (hphase : s.phase = .dispatching i)
    (hslot : s.slots[i]? = some slot) (hbatch : c.batchStartTimeout = some 0)
    (code : GrpcStatusCode) : c.Inv (c.dispatch s i slot (.error code)) := by
  have hisBatch := isBatch_of_some hbatch
  have hbusy : s.phase.isBusy = true := by rw [hphase]; rfl
  have hpos := h.outstanding_pos_of_dispatching hphase hslot
  unfold dispatch
  rw [hbatch]
  refine h.of_turn hphase hslot ⟨.counted, .error code :: slot.writes⟩ rfl rfl nofun ?_
    nofun ?_ (h.length_finished_of_quiet hpos hbusy rfl (.inl hisBatch))
  · rw [h.writes_of_dispatching hphase hslot, hisBatch]
    rfl
  · rw [counter_of_batch hisBatch, counter_of_batch hisBatch]
    show s.count - 1 + 1 = s.count + 0
    omega

theorem Inv.answer (h : c.Inv s) (hslot : s.slots[i]? = some slot) (hrunning : slot.task = .running)
    (igName : String) (response : UdfResponse F) : c.Inv (c.answer s i slot igName response) := by
  have hwaiting : slot.task ≠ .waiting := by rw [hrunning]; nofun
  have hcounted : slot.task ≠ .counted := by rw [hrunning]; nofun
  have hbusy := h.isBusy hslot hwaiting hcounted
  have hpos := outstanding_pos hslot hcounted
  have hold := h.slots i slot hslot
  have hupTo : ¬ c.upTo s.phase ≤ i := fun hle => hwaiting (hold.waiting.mpr hle)
  have hwrites := hold.writes
  rw [hrunning] at hwrites
  unfold BinaryCall.answer
  split
  · rename_i hbatch
    rw [hbatch] at hwrites
    refine h.of_set hslot ⟨.answered none, response :: slot.writes⟩ hcounted hbusy hbusy
      h.comes rfl (fun _ _ => Iff.rfl) ⟨?_, ?_, ?_⟩ rfl
      (h.length_finished_of_quiet hpos hbusy rfl (.inr rfl))
    · exact iff_of_false nofun hupTo
    · rw [List.length_cons, hwrites, hbatch]
      rfl
    · rintro _ ⟨⟩
      exact hbatch.symm
  · rename_i hbatch
    rw [Bool.not_eq_true] at hbatch
    rw [hbatch] at hwrites
    refine h.of_set hslot { slot with
        task := .answered (some (c.setup.processResponse s.reactor response igName i).2) }
      hcounted hbusy hbusy h.comes rfl (fun _ _ => Iff.rfl) ⟨?_, ?_, ?_⟩ rfl
      (h.length_finished_of_quiet hpos hbusy rfl (.inr rfl))
    · exact iff_of_false nofun hupTo
    · rw [hbatch]
      exact hwrites
    · rintro _ ⟨⟩
      exact hbatch.symm

theorem Inv.complete (h : c.Inv s) (hslot : s.slots[i]? = some slot)
    {taskStatus : Option TaskStatus} (hanswered : slot.task = .answered taskStatus) :
    c.Inv (c.complete s i slot taskStatus) := by
  have hwaiting : slot.task ≠ .waiting := by rw [hanswered]; nofun
  have hcounted : slot.task ≠ .counted := by rw [hanswered]; nofun
  have hbusy := h.isBusy hslot hwaiting hcounted
  have hpos := outstanding_pos hslot hcounted
  have hold := h.slots i slot hslot
  have hupTo : ¬ c.upTo s.phase ≤ i := fun hle => hwaiting (hold.waiting.mpr hle)
  have hbatch := hold.answered taskStatus hanswered
  have hok : c.SlotOk (c.upTo s.phase) i { slot with task := .counted } := by
    refine ⟨iff_of_false nofun hupTo, ?_, nofun⟩
    have hwrites := hold.writes
    rw [hanswered] at hwrites
    exact hwrites
  cases taskStatus with
  | none =>
    have hbatch : c.isBatch = true := hbatch.symm
    refine h.of_set hslot { slot with task := .counted } hcounted hbusy hbusy h.comes rfl
      (fun _ _ => Iff.rfl) hok ?_ (h.length_finished_of_quiet hpos hbusy rfl (.inl hbatch))
    rw [counter_of_batch hbatch, counter_of_batch hbatch]
    show s.count - 1 + 1 = s.count + 0
    omega
  | some taskStatus =>
    have hbatch : c.isBatch = false := hbatch.symm
    unfold BinaryCall.complete
    refine h.of_set hslot { slot with task := .counted } hcounted hbusy ?_ ?_ ?_ ?_ ?_ ?_
      (length_finished_taskCompleted hbatch taskStatus)
    · rw [taskCompleted_phase]
      exact hbusy
    · rw [taskCompleted_phase]
      exact h.comes
    · rw [taskCompleted_slots]
      rfl
    · intro j _
      rw [taskCompleted_phase]
      rfl
    · rw [taskCompleted_phase]
      exact hok
    · rw [counter_taskCompleted hbatch]
      show c.counter s - 1 + 1 = c.counter s + 0
      omega

theorem total_abandon (f : Task → ℕ) (hcounted : f .counted = 0) (code : GrpcStatusCode) :
    total (fun slot => f slot.task) (c.abandon s i code).slots =
      total (fun slot => f slot.task) (s.slots.take i) := by
  have hgone : total (fun slot => f slot.task) ((s.slots.drop i).map fun slot =>
      (⟨.counted, .error code :: slot.writes⟩ : Slot F)) = 0 := by
    apply (total_eq_zero _).mpr
    intro slot hslot
    obtain ⟨slot', -, rfl⟩ := List.mem_map.mp hslot
    exact hcounted
  show total _ (s.slots.take i ++ _) = _
  rw [total_append, hgone, Nat.add_zero]

theorem outstanding_abandon (code : GrpcStatusCode) :
    (c.abandon s i code).outstanding =
      total (fun slot => slot.task.outstanding) (s.slots.take i) :=
  total_abandon Task.outstanding rfl code

theorem Inv.counter_abandon (h : c.Inv s) (hphase : s.phase = .dispatching i)
    (hbatch : c.isBatch = true) (hi : i < c.igNames.length) (code : GrpcStatusCode) :
    c.counter (c.abandon s i code) = (c.abandon s i code).outstanding := by
  have hcounter := h.counter (by rw [hphase]; rfl)
  have hsplit : s.outstanding = total (fun slot => slot.task.outstanding) (s.slots.take i) +
      (c.igNames.length - i) := by
    rw [← h.outstanding_drop i (by rw [hphase]; exact Nat.le_refl i), ← total_append,
      List.take_append_drop]
    rfl
  rw [counter_of_batch hbatch, hsplit] at hcounter
  rw [counter_of_batch hbatch, outstanding_abandon]
  show s.count - (c.igNames.length - i) = _
  omega

theorem Inv.slotOk_abandon (h : c.Inv s) (hphase : s.phase = .dispatching i)
    (hbatch : c.isBatch = true) (hi : i < c.igNames.length) (code : GrpcStatusCode) {j : ℕ}
    (hj : (c.abandon s i code).slots[j]? = some slot) : c.SlotOk c.igNames.length j slot := by
  have hupTo : c.upTo s.phase = i := by rw [hphase]; rfl
  have hj : (s.slots.take i ++ (s.slots.drop i).map fun slot =>
    (⟨.counted, .error code :: slot.writes⟩ : Slot F))[j]? = some slot := hj
  have htake : (s.slots.take i).length = i := by
    rw [List.length_take, h.length]
    omega
  rw [List.getElem?_append, htake] at hj
  split at hj
  · rename_i hlt
    rw [List.getElem?_take_of_lt hlt] at hj
    have hold := h.slots j slot hj
    refine ⟨?_, hold.writes, hold.answered⟩
    rw [hold.waiting, hupTo]
    omega
  · rename_i hge
    rw [List.getElem?_map, List.getElem?_drop, Nat.add_sub_cancel' (by omega)] at hj
    obtain ⟨slot', hslot', rfl⟩ := Option.map_eq_some_iff.mp hj
    obtain ⟨hlt, -⟩ := List.getElem?_eq_some_iff.mp hslot'
    have hold := h.slots j slot' hslot'
    have hwaiting : slot'.task = .waiting := by
      rw [hold.waiting, hupTo]
      omega
    have hwrites := hold.writes
    rw [hwaiting, hbatch] at hwrites
    refine ⟨iff_of_false nofun ?_, ?_, nofun⟩
    · rw [← h.length]
      omega
    · rw [hbatch]
      show slot'.writes.length + 1 = 1
      rw [hwrites]
      rfl

/-- A batch that is abandoned is counted at once, from the execution on that could not be
dispatched. -/
theorem Inv.abandon (h : c.Inv s) (hphase : s.phase = .dispatching i) (hbatch : c.isBatch = true)
    (code : GrpcStatusCode) : c.Inv (c.abandon s i code) := by
  have hcomes := h.comes
  rw [hphase] at hcomes
  obtain ⟨hcancelled, hi⟩ := hcomes
  have hbusy : s.phase.isBusy = true := by rw [hphase]; rfl
  -- the call of a batch is not finished while it is busy, neither before nor after
  have hnot : ∀ s : State F, s.phase.isBusy = true → ¬ c.IsFinished s := by
    intro s hbusy
    rw [isFinished_iff_of_isBusy hbusy, hbatch]
    rintro ⟨hfalse, -⟩
    cases hfalse
  refine ⟨?_, hcancelled, fun j slot hj => h.slotOk_abandon hphase hbatch hi code hj,
    fun _ => h.counter_abandon hphase hbatch hi code, nofun,
    fun hdone => absurd hdone (hnot _ rfl), fun _ => h.unfinished (hnot s hbusy)⟩
  show (s.slots.take i ++ _).length = _
  rw [List.length_append, List.length_map, ← List.length_append, List.take_append_drop]
  exact h.length

theorem Inv.dispatch (h : c.Inv s) (hphase : s.phase = .dispatching i)
    (hslot : s.slots[i]? = some slot) (executionToken : Except GrpcStatusCode Unit) :
    c.Inv (c.dispatch s i slot executionToken) := by
  cases executionToken with
  | ok => exact h.dispatch_ok hphase hslot
  | error code =>
    cases hbatch : c.batchStartTimeout with
    | none => exact h.dispatch_error_unbatched hphase hslot hbatch code
    | some timeout =>
      cases timeout with
      | zero => exact h.dispatch_error_unwaiting hphase hslot hbatch code
      | succ timeout =>
        unfold BinaryCall.dispatch
        rw [hbatch]
        exact h.abandon hphase (isBatch_of_some hbatch) code

/-! ## The steps of the call -/

theorem Inv.of_slots_eq (h : c.Inv s) (hslots : s'.slots = s.slots)
    (hupTo : c.upTo s'.phase = c.upTo s.phase) (hcomes : c.Comes s'.phase)
    (hcounter : s'.phase.isActive = true → c.counter s' = s'.outstanding)
    (hreturned : s'.phase = .returned ∨ s'.phase = .finished → s'.outstanding = 0)
    (hfinished : c.IsFinished s' → s'.finished.length = c.setup.finishes)
    (hunfinished : ¬ c.IsFinished s' → s'.finished = []) : c.Inv s' := by
  refine ⟨?_, hcomes, ?_, hcounter, hreturned, hfinished, hunfinished⟩
  · rw [hslots]
    exact h.length
  · intro j slot hj
    rw [hslots] at hj
    rw [hupTo]
    exact h.slots j slot hj

theorem Inv.execute (h : c.Inv s) (hphase : s.phase = .notStarted) : c.Inv (c.execute s) := by
  have hupTo : c.upTo s.phase = 0 := by rw [hphase]; rfl
  have hnot : ¬ c.IsFinished s := by simp [IsFinished, hphase, Phase.isActive]
  have hnone := h.unfinished hnot
  have houtstanding := h.outstanding_eq_length hupTo
  unfold BinaryCall.execute
  split
  · rename_i hcancelled
    refine h.of_slots_eq rfl hupTo.symm (.inl hcancelled) nofun nofun ?_ ?_
    · intro _
      show (s.finished ++ _).length = _
      rw [hnone, List.nil_append]
      exact c.setup.length_encryptResponseAndFinish _ _
    · intro hnot
      exact absurd (.inl rfl) hnot
  · rename_i hcancelled
    have hcancelled : c.isCancelled = false := Bool.eq_false_of_not_eq_true hcancelled
    split
    · rename_i hbatch
      refine h.of_slots_eq rfl hupTo.symm ⟨hcancelled, hbatch⟩ nofun nofun ?_ fun _ => hnone
      intro hdone
      simp [IsFinished, Phase.isActive] at hdone
    · rename_i hbatch
      have hbatch : c.isBatch = false := Bool.eq_false_of_not_eq_true hbatch
      refine h.of_slots_eq rfl ?_ (comes_loopAt hcancelled 0) ?_ ?_ ?_ fun _ => hnone
      · rw [hupTo]
        exact upTo_loopAt (Nat.zero_le _)
      · intro _
        unfold BinaryCall.counter
        rw [hbatch]
        exact congrArg Int.ofNat houtstanding.symm
      · intro hreturned
        rcases c.loopAt_cases 0 with hloop | hloop <;> rw [hloop] at hreturned <;> simp at hreturned
      · intro hdone
        obtain ⟨-, hnames, hzero⟩ := (isFinished_iff_of_isBusy (isBusy_loopAt 0)).mp hdone
        have hzero : s.outstanding = 0 := hzero
        rw [houtstanding] at hzero
        exact absurd (List.eq_nil_of_length_eq_zero hzero) hnames

theorem Inv.request (h : c.Inv s) (hphase : s.phase = .requestingBatch) (accepted : Bool) :
    c.Inv (c.request s accepted) := by
  have hupTo : c.upTo s.phase = 0 := by rw [hphase]; rfl
  have hnot : ¬ c.IsFinished s := by simp [IsFinished, hphase, Phase.isActive]
  have hnone := h.unfinished hnot
  have hcomes := h.comes
  rw [hphase] at hcomes
  unfold BinaryCall.request
  split
  · refine h.of_slots_eq rfl hupTo.symm hcomes nofun nofun ?_ fun _ => hnone
    intro hdone
    simp [IsFinished, Phase.isActive] at hdone
  · refine h.of_slots_eq rfl hupTo.symm (.inr hcomes.2) nofun nofun ?_ ?_
    · intro _
      show (s.finished ++ _).length = _
      rw [hnone, List.nil_append]
      exact c.setup.length_finishBatch _ _
    · intro hnot
      exact absurd (.inl rfl) hnot

theorem Inv.run (h : c.Inv s) (hphase : s.phase = .queued) : c.Inv (c.run s) := by
  have hupTo : c.upTo s.phase = 0 := by rw [hphase]; rfl
  have hnot : ¬ c.IsFinished s := by simp [IsFinished, hphase, Phase.isActive]
  have houtstanding := h.outstanding_eq_length hupTo
  have hcomes := h.comes
  rw [hphase] at hcomes
  obtain ⟨hcancelled, hbatch⟩ := hcomes
  refine h.of_slots_eq rfl ?_ (comes_loopAt hcancelled 0) ?_ ?_ ?_ fun _ => h.unfinished hnot
  · rw [hupTo]
    exact upTo_loopAt (Nat.zero_le _)
  · intro _
    rw [counter_of_batch hbatch]
    exact congrArg Int.ofNat houtstanding.symm
  · intro hreturned
    rcases c.loopAt_cases 0 with hloop | hloop <;> simp [BinaryCall.run, hloop] at hreturned
  · intro hdone
    obtain ⟨hfalse, -⟩ := (isFinished_iff_of_isBusy (isBusy_loopAt 0)).mp hdone
    rw [hbatch] at hfalse
    cases hfalse

theorem Inv.unfinished_of_batch (h : c.Inv s) (hbatch : c.isBatch = true)
    (hended : s.phase ≠ .ended) (hfinished : s.phase ≠ .finished) : s.finished = [] := by
  apply h.unfinished
  simp [IsFinished, hended, hfinished, hbatch]

theorem Inv.awaited (h : c.Inv s) (hbatch : c.isBatch = true)
    (hphase : s.phase = .awaiting ∨ s.phase = .cancelled) (hcount : s.count = 0) :
    c.Inv { s with phase := .returned } := by
  have hactive : s.phase.isActive = true := by rcases hphase with h | h <;> rw [h] <;> rfl
  have hupTo : c.upTo s.phase = c.igNames.length := by
    rcases hphase with h | h <;> rw [h] <;> rfl
  have hcancelled : c.isCancelled = false := by
    have hcomes := h.comes
    rcases hphase with h | h <;> rw [h] at hcomes
    · exact hcomes
    · exact hcomes.1
  have hcounter := h.counter hactive
  have hzero : s.outstanding = 0 := by
    rw [counter_of_batch hbatch, hcount] at hcounter
    omega
  refine h.of_slots_eq rfl hupTo.symm ⟨hcancelled, hbatch⟩ (fun _ => hcounter) (fun _ => hzero)
    ?_ ?_
  · intro hdone
    simp [IsFinished, hbatch] at hdone
  · intro _
    refine h.unfinished_of_batch hbatch ?_ ?_ <;> rcases hphase with h | h <;> rw [h] <;> nofun

theorem Inv.timeout (h : c.Inv s) (hbatch : c.isBatch = true) (hphase : s.phase = .awaiting) :
    c.Inv { s with phase := .cancelled } := by
  have hupTo : c.upTo s.phase = c.igNames.length := by rw [hphase]; rfl
  have hcomes := h.comes
  rw [hphase] at hcomes
  refine h.of_slots_eq rfl hupTo.symm ⟨hcomes, hbatch⟩ ?_ nofun ?_ ?_
  · intro _
    exact h.counter (by rw [hphase]; rfl)
  · intro hdone
    simp [IsFinished, hbatch] at hdone
  · intro _
    exact h.unfinished_of_batch hbatch (by rw [hphase]; nofun) (by rw [hphase]; nofun)

theorem Inv.callback (h : c.Inv s) (hphase : s.phase = .returned) : c.Inv (c.callback s) := by
  have hupTo : c.upTo s.phase = c.igNames.length := by rw [hphase]; rfl
  have hcomes := h.comes
  rw [hphase] at hcomes
  have hnone := h.unfinished_of_batch hcomes.2 (by rw [hphase]; nofun) (by rw [hphase]; nofun)
  refine h.of_slots_eq rfl hupTo.symm hcomes ?_ (fun _ => h.returned (.inl hphase)) ?_ ?_
  · intro _
    exact h.counter (by rw [hphase]; rfl)
  · intro _
    show (s.finished ++ _).length = _
    rw [hnone, List.nil_append]
    exact c.setup.length_finishBatch _ _
  · intro hnot
    exact absurd (.inr (.inl rfl)) hnot

end BinaryCall

end Byob

end BiddingAuction
