import BiddingAuction.Bidding.ByobCounts

/-!
# Binary bidding finishes once

A batch returns when every slot was written, and the call is finished once by the last
count, by the callback of the batch or before anything is dispatched. It goes wrong in two
ways: without batching and without interest groups nobody counts, and a response that cannot
be encrypted finishes the call twice.
-/

namespace BiddingAuction

open Foundation

namespace Byob

namespace BinaryCall

variable {F : Type} {c : BinaryCall F} {s s' : State F} {i : ℕ} {slot : Slot F}

/-! ## Every run -/

theorem inv_start : c.Inv c.start := by
  refine ⟨?_, trivial, ?_, nofun, nofun, ?_, fun _ => rfl⟩
  · exact List.length_map _
  · intro i slot hslot
    have hslot : (c.igNames.map fun _ => ({} : Slot F))[i]? = some slot := hslot
    rw [List.getElem?_map] at hslot
    obtain ⟨igName, -, rfl⟩ := Option.map_eq_some_iff.mp hslot
    exact ⟨iff_of_true rfl (Nat.zero_le i), (ite_self 0).symm, nofun⟩
  · intro hdone
    simp [IsFinished, start, Phase.isActive] at hdone

inductive Moves (c : BinaryCall F) (s : State F) : State F → Prop
  | execute : s.phase = .notStarted → Moves c s (c.execute s)
  | request (accepted : Bool) : s.phase = .requestingBatch → Moves c s (c.request s accepted)
  | run : s.phase = .queued → Moves c s (c.run s)
  | dispatch (executionToken : Except GrpcStatusCode Unit) {i : ℕ} {slot : Slot F} :
      s.phase = .dispatching i → s.slots[i]? = some slot →
      Moves c s (c.dispatch s i slot executionToken)
  | answer (igName : String) (response : UdfResponse F) {i : ℕ} {slot : Slot F} :
      s.slots[i]? = some slot → slot.task = .running →
      Moves c s (c.answer s i slot igName response)
  | complete {taskStatus : Option TaskStatus} {i : ℕ} {slot : Slot F} :
      s.slots[i]? = some slot → slot.task = .answered taskStatus →
      Moves c s (c.complete s i slot taskStatus)
  | awaited : c.isBatch = true → s.phase = .awaiting ∨ s.phase = .cancelled → s.count = 0 →
      Moves c s { s with phase := .returned }
  | timeout : c.isBatch = true → s.phase = .awaiting → Moves c s { s with phase := .cancelled }
  | callback : s.phase = .returned → Moves c s (c.callback s)

theorem moves_of_step {a : Action F} (hstep : c.step s a = some s') : c.Moves s s' := by
  cases a with
  | execute =>
    obtain ⟨hphase, ⟨⟩⟩ := Option.ite_none_right_eq_some.mp hstep
    exact .execute hphase
  | request accepted =>
    obtain ⟨hphase, ⟨⟩⟩ := Option.ite_none_right_eq_some.mp hstep
    exact .request accepted hphase
  | run =>
    obtain ⟨hphase, ⟨⟩⟩ := Option.ite_none_right_eq_some.mp hstep
    exact .run hphase
  | dispatch executionToken =>
    dsimp only [step] at hstep
    split at hstep
    · rename_i igIndex hphase
      obtain ⟨slot, hslot, rfl⟩ := Option.map_eq_some_iff.mp hstep
      exact .dispatch executionToken hphase hslot
    · cases hstep
  | answer igIndex response =>
    dsimp only [step] at hstep
    split at hstep
    · rename_i slot igName hslot _
      obtain ⟨hrunning, ⟨⟩⟩ := Option.ite_none_right_eq_some.mp hstep
      exact .answer igName response hslot hrunning
    · cases hstep
  | complete igIndex =>
    dsimp only [step] at hstep
    split at hstep
    · rename_i slot hslot
      split at hstep
      · rename_i taskStatus hanswered
        cases hstep
        exact .complete hslot hanswered
      · cases hstep
    · cases hstep
  | awaited =>
    obtain ⟨⟨hbatch, hphase, hcount⟩, ⟨⟩⟩ := Option.ite_none_right_eq_some.mp hstep
    exact .awaited hbatch hphase hcount
  | timeout =>
    obtain ⟨⟨hbatch, hphase, -⟩, ⟨⟩⟩ := Option.ite_none_right_eq_some.mp hstep
    exact .timeout hbatch hphase
  | callback =>
    obtain ⟨hphase, ⟨⟩⟩ := Option.ite_none_right_eq_some.mp hstep
    exact .callback hphase

theorem Inv.moves (h : c.Inv s) (hmoves : c.Moves s s') : c.Inv s' := by
  cases hmoves with
  | execute hphase => exact h.execute hphase
  | request accepted hphase => exact h.request hphase accepted
  | run hphase => exact h.run hphase
  | dispatch executionToken hphase hslot => exact h.dispatch hphase hslot executionToken
  | answer igName response hslot hrunning => exact h.answer hslot hrunning igName response
  | complete hslot hanswered => exact h.complete hslot hanswered
  | awaited hbatch hphase hcount => exact h.awaited hbatch hphase hcount
  | timeout hbatch hphase => exact h.timeout hbatch hphase
  | callback hphase => exact h.callback hphase

theorem inv_of_run {trace : List (Action F)} (run : c.system.Run trace s) : c.Inv s :=
  run.invariant (I := fun _ s => c.Inv s) (by rintro s rfl; exact inv_start)
    fun _ _ _ _ h _ hstep => h.moves (moves_of_step hstep)

/-! ## Every run ends -/

def Phase.rank : Phase → ℕ
  | .notStarted => 7
  | .requestingBatch => 6
  | .queued => 5
  | .dispatching _ => 4
  | .awaiting => 3
  | .cancelled => 2
  | .returned => 1
  | .finished | .ended => 0

def State.rank (s : State F) : ℕ :=
  s.phase.rank + total (fun slot => slot.task.rank) s.slots

theorem rank_loopAt_le (i : ℕ) : (c.loopAt i).rank ≤ 4 := by
  rcases c.loopAt_cases i with h | h <;> rw [h]
  · exact Nat.le_refl 4
  · exact Nat.le_succ 3

theorem rank_of_phase {phase : Phase} (phase' : Phase) (hphase : s.phase = phase)
    (hphase' : s'.phase = phase') (hslots : s'.slots = s.slots) (hlt : phase'.rank < phase.rank) :
    s'.rank < s.rank := by
  unfold State.rank
  rw [hslots, hphase, hphase']
  omega

theorem rank_of_set (hslot : s.slots[i]? = some slot) (slot' : Slot F)
    (hslots : s'.slots = s.slots.set i slot') (htask : slot'.task.rank < slot.task.rank)
    (hphase : s'.phase.rank ≤ s.phase.rank) : s'.rank < s.rank := by
  have := total_set (fun slot : Slot F => slot.task.rank) hslot slot'
  unfold State.rank
  rw [hslots]
  omega

theorem rank_abandon (hphase : s.phase = .dispatching i) (code : GrpcStatusCode) :
    (c.abandon s i code).rank < s.rank := by
  have hleft := total_abandon (c := c) (s := s) (i := i) Task.rank rfl code
  have hsplit := total_append (fun slot : Slot F => slot.task.rank) (s.slots.take i)
    (s.slots.drop i)
  rw [List.take_append_drop] at hsplit
  unfold State.rank
  rw [hleft, hsplit, hphase]
  show 3 + _ < 4 + _
  omega

theorem Inv.rank_dispatch (h : c.Inv s) (hphase : s.phase = .dispatching i)
    (hslot : s.slots[i]? = some slot) (executionToken : Except GrpcStatusCode Unit) :
    (c.dispatch s i slot executionToken).rank < s.rank := by
  have hwaiting : slot.task.rank = 3 := by
    rw [h.waiting_of_dispatching hphase hslot]
    rfl
  have hloop : (c.loopAt (i + 1)).rank ≤ s.phase.rank := by
    rw [hphase]
    exact rank_loopAt_le _
  cases executionToken with
  | ok =>
    refine rank_of_set hslot { slot with task := .running } rfl ?_ hloop
    rw [hwaiting]
    exact Nat.lt_succ_self 2
  | error code =>
    unfold BinaryCall.dispatch
    dsimp only
    split
    · refine rank_of_set hslot { slot with task := .counted } ?_ ?_ ?_
      · rw [taskCompleted_slots]
        rfl
      · rw [hwaiting]
        exact Nat.zero_lt_succ 2
      · rw [taskCompleted_phase]
        exact hloop
    · refine rank_of_set hslot ⟨.counted, .error code :: slot.writes⟩ rfl ?_ hloop
      rw [hwaiting]
      exact Nat.zero_lt_succ 2
    · exact rank_abandon hphase code

theorem Inv.rank_lt (h : c.Inv s) (hmoves : c.Moves s s') : s'.rank < s.rank := by
  have hloop (n : ℕ) : (c.loopAt 0).rank < n + 5 :=
    Nat.lt_of_le_of_lt (rank_loopAt_le 0) (by omega)
  cases hmoves with
  | execute hphase =>
    unfold BinaryCall.execute
    split
    · exact rank_of_phase .ended hphase rfl rfl (by decide)
    · split
      · exact rank_of_phase .requestingBatch hphase rfl rfl (by decide)
      · exact rank_of_phase (c.loopAt 0) hphase rfl rfl (hloop 2)
  | request accepted hphase =>
    unfold BinaryCall.request
    split
    · exact rank_of_phase .queued hphase rfl rfl (by decide)
    · exact rank_of_phase .ended hphase rfl rfl (by decide)
  | run hphase => exact rank_of_phase (c.loopAt 0) hphase rfl rfl (hloop 0)
  | dispatch executionToken hphase hslot => exact h.rank_dispatch hphase hslot executionToken
  | @answer igName response i slot hslot hrunning =>
    unfold BinaryCall.answer
    split
    · refine rank_of_set hslot ⟨.answered none, response :: slot.writes⟩ rfl ?_ (Nat.le_refl _)
      rw [hrunning]
      exact Nat.lt_succ_self 1
    · refine rank_of_set hslot { slot with
        task := .answered (some (c.setup.processResponse s.reactor response igName i).2) } rfl ?_
        (Nat.le_refl _)
      rw [hrunning]
      exact Nat.lt_succ_self 1
  | @complete taskStatus i slot hslot hanswered =>
    have htask : Task.rank .counted < slot.task.rank := by
      rw [hanswered]
      exact Nat.zero_lt_one
    cases taskStatus with
    | none => exact rank_of_set hslot { slot with task := .counted } rfl htask (Nat.le_refl _)
    | some taskStatus =>
      refine rank_of_set hslot { slot with task := .counted } ?_ htask (Nat.le_of_eq ?_)
      · exact taskCompleted_slots taskStatus
      · exact congrArg Phase.rank (taskCompleted_phase taskStatus)
  | awaited hbatch hphase hcount =>
    rcases hphase with hphase | hphase
    · exact rank_of_phase .returned hphase rfl rfl (by decide)
    · exact rank_of_phase .returned hphase rfl rfl (by decide)
  | timeout hbatch hphase =>
    exact rank_of_phase .cancelled hphase rfl rfl (by decide)
  | callback hphase => exact rank_of_phase .finished hphase rfl rfl (by decide)

/-! ## Exactly once -/

/-- The response can be encrypted, and someone is there to finish the call. -/
structure CanFinish (c : BinaryCall F) : Prop where
  encrypts : c.setup.encrypts = .ok ()
  someone : c.igNames ≠ [] ∨ c.isBatch = true ∨ c.isCancelled = true

/-- The call is finished once, and a batch returns with every slot written once, for good,
and its counter at zero. -/
structure FinishesOnce (c : BinaryCall F) : Prop where
  atMostOnce : ∀ trace s, c.system.Run trace s → s.finished.length ≤ 1
  once : ∀ trace s, c.system.Run trace s → c.system.Leads (fun s => s.finished.length = 1) s
  everySlot : ∀ trace s, c.system.Run trace s → s.phase = .returned ∨ s.phase = .finished →
    s.slots.length = c.igNames.length ∧ (∀ slot ∈ s.slots, slot.writes.length = 1) ∧ s.count = 0

theorem finishes_eq_one (u : Setup F) : u.finishes = 1 ↔ u.encrypts = .ok () := by
  unfold Setup.finishes
  cases u.encrypts <;> simp

theorem Inv.canFinish (h : c.Inv s) (hfinished : s.finished.length = 1) : c.CanFinish := by
  have hdone : c.IsFinished s := by
    by_contra hnot
    rw [h.unfinished hnot] at hfinished
    cases hfinished
  refine ⟨(finishes_eq_one c.setup).mp ((h.finished hdone).symm.trans hfinished), ?_⟩
  have hcomes := h.comes
  rcases hdone with hphase | hphase | ⟨-, -, hnames, -⟩
  · rw [hphase] at hcomes
    exact .inr (Or.symm hcomes)
  · rw [hphase] at hcomes
    exact .inr (.inl hcomes.2)
  · exact .inl hnames

theorem Inv.length_finished_le_one (h : c.Inv s) (hcan : c.CanFinish) :
    s.finished.length ≤ 1 := by
  by_cases hdone : c.IsFinished s
  · rw [h.finished hdone, (finishes_eq_one c.setup).mpr hcan.encrypts]
  · rw [h.unfinished hdone]
    exact Nat.zero_le 1

theorem Inv.everySlot (h : c.Inv s) (hphase : s.phase = .returned ∨ s.phase = .finished) :
    s.slots.length = c.igNames.length ∧ (∀ slot ∈ s.slots, slot.writes.length = 1) ∧
      s.count = 0 := by
  have hzero := h.returned hphase
  have hbatch : c.isBatch = true := by
    have hcomes := h.comes
    rcases hphase with h | h <;> rw [h] at hcomes <;> exact hcomes.2
  refine ⟨h.length, ?_, ?_⟩
  · intro slot hslot
    obtain ⟨i, hi⟩ := List.mem_iff_getElem?.mp hslot
    have hcounted : slot.task = .counted := by
      have htask := (total_eq_zero _).mp hzero slot hslot
      by_contra hne
      rw [outstanding_eq_one hne] at htask
      cases htask
    rw [(h.slots i slot hi).writes, hcounted, hbatch]
    rfl
  · have hcounter := h.counter (by rcases hphase with h | h <;> rw [h] <;> rfl)
    rw [counter_of_batch hbatch, hzero] at hcounter
    exact hcounter

theorem Inv.exists_step_of_pos (h : c.Inv s) (hpos : 0 < s.outstanding)
    (hupTo : c.upTo s.phase = c.igNames.length) : ∃ a s', c.step s a = some s' := by
  have hsome : ∃ slot ∈ s.slots, slot.task ≠ .counted := by
    by_contra hnone
    push Not at hnone
    have hzero : s.outstanding = 0 := by
      apply (total_eq_zero _).mpr
      intro slot hslot
      rw [hnone slot hslot]
      rfl
    omega
  obtain ⟨slot, hslot, hcounted⟩ := hsome
  obtain ⟨i, hi⟩ := List.mem_iff_getElem?.mp hslot
  obtain ⟨hlt, -⟩ := List.getElem?_eq_some_iff.mp hi
  rw [h.length] at hlt
  cases htask : slot.task with
  | waiting =>
    have hle := (h.slots i slot hi).waiting.mp htask
    omega
  | running =>
    -- the binary answers at the latest when it is cancelled
    refine ⟨.answer i (.error .cancelled), c.answer s i slot c.igNames[i] (.error .cancelled), ?_⟩
    dsimp only [step]
    rw [hi, List.getElem?_eq_getElem hlt]
    exact if_pos htask
  | answered taskStatus =>
    refine ⟨.complete i, c.complete s i slot taskStatus, ?_⟩
    dsimp only [step]
    rw [hi]
    dsimp only
    rw [htask]
  | counted => exact absurd htask hcounted

theorem Inv.progress (h : c.Inv s) (hcan : c.CanFinish) :
    s.finished.length = 1 ∨ ∃ a s', c.step s a = some s' := by
  have honce (hdone : c.IsFinished s) : s.finished.length = 1 :=
    (h.finished hdone).trans ((finishes_eq_one c.setup).mpr hcan.encrypts)
  have hcomes := h.comes
  cases hphase : s.phase with
  | notStarted => exact .inr ⟨.execute, c.execute s, if_pos hphase⟩
  | requestingBatch => exact .inr ⟨.request true, c.request s true, if_pos hphase⟩
  | queued => exact .inr ⟨.run, c.run s, if_pos hphase⟩
  | dispatching i =>
    rw [hphase] at hcomes
    obtain ⟨-, hi⟩ := hcomes
    rw [← h.length] at hi
    refine .inr ⟨.dispatch (.ok ()), c.dispatch s i s.slots[i] (.ok ()), ?_⟩
    dsimp only [step]
    rw [hphase]
    dsimp only
    rw [List.getElem?_eq_getElem hi]
    rfl
  | awaiting =>
    rw [hphase] at hcomes
    rcases Nat.eq_zero_or_pos s.outstanding with hzero | hpos
    · cases hbatch : c.isBatch with
      | true =>
        have hcounter := h.counter (by rw [hphase]; rfl)
        rw [counter_of_batch hbatch, hzero] at hcounter
        exact .inr ⟨.awaited, _, if_pos ⟨hbatch, .inl hphase, hcounter⟩⟩
      | false =>
        have hnames : c.igNames ≠ [] := by
          rcases hcan.someone with hnames | hbatch' | hcancelled
          · exact hnames
          · exact absurd hbatch' (by rw [hbatch]; nofun)
          · exact absurd hcancelled (by rw [show c.isCancelled = false from hcomes]; nofun)
        exact .inl (honce (.inr (.inr ⟨hbatch, by rw [hphase]; rfl, hnames, hzero⟩)))
    · exact .inr (h.exists_step_of_pos hpos (by rw [hphase]; rfl))
  | cancelled =>
    rw [hphase] at hcomes
    rcases Nat.eq_zero_or_pos s.outstanding with hzero | hpos
    · have hcounter := h.counter (by rw [hphase]; rfl)
      rw [counter_of_batch hcomes.2, hzero] at hcounter
      exact .inr ⟨.awaited, _, if_pos ⟨hcomes.2, .inr hphase, hcounter⟩⟩
    · exact .inr (h.exists_step_of_pos hpos (by rw [hphase]; rfl))
  | returned => exact .inr ⟨.callback, c.callback s, if_pos hphase⟩
  | finished => exact .inl (honce (.inr (.inl hphase)))
  | ended => exact .inl (honce (.inl hphase))

/-- For every list of interest groups, with or without batching, whichever dispatches fail
and in whatever order the callbacks come, the call is finished once if and only if the
response can be encrypted and there is an interest group, a batch or a cancellation to
finish it. -/
theorem finishesOnce_iff_canFinish {F : Type} (c : BinaryCall F) :
    c.FinishesOnce ↔ c.CanFinish := by
  constructor
  · intro h
    have hleads := h.once [] c.start (.start rfl)
    obtain ⟨s, hs, hfinished⟩ := hleads.exists_of_invariant (I := c.Inv)
      (fun _ _ _ hinv hstep => hinv.moves (moves_of_step hstep)) inv_start
    exact hs.canFinish hfinished
  · intro hcan
    refine ⟨fun trace s run => (inv_of_run run).length_finished_le_one hcan, ?_,
      fun trace s run hphase => (inv_of_run run).everySlot hphase⟩
    intro trace s run
    refine LTS.inevitable_of_admitted_rank (I := c.Inv) (μ := State.rank) ?_ ?_ ?_ (inv_of_run run)
    · exact fun _ _ _ hinv _ hstep => hinv.moves (moves_of_step hstep)
    · exact fun _ hinv => hinv.progress hcan
    · exact fun _ _ _ hinv _ hstep => hinv.rank_lt (moves_of_step hstep)

/-- Without batching a call for no interest groups is never finished. -/
theorem not_finishesOnce_noGroups :
    ¬ (⟨{ auctionScope := .singleSeller, isZero := (· == 0) }, [], false, none⟩ :
      BinaryCall ℕ).FinishesOnce := by
  intro h
  have hleads := h.once [] _ (.start rfl)
  obtain ⟨s, hs, hfinished⟩ := hleads.exists_of_invariant (I := BinaryCall.Inv _)
    (fun _ _ _ hinv hstep => hinv.moves (moves_of_step hstep)) inv_start
  rcases (hs.canFinish hfinished).someone with hnames | hbatch | hcancelled
  · exact hnames rfl
  · cases hbatch
  · cases hcancelled

end BinaryCall

end Byob

end BiddingAuction
