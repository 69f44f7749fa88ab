import BiddingAuction.Foundation.Runs

/-!
# Cancelling the calls of a request

The inference calls of one request take their client contexts from a
`CancellableGrpcContextManager`. `TryCancelAll` sets a flag before it takes the mutex and goes
through the contexts; `CreateClientContext` reads the flag under the mutex, but relaxed, so that
it may miss a flag that was set by a thread whose section under the mutex is still to come. One
event of `system` is one atomic access or one section under the mutex, so the interleavings of
the code are its runs.
-/

namespace BiddingAuction

open Foundation

namespace Inference

inductive CallPhase where
  | created
  | inFlight
  | finished
deriving DecidableEq, Repr

/-- A `grpc::ClientContext` and how far the call it was made for has come. -/
structure ClientContext where
  isCancelled : Bool := false
  call : CallPhase := .created

def ClientContext.tryCancel (context : ClientContext) : ClientContext :=
  { context with isCancelled := true }

/-- One for a call that has not reported its end. -/
def ClientContext.pending (context : ClientContext) : ℕ :=
  if context.call = .finished then 0 else 1

/-- The manager. `cancellers` are the calls of `TryCancelAll` that have set the flag only, and
`isOrdered` says that one of them has left the mutex: who takes it later sees the flag. -/
structure CancellableGrpcContextManager where
  isCancelled : Bool := false
  clientContexts : List ClientContext := []
  spentContextCount : ℤ := 0
  cancellers : ℕ := 0
  isOrdered : Bool := false

namespace CancellableGrpcContextManager

variable (m : CancellableGrpcContextManager)

/-- What a relaxed load of the flag under the mutex may give. -/
def mayLoad (isCancelled : Bool) : Bool :=
  if isCancelled then m.isCancelled else !m.isCancelled || !m.isOrdered

/-- `CreateClientContext`, and the context it returns, none for a null pointer. -/
def createClientContext (isCancelled : Bool) : CancellableGrpcContextManager × Option ℕ :=
  if isCancelled then (m, none)
  else ({ m with clientContexts := m.clientContexts ++ [{}] }, some m.clientContexts.length)

/-- The call of a context goes on to its next phase. -/
def setCall (i : ℕ) (call : CallPhase) (context : ClientContext) :
    CancellableGrpcContextManager :=
  { m with clientContexts := m.clientContexts.set i { context with call } }

def reportRPCFinish : CancellableGrpcContextManager :=
  { m with spentContextCount := m.spentContextCount + 1 }

def getPendingContextCount : ℤ := m.clientContexts.length - m.spentContextCount

/-- `TryCancelAll` before the mutex. -/
def setCancelled : CancellableGrpcContextManager :=
  { m with isCancelled := true, cancellers := m.cancellers + 1 }

/-- `TryCancelAll` under the mutex. -/
def cancelContexts : CancellableGrpcContextManager where
  isCancelled := m.isCancelled
  clientContexts := m.clientContexts.map ClientContext.tryCancel
  spentContextCount := m.spentContextCount
  cancellers := m.cancellers - 1
  isOrdered := true

inductive Event where
  | create (isCancelled : Bool)
  | start (i : ℕ)
  | finish (i : ℕ)
  | setCancelled
  | cancelContexts

/-- The call of a context is started after the context was made, and its callback reports the
end before it does anything else. -/
def step (m : CancellableGrpcContextManager) : Event → Option CancellableGrpcContextManager
  | .create isCancelled =>
    if m.mayLoad isCancelled then some (m.createClientContext isCancelled).1 else none
  | .start i => do
    let context ← m.clientContexts[i]?
    if context.call = .created then some (m.setCall i .inFlight context) else none
  | .finish i => do
    let context ← m.clientContexts[i]?
    if context.call = .inFlight then some (m.setCall i .finished context).reportRPCFinish
    else none
  | .setCancelled => some m.setCancelled
  | .cancelContexts => if m.cancellers = 0 then none else some m.cancelContexts

def system : LTS CancellableGrpcContextManager Event := LTS.ofStep (· = {}) step

/-! ## The invariant -/

/-- After the contexts were gone through, no context is made. -/
def RefusedAfter (trace : List Event) : Prop :=
  ∀ later earlier, trace = later ++ .cancelContexts :: earlier →
    ∀ isCancelled, .create isCancelled ∈ later → isCancelled = true

structure Inv (trace : List Event) (m : CancellableGrpcContextManager) : Prop where
  pending : m.getPendingContextCount = total ClientContext.pending m.clientContexts
  ordered : m.isOrdered = true ↔ .cancelContexts ∈ trace
  flagged : m.isOrdered = true ∨ 0 < m.cancellers → m.isCancelled = true
  cancelled : m.isOrdered = true → ∀ context ∈ m.clientContexts, context.isCancelled = true
  refused : RefusedAfter trace

variable {m} {m' : CancellableGrpcContextManager} {trace : List Event}

theorem RefusedAfter.cons {event : Event} (h : RefusedAfter trace)
    (hevent : .cancelContexts ∈ trace →
      ∀ isCancelled, event = .create isCancelled → isCancelled = true) :
    RefusedAfter (event :: trace) := by
  intro later earlier htrace isCancelled hcreate
  cases later with
  | nil => cases hcreate
  | cons last later =>
    cases htrace
    rcases List.mem_cons.mp hcreate with heq | hcreate
    · exact hevent (List.mem_append_right _ List.mem_cons_self) isCancelled heq.symm
    · exact h later earlier rfl isCancelled hcreate

theorem pending_tryCancel (contexts : List ClientContext) :
    total ClientContext.pending (contexts.map ClientContext.tryCancel) =
      total ClientContext.pending contexts := by
  induction contexts with
  | nil => rfl
  | cons context contexts ih =>
    rw [List.map_cons, total_cons, total_cons, ih]
    rfl

theorem create_inv {isCancelled : Bool} (h : m.Inv trace) (hmay : m.mayLoad isCancelled = true) :
    Inv (.create isCancelled :: trace) (m.createClientContext isCancelled).1 := by
  have hordered (m' : CancellableGrpcContextManager) (hsame : m'.isOrdered = m.isOrdered) :
      m'.isOrdered = true ↔ .cancelContexts ∈ .create isCancelled :: trace := by
    rw [hsame, h.ordered, List.mem_cons]
    exact ⟨.inr, fun hmem => hmem.resolve_left (fun heq => nomatch heq)⟩
  have hrefused : RefusedAfter (.create isCancelled :: trace) := by
    apply h.refused.cons
    rintro hmem _ ⟨⟩
    -- who takes the mutex after a canceller sees its flag
    have hseen := h.ordered.mpr hmem
    have hflag := h.flagged (.inl hseen)
    unfold mayLoad at hmay
    cases isCancelled with
    | true => rfl
    | false => simp [hflag, hseen] at hmay
  cases isCancelled with
  | true => exact ⟨h.pending, hordered _ rfl, h.flagged, h.cancelled, hrefused⟩
  | false =>
    refine ⟨?_, hordered _ rfl, h.flagged, ?_, hrefused⟩
    · have hpending := h.pending
      unfold getPendingContextCount at hpending ⊢
      unfold createClientContext
      simp only [Bool.false_eq_true, if_false, List.length_append, List.length_singleton,
        total_append, total_cons, total_nil]
      unfold ClientContext.pending at hpending ⊢
      simp only [reduceCtorEq, if_false]
      omega
    · intro hseen
      have hflag := h.flagged (.inl hseen)
      simp [mayLoad, hflag, show m.isOrdered = true from hseen] at hmay

/-- A call that goes on leaves its context as cancelled as it was. -/
theorem setCall_inv {i : ℕ} {context : ClientContext} (event : Event) (call : CallPhase)
    (spent : ℤ) (h : m.Inv trace) (hcontext : m.clientContexts[i]? = some context)
    (hnew : ∀ isCancelled, event ≠ .create isCancelled) (hnot : event ≠ .cancelContexts)
    (hspent : (ClientContext.pending context : ℤ) =
      ({ context with call } : ClientContext).pending + spent) :
    Inv (event :: trace) { m.setCall i call context with
      spentContextCount := m.spentContextCount + spent } := by
  refine ⟨?_, ?_, h.flagged, ?_, h.refused.cons fun _ isCancelled heq => ?_⟩
  · have hpending := h.pending
    have hset := total_set ClientContext.pending hcontext { context with call }
    unfold getPendingContextCount at hpending ⊢
    unfold setCall
    simp only [List.length_set]
    omega
  · rw [List.mem_cons]
    exact h.ordered.trans ⟨.inr, fun hmem => hmem.resolve_left hnot.symm⟩
  · intro hseen
    have hall := h.cancelled hseen
    exact forall_mem_set hall (hall context (List.mem_of_getElem? hcontext))
  · exact absurd heq (hnew isCancelled)

theorem cancelContexts_inv (h : m.Inv trace) (hcancellers : m.cancellers ≠ 0) :
    Inv (.cancelContexts :: trace) m.cancelContexts where
  pending := by
    have hpending := h.pending
    unfold getPendingContextCount at hpending ⊢
    unfold cancelContexts
    rw [pending_tryCancel, List.length_map]
    exact hpending
  ordered := iff_of_true rfl List.mem_cons_self
  flagged := fun _ => h.flagged (.inr (Nat.pos_of_ne_zero hcancellers))
  cancelled := by
    intro _ context hcontext
    obtain ⟨old, -, rfl⟩ := List.mem_map.mp hcontext
    rfl
  refused := h.refused.cons fun _ _ heq => nomatch heq

theorem step_inv {event : Event} (h : m.Inv trace) (hstep : m.step event = some m') :
    m'.Inv (event :: trace) := by
  cases event with
  | create isCancelled =>
    obtain ⟨hmay, hcreated⟩ := Option.ite_none_right_eq_some.mp hstep
    cases hcreated
    exact create_inv h hmay
  | start i =>
    obtain ⟨context, hcontext, hstarted⟩ := Option.bind_eq_some_iff.mp hstep
    obtain ⟨hcall, hstarted⟩ := Option.ite_none_right_eq_some.mp hstarted
    cases hstarted
    have := setCall_inv (.start i) .inFlight 0 h hcontext nofun nofun
      (by simp [ClientContext.pending, hcall])
    rwa [add_zero] at this
  | finish i =>
    obtain ⟨context, hcontext, hfinished⟩ := Option.bind_eq_some_iff.mp hstep
    obtain ⟨hcall, hfinished⟩ := Option.ite_none_right_eq_some.mp hfinished
    cases hfinished
    exact setCall_inv (.finish i) .finished 1 h hcontext nofun nofun
      (by simp [ClientContext.pending, hcall])
  | setCancelled =>
    cases hstep
    refine ⟨h.pending, ?_, fun _ => rfl, h.cancelled, h.refused.cons fun _ _ heq => nomatch heq⟩
    rw [List.mem_cons]
    exact h.ordered.trans ⟨.inr, fun hmem => hmem.resolve_left fun heq => nomatch heq⟩
  | cancelContexts =>
    obtain ⟨hcancellers, hcancelled⟩ := Option.ite_none_left_eq_some.mp hstep
    cases hcancelled
    exact cancelContexts_inv h hcancellers

theorem inv_of_run (run : system.Run trace m) : m.Inv trace := by
  refine run.invariant (I := fun trace m => m.Inv trace) ?_ ?_
  · rintro m rfl
    refine ⟨rfl, by simp, by simp, by simp, ?_⟩
    intro later earlier htrace
    simp at htrace
  · intro trace m event m' h _ hstep
    exact step_inv h hstep

/-- In every interleaving the pending contexts that the reactor counts are the calls that have
not reported their end, so that the count is never negative; and once a `TryCancelAll` is
through, every context is cancelled and every later request for one is refused. -/
theorem tryCancelAll_reaches_all (run : system.Run trace m) :
    m.getPendingContextCount = total ClientContext.pending m.clientContexts ∧
      (.cancelContexts ∈ trace → ∀ context ∈ m.clientContexts, context.isCancelled = true) ∧
      RefusedAfter trace := by
  have h := inv_of_run run
  exact ⟨h.pending, fun hmem => h.cancelled (h.ordered.mpr hmem), h.refused⟩

/-- A context that is made between the two parts of `TryCancelAll`. -/
theorem tryCancelAll_reaches_all_between : ∃ m : CancellableGrpcContextManager,
    m.clientContexts.length = 1 ∧ ∀ context ∈ m.clientContexts, context.isCancelled = true := by
  have run : system.Run [.cancelContexts, .create false, .setCancelled] _ :=
    .next (.next (.next (.start rfl) trivial rfl) trivial rfl) trivial rfl
  exact ⟨_, rfl, (tryCancelAll_reaches_all run).2.1 List.mem_cons_self⟩

end CancellableGrpcContextManager

end Inference

end BiddingAuction
