import BiddingAuction.Common.AsyncTaskTracker
import BiddingAuction.Foundation.Runs
import BiddingAuction.SelectAd.Chaffing

/-!
# Fetching the bids

`FetchBids` tells the tracker how many buyers it will call and calls them in a loop, while
the replies of those already called come in. Each turn of the loop either completes the
task of its buyer at once or leaves it to the callback. The tracker invokes
`OnAllBidsDone` with its last task. What a run completes is what the loop goes through, so
the callback comes exactly once if that is what the tracker was told.
-/

namespace BiddingAuction

open Foundation

/-- What is read of a `ProtectedAppSignalsAdWithBid`. -/
structure ProtectedAppSignalsAdWithBid where
  render : String := ""
  bidCurrency : String := ""
deriving DecidableEq, Repr

structure GetBidsRawResponse where
  bids : List (AdWithBid ℚ) := []
  protectedAppSignalsBids : List ProtectedAppSignalsAdWithBid := []

structure FetchBids where
  /-- The requests the loop has not come to. -/
  buyerGetBidsRequests : List BuyerGetBidsRequest
  numBuyersSolicited : ℤ := 0
  /-- The buyers that are to call back. -/
  called : List String := []
  invokedBuyers : InvokedBuyers := ⟨[], []⟩
  tracker : AsyncTaskTracker
  sharedBuyerBidsMap : FlatHashMap String GetBidsRawResponse := ∅
  /-- The tasks that were completed. -/
  tasksCompleted : ℕ := 0
  /-- The invocations of `OnAllBidsDone`. -/
  onAllBidsDone : List Bool := []

namespace FetchBids

/-- A turn of the loop, with what becomes of its call if it comes to one; or a reply. -/
inductive Event where
  | fetchBid (isCancelled executed : Bool)
  | onDone (buyer : String) (isCancelled : Bool) (response : Option GetBidsRawResponse)

section Steps

variable (c : SelectAdSetup)

/-- `SetNumTasksToTrack` and, if there is nobody to call, `OnAllBidsDone`. -/
def start : FetchBids where
  buyerGetBidsRequests := c.requestsToMake
  tracker := .setNumTasksToTrack c.getEffectiveNumberOfBuyers
  onAllBidsDone := if c.getEffectiveNumberOfBuyers = 0 then [true] else []

variable (s : FetchBids)

/-- `TaskCompleted` on the tracker of the bids, with what `OnAllBidsDone` is invoked with. -/
def taskCompleted (status : TaskStatus) : FetchBids × Option Bool :=
  let completed := s.tracker.taskCompleted status
  ({ s with
      tracker := completed.1
      tasksCompleted := s.tasksCompleted + 1
      onAllBidsDone := s.onAllBidsDone ++ completed.2.toList }, completed.2)

/-- One turn of the loop of `FetchBids`, with `FetchBid`. -/
def fetchBid (request : BuyerGetBidsRequest) (isCancelled executed : Bool) :
    FetchBids × Option Bool :=
  if s.numBuyersSolicited ≥ c.cap then
    -- skipped buyers should not be left pending
    s.taskCompleted .skipped
  else
    let s := { s with
      numBuyersSolicited := s.numBuyersSolicited + 1
      invokedBuyers := if request.isChaff then
          { s.invokedBuyers with
            chaffBuyerNames := s.invokedBuyers.chaffBuyerNames ++ [request.buyerName] }
        else
          { s.invokedBuyers with
            nonChaffBuyerNames := s.invokedBuyers.nonChaffBuyerNames ++ [request.buyerName] } }
    if c.enableCancellation && isCancelled then s.taskCompleted .cancelled
    else if request.buyerName ∉ c.buyerFactory then s.taskCompleted .skipped
    else if executed then ({ s with called := request.buyerName :: s.called }, none)
    else s.taskCompleted .error

def hasNoBids (response : GetBidsRawResponse) : Bool :=
  (!c.isProtectedAudienceEnabled || response.bids.isEmpty) &&
    (!c.isPasEnabled || response.protectedAppSignalsBids.isEmpty)

/-- `OnFetchBidsDone`, in its `CancellationWrapper`. -/
def onFetchBidsDone (buyer : String) (isCancelled : Bool) (response : Option GetBidsRawResponse) :
    FetchBids × Option Bool :=
  if c.enableCancellation && isCancelled then s.taskCompleted .cancelled
  else
    match response with
    | none => s.taskCompleted .error
    | some response =>
      if hasNoBids c response then s.taskCompleted .emptyResponse
      else
        taskCompleted { s with
          sharedBuyerBidsMap := FlatHashMap.emplace s.sharedBuyerBidsMap buyer response } .success

/-- One step, with what `OnAllBidsDone` is invoked with. -/
def step : Event → Option (FetchBids × Option Bool)
  | .fetchBid isCancelled executed =>
    match s.buyerGetBidsRequests with
    | [] => none
    | request :: rest =>
      some (fetchBid c { s with buyerGetBidsRequests := rest } request isCancelled executed)
  | .onDone buyer isCancelled response =>
    if buyer ∈ s.called then
      some (onFetchBidsDone c { s with called := s.called.erase buyer } buyer isCancelled response)
    else none

end Steps

def system (c : SelectAdSetup) : LTS FetchBids Event where
  init s := s = start c
  step s e s' := ∃ done, s.step c e = some (s', done)

def IsQuiet (s : FetchBids) : Prop := s.buyerGetBidsRequests = [] ∧ s.called = []

def rank (s : FetchBids) : ℕ := 2 * s.buyerGetBidsRequests.length + s.called.length

/-- The tasks are counted: each request is in the loop, called or completed, and
`OnAllBidsDone` is invoked with the last task announced. -/
structure Counted (c : SelectAdSetup) (s : FetchBids) : Prop where
  requests : s.buyerGetBidsRequests.length + s.called.length + s.tasksCompleted =
    c.requestsToMake.length
  pending : s.tracker.pendingTasksCount = c.getEffectiveNumberOfBuyers - s.tasksCompleted
  invoked : s.onAllBidsDone.length =
    if c.getEffectiveNumberOfBuyers ≤ s.tasksCompleted then 1 else 0

/-! ## What a step does -/

section Counting

variable {c : SelectAdSetup} {s s' : FetchBids} {done : Option Bool}

structure SameTasks (s t : FetchBids) : Prop where
  requests : t.buyerGetBidsRequests = s.buyerGetBidsRequests
  called : t.called = s.called
  tasksCompleted : t.tasksCompleted = s.tasksCompleted
  tracker : t.tracker = s.tracker
  onAllBidsDone : t.onAllBidsDone = s.onAllBidsDone

structure Completes (s s' : FetchBids) (done : Option Bool) : Prop where
  requests : s'.buyerGetBidsRequests = s.buyerGetBidsRequests
  called : s'.called = s.called
  tasksCompleted : s'.tasksCompleted = s.tasksCompleted + 1
  pending : s'.tracker.pendingTasksCount = s.tracker.pendingTasksCount - 1
  onAllBidsDone : s'.onAllBidsDone = s.onAllBidsDone ++ done.toList
  isSome : done.isSome = true ↔ s.tracker.pendingTasksCount = 1

/-- A buyer is called, and its task stays open. -/
structure Calls (s : FetchBids) (buyer : String) (s' : FetchBids) (done : Option Bool) :
    Prop where
  requests : s'.buyerGetBidsRequests = s.buyerGetBidsRequests
  called : s'.called = buyer :: s.called
  tasksCompleted : s'.tasksCompleted = s.tasksCompleted
  tracker : s'.tracker = s.tracker
  onAllBidsDone : s'.onAllBidsDone = s.onAllBidsDone
  notDone : done = none

theorem completes_of_taskCompleted {t : FetchBids} {status : TaskStatus}
    (h : t.taskCompleted status = (s', done)) (same : SameTasks s t) : Completes s s' done := by
  obtain ⟨rfl, rfl⟩ := Prod.mk.inj h
  refine ⟨same.requests, same.called, congrArg (· + 1) same.tasksCompleted, ?_, ?_, ?_⟩
  · rw [← same.tracker]
    exact t.tracker.taskCompleted_pending status
  · rw [← same.onAllBidsDone]
  · rw [← same.tracker]
    exact t.tracker.taskCompleted_isSome status

theorem fetchBid_cases {request : BuyerGetBidsRequest} {isCancelled executed : Bool}
    (h : s.fetchBid c request isCancelled executed = (s', done)) :
    Completes s s' done ∨ Calls s request.buyerName s' done := by
  unfold fetchBid at h
  dsimp only at h
  split at h
  · exact .inl (completes_of_taskCompleted h ⟨rfl, rfl, rfl, rfl, rfl⟩)
  split at h
  · exact .inl (completes_of_taskCompleted h ⟨rfl, rfl, rfl, rfl, rfl⟩)
  split at h
  · exact .inl (completes_of_taskCompleted h ⟨rfl, rfl, rfl, rfl, rfl⟩)
  split at h
  · obtain ⟨rfl, rfl⟩ := Prod.mk.inj h
    exact .inr ⟨rfl, rfl, rfl, rfl, rfl, rfl⟩
  · exact .inl (completes_of_taskCompleted h ⟨rfl, rfl, rfl, rfl, rfl⟩)

theorem onFetchBidsDone_completes {buyer : String} {isCancelled : Bool}
    {response : Option GetBidsRawResponse}
    (h : s.onFetchBidsDone c buyer isCancelled response = (s', done)) : Completes s s' done := by
  unfold onFetchBidsDone at h
  split at h
  · exact completes_of_taskCompleted h ⟨rfl, rfl, rfl, rfl, rfl⟩
  split at h
  · exact completes_of_taskCompleted h ⟨rfl, rfl, rfl, rfl, rfl⟩
  split at h
  · exact completes_of_taskCompleted h ⟨rfl, rfl, rfl, rfl, rfl⟩
  · exact completes_of_taskCompleted h ⟨rfl, rfl, rfl, rfl, rfl⟩

theorem step_cases {e : Event} (h : s.step c e = some (s', done)) :
    (∃ request rest, s.buyerGetBidsRequests = request :: rest ∧
      (Completes { s with buyerGetBidsRequests := rest } s' done ∨
        Calls { s with buyerGetBidsRequests := rest } request.buyerName s' done)) ∨
    ∃ buyer ∈ s.called, Completes { s with called := s.called.erase buyer } s' done := by
  cases e with
  | fetchBid isCancelled executed =>
    unfold step at h
    dsimp only at h
    split at h
    · cases h
    · rename_i request rest hrequests
      exact .inl ⟨request, rest, hrequests, fetchBid_cases (Option.some.inj h)⟩
  | onDone buyer isCancelled response =>
    unfold step at h
    dsimp only at h
    split at h
    · rename_i hcalled
      exact .inr ⟨buyer, hcalled, onFetchBidsDone_completes (Option.some.inj h)⟩
    · cases h

theorem start_counted (c : SelectAdSetup) : Counted c (start c) := by
  refine ⟨rfl, by simp [start], ?_⟩
  have hnonneg := c.effective_nonneg
  show (if c.getEffectiveNumberOfBuyers = 0 then [true] else []).length =
    if c.getEffectiveNumberOfBuyers ≤ 0 then 1 else 0
  by_cases hzero : c.getEffectiveNumberOfBuyers = 0
  · rw [if_pos hzero, if_pos (by omega)]
    rfl
  · rw [if_neg hzero, if_neg (by omega)]
    rfl

theorem Counted.completes {t : FetchBids} (h : Completes t s' done)
    (hrequests : t.buyerGetBidsRequests.length + t.called.length + t.tasksCompleted + 1 =
      c.requestsToMake.length)
    (hpending : t.tracker.pendingTasksCount = c.getEffectiveNumberOfBuyers - t.tasksCompleted)
    (hinvoked : t.onAllBidsDone.length =
      if c.getEffectiveNumberOfBuyers ≤ t.tasksCompleted then 1 else 0) : Counted c s' := by
  refine ⟨?_, ?_, ?_⟩
  · rw [h.requests, h.called, h.tasksCompleted]
    omega
  · rw [h.pending, h.tasksCompleted]
    omega
  · have hlast := h.isSome
    rw [h.onAllBidsDone, h.tasksCompleted, List.length_append, hinvoked]
    cases done with
    | none =>
      have : t.tracker.pendingTasksCount ≠ 1 := fun h1 => by simp [h1] at hlast
      simp only [Option.toList_none, List.length_nil]
      split <;> split <;> omega
    | some anySuccessful =>
      have : t.tracker.pendingTasksCount = 1 := by simpa using hlast
      simp only [Option.toList_some, List.length_singleton]
      split <;> split <;> omega

theorem Counted.step (inv : Counted c s) {e : Event} (h : s.step c e = some (s', done)) :
    Counted c s' := by
  have hopen := inv.requests
  rcases step_cases h with ⟨request, rest, hrequests, hcompletes | hcalls⟩ |
    ⟨buyer, hbuyer, hcompletes⟩
  · rw [hrequests, List.length_cons] at hopen
    refine Counted.completes hcompletes ?_ inv.pending inv.invoked
    show rest.length + s.called.length + s.tasksCompleted + 1 = _
    omega
  · rw [hrequests, List.length_cons] at hopen
    refine ⟨?_, ?_, ?_⟩
    · rw [hcalls.requests, hcalls.called, hcalls.tasksCompleted, List.length_cons]
      show rest.length + (s.called.length + 1) + s.tasksCompleted = _
      omega
    · rw [hcalls.tracker, hcalls.tasksCompleted]
      exact inv.pending
    · rw [hcalls.onAllBidsDone, hcalls.tasksCompleted]
      exact inv.invoked
  · have hlength := List.length_erase_of_mem hbuyer
    have hpos := List.length_pos_of_mem hbuyer
    refine Counted.completes hcompletes ?_ inv.pending inv.invoked
    show s.buyerGetBidsRequests.length + (s.called.erase buyer).length + s.tasksCompleted + 1 = _
    omega

theorem rank_step {e : Event} (h : s.step c e = some (s', done)) : s'.rank < s.rank := by
  unfold rank
  rcases step_cases h with ⟨request, rest, hrequests, hcompletes | hcalls⟩ |
    ⟨buyer, hbuyer, hcompletes⟩
  · rw [hcompletes.requests, hcompletes.called, hrequests, List.length_cons]
    show 2 * rest.length + s.called.length < _
    omega
  · rw [hcalls.requests, hcalls.called, hrequests, List.length_cons, List.length_cons]
    show 2 * rest.length + (s.called.length + 1) < _
    omega
  · have hlength := List.length_erase_of_mem hbuyer
    have hpos := List.length_pos_of_mem hbuyer
    rw [hcompletes.requests, hcompletes.called]
    show 2 * s.buyerGetBidsRequests.length + (s.called.erase buyer).length < _
    omega

theorem exists_step (h : ¬ s.IsQuiet) : ∃ e s' done, s.step c e = some (s', done) := by
  cases hrequests : s.buyerGetBidsRequests with
  | cons request rest =>
    exact ⟨.fetchBid false true, _, _, by simp only [FetchBids.step, hrequests]; rfl⟩
  | nil =>
    cases hcalled : s.called with
    | nil => exact absurd ⟨hrequests, hcalled⟩ h
    | cons buyer rest =>
      refine ⟨.onDone buyer false none, ?_⟩
      simp only [FetchBids.step, hcalled, List.mem_cons_self, if_true]
      exact ⟨_, _, rfl⟩

end Counting

theorem counted_of_run {c : SelectAdSetup} {trace : List Event} {s : FetchBids}
    (run : (system c).Run trace s) : Counted c s := by
  refine run.invariant (I := fun _ s => Counted c s) ?_ ?_
  · rintro s rfl
    exact start_counted c
  · rintro trace s e s' inv - ⟨done, hstep⟩
    exact inv.step hstep

/-- As many tasks are completed as the tracker was told of, and `OnAllBidsDone` is invoked
once. -/
def CompletesOnce (c : SelectAdSetup) (s : FetchBids) : Prop :=
  (s.tasksCompleted : ℤ) = c.getEffectiveNumberOfBuyers ∧ s.onAllBidsDone.length = 1

section Retry

variable {c : SelectAdSetup}

/-- What is recorded of the buyers called is what a retry can rely on. -/
structure Recorded (c : SelectAdSetup) (s : FetchBids) : Prop where
  requests : ∀ request ∈ s.buyerGetBidsRequests, c.HasReason request
  nonChaff : ∀ buyer ∈ s.invokedBuyers.nonChaffBuyerNames, buyer ∈ c.buyerInputs
  chaff : c.chaffingEnabled = false → s.invokedBuyers.chaffBuyerNames = []

theorem taskCompleted_recorded {s : FetchBids} (h : Recorded c s) (status : TaskStatus) :
    Recorded c (s.taskCompleted status).1 :=
  ⟨h.requests, h.nonChaff, h.chaff⟩

theorem fetchBid_recorded {s : FetchBids} (h : Recorded c s) {request : BuyerGetBidsRequest}
    (hrequest : c.HasReason request) (isCancelled executed : Bool) :
    Recorded c (s.fetchBid c request isCancelled executed).1 := by
  unfold SelectAdSetup.HasReason at hrequest
  unfold fetchBid
  dsimp only
  split
  · exact taskCompleted_recorded h _
  generalize hinvoked : (if request.isChaff then _ else _ : InvokedBuyers) = invoked
  have hcalled : Recorded c { s with
      numBuyersSolicited := s.numBuyersSolicited + 1
      invokedBuyers := invoked } := by
    rw [← hinvoked]
    split
    · rename_i hchaff
      rw [if_pos hchaff] at hrequest
      refine ⟨h.requests, h.nonChaff, ?_⟩
      intro hoff
      rw [hrequest] at hoff
      cases hoff
    · rename_i hreal
      rw [if_neg hreal] at hrequest
      refine ⟨h.requests, ?_, h.chaff⟩
      intro buyer hmem
      rcases List.mem_append.mp hmem with hmem | hmem
      · exact h.nonChaff buyer hmem
      · obtain rfl := List.mem_singleton.mp hmem
        exact hrequest
  split
  · exact taskCompleted_recorded hcalled _
  split
  · exact taskCompleted_recorded hcalled _
  split
  · exact ⟨hcalled.requests, hcalled.nonChaff, hcalled.chaff⟩
  · exact taskCompleted_recorded hcalled _

theorem onFetchBidsDone_recorded {s : FetchBids} (h : Recorded c s) (buyer : String)
    (isCancelled : Bool) (response : Option GetBidsRawResponse) :
    Recorded c (s.onFetchBidsDone c buyer isCancelled response).1 := by
  unfold onFetchBidsDone
  split
  · exact taskCompleted_recorded h _
  split
  · exact taskCompleted_recorded h _
  split
  · exact taskCompleted_recorded h _
  · exact ⟨h.requests, h.nonChaff, h.chaff⟩

theorem Recorded.step {s s' : FetchBids} {e : Event} {done : Option Bool} (h : Recorded c s)
    (hstep : s.step c e = some (s', done)) : Recorded c s' := by
  unfold FetchBids.step at hstep
  cases e with
  | fetchBid isCancelled executed =>
    dsimp only at hstep
    split at hstep
    · cases hstep
    · rename_i request rest hrequests
      have hall := h.requests
      rw [hrequests] at hall
      have hrest : Recorded c { s with buyerGetBidsRequests := rest } := by
        refine ⟨?_, h.nonChaff, h.chaff⟩
        intro other hmem
        exact hall other (List.mem_cons_of_mem _ hmem)
      have hcalled := fetchBid_recorded hrest (hall request List.mem_cons_self) isCancelled executed
      rw [Option.some.inj hstep] at hcalled
      exact hcalled
  | onDone buyer isCancelled response =>
    dsimp only at hstep
    split at hstep
    · have hreplied := onFetchBidsDone_recorded (s := { s with called := s.called.erase buyer })
        ⟨h.requests, h.nonChaff, h.chaff⟩ buyer isCancelled response
      rw [Option.some.inj hstep] at hreplied
      exact hreplied
    · cases hstep

theorem recorded_of_run (hfresh : c.cachedBuyers = none) {trace : List Event} {s : FetchBids}
    (run : (system c).Run trace s) : Recorded c s := by
  refine run.invariant (I := fun _ s => Recorded c s) ?_ ?_
  · rintro s rfl
    refine ⟨?_, nofun, fun _ => rfl⟩
    intro request hmem
    exact c.hasReason_of_fresh hfresh hmem
  · rintro trace s e s' h - ⟨done, hstep⟩
    exact h.step hstep

end Retry

def leastRng : RandomNumberGenerator where
  getUniformInt lower _ := lower
  getUniformInt_mem _ _ h := ⟨le_rfl, h⟩
  getUniformDouble lower _ := lower
  getNormalDouble mean _ := mean
  shuffle l := l
  shuffle_perm l := .refl l

/-- A request that comes again without the input of the buyer it was served with. -/
def retriedWithoutInput : SelectAdSetup where
  buyerFactory := .ofList ["https://buyer.example"]
  buyerList := ["https://buyer.example"]
  buyerInputs := ∅
  buyerCachingEnabled := true
  previouslyInvokedBuyers := some ⟨[], ["https://buyer.example"]⟩
  rng := leastRng

def servedWithInput : SelectAdSetup :=
  { retriedWithoutInput with
    buyerInputs := AList.insert "https://buyer.example" [] ∅
    previouslyInvokedBuyers := none }

end FetchBids

end BiddingAuction
