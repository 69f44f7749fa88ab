import BiddingAuction.Common.Status
import BiddingAuction.SelectAd.FetchBids

/-!
# The `SelectAd` call until it finishes

With the bids in, the scoring signals are fetched while the k-anonymity of the bids is
asked for; a second tracker joins the two, and the last to complete goes on to scoring. Any
callback may be the last one, and many of them may finish the call instead. The call
finishes exactly once unless a fetch of signals fails to start, which nobody is told of,
or the signals of the second version cannot be converted, which aborts the process.
-/

namespace BiddingAuction

open Foundation

/-- What decides how a call goes on once its request is decoded. -/
structure SelectAdRpcSetup extends SelectAdSetup where
  /-- K-anonymity is enabled and to be enforced for the request. -/
  enableEnforceKanon : Bool := false
  performScoringSignalsFetch : Bool := true
  /-- `UseKvV2`. -/
  useKvV2 : Bool := false
  hasScoringSignalsAsyncProvider : Bool := true
  hasKvAsyncClient : Bool := true
  /-- The reactor is a `SelectAdReactorForApp`. -/
  isApp : Bool := false
  /-- The `buyer_currency` of each buyer in `per_buyer_config`. -/
  buyerCurrencies : FlatHashMap String String := ∅

/-- What is out of the reactor's hands in a step. What a step does not come to is not
looked at. -/
structure SelectAdOutcome where
  /-- `IsCancelled`, as `Execute` or a callback is entered. -/
  isCancelled : Bool := false
  /-- `IsCancelled` in `OnAllBidsDone`. -/
  isCancelledWithBids : Bool := false
  /-- `IsCancelled` in `FetchScoringSignals`. -/
  isCancelledBeforeSignals : Bool := false
  /-- `IsCancelled` in `ScoreAds`. -/
  isCancelledBeforeScoring : Bool := false
  /-- The metadata, the auction config or the ciphertext is refused. -/
  refused : Option GrpcStatusCode := none
  hasAdServerVisibleErrors : Bool := false
  hasClientVisibleErrors : Bool := false
  /-- There are hashes to ask for. -/
  hasHashes : Bool := true
  /-- `AreKAnonymous` took the hashes. -/
  kAnonQueried : Bool := true
  kAnonReplied : Bool := true
  /-- The client of the key-value server took the request. -/
  signalsRequested : Bool := true
  /-- The scoring signals, `none` for a failure. -/
  scoringSignals : Option String := none
  /-- The reply of the second version, and what `ConvertV2ResponseToV1ScoringSignals`
  makes of it. -/
  kvLookUpResult : Option (Option String) := none
  /-- The client of the auction service took the request. -/
  scoringRequested : Bool := true
  scoreAdsStatus : GrpcStatusCode := .ok
  /-- `GetNonEncryptedResponse` succeeds. -/
  hasResponse : Bool := true
  /-- The response is encrypted. -/
  encrypts : Bool := true
deriving DecidableEq, Repr

/-! ## The bids -/

section Bids

variable (c : SelectAdRpcSetup)

/-- What `FilterBidsWithMismatchingCurrencyHelper` keeps; the order it leaves the bids in is
not modelled. -/
def filterBidsWithMismatchingCurrencyHelper {Ad : Type} (bidCurrency : Ad → String)
    (buyerCurrency : String) (adsWithBids : List Ad) : List Ad :=
  adsWithBids.filter fun ad => bidCurrency ad = "" || buyerCurrency = bidCurrency ad

def filterBuyerBids (buyer : String) (response : GetBidsRawResponse) : GetBidsRawResponse :=
  match c.buyerCurrencies.lookup buyer with
  | none | some "" => response
  | some buyerCurrency =>
    { bids := filterBidsWithMismatchingCurrencyHelper AdWithBid.bidCurrency buyerCurrency
        response.bids
      protectedAppSignalsBids := filterBidsWithMismatchingCurrencyHelper
        ProtectedAppSignalsAdWithBid.bidCurrency buyerCurrency response.protectedAppSignalsBids }

/-- Whether the currency of the buyer leaves it bids: without one its bids are taken to
be there. -/
def hasValidBids (buyer : String) (response : GetBidsRawResponse) : Bool :=
  match c.buyerCurrencies.lookup buyer with
  | none | some "" => true
  | some _ => !FetchBids.hasNoBids c.toSelectAdSetup (filterBuyerBids c buyer response)

/-- `FilterBidsWithMismatchingCurrency`: whether any bids are valid, and the buyers that
have bids left. -/
def filterBidsWithMismatchingCurrency (bids : FlatHashMap String GetBidsRawResponse) :
    Bool × FlatHashMap String GetBidsRawResponse :=
  (bids.entries.any fun buyer => hasValidBids c buyer.1 buyer.2,
    bids.entries.foldl (fun kept buyer =>
      let response := filterBuyerBids c buyer.1 buyer.2
      if FetchBids.hasNoBids c.toSelectAdSetup response then kept
      else kept.insert buyer.1 response) ∅)

/-- `CreateV2ScoringRequest` succeeds: some bid has a URL to ask for. -/
def createV2ScoringRequest (bids : FlatHashMap String GetBidsRawResponse) : Bool :=
  bids.entries.any fun buyer =>
    (buyer.2.bids.any fun ad => ad.render != "" || ad.adComponents.any (· != "")) ||
      (c.isPasEnabled && buyer.2.protectedAppSignalsBids.any fun ad => ad.render != "")

/-- `CreateScoreAdsRequest` has ads to score. -/
def hasAdsToScore (bids : FlatHashMap String GetBidsRawResponse) : Bool :=
  (c.isProtectedAudienceEnabled && bids.entries.any fun buyer => !buyer.2.bids.isEmpty) ||
    (c.isApp && c.isPasEnabled &&
      bids.entries.any fun buyer => !buyer.2.protectedAppSignalsBids.isEmpty)

end Bids

/-! ## The call -/

namespace SelectAdRpc

/-- A callback that is to come, or the task given to the executor. -/
inductive Pending where
  | queryKAnonHashes
  | areKAnonymous
  | scoringSignals
  | kvLookUp
  | scoreAds
deriving DecidableEq, Repr

end SelectAdRpc

/-- A call: its bids, the tracker of signals and k-anonymity, what it waits for besides the
bids, and the statuses `Finish` was called with. -/
structure SelectAdRpc where
  executed : Bool := false
  bids : FetchBids := { buyerGetBidsRequests := [], tracker := .setNumTasksToTrack 0 }
  tracker : AsyncTaskTracker := .setNumTasksToTrack 1
  waiting : List SelectAdRpc.Pending := []
  maybeScoringSignals : Option String := none
  hasAdServerVisibleErrors : Bool := false
  finished : List GrpcStatusCode := []
  aborted : Bool := false

namespace SelectAdRpc

section Handlers

variable (c : SelectAdRpcSetup) (o : SelectAdOutcome) (s : SelectAdRpc)

def finishWithStatus (status : GrpcStatusCode) : SelectAdRpc :=
  { s with finished := s.finished ++ [status] }

def await (pending : Pending) : SelectAdRpc := { s with waiting := pending :: s.waiting }

/-- `OnScoreAdsDone`, with the status of the scores. -/
def onScoreAdsDone (response : GrpcStatusCode) : SelectAdRpc :=
  if s.hasAdServerVisibleErrors then s.finishWithStatus .invalidArgument
  else if response ≠ .ok ∧ response ≠ .internal then s.finishWithStatus response
  else if !o.hasResponse then s.finishWithStatus .internal
  -- `EncryptResponse` finishes the call itself
  else if !o.encrypts then s.finishWithStatus .internal
  else s.finishWithStatus .ok

/-- `ScoreAds`, in its wrapper. -/
def scoreAds : SelectAdRpc :=
  if c.enableCancellation && o.isCancelledBeforeScoring then s.finishWithStatus .cancelled
  else if !hasAdsToScore c s.bids.sharedBuyerBidsMap then s.onScoreAdsDone o .ok
  else if o.scoringRequested then s.await .scoreAds
  else s.finishWithStatus .internal

/-- `ReportError`, for the ad server. -/
def reportError : SelectAdRpc := { s with hasAdServerVisibleErrors := true }

def onFetchScoringSignalsDone : SelectAdRpc :=
  if !c.performScoringSignalsFetch then s.scoreAds c o
  else
    match s.maybeScoringSignals with
    | none => s.reportError.onScoreAdsDone o .ok
    | some "" => s.onScoreAdsDone o .ok
    | some _ => s.scoreAds c o

/-- `TaskCompleted` on the tracker of signals and k-anonymity. -/
def taskCompleted (status : TaskStatus) : SelectAdRpc :=
  let completed := s.tracker.taskCompleted status
  let s := { s with tracker := completed.1 }
  match completed.2 with
  | none => s
  | some _ => s.onFetchScoringSignalsDone c o

def queryKAnonHashes : SelectAdRpc :=
  if !o.hasHashes then s.taskCompleted c o .skipped
  else if o.kAnonQueried then s.await .areKAnonymous
  else s.taskCompleted c o .error

/-- `FetchScoringSignalsV1`. The provider does not look at whether its client took the
request. -/
def fetchScoringSignalsV1 : SelectAdRpc :=
  if !c.performScoringSignalsFetch then s.finishWithStatus .internal
  else if !c.hasScoringSignalsAsyncProvider then s.finishWithStatus .internal
  else if o.signalsRequested then s.await .scoringSignals
  else s

/-- `FetchScoringSignalsV2`. Neither a request that cannot be created nor a client that
does not take it leads to anything. -/
def fetchScoringSignalsV2 : SelectAdRpc :=
  if !c.performScoringSignalsFetch then s.finishWithStatus .internal
  else if !c.hasKvAsyncClient then s.finishWithStatus .internal
  else if !createV2ScoringRequest c s.bids.sharedBuyerBidsMap then s
  else if o.signalsRequested then s.await .kvLookUp
  else s

/-- `FetchScoringSignals`, in its wrapper. -/
def fetchScoringSignals : SelectAdRpc :=
  if c.enableCancellation && o.isCancelledBeforeSignals then s.finishWithStatus .cancelled
  else if c.useKvV2 then s.fetchScoringSignalsV2 c o
  else s.fetchScoringSignalsV1 c o

def onAllBidsDone (anySuccessfulBids : Bool) : SelectAdRpc :=
  if c.enableCancellation && o.isCancelledWithBids then s.finishWithStatus .cancelled
  else if s.bids.sharedBuyerBidsMap.entries.isEmpty then
    if !anySuccessfulBids then s.finishWithStatus .internal else s.onScoreAdsDone o .ok
  else
    let filtered := filterBidsWithMismatchingCurrency c s.bids.sharedBuyerBidsMap
    let s := { s with bids := { s.bids with sharedBuyerBidsMap := filtered.2 } }
    if !filtered.1 then s.finishWithStatus .invalidArgument
    else if c.performScoringSignalsFetch then
      (if c.enableEnforceKanon then s.await .queryKAnonHashes else s).fetchScoringSignals c o
    else if c.enableEnforceKanon then s.queryKAnonHashes c o
    else s.scoreAds c o

/-- `FetchBids`, up to its loop. -/
def fetchBids : SelectAdRpc :=
  let s := { s with bids := .start c.toSelectAdSetup }
  if c.getEffectiveNumberOfBuyers = 0 then s.onAllBidsDone c o true else s

/-- `Execute`. Decryption sets the tracker for what is going to be asked. -/
def execute : SelectAdRpc :=
  let s := { s with executed := true }
  if c.enableCancellation && o.isCancelled then s.finishWithStatus .cancelled
  else
    match o.refused with
    | some status => s.finishWithStatus status
    | none =>
      let s := if c.enableEnforceKanon then
          { s with tracker :=
              .setNumTasksToTrack ((if c.performScoringSignalsFetch then 1 else 0) + 1) }
        else s
      if o.hasAdServerVisibleErrors then s.reportError.onScoreAdsDone o .ok
      else if o.hasClientVisibleErrors then s.onScoreAdsDone o .ok
      else s.fetchBids c o

def handle : Pending → SelectAdRpc
  | .queryKAnonHashes => s.queryKAnonHashes c o
  | .areKAnonymous => s.taskCompleted c o (if o.kAnonReplied then .success else .error)
  | .scoringSignals =>
    if c.enableCancellation && o.isCancelled then s.taskCompleted c o .cancelled
    else
      ({ s with maybeScoringSignals := o.scoringSignals } : SelectAdRpc).taskCompleted c o .success
  | .kvLookUp =>
    if c.enableCancellation && o.isCancelled then s.finishWithStatus .cancelled
    else
      match o.kvLookUpResult with
      | none => s.reportError.onScoreAdsDone o .ok
      -- the value of the failed conversion is read
      | some none => { s with aborted := true }
      | some (some signals) =>
        ({ s with maybeScoringSignals := some signals } : SelectAdRpc).taskCompleted c o .success
  | .scoreAds =>
    if c.enableCancellation && o.isCancelled then s.finishWithStatus .cancelled
    else s.onScoreAdsDone o o.scoreAdsStatus

end Handlers

/-- `Execute` is called, a turn of the loop over the buyers or a buyer's reply, or any
other callback. -/
inductive Event where
  | execute (outcome : SelectAdOutcome)
  | bid (event : FetchBids.Event) (outcome : SelectAdOutcome)
  | callback (pending : Pending) (outcome : SelectAdOutcome)

/-- One step of the call; `none` for what cannot happen now. -/
def step (c : SelectAdRpcSetup) (s : SelectAdRpc) (e : Event) : Option SelectAdRpc :=
  if s.aborted then none
  else
    match e with
    | .execute o => if s.executed then none else some (s.execute c o)
    | .bid event o => do
      let (bids, done) ← s.bids.step c.toSelectAdSetup event
      let s := { s with bids := bids }
      match done with
      | none => return s
      | some anySuccessfulBids => return s.onAllBidsDone c o anySuccessfulBids
    | .callback pending o =>
      if pending ∈ s.waiting then
        some (({ s with waiting := s.waiting.erase pending } : SelectAdRpc).handle c o pending)
      else none

def system (c : SelectAdRpcSetup) : LTS SelectAdRpc Event where
  init s := s = {}
  step s e s' := s.step c e = some s'

/-- A callback is outstanding: `Execute` is to be called, a buyer to be called or to
reply, or another callback to come. -/
def IsOutstanding (s : SelectAdRpc) : Prop :=
  s.executed = false ∨ ¬ s.bids.IsQuiet ∨ s.waiting ≠ []

/-- The process lives, `Finish` was called at most once, and if it was not called a
callback is outstanding. -/
structure FinishesOnce (s : SelectAdRpc) : Prop where
  lives : s.aborted = false
  atMostOnce : s.finished.length ≤ 1
  outstanding : s.finished = [] → s.IsOutstanding

/-! ## When a step is clean -/

section Clean

variable (c : SelectAdRpcSetup) (o : SelectAdOutcome)

/-- With these bids `OnAllBidsDone` comes to ask the key-value server. -/
def ComesToSignals (bids : FlatHashMap String GetBidsRawResponse) : Prop :=
  (c.enableCancellation && o.isCancelledWithBids) = false ∧ bids.entries ≠ [] ∧
    (filterBidsWithMismatchingCurrency c bids).1 = true ∧ c.performScoringSignalsFetch = true ∧
    (c.enableCancellation && o.isCancelledBeforeSignals) = false ∧
    (if c.useKvV2 then c.hasKvAsyncClient else c.hasScoringSignalsAsyncProvider) = true

/-- The request to the key-value server starts: the client takes it and, for the second
version, there is a URL to ask for among the bids that are left. -/
def SignalsStart (bids : FlatHashMap String GetBidsRawResponse) : Prop :=
  o.signalsRequested = true ∧
    (c.useKvV2 = true →
      createV2ScoringRequest c (filterBidsWithMismatchingCurrency c bids).2 = true)

/-- `Execute` comes to `FetchBids`. -/
def ComesToBids : Prop :=
  (c.enableCancellation && o.isCancelled) = false ∧ o.refused = none ∧
    o.hasAdServerVisibleErrors = false ∧ o.hasClientVisibleErrors = false

/-- Where the buyers are called the calls match what the tracker is told, where the
key-value server is asked the request starts, and where its second version replies the
reply can be converted. -/
def IsClean (s : SelectAdRpc) : Event → Prop
  | .execute o => ComesToBids c o → c.CallsMatch
  | .bid event o => ∀ bids anySuccessfulBids,
      s.bids.step c.toSelectAdSetup event = some (bids, some anySuccessfulBids) →
        ComesToSignals c o bids.sharedBuyerBidsMap → SignalsStart c o bids.sharedBuyerBidsMap
  | .callback pending o => pending = .kvLookUp →
      (c.enableCancellation && o.isCancelled) = false → o.kvLookUpResult ≠ some none

end Clean

/-! ## The phases of a call -/

def Pending.isSignals : Pending → Bool
  | .scoringSignals | .kvLookUp => true
  | _ => false

def Pending.isKAnon : Pending → Bool
  | .queryKAnonHashes | .areKAnonymous => true
  | _ => false

/-- What `fetch_scoring_signals_query_kanon_tracker_` is told. -/
def numTasks (c : SelectAdRpcSetup) : ℤ :=
  if c.enableEnforceKanon then (if c.performScoringSignalsFetch then 1 else 0) + 1 else 1

/-- `Execute` was called and the bids are in. -/
structure HasBids (s : SelectAdRpc) : Prop where
  executed : s.executed = true
  quiet : s.bids.IsQuiet
  lives : s.aborted = false

structure Starting (s : SelectAdRpc) : Prop where
  executed : s.executed = false
  quiet : s.bids.IsQuiet
  lives : s.aborted = false
  waiting : s.waiting = []
  finished : s.finished = []
  tracker : s.tracker.pendingTasksCount = 1

structure Bidding (c : SelectAdRpcSetup) (s : SelectAdRpc) : Prop where
  executed : s.executed = true
  lives : s.aborted = false
  callsMatch : c.CallsMatch
  counted : s.bids.Counted c.toSelectAdSetup
  notDone : s.bids.onAllBidsDone = []
  waiting : s.waiting = []
  finished : s.finished = []
  tracker : s.tracker.pendingTasksCount = numTasks c

/-- Each task the tracker waits for is outstanding. -/
structure Fetching (s : SelectAdRpc) : Prop extends HasBids s where
  waiting : s.waiting ≠ []
  finished : s.finished = []
  tracker : s.tracker.pendingTasksCount = s.waiting.length
  tasks : .scoreAds ∉ s.waiting
  oneSignals : s.waiting.countP Pending.isSignals ≤ 1

structure Scoring (s : SelectAdRpc) : Prop extends HasBids s where
  waiting : s.waiting = [.scoreAds]
  finished : s.finished = []

/-- What is outstanding does not bring the tracker to its end. -/
structure Done (s : SelectAdRpc) : Prop extends HasBids s where
  finished : s.finished.length = 1
  kAnon : ∀ pending ∈ s.waiting, pending.isKAnon = true
  tracker : s.waiting ≠ [] → (s.waiting.length : ℤ) < s.tracker.pendingTasksCount

inductive Phase (c : SelectAdRpcSetup) (s : SelectAdRpc) : Prop
  | starting : Starting s → Phase c s
  | bidding : Bidding c s → Phase c s
  | fetching : Fetching s → Phase c s
  | scoring : Scoring s → Phase c s
  | done : Done s → Phase c s

section Phases

variable {c : SelectAdRpcSetup} {o : SelectAdOutcome} {s : SelectAdRpc}

/-! ### Finishing -/

theorem onScoreAdsDone_finishes (response : GrpcStatusCode) :
    ∃ status, s.onScoreAdsDone o response = s.finishWithStatus status := by
  unfold onScoreAdsDone
  split
  · exact ⟨_, rfl⟩
  split
  · exact ⟨_, rfl⟩
  split
  · exact ⟨_, rfl⟩
  split
  · exact ⟨_, rfl⟩
  · exact ⟨_, rfl⟩

theorem HasBids.finish (h : HasBids s) (hfinished : s.finished = [])
    (hkAnon : ∀ pending ∈ s.waiting, pending.isKAnon = true)
    (htracker : s.waiting ≠ [] → (s.waiting.length : ℤ) < s.tracker.pendingTasksCount)
    (status : GrpcStatusCode) : Done (s.finishWithStatus status) := by
  refine ⟨⟨h.executed, h.quiet, h.lives⟩, ?_, hkAnon, htracker⟩
  show (s.finished ++ [status]).length = 1
  rw [hfinished]
  rfl

theorem HasBids.finish_alone (h : HasBids s) (hfinished : s.finished = [])
    (hwaiting : s.waiting = []) (status : GrpcStatusCode) : Done (s.finishWithStatus status) := by
  refine h.finish hfinished ?_ ?_ status
  · rw [hwaiting]
    intro _ hmem
    exact absurd hmem List.not_mem_nil
  · intro hne
    exact absurd hwaiting hne

theorem HasBids.scoresDone_alone (h : HasBids s) (hfinished : s.finished = [])
    (hwaiting : s.waiting = []) (response : GrpcStatusCode) :
    Done (s.onScoreAdsDone o response) := by
  obtain ⟨status, hstatus⟩ := onScoreAdsDone_finishes (o := o) (s := s) response
  rw [hstatus]
  exact h.finish_alone hfinished hwaiting status

/-! ### Scoring -/

/-- With nothing outstanding `ScoreAds` asks for the scores or finishes. -/
theorem HasBids.scoreAds (h : HasBids s) (hfinished : s.finished = []) (hwaiting : s.waiting = []) :
    Scoring (s.scoreAds c o) ∨ Done (s.scoreAds c o) := by
  unfold SelectAdRpc.scoreAds
  split
  · exact .inr (h.finish_alone hfinished hwaiting _)
  split
  · exact .inr (h.scoresDone_alone hfinished hwaiting _)
  split
  · exact .inl ⟨⟨h.executed, h.quiet, h.lives⟩, congrArg (Pending.scoreAds :: ·) hwaiting,
      hfinished⟩
  · exact .inr (h.finish_alone hfinished hwaiting _)

theorem HasBids.signalsDone (h : HasBids s) (hfinished : s.finished = [])
    (hwaiting : s.waiting = []) :
    Scoring (s.onFetchScoringSignalsDone c o) ∨ Done (s.onFetchScoringSignalsDone c o) := by
  unfold onFetchScoringSignalsDone
  split
  · exact h.scoreAds hfinished hwaiting
  split
  · have hreported : HasBids s.reportError := ⟨h.executed, h.quiet, h.lives⟩
    exact .inr (hreported.scoresDone_alone hfinished hwaiting _)
  · exact .inr (h.scoresDone_alone hfinished hwaiting _)
  · exact h.scoreAds hfinished hwaiting

/-! ### The tasks of the tracker -/

theorem taskCompleted_of_ne {status : TaskStatus} (h : s.tracker.pendingTasksCount ≠ 1) :
    s.taskCompleted c o status = { s with tracker := (s.tracker.taskCompleted status).1 } := by
  have hnone : (s.tracker.taskCompleted status).2 = none := by
    rw [← Option.not_isSome_iff_eq_none, s.tracker.taskCompleted_isSome]
    exact h
  unfold taskCompleted
  dsimp only
  rw [hnone]

theorem taskCompleted_of_eq {status : TaskStatus} (h : s.tracker.pendingTasksCount = 1) :
    s.taskCompleted c o status = onFetchScoringSignalsDone c o
      { s with tracker := (s.tracker.taskCompleted status).1 } := by
  obtain ⟨anySuccessful, hsome⟩ := Option.isSome_iff_exists.mp
    ((s.tracker.taskCompleted_isSome status).mpr h)
  unfold taskCompleted
  dsimp only
  rw [hsome]

theorem HasBids.completeTask (h : HasBids s) (hfinished : s.finished = [])
    (htracker : s.tracker.pendingTasksCount = s.waiting.length + 1)
    (htasks : .scoreAds ∉ s.waiting) (hsignals : s.waiting.countP Pending.isSignals ≤ 1)
    (status : TaskStatus) : Phase c (s.taskCompleted c o status) := by
  by_cases hwaiting : s.waiting = []
  · have hlast : s.tracker.pendingTasksCount = 1 := by
      rw [htracker, hwaiting]
      rfl
    rw [taskCompleted_of_eq hlast]
    have hbids : HasBids { s with tracker := (s.tracker.taskCompleted status).1 } :=
      ⟨h.executed, h.quiet, h.lives⟩
    rcases hbids.signalsDone (c := c) (o := o) hfinished hwaiting with hscoring | hdone
    · exact .scoring hscoring
    · exact .done hdone
  · have hpos := List.length_pos_iff.mpr hwaiting
    rw [taskCompleted_of_ne (by omega)]
    refine .fetching ⟨⟨h.executed, h.quiet, h.lives⟩, hwaiting, hfinished, ?_, htasks, hsignals⟩
    show (s.tracker.taskCompleted status).1.pendingTasksCount = s.waiting.length
    rw [s.tracker.taskCompleted_pending, htracker]
    omega

theorem HasBids.completeTask_late (h : HasBids s) (hfinished : s.finished.length = 1)
    (hkAnon : ∀ pending ∈ s.waiting, pending.isKAnon = true)
    (htracker : (s.waiting.length + 1 : ℤ) < s.tracker.pendingTasksCount) (status : TaskStatus) :
    Done (s.taskCompleted c o status) := by
  rw [taskCompleted_of_ne (by omega)]
  refine ⟨⟨h.executed, h.quiet, h.lives⟩, hfinished, hkAnon, fun _ => ?_⟩
  show (s.waiting.length : ℤ) < (s.tracker.taskCompleted status).1.pendingTasksCount
  rw [s.tracker.taskCompleted_pending]
  omega

/-- `QueryKAnonHashes`, as one of the tasks. -/
theorem HasBids.queryKAnon (h : HasBids s) (hfinished : s.finished = [])
    (htracker : s.tracker.pendingTasksCount = s.waiting.length + 1)
    (htasks : .scoreAds ∉ s.waiting) (hsignals : s.waiting.countP Pending.isSignals ≤ 1) :
    Phase c (s.queryKAnonHashes c o) := by
  unfold queryKAnonHashes
  split
  · exact h.completeTask hfinished htracker htasks hsignals _
  split
  · refine .fetching ⟨⟨h.executed, h.quiet, h.lives⟩, List.cons_ne_nil _ _, hfinished, ?_, ?_, ?_⟩
    · show s.tracker.pendingTasksCount = ((.areKAnonymous :: s.waiting : List Pending).length : ℤ)
      rw [htracker, List.length_cons]
      rfl
    · show Pending.scoreAds ∉ .areKAnonymous :: s.waiting
      simpa using htasks
    · show (.areKAnonymous :: s.waiting : List Pending).countP Pending.isSignals ≤ 1
      rw [List.countP_cons_of_neg (by simp [Pending.isSignals])]
      exact hsignals
  · exact h.completeTask hfinished htracker htasks hsignals _

/-- `QueryKAnonHashes`, after the call has finished. -/
theorem HasBids.queryKAnon_late (h : HasBids s) (hfinished : s.finished.length = 1)
    (hkAnon : ∀ pending ∈ s.waiting, pending.isKAnon = true)
    (htracker : (s.waiting.length + 1 : ℤ) < s.tracker.pendingTasksCount) :
    Done (s.queryKAnonHashes c o) := by
  unfold queryKAnonHashes
  split
  · exact h.completeTask_late hfinished hkAnon htracker _
  split
  · refine ⟨⟨h.executed, h.quiet, h.lives⟩, hfinished, ?_, fun _ => ?_⟩
    · show ∀ pending ∈ Pending.areKAnonymous :: s.waiting, pending.isKAnon = true
      exact List.forall_mem_cons.mpr ⟨rfl, hkAnon⟩
    · show ((.areKAnonymous :: s.waiting : List Pending).length : ℤ) < s.tracker.pendingTasksCount
      rw [List.length_cons]
      exact_mod_cast htracker
  · exact h.completeTask_late hfinished hkAnon htracker _

/-! ### With all the bids -/

theorem HasBids.awaitSignals (h : HasBids s) (hfinished : s.finished = [])
    (htracker : s.tracker.pendingTasksCount = s.waiting.length + 1)
    (hkAnon : ∀ pending ∈ s.waiting, pending.isKAnon = true) {pending : Pending}
    (hpending : pending.isSignals = true) : Fetching (s.await pending) := by
  have hnone : s.waiting.countP Pending.isSignals = 0 := by
    refine List.countP_eq_zero.mpr fun other hmem => ?_
    have hk := hkAnon other hmem
    cases other <;> simp_all [Pending.isKAnon, Pending.isSignals]
  refine ⟨⟨h.executed, h.quiet, h.lives⟩, List.cons_ne_nil _ _, hfinished, ?_, ?_, ?_⟩
  · show s.tracker.pendingTasksCount = ((pending :: s.waiting).length : ℤ)
    rw [htracker, List.length_cons]
    rfl
  · show Pending.scoreAds ∉ pending :: s.waiting
    intro hmem
    rcases List.mem_cons.mp hmem with rfl | hmem
    · cases hpending
    · cases hkAnon _ hmem
  · show (pending :: s.waiting).countP Pending.isSignals ≤ 1
    rw [List.countP_cons_of_pos hpending, hnone]

theorem HasBids.fetchSignals (h : HasBids s) (hfinished : s.finished = [])
    (hperform : c.performScoringSignalsFetch = true)
    (htracker : s.tracker.pendingTasksCount = s.waiting.length + 1)
    (hkAnon : ∀ pending ∈ s.waiting, pending.isKAnon = true)
    (hstart : (c.enableCancellation && o.isCancelledBeforeSignals) = false →
      (if c.useKvV2 then c.hasKvAsyncClient else c.hasScoringSignalsAsyncProvider) = true →
      o.signalsRequested = true ∧
        (c.useKvV2 = true → createV2ScoringRequest c s.bids.sharedBuyerBidsMap = true)) :
    Phase c (s.fetchScoringSignals c o) := by
  have hfinish : ∀ status, Phase c (s.finishWithStatus status) := fun status =>
    .done (h.finish hfinished hkAnon (fun _ => by omega) status)
  have hawait : ∀ pending : Pending, pending.isSignals = true → Phase c (s.await pending) := by
    intro pending hpending
    exact .fetching (h.awaitSignals hfinished htracker hkAnon hpending)
  unfold fetchScoringSignals
  split
  · exact hfinish _
  rename_i hcancelled
  have hcancelled := Bool.not_eq_true _ ▸ hcancelled
  split
  · rename_i hv2
    rw [if_pos hv2] at hstart
    unfold fetchScoringSignalsV2
    rw [hperform]
    rw [if_neg (by simp)]
    split
    · exact hfinish _
    rename_i hclient
    obtain ⟨hrequested, hcreated⟩ := hstart hcancelled (by simpa using hclient)
    rw [hcreated hv2, if_neg (by simp), if_pos hrequested]
    exact hawait _ rfl
  · rename_i hv1
    rw [if_neg hv1] at hstart
    unfold fetchScoringSignalsV1
    rw [hperform]
    rw [if_neg (by simp)]
    split
    · exact hfinish _
    rename_i hprovider
    obtain ⟨hrequested, -⟩ := hstart hcancelled (by simpa using hprovider)
    rw [if_pos hrequested]
    exact hawait _ rfl

theorem HasBids.fetchSignalsAndKAnon (h : HasBids s) (hfinished : s.finished = [])
    (hwaiting : s.waiting = []) (htracker : s.tracker.pendingTasksCount = numTasks c)
    (hperform : c.performScoringSignalsFetch = true)
    (hstart : (c.enableCancellation && o.isCancelledBeforeSignals) = false →
      (if c.useKvV2 then c.hasKvAsyncClient else c.hasScoringSignalsAsyncProvider) = true →
      o.signalsRequested = true ∧
        (c.useKvV2 = true → createV2ScoringRequest c s.bids.sharedBuyerBidsMap = true)) :
    Phase c ((if c.enableEnforceKanon then s.await .queryKAnonHashes else s).fetchScoringSignals
      c o) := by
  unfold numTasks at htracker
  split
  · rename_i hkAnon
    rw [if_pos hkAnon, if_pos hperform] at htracker
    have hasked : HasBids (s.await .queryKAnonHashes) := ⟨h.executed, h.quiet, h.lives⟩
    refine hasked.fetchSignals hfinished hperform ?_ ?_ hstart
    · show s.tracker.pendingTasksCount = ((.queryKAnonHashes :: s.waiting :
        List Pending).length : ℤ) + 1
      rw [htracker, hwaiting]
      rfl
    · show ∀ pending ∈ Pending.queryKAnonHashes :: s.waiting, pending.isKAnon = true
      rw [hwaiting]
      simp [Pending.isKAnon]
  · rename_i hkAnon
    rw [if_neg hkAnon] at htracker
    refine h.fetchSignals hfinished hperform ?_ ?_ hstart
    · rw [htracker, hwaiting]
      rfl
    · rw [hwaiting]
      simp

/-- `OnAllBidsDone`, if the request to the key-value server starts where it comes to it. -/
theorem HasBids.allBidsDone (h : HasBids s) (hfinished : s.finished = [])
    (hwaiting : s.waiting = []) (htracker : s.tracker.pendingTasksCount = numTasks c)
    (hstart : ComesToSignals c o s.bids.sharedBuyerBidsMap →
      SignalsStart c o s.bids.sharedBuyerBidsMap) (anySuccessfulBids : Bool) :
    Phase c (s.onAllBidsDone c o anySuccessfulBids) := by
  unfold onAllBidsDone
  split
  · exact .done (h.finish_alone hfinished hwaiting _)
  rename_i hcancelled
  split
  · split
    · exact .done (h.finish_alone hfinished hwaiting _)
    · exact .done (h.scoresDone_alone hfinished hwaiting _)
  rename_i hbids
  dsimp only
  generalize hfiltered : filterBidsWithMismatchingCurrency c s.bids.sharedBuyerBidsMap = filtered
    at hstart ⊢
  have hkept : HasBids { s with bids := { s.bids with sharedBuyerBidsMap := filtered.2 } } :=
    ⟨h.executed, h.quiet, h.lives⟩
  split
  · exact .done (hkept.finish_alone hfinished hwaiting _)
  rename_i hvalid
  split
  · rename_i hperform
    have hstart : (c.enableCancellation && o.isCancelledBeforeSignals) = false →
        (if c.useKvV2 then c.hasKvAsyncClient else c.hasScoringSignalsAsyncProvider) = true →
        o.signalsRequested = true ∧
          (c.useKvV2 = true → createV2ScoringRequest c filtered.2 = true) := by
      intro hcancelledBefore hclient
      have := hstart ⟨by simpa using hcancelled, by simpa using hbids,
        by rw [hfiltered]; simpa using hvalid, hperform, hcancelledBefore, hclient⟩
      unfold SignalsStart at this
      rw [hfiltered] at this
      exact this
    exact hkept.fetchSignalsAndKAnon hfinished hwaiting htracker hperform hstart
  rename_i hperform
  split
  · rename_i hkAnon
    refine hkept.queryKAnon hfinished ?_ ?_ ?_
    · show s.tracker.pendingTasksCount = (s.waiting.length : ℤ) + 1
      rw [htracker, hwaiting]
      simp [numTasks, hkAnon, hperform]
    · show Pending.scoreAds ∉ s.waiting
      rw [hwaiting]
      exact List.not_mem_nil
    · show s.waiting.countP Pending.isSignals ≤ 1
      rw [hwaiting]
      exact Nat.zero_le 1
  · rcases hkept.scoreAds (c := c) (o := o) hfinished hwaiting with hscoring | hdone
    · exact .scoring hscoring
    · exact .done hdone

/-! ### The steps -/

/-- `FetchBids` from a call that has just been executed. -/
theorem HasBids.fetchBids (h : HasBids s) (hfinished : s.finished = []) (hwaiting : s.waiting = [])
    (htracker : s.tracker.pendingTasksCount = numTasks c) (hmatch : c.CallsMatch) :
    Phase c (s.fetchBids c o) := by
  unfold SelectAdRpc.fetchBids
  dsimp only
  split
  · rename_i hzero
    have hquiet : (FetchBids.start c.toSelectAdSetup).IsQuiet := by
      refine ⟨?_, rfl⟩
      show c.requestsToMake = []
      unfold SelectAdSetup.requestsToMake
      rw [if_pos hzero]
    have hbids : HasBids { s with bids := .start c.toSelectAdSetup } :=
      ⟨h.executed, hquiet, h.lives⟩
    -- no bids, so the key-value server is not asked
    exact hbids.allBidsDone hfinished hwaiting htracker (fun hcomes => absurd rfl hcomes.2.1) true
  · rename_i hpos
    refine .bidding ⟨h.executed, h.lives, hmatch, FetchBids.start_counted _, ?_, hwaiting,
      hfinished, htracker⟩
    show (if c.getEffectiveNumberOfBuyers = 0 then [true] else []) = []
    rw [if_neg hpos]

theorem Starting.execute (h : Starting s) (hclean : ComesToBids c o → c.CallsMatch) :
    Phase c (s.execute c o) := by
  have hbids : HasBids { s with executed := true } := ⟨rfl, h.quiet, h.lives⟩
  unfold SelectAdRpc.execute
  dsimp only
  split
  · exact .done (hbids.finish_alone h.finished h.waiting _)
  rename_i hcancelled
  split
  · exact .done (hbids.finish_alone h.finished h.waiting _)
  rename_i hrefused
  -- decryption leaves nothing changed but the tracker
  generalize hdecrypted : (if c.enableEnforceKanon then
    ({ s with
      executed := true
      tracker := .setNumTasksToTrack ((if c.performScoringSignalsFetch then 1 else 0) + 1) } :
      SelectAdRpc)
    else { s with executed := true }) = d
  have hd : HasBids d ∧ d.finished = [] ∧ d.waiting = [] ∧
      d.tracker.pendingTasksCount = numTasks c := by
    rw [← hdecrypted]
    unfold numTasks
    split
    · exact ⟨⟨rfl, h.quiet, h.lives⟩, h.finished, h.waiting, rfl⟩
    · exact ⟨⟨rfl, h.quiet, h.lives⟩, h.finished, h.waiting, h.tracker⟩
  obtain ⟨hd, hfinished, hwaiting, htracker⟩ := hd
  split
  · have hreported : HasBids d.reportError := ⟨hd.executed, hd.quiet, hd.lives⟩
    exact .done (hreported.scoresDone_alone hfinished hwaiting _)
  rename_i hserver
  split
  · exact .done (hd.scoresDone_alone hfinished hwaiting _)
  rename_i hclient
  exact hd.fetchBids hfinished hwaiting htracker
    (hclean ⟨by simpa using hcancelled, hrefused, by simpa using hserver, by simpa using hclient⟩)

theorem Bidding.bid (h : Bidding c s) {event : FetchBids.Event} {bids : FetchBids}
    {done : Option Bool} (hstep : s.bids.step c.toSelectAdSetup event = some (bids, done))
    (hclean : ∀ anySuccessfulBids, done = some anySuccessfulBids →
      ComesToSignals c o bids.sharedBuyerBidsMap → SignalsStart c o bids.sharedBuyerBidsMap) :
    Phase c (done.elim { s with bids := bids } fun anySuccessfulBids =>
      ({ s with bids := bids } : SelectAdRpc).onAllBidsDone c o anySuccessfulBids) := by
  have hcounted := h.counted.step hstep
  cases done with
  | none =>
    refine .bidding ⟨h.executed, h.lives, h.callsMatch, hcounted, ?_, h.waiting, h.finished,
      h.tracker⟩
    show bids.onAllBidsDone = []
    rcases FetchBids.step_cases hstep with ⟨_, _, -, hcompletes | hcalls⟩ | ⟨_, -, hcompletes⟩
    · rw [hcompletes.onAllBidsDone]
      exact List.append_nil _ ▸ h.notDone
    · rw [hcalls.onAllBidsDone]
      exact h.notDone
    · rw [hcompletes.onAllBidsDone]
      exact List.append_nil _ ▸ h.notDone
  | some anySuccessfulBids =>
    -- the last task that was announced is the last one there is
    have hlast : bids.onAllBidsDone ≠ [] := by
      rcases FetchBids.step_cases hstep with ⟨_, _, -, hcompletes | hcalls⟩ | ⟨_, -, hcompletes⟩
      · rw [hcompletes.onAllBidsDone]
        simp
      · exact absurd hcalls.notDone nofun
      · rw [hcompletes.onAllBidsDone]
        simp
    have hquiet : bids.IsQuiet := by
      have hrequests := hcounted.requests
      have hall := c.requestsToMake_iff.mpr h.callsMatch
      have hinvoked := hcounted.invoked
      have hpos := List.length_pos_iff.mpr hlast
      split at hinvoked
      · exact ⟨List.length_eq_zero_iff.mp (by omega), List.length_eq_zero_iff.mp (by omega)⟩
      · omega
    have hbids : HasBids { s with bids := bids } := ⟨h.executed, hquiet, h.lives⟩
    exact hbids.allBidsDone h.finished h.waiting h.tracker (hclean _ rfl) anySuccessfulBids

/-- The reply of the second version of the key-value server may finish the call, and then
k-anonymity does not. -/
theorem Fetching.kvLookUp (h : Fetching s) (hmem : .kvLookUp ∈ s.waiting)
    (hclean : (c.enableCancellation && o.isCancelled) = false → o.kvLookUpResult ≠ some none) :
    Phase c (({ s with waiting := s.waiting.erase .kvLookUp } : SelectAdRpc).handle c o
      .kvLookUp) := by
  have hlength := List.length_erase_of_mem hmem
  have hpos := List.length_pos_of_mem hmem
  have htracker : s.tracker.pendingTasksCount = ((s.waiting.erase .kvLookUp).length : ℤ) + 1 := by
    rw [h.tracker]
    omega
  have htasks : Pending.scoreAds ∉ s.waiting.erase .kvLookUp := fun hscore =>
    h.tasks (List.mem_of_mem_erase hscore)
  have hnone : (s.waiting.erase .kvLookUp).countP Pending.isSignals = 0 := by
    have hperm := (List.perm_cons_erase hmem).countP_eq Pending.isSignals
    rw [List.countP_cons_of_pos rfl] at hperm
    have := h.oneSignals
    omega
  have hkAnon : ∀ pending ∈ s.waiting.erase .kvLookUp, pending.isKAnon = true := by
    intro pending hpending
    have hnot := List.countP_eq_zero.mp hnone pending hpending
    have hne : pending ≠ .scoreAds := fun heq => htasks (heq ▸ hpending)
    cases pending <;> simp_all [Pending.isKAnon, Pending.isSignals]
  have hfinish : ∀ (t : SelectAdRpc) status, HasBids t → t.finished = [] →
      t.waiting = s.waiting.erase .kvLookUp → t.tracker = s.tracker →
      Phase c (t.finishWithStatus status) := by
    intro t status ht hfinished hwaiting htracker'
    refine .done (ht.finish hfinished ?_ (fun _ => ?_) status)
    · rw [hwaiting]
      exact hkAnon
    · rw [hwaiting, htracker', htracker]
      omega
  unfold handle
  dsimp only
  split
  · exact hfinish _ _ ⟨h.executed, h.quiet, h.lives⟩ h.finished rfl rfl
  rename_i hcancelled
  split
  · obtain ⟨status, hstatus⟩ := onScoreAdsDone_finishes (o := o) (s := reportError
      { s with waiting := s.waiting.erase .kvLookUp }) .ok
    rw [hstatus]
    exact hfinish _ _ ⟨h.executed, h.quiet, h.lives⟩ h.finished rfl rfl
  · rename_i hrefused
    exact absurd hrefused (hclean (by simpa using hcancelled))
  · rename_i signals _
    have hreplied : HasBids { s with
        waiting := s.waiting.erase .kvLookUp
        maybeScoringSignals := some signals } := ⟨h.executed, h.quiet, h.lives⟩
    exact hreplied.completeTask h.finished htracker htasks (hnone.le.trans (Nat.zero_le 1)) _

theorem Fetching.callback (h : Fetching s) {pending : Pending} (hmem : pending ∈ s.waiting)
    (hclean : IsClean c s (.callback pending o)) :
    Phase c (({ s with waiting := s.waiting.erase pending } : SelectAdRpc).handle c o pending) := by
  have hlength := List.length_erase_of_mem hmem
  have hpos := List.length_pos_of_mem hmem
  have hsub : (s.waiting.erase pending).Sublist s.waiting := List.erase_sublist
  have htracker : s.tracker.pendingTasksCount = ((s.waiting.erase pending).length : ℤ) + 1 := by
    rw [h.tracker]
    omega
  have htasks : Pending.scoreAds ∉ s.waiting.erase pending := fun hscore =>
    h.tasks (hsub.subset hscore)
  have hsignals : (s.waiting.erase pending).countP Pending.isSignals ≤ 1 :=
    (hsub.countP_le).trans h.oneSignals
  have hrest : HasBids { s with waiting := s.waiting.erase pending } :=
    ⟨h.executed, h.quiet, h.lives⟩
  cases pending with
  | queryKAnonHashes => exact hrest.queryKAnon h.finished htracker htasks hsignals
  | areKAnonymous => exact hrest.completeTask h.finished htracker htasks hsignals _
  | scoringSignals =>
    unfold handle
    dsimp only
    split
    · exact hrest.completeTask h.finished htracker htasks hsignals _
    · have hreplied : HasBids { s with
          waiting := s.waiting.erase .scoringSignals
          maybeScoringSignals := o.scoringSignals } := ⟨h.executed, h.quiet, h.lives⟩
      exact hreplied.completeTask h.finished htracker htasks hsignals _
  | kvLookUp => exact h.kvLookUp hmem (hclean rfl)
  | scoreAds => exact absurd hmem h.tasks

theorem Scoring.callback (h : Scoring s) {pending : Pending} (hmem : pending ∈ s.waiting) :
    Phase c (({ s with waiting := s.waiting.erase pending } : SelectAdRpc).handle c o pending) := by
  rw [h.waiting, List.mem_singleton] at hmem
  subst hmem
  have hwaiting : s.waiting.erase .scoreAds = [] := by
    rw [h.waiting]
    rfl
  have hrest : HasBids { s with waiting := s.waiting.erase .scoreAds } :=
    ⟨h.executed, h.quiet, h.lives⟩
  unfold handle
  dsimp only
  split
  · exact .done (hrest.finish_alone h.finished hwaiting _)
  · exact .done (hrest.scoresDone_alone h.finished hwaiting _)

theorem Done.callback (h : Done s) {pending : Pending} (hmem : pending ∈ s.waiting) :
    Done (({ s with waiting := s.waiting.erase pending } : SelectAdRpc).handle c o pending) := by
  have hlength := List.length_erase_of_mem hmem
  have hpos := List.length_pos_of_mem hmem
  have hkAnon : ∀ pending' ∈ s.waiting.erase pending, pending'.isKAnon = true :=
    fun _ hpending => h.kAnon _ (List.mem_of_mem_erase hpending)
  have htracker : ((s.waiting.erase pending).length + 1 : ℤ) < s.tracker.pendingTasksCount := by
    have := h.tracker (List.ne_nil_of_mem hmem)
    omega
  have hrest : HasBids { s with waiting := s.waiting.erase pending } :=
    ⟨h.executed, h.quiet, h.lives⟩
  have hpending := h.kAnon pending hmem
  cases pending with
  | queryKAnonHashes => exact hrest.queryKAnon_late h.finished hkAnon htracker
  | areKAnonymous => exact hrest.completeTask_late h.finished hkAnon htracker _
  | scoringSignals => cases hpending
  | kvLookUp => cases hpending
  | scoreAds => cases hpending

end Phases

/-! ## The runs -/

section Runs

variable {c : SelectAdRpcSetup} {s s' : SelectAdRpc} {e : Event}

theorem step_cases (h : s.step c e = some s') :
    s.aborted = false ∧
      ((∃ o, e = .execute o ∧ s.executed = false ∧ s' = s.execute c o) ∨
      (∃ event o bids done, e = .bid event o ∧
        s.bids.step c.toSelectAdSetup event = some (bids, done) ∧
        s' = done.elim { s with bids := bids } fun anySuccessfulBids =>
          ({ s with bids := bids } : SelectAdRpc).onAllBidsDone c o anySuccessfulBids) ∨
      (∃ pending o, e = .callback pending o ∧ pending ∈ s.waiting ∧
        s' = handle c o { s with waiting := s.waiting.erase pending } pending)) := by
  unfold step at h
  split at h
  · cases h
  rename_i hlives
  refine ⟨by simpa using hlives, ?_⟩
  cases e with
  | execute o =>
    dsimp only at h
    split at h
    · cases h
    · rename_i hexecuted
      exact .inl ⟨o, rfl, by simpa using hexecuted, (Option.some.inj h).symm⟩
  | bid event o =>
    obtain ⟨⟨bids, done⟩, hstep, h⟩ := Option.bind_eq_some_iff.mp h
    refine .inr (.inl ⟨event, o, bids, done, rfl, hstep, ?_⟩)
    cases done <;> exact (Option.some.inj h).symm
  | callback pending o =>
    dsimp only at h
    split at h
    · rename_i hmem
      exact .inr (.inr ⟨pending, o, rfl, hmem, (Option.some.inj h).symm⟩)
    · cases h

theorem HasBids.no_bid (h : HasBids s) {event : FetchBids.Event} {bids : FetchBids}
    {done : Option Bool} : s.bids.step c.toSelectAdSetup event ≠ some (bids, done) := by
  intro hstep
  rcases FetchBids.step_cases hstep with ⟨_, _, hrequests, -⟩ | ⟨buyer, hcalled, -⟩
  · rw [h.quiet.1] at hrequests
    cases hrequests
  · rw [h.quiet.2] at hcalled
    cases hcalled

theorem Phase.step (h : Phase c s) (hclean : IsClean c s e) (hstep : s.step c e = some s') :
    Phase c s' := by
  obtain ⟨-, ⟨o, rfl, hexecuted, rfl⟩ | ⟨event, o, bids, done, rfl, hbids, rfl⟩ |
    ⟨pending, o, rfl, hmem, rfl⟩⟩ := step_cases hstep
  · cases h with
    | starting h => exact h.execute hclean
    | bidding h => exact absurd (h.executed.symm.trans hexecuted) nofun
    | fetching h => exact absurd (h.executed.symm.trans hexecuted) nofun
    | scoring h => exact absurd (h.executed.symm.trans hexecuted) nofun
    | done h => exact absurd (h.executed.symm.trans hexecuted) nofun
  · cases h with
    | starting h =>
      have hquiet : HasBids { s with executed := true } := ⟨rfl, h.quiet, h.lives⟩
      exact absurd hbids hquiet.no_bid
    | bidding h =>
      refine h.bid hbids fun anySuccessfulBids hdone => ?_
      subst hdone
      exact hclean bids anySuccessfulBids hbids
    | fetching h => exact absurd hbids h.no_bid
    | scoring h => exact absurd hbids h.no_bid
    | done h => exact absurd hbids h.no_bid
  · cases h with
    | starting h => exact absurd hmem (h.waiting ▸ List.not_mem_nil)
    | bidding h => exact absurd hmem (h.waiting ▸ List.not_mem_nil)
    | fetching h => exact h.callback hmem hclean
    | scoring h => exact h.callback hmem
    | done h => exact .done (h.callback hmem)

theorem Bidding.not_quiet (h : Bidding c s) : ¬ s.bids.IsQuiet := by
  rintro ⟨hrequests, hcalled⟩
  have hall := c.requestsToMake_iff.mpr h.callsMatch
  have hopen := h.counted.requests
  have hinvoked := h.counted.invoked
  rw [h.notDone] at hinvoked
  rw [hrequests, hcalled, List.length_nil, List.length_nil] at hopen
  split at hinvoked
  · cases hinvoked
  · omega

theorem Phase.finishesOnce (h : Phase c s) : s.FinishesOnce := by
  cases h with
  | starting h => exact ⟨h.lives, by simp [h.finished], fun _ => .inl h.executed⟩
  | bidding h => exact ⟨h.lives, by simp [h.finished], fun _ => .inr (.inl h.not_quiet)⟩
  | fetching h => exact ⟨h.lives, by simp [h.finished], fun _ => .inr (.inr h.waiting)⟩
  | scoring h =>
    exact ⟨h.lives, by simp [h.finished], fun _ => .inr (.inr (by simp [h.waiting]))⟩
  | done h =>
    refine ⟨h.lives, h.finished.le, fun hnil => ?_⟩
    have hone := h.finished
    rw [hnil] at hone
    cases hone

theorem IsOutstanding.exists_step (h : s.IsOutstanding) (hlives : s.aborted = false) :
    ∃ e s', s.step c e = some s' := by
  rcases h with hexecuted | hbids | hwaiting
  · exact ⟨.execute {}, _, by simp only [step, hlives, hexecuted]; rfl⟩
  · obtain ⟨event, bids, done, hstep⟩ := FetchBids.exists_step (c := c.toSelectAdSetup) hbids
    cases done with
    | none => exact ⟨.bid event {}, _, by simp only [step, hlives, hstep]; rfl⟩
    | some anySuccessfulBids => exact ⟨.bid event {}, _, by simp only [step, hlives, hstep]; rfl⟩
  · obtain ⟨pending, hmem⟩ := List.exists_mem_of_ne_nil _ hwaiting
    exact ⟨.callback pending {}, _, by simp only [step, hlives, hmem]; rfl⟩

/-! ### What is still to come -/

/-- The callbacks that may still come of one that is awaited, itself included. -/
def Pending.rank : Pending → ℕ
  | .queryKAnonHashes => 3
  | .areKAnonymous | .scoringSignals | .kvLookUp => 2
  | .scoreAds => 1

/-- What is open once `Execute` was called. With the last of the bids come up to five
callbacks. -/
def openRank (s : SelectAdRpc) : ℕ := 6 * s.bids.rank + (s.waiting.map Pending.rank).sum

def rank (c : SelectAdRpcSetup) (s : SelectAdRpc) : ℕ :=
  (if s.executed then 0 else 12 * c.requestsToMake.length + 6) + s.openRank

/-- `Execute` was called or not as before, and at most `n` has been opened. -/
def Adds (n : ℕ) (s t : SelectAdRpc) : Prop :=
  t.executed = s.executed ∧ t.openRank ≤ s.openRank + n

theorem Adds.mono {m n : ℕ} (h : Adds m s s') (hle : m ≤ n) : Adds n s s' :=
  ⟨h.1, h.2.trans (by omega)⟩

variable {o : SelectAdOutcome}

theorem finishWithStatus_adds (n : ℕ) (status : GrpcStatusCode) :
    Adds n s (s.finishWithStatus status) :=
  ⟨rfl, Nat.le_add_right _ _⟩

theorem onScoreAdsDone_adds (n : ℕ) (response : GrpcStatusCode) :
    Adds n s (s.onScoreAdsDone o response) := by
  obtain ⟨status, hstatus⟩ := onScoreAdsDone_finishes (o := o) (s := s) response
  rw [hstatus]
  exact finishWithStatus_adds n status

theorem await_adds (pending : Pending) : Adds pending.rank s (s.await pending) := by
  refine ⟨rfl, ?_⟩
  show 6 * s.bids.rank + ((pending :: s.waiting).map Pending.rank).sum ≤ _
  rw [List.map_cons, List.sum_cons]
  unfold openRank
  omega

theorem scoreAds_adds : Adds 1 s (s.scoreAds c o) := by
  unfold scoreAds
  split
  · exact finishWithStatus_adds 1 _
  split
  · exact onScoreAdsDone_adds 1 _
  split
  · exact await_adds .scoreAds
  · exact finishWithStatus_adds 1 _

theorem onFetchScoringSignalsDone_adds : Adds 1 s (s.onFetchScoringSignalsDone c o) := by
  unfold onFetchScoringSignalsDone
  split
  · exact scoreAds_adds
  split
  · exact onScoreAdsDone_adds (s := s.reportError) 1 _
  · exact onScoreAdsDone_adds 1 _
  · exact scoreAds_adds

theorem taskCompleted_adds (status : TaskStatus) : Adds 1 s (s.taskCompleted c o status) := by
  unfold taskCompleted
  dsimp only
  split
  · exact ⟨rfl, Nat.le_add_right _ _⟩
  · exact onFetchScoringSignalsDone_adds
      (s := { s with tracker := (s.tracker.taskCompleted status).1 })

theorem queryKAnonHashes_adds : Adds 2 s (s.queryKAnonHashes c o) := by
  unfold queryKAnonHashes
  split
  · exact (taskCompleted_adds _).mono (by omega)
  split
  · exact await_adds .areKAnonymous
  · exact (taskCompleted_adds _).mono (by omega)

theorem fetchScoringSignals_adds : Adds 2 s (s.fetchScoringSignals c o) := by
  have hnothing : Adds 2 s s := ⟨rfl, Nat.le_add_right _ _⟩
  unfold fetchScoringSignals
  split
  · exact finishWithStatus_adds 2 _
  split
  · unfold fetchScoringSignalsV2
    split
    · exact finishWithStatus_adds 2 _
    split
    · exact finishWithStatus_adds 2 _
    split
    · exact hnothing
    split
    · exact await_adds .kvLookUp
    · exact hnothing
  · unfold fetchScoringSignalsV1
    split
    · exact finishWithStatus_adds 2 _
    split
    · exact finishWithStatus_adds 2 _
    split
    · exact await_adds .scoringSignals
    · exact hnothing

theorem onAllBidsDone_adds (anySuccessfulBids : Bool) :
    Adds 5 s (s.onAllBidsDone c o anySuccessfulBids) := by
  unfold onAllBidsDone
  split
  · exact finishWithStatus_adds 5 _
  split
  · split
    · exact finishWithStatus_adds 5 _
    · exact onScoreAdsDone_adds 5 _
  dsimp only
  generalize (filterBidsWithMismatchingCurrency c s.bids.sharedBuyerBidsMap).2 = kept
  generalize hfiltered : ({ s with bids := { s.bids with sharedBuyerBidsMap := kept } } :
    SelectAdRpc) = t
  -- the bids that are left change nothing in what is open
  have hsame : t.executed = s.executed ∧ t.openRank = s.openRank := by
    rw [← hfiltered]
    exact ⟨rfl, rfl⟩
  have hkept : ∀ {n u}, Adds n t u → n ≤ 5 → Adds 5 s u := by
    rintro n u ⟨hexecuted, hopen⟩ hle
    exact ⟨hexecuted.trans hsame.1, by omega⟩
  split
  · exact hkept (finishWithStatus_adds 0 _) (by omega)
  split
  · split
    · have hquery := await_adds (s := t) .queryKAnonHashes
      have hsignals := fetchScoringSignals_adds (c := c) (s := t.await .queryKAnonHashes) (o := o)
      refine hkept (n := 5) ⟨hsignals.1.trans hquery.1, ?_⟩ le_rfl
      have hopen := hquery.2
      simp only [Pending.rank] at hopen
      have := hsignals.2
      omega
    · exact hkept fetchScoringSignals_adds (by omega)
  split
  · exact hkept queryKAnonHashes_adds (by omega)
  · exact hkept scoreAds_adds (by omega)

theorem handle_adds (pending : Pending) : Adds (pending.rank - 1) s (s.handle c o pending) := by
  cases pending with
  | queryKAnonHashes => exact queryKAnonHashes_adds
  | areKAnonymous => exact taskCompleted_adds _
  | scoringSignals =>
    unfold handle
    dsimp only
    split
    · exact taskCompleted_adds _
    · exact taskCompleted_adds (s := { s with maybeScoringSignals := o.scoringSignals }) _
  | kvLookUp =>
    unfold handle
    dsimp only
    split
    · exact finishWithStatus_adds 1 _
    split
    · exact onScoreAdsDone_adds (s := s.reportError) 1 _
    · exact ⟨rfl, Nat.le_add_right _ _⟩
    · rename_i signals _
      exact taskCompleted_adds (s := { s with maybeScoringSignals := some signals }) _
  | scoreAds =>
    unfold handle
    dsimp only
    split
    · exact finishWithStatus_adds 0 _
    · exact onScoreAdsDone_adds 0 _

/-- `FetchBids` opens the calls of the buyers. -/
theorem fetchBids_open : (s.fetchBids c o).executed = s.executed ∧
    (s.fetchBids c o).openRank ≤ s.openRank + 12 * c.requestsToMake.length + 5 := by
  have hstart : (FetchBids.start c.toSelectAdSetup).rank = 2 * c.requestsToMake.length := rfl
  have hopen : ({ s with bids := .start c.toSelectAdSetup } : SelectAdRpc).openRank ≤
      s.openRank + 12 * c.requestsToMake.length := by
    unfold openRank
    dsimp only
    rw [hstart]
    omega
  unfold fetchBids
  dsimp only
  split
  · have hdone := onAllBidsDone_adds (c := c) (o := o)
      (s := { s with bids := .start c.toSelectAdSetup }) true
    exact ⟨hdone.1, hdone.2.trans (by omega)⟩
  · exact ⟨rfl, by omega⟩

theorem execute_open : (s.execute c o).executed = true ∧
    (s.execute c o).openRank ≤ s.openRank + 12 * c.requestsToMake.length + 5 := by
  have hadds : ∀ {t : SelectAdRpc}, Adds 0 { s with executed := true } t →
      t.executed = true ∧ t.openRank ≤ s.openRank + 12 * c.requestsToMake.length + 5 :=
    fun h => ⟨h.1, h.2.trans (by show s.openRank + 0 ≤ _; omega)⟩
  unfold execute
  dsimp only
  split
  · exact hadds (finishWithStatus_adds 0 _)
  split
  · exact hadds (finishWithStatus_adds 0 _)
  generalize hdecrypted : (if c.enableEnforceKanon then
    ({ s with
      executed := true
      tracker := .setNumTasksToTrack ((if c.performScoringSignalsFetch then 1 else 0) + 1) } :
      SelectAdRpc)
    else { s with executed := true }) = d
  have hd : d.executed = true ∧ d.openRank = s.openRank := by
    rw [← hdecrypted]
    split
    · exact ⟨rfl, rfl⟩
    · exact ⟨rfl, rfl⟩
  split
  · obtain ⟨hexecuted, hopen⟩ := onScoreAdsDone_adds (o := o) (s := d.reportError) 0 .ok
    refine ⟨hexecuted.trans hd.1, hopen.trans ?_⟩
    show d.openRank + 0 ≤ _
    omega
  split
  · obtain ⟨hexecuted, hopen⟩ := onScoreAdsDone_adds (o := o) (s := d) 0 .ok
    exact ⟨hexecuted.trans hd.1, by omega⟩
  · obtain ⟨hexecuted, hopen⟩ := fetchBids_open (c := c) (s := d) (o := o)
    exact ⟨hexecuted.trans hd.1, by omega⟩

theorem rank_step (h : s.step c e = some s') : s'.rank c < s.rank c := by
  unfold rank
  obtain ⟨-, ⟨o, rfl, hexecuted, rfl⟩ | ⟨event, o, bids, done, rfl, hbids, rfl⟩ |
    ⟨pending, o, rfl, hmem, rfl⟩⟩ := step_cases h
  · obtain ⟨hexecuted', hopen⟩ := execute_open (c := c) (s := s) (o := o)
    rw [hexecuted', hexecuted]
    simp only [if_true, Bool.false_eq_true, if_false]
    omega
  · have hfalls := FetchBids.rank_step hbids
    have hopen : ({ s with bids := bids } : SelectAdRpc).openRank + 6 ≤ s.openRank := by
      unfold openRank
      dsimp only
      omega
    cases done with
    | none =>
      show (if s.executed then 0 else _) + _ < _
      exact Nat.add_lt_add_left (by simp only [Option.elim_none]; omega) _
    | some anySuccessfulBids =>
      have hdone := onAllBidsDone_adds (c := c) (o := o) (s := { s with bids := bids })
        anySuccessfulBids
      rw [Option.elim_some, hdone.1]
      exact Nat.add_lt_add_left (by have := hdone.2; omega) _
  · have hhandle := handle_adds (c := c) (o := o)
      (s := { s with waiting := s.waiting.erase pending }) pending
    have hsum : ((s.waiting.erase pending).map Pending.rank).sum + pending.rank =
        (s.waiting.map Pending.rank).sum := by
      rw [((List.perm_cons_erase hmem).map Pending.rank).sum_eq, List.map_cons, List.sum_cons]
      omega
    have hpos : 0 < pending.rank := by
      cases pending <;> decide
    have hopen : ({ s with waiting := s.waiting.erase pending } : SelectAdRpc).openRank +
        pending.rank = s.openRank := by
      unfold openRank
      dsimp only
      omega
    rw [hhandle.1]
    exact Nat.add_lt_add_left (by have := hhandle.2; omega) _

/-- The run lemma: a call whose steps were clean is in one of its phases. -/
theorem phase_of_run {trace : List Event} (run : (system c).RunWhere (IsClean c) trace s) :
    Phase c s := by
  refine run.invariant (I := fun _ s => Phase c s) ?_ ?_
  · rintro s rfl
    exact .starting ⟨rfl, ⟨rfl, rfl⟩, rfl, rfl, rfl, rfl⟩
  · intro _ s e s' h hclean hstep
    exact h.step hclean hstep

end Runs

section KeyValueServer

/-- One buyer, and the second version of the key-value server. -/
def keyValueV2 : SelectAdRpcSetup := { FetchBids.servedWithInput with useKvV2 := true }

def oneBid : Option GetBidsRawResponse := some { bids := [{ bid := 1, render := "https://ad" }] }

end KeyValueServer

end SelectAdRpc

end BiddingAuction
