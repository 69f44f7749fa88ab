import BiddingAuction.Foundation.Runs
import BiddingAuction.ScoreAds.DebugReporting
import BiddingAuction.ScoreAds.TopLevelWinner

/-!
# The `ScoreAds` call until it finishes

A call runs through up to three executions of ad tech code: `scoreAd`, then either
the combined reporting script or `reportResult` and `reportWin`. Each handler leaves
by finishing the call or by waiting for the next execution, which calls back once.
Of a handler the model keeps what decides how it leaves; what it puts into the
response is modelled elsewhere. Two exits are not clean: a failed encryption finishes
the call before `EncryptAndFinishOK` does, and a read of what is not there aborts
the process.
-/

namespace BiddingAuction

open Foundation

/-! ## The request -/

/-- A decrypted request, with what `BuildTrustedScoringSignals` and
`BuildAuctionConfig` make of it. -/
structure ReceivedScoreAds where
  rawRequest : ScoreAdsRawRequest := {}
  componentAuctionResults : List (AuctionResult ℚ) := []
  enforceKanon : Bool := false
  trustedScoringSignals : Option (FlatHashMap String String) := none
  auctionConfig : String := ""

/-- `GetAuctionScope` of a `ScoreAdsRawRequest`. -/
def ReceivedScoreAds.getAuctionScope (received : ReceivedScoreAds) : AuctionScope :=
  if received.rawRequest.topLevelSeller ≠ "" then .deviceComponentMultiSeller
  else if !received.componentAuctionResults.isEmpty then .serverTopLevelSeller
  else .singleSeller

/-- The reactor as its constructor leaves it, `r` holding the runtime config. -/
def ScoreAdsReactor.ofRequest (r : ScoreAdsReactor) (received : ReceivedScoreAds) :
    ScoreAdsReactor :=
  { r with
    rawRequest := received.rawRequest
    auctionScope := received.getAuctionScope
    enableReportWinUrlGeneration := r.enableReportWinUrlGeneration &&
      received.getAuctionScope != AuctionScope.serverTopLevelSeller
    enableEnforceKanon := r.enableEnforceKanon && received.enforceKanon }.withoutCandidates

/-- What is out of the reactor's hands while a handler runs. -/
structure ScoreAdsOutcome where
  /-- `IsCancelled`, as the handler is entered. -/
  isCancelled : Bool := false
  /-- `IsCancelled`, as the reporting request is dispatched. -/
  isCancelledAtDispatch : Bool := false
  /-- `BatchExecute` took the requests. -/
  dispatched : Bool := true
  /-- `AeadEncrypt` succeeds. -/
  encrypts : Bool := true
deriving DecidableEq, Repr

namespace ScoreAdsRpc

/-- An execution of ad tech code that calls back. -/
inductive Pending where
  | scoreAds
  | reporting
  | reportResult (buyerOrigin : String) (hasEgressPayload : Bool)
  | reportWin
deriving DecidableEq, Repr

inductive Exit where
  | finishWithStatus
  | encryptAndFinishOK
  | abort
  | await (pending : Pending)
deriving DecidableEq, Repr

/-! ## The handlers -/

section Handlers

variable (r : ScoreAdsReactor) (lib : Library) (ch : Choices) (o : ScoreAdsOutcome)

/-- The requests of `Execute` are sent to the scoring engine. -/
def batchExecute (dispatchRequests : List DispatchRequest) : Exit :=
  if dispatchRequests.isEmpty then .finishWithStatus
  else if o.dispatched then .await .scoreAds
  else .finishWithStatus

/-- `Execute`, with the reactor it leaves. -/
def execute (received : ReceivedScoreAds) : ScoreAdsReactor × Exit :=
  if r.enableCancellation && o.isCancelled then (r, .finishWithStatus)
  else if r.auctionScope = .serverTopLevelSeller then
    if received.componentAuctionResults.isEmpty then (r, .finishWithStatus)
    else
      match r.populateTopLevelAuctionDispatchRequests lib r.enableDebugReporting
          received.auctionConfig received.componentAuctionResults with
      | .error _ => (r, .finishWithStatus)
      | .ok t => (t.reactor, batchExecute o t.dispatchRequests)
  else if r.requireScoringSignalsForScoring && received.trustedScoringSignals.isNone then
    (r, .finishWithStatus)
  else
    let sent := r.execute lib r.enableDebugReporting received.trustedScoringSignals
      received.auctionConfig
    (sent.2, batchExecute o sent.1)

def dispatchReportingRequest : Exit :=
  if r.enableCancellation && o.isCancelledAtDispatch then .finishWithStatus
  else if o.dispatched then .await .reporting
  else .encryptAndFinishOK

/-- `PerformReporting`: for an ad of either type the signals of its owner are read
with `at`. -/
def performReporting (winningAdScore : AdScore ℚ) (id : String) : Exit :=
  match r.findScoredAdType id with
  | none => .finishWithStatus
  | some _ =>
    if r.enableReportWinUrlGeneration ∧
        winningAdScore.interestGroupOwner ∉ r.rawRequest.perBuyerSignals then
      .abort
    else
      dispatchReportingRequest r o

/-- `DispatchReportResultRequest` and its variants. -/
def dispatchReportResultRequest (buyerOrigin : String) (hasEgressPayload : Bool) : Exit :=
  if o.dispatched then .await (.reportResult buyerOrigin hasEgressPayload)
  else .encryptAndFinishOK

/-- `PerformReportingWithSellerAndBuyerCodeIsolation`: the signals of the owner are
looked up, and a top-level auction keeps nothing for `reportWin`. -/
def performReportingWithSellerAndBuyerCodeIsolation (winningAdScore : AdScore ℚ) (id : String) :
    Exit :=
  match r.findScoredAdType id with
  | none => .finishWithStatus
  | some ad =>
    if r.auctionScope = .serverTopLevelSeller then dispatchReportResultRequest o "" false
    else
      match ad with
      | .protectedAudience _ =>
        dispatchReportResultRequest o winningAdScore.interestGroupOwner false
      | .protectedAppSignals _ =>
        dispatchReportResultRequest o winningAdScore.interestGroupOwner true

/-- The end of `DoWinAndDebugReporting`. -/
def doWinAndDebugReporting (winningAdScore : AdScore ℚ) (winnerId : String) : Exit :=
  if !r.enableReportResultUrlGeneration then .encryptAndFinishOK
  else if r.enableSellerAndBuyerCodeIsolation then
    performReportingWithSellerAndBuyerCodeIsolation r o winningAdScore winnerId
  else
    performReporting r o winningAdScore winnerId

/-- `ScoreAdsCallback`, in its `CancellationWrapper`. -/
def scoreAdsCallback (responses : List RomaResponse) : Exit :=
  if r.enableCancellation && o.isCancelled then .finishWithStatus
  else
    match r.scoreAdsCallback lib ch responses with
    | none => .abort
    | some served =>
      match served.adScore, served.reportingId with
      | some winningAdScore, some winnerId => doWinAndDebugReporting r o winningAdScore winnerId
      | _, _ => .encryptAndFinishOK

/-- `ReportingCallback`, in its `CancellationWrapper`: failed responses are passed over. -/
def reportingCallback : Exit :=
  if r.enableCancellation && o.isCancelled then .finishWithStatus else .encryptAndFinishOK

/-- `CancellableReportResultCallback`, in its wrapper. The loop over the responses
leaves in its first turn, whether the response failed or not. -/
def reportResultCallback (buyerOrigin : String) (hasEgressPayload : Bool)
    (responses : List RomaResponse) : Exit :=
  if r.enableCancellation && o.isCancelled then .finishWithStatus
  else
    match responses with
    | [] => .encryptAndFinishOK
    | _ :: _ =>
      let buyersWithReportWin := if hasEgressPayload then
        r.protectedAppSignalsBuyersWithReportWinEnabled else r.buyersWithReportWinEnabled
      if !r.enableReportWinUrlGeneration then .encryptAndFinishOK
      else if buyerOrigin ∉ buyersWithReportWin then .encryptAndFinishOK
      else if o.dispatched then .await .reportWin
      else .encryptAndFinishOK

def handle (pending : Pending) (responses : List RomaResponse) : Exit :=
  match pending with
  | .scoreAds => scoreAdsCallback r lib ch o responses
  | .reporting => reportingCallback r o
  | .reportResult buyerOrigin hasEgressPayload =>
    reportResultCallback r o buyerOrigin hasEgressPayload responses
  -- `ReportWinCallback` has no wrapper
  | .reportWin => .encryptAndFinishOK

end Handlers

inductive Waiting where
  | execute
  | callback (pending : Pending)
  | nothing
deriving DecidableEq, Repr

end ScoreAdsRpc

/-! ## The call -/

/-- A call: how often `Finish` was called, and what it waits for. -/
structure ScoreAdsRpc where
  reactor : ScoreAdsReactor
  waiting : ScoreAdsRpc.Waiting := .execute
  finishes : ℕ := 0
  aborted : Bool := false

namespace ScoreAdsRpc

/-- The request arrives, `none` if `DecryptRequest` fails; or an execution calls back. -/
inductive Event where
  | execute (received : Option ReceivedScoreAds) (outcome : ScoreAdsOutcome)
  | callback (responses : List RomaResponse) (outcome : ScoreAdsOutcome)

/-- A handler leaves. `EncryptResponse` finishes the call itself when it fails, and
`EncryptAndFinishOK` does not look at what it returned. -/
def leave (s : ScoreAdsRpc) (encrypts : Bool) : Exit → ScoreAdsRpc
  | .finishWithStatus => { s with waiting := .nothing, finishes := s.finishes + 1 }
  | .encryptAndFinishOK =>
    { s with waiting := .nothing, finishes := s.finishes + if encrypts then 1 else 2 }
  | .abort => { s with waiting := .nothing, aborted := true }
  | .await pending => { s with waiting := .callback pending }

/-- The constructor and `Execute`. Where the decryption failed the constructor has
finished the call, and `Execute` serves the empty request. -/
def start (s : ScoreAdsRpc) (lib : Library) (received : Option ReceivedScoreAds)
    (o : ScoreAdsOutcome) : ScoreAdsRpc :=
  let decrypted := received.getD {}
  let executed := execute (s.reactor.ofRequest decrypted) lib o decrypted
  leave
    { s with
      reactor := executed.1
      finishes := s.finishes + if received.isSome then 0 else 1 }
    o.encrypts executed.2

/-- One step of the call; `none` for what cannot happen now. -/
def step (s : ScoreAdsRpc) (lib : Library) (ch : Choices) : Event → Option ScoreAdsRpc
  | .execute received o =>
    match s.waiting with
    | .execute => some (s.start lib received o)
    | _ => none
  | .callback responses o =>
    match s.waiting with
    | .callback pending => some (s.leave o.encrypts (handle s.reactor lib ch o pending responses))
    | _ => none

def system (r : ScoreAdsReactor) (lib : Library) (ch : Choices) : LTS ScoreAdsRpc Event where
  init s := s = { reactor := r }
  step s e s' := s.step lib ch e = some s'

/-- `Finish` was called once, or not yet and a callback is outstanding; the process
was not aborted. -/
def FinishesOnce (s : ScoreAdsRpc) : Prop :=
  s.aborted = false ∧
    (s.finishes = 1 ∧ s.waiting = .nothing ∨ s.finishes = 0 ∧ s.waiting ≠ .nothing)

def Pending.rank : Pending → ℕ
  | .scoreAds => 3
  | .reportResult _ _ => 2
  | .reporting | .reportWin => 1

def rank (s : ScoreAdsRpc) : ℕ :=
  match s.waiting with
  | .execute => 4
  | .callback pending => pending.rank
  | .nothing => 0

/-! ## When a step is clean -/

end ScoreAdsRpc

/-- What the scoring callback reads is there: the response at the winner's position
succeeded, and combined reporting for a buyer finds the buyer's signals. -/
def ScoreAdsReactor.ReadsWhatIsThere (r : ScoreAdsReactor) (lib : Library) (ch : Choices)
    (responses : List RomaResponse) : Prop :=
  let found := r.findWinningAd lib ch (r.collectValidRomaResponses lib responses)
  ∀ ind winner, found.scoringData.winnerIndex = some ind → found.parsedAds[ind]? = some winner →
    (∃ response, responses[ind]? = some (.ok response)) ∧
      (r.enableReportResultUrlGeneration = true → r.enableSellerAndBuyerCodeIsolation = false →
        r.enableReportWinUrlGeneration = true →
          winner.adScore.interestGroupOwner ∈ r.rawRequest.perBuyerSignals)

namespace ScoreAdsRpc

/-- The request was decrypted; what the scoring callback reads is there, if it is not
cancelled; and a response is encrypted if it comes to that. -/
def IsClean (lib : Library) (ch : Choices) (s : ScoreAdsRpc) : Event → Prop
  | .execute received _ => received.isSome = true
  | .callback responses o =>
    (s.waiting = .callback .scoreAds → (s.reactor.enableCancellation && o.isCancelled) = false →
      s.reactor.ReadsWhatIsThere lib ch responses) ∧
    (∀ pending, s.waiting = .callback pending →
      handle s.reactor lib ch o pending responses = .encryptAndFinishOK → o.encrypts = true)

/-! ## How the handlers leave -/

section Exits

variable {r : ScoreAdsReactor} {lib : Library} {ch : Choices} {o : ScoreAdsOutcome}

def Exit.IsClean (encrypts : Bool) (exit : Exit) : Prop :=
  exit ≠ .abort ∧ (exit = .encryptAndFinishOK → encrypts = true)

/-- A handler leaves a call that finishes once exactly by a clean exit from a call
that has not finished. -/
theorem leave_finishesOnce {s : ScoreAdsRpc} {encrypts : Bool} {exit : Exit} :
    (s.leave encrypts exit).FinishesOnce ↔
      s.aborted = false ∧ s.finishes = 0 ∧ exit.IsClean encrypts := by
  unfold FinishesOnce Exit.IsClean
  cases exit with
  | finishWithStatus => simp [leave]
  | encryptAndFinishOK => cases encrypts <;> simp [leave]
  | abort => simp [leave]
  | await pending => simp [leave]

variable (r lib o) in
/-- `Execute` finishes the call or waits for the scores. -/
theorem execute_exit (received : ReceivedScoreAds) :
    (execute r lib o received).2 = .finishWithStatus ∨
      (execute r lib o received).2 = .await .scoreAds := by
  have hbatch : ∀ dispatchRequests, batchExecute o dispatchRequests = .finishWithStatus ∨
      batchExecute o dispatchRequests = .await .scoreAds := by
    intro dispatchRequests
    unfold batchExecute
    split
    · exact .inl rfl
    · split
      · exact .inr rfl
      · exact .inl rfl
  unfold execute
  split
  · exact .inl rfl
  split
  · split
    · exact .inl rfl
    split
    · exact .inl rfl
    · exact hbatch _
  split
  · exact .inl rfl
  · exact hbatch _

theorem dispatchReportingRequest_ne_abort : dispatchReportingRequest r o ≠ .abort := by
  unfold dispatchReportingRequest
  split_ifs <;> simp

theorem performReporting_eq_abort {winningAdScore : AdScore ℚ} {id : String} :
    performReporting r o winningAdScore id = .abort ↔ (r.findScoredAdType id).isSome = true ∧
      r.enableReportWinUrlGeneration = true ∧
        winningAdScore.interestGroupOwner ∉ r.rawRequest.perBuyerSignals := by
  unfold performReporting
  cases r.findScoredAdType id with
  | none => simp
  | some ad =>
    dsimp only
    split
    · rename_i h
      simp [h]
    · rename_i h
      simp [h, dispatchReportingRequest_ne_abort]

theorem performReportingWithSellerAndBuyerCodeIsolation_ne_abort {winningAdScore : AdScore ℚ}
    {id : String} :
    performReportingWithSellerAndBuyerCodeIsolation r o winningAdScore id ≠ .abort := by
  unfold performReportingWithSellerAndBuyerCodeIsolation dispatchReportResultRequest
  split
  · simp
  · split_ifs <;> (try split) <;> simp

end Exits

/-! ## What the scoring callback reads -/

section Scores

variable {r : ScoreAdsReactor} {lib : Library} {ch : Choices} {o : ScoreAdsOutcome}
  {responses : List RomaResponse}

theorem populateRelevantFieldsInResponse_owner (ad : ScoredAdData) :
    (r.populateRelevantFieldsInResponse ad).1.interestGroupOwner =
      ad.adScore.interestGroupOwner := by
  have hseller : ∀ id (s : AdScore ℚ),
      (r.populateSeller id s).interestGroupOwner = s.interestGroupOwner := by
    intro id s
    unfold ScoreAdsReactor.populateSeller
    split
    · split <;> rfl
    · rfl
  unfold ScoreAdsReactor.populateRelevantFieldsInResponse
  dsimp only
  split <;> exact hseller _ _

theorem scoreAdsCallback_of_none
    (hind : (r.findWinningAd lib ch
      (r.collectValidRomaResponses lib responses)).scoringData.winnerIndex = none) :
    ∃ served, r.scoreAdsCallback lib ch responses = some served ∧ served.adScore = none := by
  unfold ScoreAdsReactor.scoreAdsCallback
  dsimp only
  rw [hind]
  exact ⟨_, rfl, rfl⟩

theorem scoreAdsCallback_of_winner {ind : ℕ} {winner : ScoredAdData}
    (hind : (r.findWinningAd lib ch
      (r.collectValidRomaResponses lib responses)).scoringData.winnerIndex = some ind)
    (hwinner : (r.findWinningAd lib ch
      (r.collectValidRomaResponses lib responses)).parsedAds[ind]? = some winner) :
    (r.scoreAdsCallback lib ch responses = none ∧
        ¬ ∃ response, responses[ind]? = some (.ok response)) ∨
      ∃ served winningAdScore, r.scoreAdsCallback lib ch responses = some served ∧
        (∃ response, responses[ind]? = some (.ok response)) ∧
        served.adScore = some winningAdScore ∧ served.reportingId = some winner.id ∧
        winningAdScore.interestGroupOwner = winner.adScore.interestGroupOwner := by
  unfold ScoreAdsReactor.scoreAdsCallback
  dsimp only
  rw [hind]
  dsimp only
  rw [hwinner]
  rcases hresponse : responses[ind]? with _ | (message | response)
  · exact .inl ⟨rfl, by rintro ⟨_, h⟩; cases h⟩
  · exact .inl ⟨rfl, by rintro ⟨_, h⟩; cases h⟩
  · exact .inr ⟨_, _, rfl, ⟨response, rfl⟩, rfl, rfl, populateRelevantFieldsInResponse_owner winner⟩

theorem findScoredAdType_of_winner {ind : ℕ} {winner : ScoredAdData}
    (hind : (r.findWinningAd lib ch
      (r.collectValidRomaResponses lib responses)).scoringData.winnerIndex = some ind)
    (hwinner : (r.findWinningAd lib ch
      (r.collectValidRomaResponses lib responses)).parsedAds[ind]? = some winner) :
    (r.findScoredAdType winner.id).isSome = true := by
  obtain ⟨winner', hat, -, hmay⟩ := r.winner_of_winnerIndex lib ch hind
  obtain rfl := Option.some.inj (hwinner.symm.trans hat)
  obtain ⟨ad, had, rfl⟩ := List.mem_map.mp hmay.accepted
  obtain ⟨⟨found, hfor⟩, -⟩ := ScoreAdsReactor.scoredFor_of_mem (List.mem_of_mem_filter had)
  exact Option.isSome_iff_exists.mpr ⟨found, hfor.isFound⟩

theorem doWinAndDebugReporting_eq_abort {winningAdScore : AdScore ℚ} {winnerId : String}
    (hfound : (r.findScoredAdType winnerId).isSome = true) :
    doWinAndDebugReporting r o winningAdScore winnerId = .abort ↔
      ¬ (r.enableReportResultUrlGeneration = true → r.enableSellerAndBuyerCodeIsolation = false →
        r.enableReportWinUrlGeneration = true →
          winningAdScore.interestGroupOwner ∈ r.rawRequest.perBuyerSignals) := by
  unfold doWinAndDebugReporting
  split
  · rename_i hresult
    simp_all
  split
  · rename_i hisolation
    simp [hisolation, performReportingWithSellerAndBuyerCodeIsolation_ne_abort]
  · rename_i hresult hisolation
    simp_all [performReporting_eq_abort]

theorem scoreAdsCallback_eq_abort :
    scoreAdsCallback r lib ch o responses = .abort ↔
      (r.enableCancellation && o.isCancelled) = false ∧ ¬ r.ReadsWhatIsThere lib ch responses := by
  unfold scoreAdsCallback
  cases hcancelled : r.enableCancellation && o.isCancelled with
  | true => simp
  | false =>
    rw [if_neg Bool.false_ne_true, and_iff_right rfl]
    unfold ScoreAdsReactor.ReadsWhatIsThere
    dsimp only
    cases hind : (r.findWinningAd lib ch
        (r.collectValidRomaResponses lib responses)).scoringData.winnerIndex with
    | none =>
      obtain ⟨served, hserved, hnone⟩ := scoreAdsCallback_of_none hind
      rw [hserved]
      dsimp only
      rw [hnone]
      simp
    | some ind =>
      obtain ⟨winner, hwinner, -, -⟩ := r.winner_of_winnerIndex lib ch hind
      have hreads : ∀ P : ℕ → ScoredAdData → Prop, (∀ ind' winner', some ind = some ind' →
          (r.findWinningAd lib ch (r.collectValidRomaResponses lib responses)).parsedAds[ind']? =
            some winner' → P ind' winner') ↔ P ind winner := by
        intro P
        constructor
        · intro h
          exact h ind winner rfl hwinner
        · rintro h ind' winner' hind' hwinner'
          obtain rfl := Option.some.inj hind'
          obtain rfl := Option.some.inj (hwinner.symm.trans hwinner')
          exact h
      rw [hreads]
      rcases scoreAdsCallback_of_winner hind hwinner with
        ⟨hserved, hnot⟩ | ⟨served, winningAdScore, hserved, hresponse, hscore, hid, howner⟩
      · rw [hserved]
        exact iff_of_true rfl fun h => hnot h.1
      · rw [hserved]
        dsimp only
        rw [hscore, hid]
        dsimp only
        rw [doWinAndDebugReporting_eq_abort (findScoredAdType_of_winner hind hwinner), howner,
          not_iff_not, and_iff_right hresponse]

theorem handle_eq_abort {pending : Pending} :
    handle r lib ch o pending responses = .abort ↔
      pending = .scoreAds ∧ (r.enableCancellation && o.isCancelled) = false ∧
        ¬ r.ReadsWhatIsThere lib ch responses := by
  cases pending with
  | scoreAds =>
    rw [and_iff_right rfl]
    exact scoreAdsCallback_eq_abort
  | reporting =>
    show reportingCallback r o = .abort ↔ _
    unfold reportingCallback
    split <;> simp
  | reportResult buyerOrigin hasEgressPayload =>
    show reportResultCallback r o buyerOrigin hasEgressPayload responses = .abort ↔ _
    unfold reportResultCallback
    split
    · simp
    · split
      · simp
      · dsimp only
        split_ifs <;> simp
  | reportWin => simp [handle]

end Scores

/-! ## The runs -/

section Runs

variable {r : ScoreAdsReactor} {lib : Library} {ch : Choices}

theorem step_cases {s s' : ScoreAdsRpc} {e : Event} (h : s.step lib ch e = some s') :
    (∃ received o, e = .execute received o ∧ s.waiting = .execute ∧
      s' = s.start lib received o) ∨
    (∃ responses o pending, e = .callback responses o ∧ s.waiting = .callback pending ∧
      s' = s.leave o.encrypts (handle s.reactor lib ch o pending responses)) := by
  cases e with
  | execute received o =>
    cases hwaiting : s.waiting with
    | execute =>
      simp only [step, hwaiting] at h
      exact .inl ⟨received, o, rfl, rfl, (Option.some.inj h).symm⟩
    | callback pending =>
      simp only [step, hwaiting] at h
      cases h
    | nothing =>
      simp only [step, hwaiting] at h
      cases h
  | callback responses o =>
    cases hwaiting : s.waiting with
    | execute =>
      simp only [step, hwaiting] at h
      cases h
    | callback pending =>
      simp only [step, hwaiting] at h
      exact .inr ⟨responses, o, pending, rfl, rfl, (Option.some.inj h).symm⟩
    | nothing =>
      simp only [step, hwaiting] at h
      cases h

theorem start_finishesOnce {s : ScoreAdsRpc} {received : Option ReceivedScoreAds}
    {o : ScoreAdsOutcome} : (s.start lib received o).FinishesOnce ↔
      s.aborted = false ∧ s.finishes = 0 ∧ received.isSome = true := by
  have hclean : (execute (s.reactor.ofRequest (received.getD {})) lib o
      (received.getD {})).2.IsClean o.encrypts := by
    unfold Exit.IsClean
    rcases execute_exit (s.reactor.ofRequest (received.getD {})) lib o
      (received.getD {}) with h | h <;> simp [h]
  unfold start
  dsimp only
  rw [leave_finishesOnce, and_iff_left hclean]
  cases received <;> simp

theorem FinishesOnce.open {s : ScoreAdsRpc} (h : s.FinishesOnce) (hwaiting : s.waiting ≠ .nothing) :
    s.aborted = false ∧ s.finishes = 0 := by
  obtain ⟨haborted, hdone | hopen⟩ := h
  · exact absurd hdone.2 hwaiting
  · exact ⟨haborted, hopen.1⟩

theorem finishesOnce_step {s s' : ScoreAdsRpc} {e : Event} (hstep : s.step lib ch e = some s')
    (h : s.FinishesOnce) : s'.FinishesOnce ↔ s.IsClean lib ch e := by
  rcases step_cases hstep with
    ⟨received, o, rfl, hwaiting, rfl⟩ | ⟨responses, o, pending, rfl, hwaiting, rfl⟩
  · obtain ⟨haborted, hfinishes⟩ := h.open (by rw [hwaiting]; simp)
    rw [start_finishesOnce, and_iff_right haborted, and_iff_right hfinishes]
    rfl
  · obtain ⟨haborted, hfinishes⟩ := h.open (by rw [hwaiting]; simp)
    rw [leave_finishesOnce, and_iff_right haborted, and_iff_right hfinishes]
    unfold Exit.IsClean IsClean
    rw [Ne, handle_eq_abort]
    simp only [hwaiting, Waiting.callback.injEq]
    constructor
    · rintro ⟨habort, hencrypts⟩
      refine ⟨fun hpending hcancelled => ?_, ?_⟩
      · by_contra hnot
        exact habort ⟨hpending, hcancelled, hnot⟩
      · rintro _ rfl
        exact hencrypts
    · rintro ⟨hreads, hencrypts⟩
      exact ⟨fun ⟨hpending, hcancelled, hnot⟩ => hnot (hreads hpending hcancelled),
        hencrypts pending rfl⟩

theorem finishesOnce_of_step {s s' : ScoreAdsRpc} {e : Event}
    (hstep : s.step lib ch e = some s') (h : s'.FinishesOnce) : s.FinishesOnce := by
  rcases step_cases hstep with
    ⟨received, o, rfl, hwaiting, rfl⟩ | ⟨responses, o, pending, rfl, hwaiting, rfl⟩
  · obtain ⟨haborted, hfinishes, -⟩ := start_finishesOnce.mp h
    exact ⟨haborted, .inr ⟨hfinishes, by rw [hwaiting]; simp⟩⟩
  · obtain ⟨haborted, hfinishes, -⟩ := leave_finishesOnce.mp h
    exact ⟨haborted, .inr ⟨hfinishes, by rw [hwaiting]; simp⟩⟩

theorem rank_leave (s : ScoreAdsRpc) (encrypts : Bool) (exit : Exit) :
    (s.leave encrypts exit).rank =
      match exit with
      | .await pending => pending.rank
      | _ => 0 := by
  cases exit <;> rfl

theorem doWinAndDebugReporting_rank {o : ScoreAdsOutcome} {winningAdScore : AdScore ℚ}
    {winnerId : String} {next : Pending}
    (h : doWinAndDebugReporting r o winningAdScore winnerId = .await next) : next.rank ≤ 2 := by
  have hresult : ∀ buyerOrigin hasEgressPayload,
      dispatchReportResultRequest o buyerOrigin hasEgressPayload = .await next → next.rank ≤ 2 := by
    intro buyerOrigin hasEgressPayload h
    unfold dispatchReportResultRequest at h
    split at h
    · cases h
      exact le_rfl
    · cases h
  unfold doWinAndDebugReporting at h
  split at h
  · cases h
  split at h
  · unfold performReportingWithSellerAndBuyerCodeIsolation at h
    split at h
    · cases h
    · split at h
      · exact hresult _ _ h
      · split at h <;> exact hresult _ _ h
  · unfold performReporting dispatchReportingRequest at h
    split at h
    · cases h
    · split_ifs at h
      cases h
      decide

theorem handle_rank {o : ScoreAdsOutcome} {responses : List RomaResponse} {pending next : Pending}
    (h : handle r lib ch o pending responses = .await next) : next.rank < pending.rank := by
  cases pending with
  | scoreAds =>
    refine Nat.lt_succ_of_le ?_
    unfold handle scoreAdsCallback at h
    dsimp only at h
    split at h
    · cases h
    split at h
    · cases h
    split at h
    · exact doWinAndDebugReporting_rank h
    · cases h
  | reporting =>
    unfold handle reportingCallback at h
    dsimp only at h
    split at h <;> cases h
  | reportResult buyerOrigin hasEgressPayload =>
    unfold handle reportResultCallback at h
    dsimp only at h
    split at h
    · cases h
    split at h
    · cases h
    · split_ifs at h <;> cases h <;> exact Nat.one_lt_two
  | reportWin => cases h

theorem rank_step {s s' : ScoreAdsRpc} {e : Event} (hstep : s.step lib ch e = some s') :
    s'.rank < s.rank := by
  rcases step_cases hstep with
    ⟨received, o, rfl, hwaiting, rfl⟩ | ⟨responses, o, pending, rfl, hwaiting, rfl⟩
  · have hrank : s.rank = 4 := by
      unfold rank
      rw [hwaiting]
    rw [hrank]
    unfold start
    dsimp only
    rw [rank_leave]
    rcases execute_exit (s.reactor.ofRequest (received.getD {})) lib o
      (received.getD {}) with h | h
    · rw [h]
      decide
    · rw [h]
      decide
  · have hrank : s.rank = pending.rank := by
      unfold rank
      rw [hwaiting]
    rw [hrank, rank_leave]
    split
    · rename_i next hnext
      exact handle_rank hnext
    · cases pending <;> exact Nat.succ_pos _

variable (lib ch) in
theorem exists_step {s : ScoreAdsRpc} (h : s.waiting ≠ .nothing) :
    ∃ e, (s.step lib ch e).isSome = true := by
  cases hwaiting : s.waiting with
  | execute => exact ⟨.execute none {}, by simp [step, hwaiting]⟩
  | callback pending => exact ⟨.callback [] {}, by simp [step, hwaiting]⟩
  | nothing => exact absurd hwaiting h

end Runs

section WithoutBuyerSignals

open ScoreAdsReactor (scoreLibrary)

/-- The combined reporting script is to produce both reports. -/
def combinedReporting : ScoreAdsReactor where
  enableReportResultUrlGeneration := true
  enableReportWinUrlGeneration := true

def requestWithoutBuyerSignals : ReceivedScoreAds where
  rawRequest := { adBids := [{
    ad := .string "ad"
    bid := 1
    render := "a"
    interestGroupOwner := "https://buyer.example" }] }

end WithoutBuyerSignals

end ScoreAdsRpc

end BiddingAuction
