import BiddingAuction.Bidding.ByobRequest
import BiddingAuction.Common.AsyncTaskTracker
import BiddingAuction.Common.Status
import BiddingAuction.Proto.GetBids

/-!
# `GenerateBidsBinaryReactor`

The responses of the binary come back one by one, in any order, or as a batch. Each is
processed in the same way; whether any bid was successful is decided by the task tracker in
the one case and from the executions that were counted in the other.
-/

namespace BiddingAuction

namespace Byob

/-! ## Bids -/

structure ProtectedAudienceBid (F : Type) where
  ad : String := ""
  bid : F
  render : String := ""
  adComponents : List String := []
  allowComponentAuction : Bool := false
  adCost : F
  debugReportUrls : Option DebugReportUrls := none
  modelingSignals : Int32 := 0
  bidCurrency : String := ""
  buyerReportingId : String := ""
  buyerAndSellerReportingId : String := ""
  selectedBuyerAndSellerReportingId : String := ""
  privateAggregationContributions : List (PrivateAggregateContribution F) := []

/-- `AdWithBid`, with what the bidding service reads and writes. -/
structure AdWithBid (F : Type) extends BiddingAuction.AdWithBid F where
  allowComponentAuction : Bool := false
  adCost : F
  modelingSignals : Int32 := 0
  dataVersion : Int32 := 0

def nonEmpty (s : String) : Option String := if s = "" then none else some s

/-- One turn of the loop of `ParseProtectedAudienceBids`. -/
def parseProtectedAudienceBid {F : Type} (igName : String) (collectDebugReportingUrls : Bool)
    (bid : ProtectedAudienceBid F) : AdWithBid F where
  ad := some (.string bid.ad)
  bid := bid.bid
  render := bid.render
  adComponents := bid.adComponents
  allowComponentAuction := bid.allowComponentAuction
  interestGroupName := igName
  adCost := bid.adCost
  debugReportUrls := if collectDebugReportingUrls then bid.debugReportUrls else none
  modelingSignals := bid.modelingSignals
  bidCurrency := bid.bidCurrency
  buyerReportingId := nonEmpty bid.buyerReportingId
  buyerAndSellerReportingId := nonEmpty bid.buyerAndSellerReportingId
  selectedBuyerAndSellerReportingId := nonEmpty bid.selectedBuyerAndSellerReportingId

/-! ## Debug URLs -/

structure DebugUrlsValidationConfig where
  maxAllowedSizeDebugUrlChars : ℤ := 0
  maxAllowedSizeAllDebugUrlsChars : ℤ := 0
  enableSampledDebugReporting : Bool := false
  /-- `attestation_cache`: the URL is one of an adtech that is enrolled. -/
  attestationCache : Option (String → Bool) := none
  /-- `DebugUrlPassesSampling`, draw by draw. -/
  debugUrlPassesSampling : ℕ → Bool := fun _ => false

/-- The characters of the URLs so far, and the draws. -/
structure DebugUrlTotals where
  chars : ℤ := 0
  draws : ℕ := 0

inductive DebugUrlRejection where
  | exceedingSize
  | exceedingTotalSize
  | duringSampling
deriving DecidableEq, Repr

namespace DebugUrlsValidationConfig

variable (config : DebugUrlsValidationConfig)

/-- `GetRejectReasonIfBuyerDebugUrlInvalid`, with the characters that are left of the URL. -/
def getRejectReasonIfBuyerDebugUrlInvalid (currentUrlChars : ℤ) (totals : DebugUrlTotals) :
    Option DebugUrlRejection × ℤ × DebugUrlTotals :=
  if currentUrlChars = 0 then (none, currentUrlChars, totals)
  else if config.maxAllowedSizeDebugUrlChars < currentUrlChars then
    (some .exceedingSize, 0, totals)
  else if config.maxAllowedSizeAllDebugUrlsChars < currentUrlChars + totals.chars then
    (some .exceedingTotalSize, 0, totals)
  else if config.enableSampledDebugReporting then
    if config.debugUrlPassesSampling totals.draws then
      (none, currentUrlChars, ⟨totals.chars + currentUrlChars, totals.draws + 1⟩)
    else (some .duringSampling, 0, ⟨totals.chars, totals.draws + 1⟩)
  else (none, currentUrlChars, ⟨totals.chars + currentUrlChars, totals.draws⟩)

/-- `AttestDebugUrls`, of one URL. -/
def attestDebugUrl (url : String) : String :=
  match config.attestationCache with
  | none => url
  | some isEnrolled => if isEnrolled url then url else ""

variable {F : Type}

/-- `ValidateBuyerDebugUrls`, with the count of the URLs that are left. -/
def validateBuyerDebugUrls (adWithBid : AdWithBid F) (totals : DebugUrlTotals) :
    ℕ × AdWithBid F × DebugUrlTotals :=
  match adWithBid.debugReportUrls with
  | none => (0, adWithBid, totals)
  | some debugUrls =>
    if config.maxAllowedSizeAllDebugUrlsChars ≤ totals.chars then
      (0, { adWithBid with debugReportUrls := none }, totals)
    else
      let winUrl := config.attestDebugUrl debugUrls.auctionDebugWinUrl
      let lossUrl := config.attestDebugUrl debugUrls.auctionDebugLossUrl
      if winUrl = "" ∧ lossUrl = "" then (0, { adWithBid with debugReportUrls := none }, totals)
      else
        let (winReason, winChars, totals) :=
          config.getRejectReasonIfBuyerDebugUrlInvalid winUrl.utf8ByteSize totals
        let (lossReason, lossChars, totals) :=
          config.getRejectReasonIfBuyerDebugUrlInvalid lossUrl.utf8ByteSize totals
        ((if 0 < winChars then 1 else 0) + (if 0 < lossChars then 1 else 0),
          { adWithBid with
            debugReportUrls :=
              if winChars = 0 ∧ lossChars = 0 then none
              else some ⟨if winReason.isSome then "" else winUrl,
                if lossReason.isSome then "" else lossUrl⟩
            debugWinUrlFailedSampling :=
              if winReason.isSome then winReason == some .duringSampling
              else adWithBid.debugWinUrlFailedSampling
            debugLossUrlFailedSampling :=
              if lossReason.isSome then lossReason == some .duringSampling
              else adWithBid.debugLossUrlFailedSampling }, totals)

end DebugUrlsValidationConfig

/-! ## The reactor -/

/-- What the binary answers for an interest group: its bids, or a status. -/
abbrev UdfResponse (F : Type) := Except GrpcStatusCode (List (ProtectedAudienceBid F))

/-- What the reactor is constructed with, and what it meets. -/
structure Setup (F : Type) where
  rawRequest : GenerateBidsRawRequest := {}
  enableCancellation : Bool := false
  isDebugReportingEnabled : Bool := false
  auctionScope : AuctionScope
  debugUrlsValidationConfig : DebugUrlsValidationConfig := {}
  /-- `IsCancelled`, once all bids are done. -/
  isCancelled : Bool := false
  /-- Whether `AeadEncrypt` succeeds, or its status. -/
  encrypts : Except String Unit := .ok ()
  isZero : F → Bool

structure UdfStats where
  total : ℕ := 0
  successExecuted : ℕ := 0
  timeoutWaiting : ℕ := 0
  timeoutExecuted : ℕ := 0
  errorExecuted : ℕ := 0
deriving DecidableEq, Repr

/-- How a call ended: what `Finish` was called with, and the bids of the response that was
encrypted. -/
structure Finish (F : Type) where
  statuses : List (GrpcStatusCode × String)
  bids : Option (List (AdWithBid F))

structure Reactor (F : Type) where
  udfStats : UdfStats := {}
  adsWithBidsByIg : List (List (AdWithBid F)) := []

def kDefaultMultiBidLimit : Int32 := 2

def kInternalServerError := "Internal server error."

def kInternalError := "Internal Error"

def kRequestCancelled := "Request Cancelled by Client."

namespace Setup

variable {F : Type} (u : Setup F)

def multiBidLimit : ℤ :=
  if u.rawRequest.multiBidLimit.toInt ≤ 0 then kDefaultMultiBidLimit.toInt
  else u.rawRequest.multiBidLimit.toInt

def isRequestInCooldownOrLockout : Bool :=
  u.rawRequest.fdoFlags.enableSampledDebugReporting && u.rawRequest.fdoFlags.inCooldownOrLockout

def isValidProtectedAudienceBid (bid : AdWithBid F) : Bool :=
  !u.isZero bid.bid &&
    !(u.auctionScope = .deviceComponentMultiSeller && !bid.allowComponentAuction)

/-- `EncryptResponseAndFinish`: a failed encryption finishes the call by itself before. -/
def encryptResponseAndFinish (status : GrpcStatusCode × String) (bids : List (AdWithBid F)) :
    Finish F :=
  match u.encrypts with
  | .ok () => ⟨[status], some bids⟩
  | .error message => ⟨[(.internal, message), (.internal, kInternalServerError)], none⟩

def finishWithNoBids (status : GrpcStatusCode × String) : Finish F :=
  u.encryptResponseAndFinish status []

/-- The bids of the response: those that are valid, with their URLs validated one after
another. -/
def populateBids : List (AdWithBid F) → DebugUrlTotals → List (AdWithBid F)
  | [], _ => []
  | adWithBid :: rest, totals =>
    if u.isValidProtectedAudienceBid adWithBid then
      let validated := u.debugUrlsValidationConfig.validateBuyerDebugUrls adWithBid totals
      validated.2.1 :: populateBids rest validated.2.2
    else populateBids rest totals

def onAllBidsDone (r : Reactor F) (anySuccessfulBids : Bool) : Finish F :=
  if r.udfStats.timeoutWaiting = r.udfStats.total ∧ !anySuccessfulBids then
    u.finishWithNoBids (.resourceExhausted,
      "All execution dispatch requests timed out. Try again.")
  else if !anySuccessfulBids then
    u.finishWithNoBids (.internal, "No successful bids returned by the adtech UDF")
  else if u.enableCancellation && u.isCancelled then
    u.encryptResponseAndFinish (.cancelled, kRequestCancelled) []
  else
    u.encryptResponseAndFinish (.ok, "") (u.populateBids r.adsWithBidsByIg.flatten {})

/-- `ProcessResponse`. A binary that is unavailable is taken to have been cancelled. -/
def processResponse (r : Reactor F) (response : UdfResponse F) (igName : String) (igIndex : ℕ) :
    Reactor F × TaskStatus :=
  match response with
  | .error code =>
    let code := if code = .unavailable then .cancelled else code
    if code = .deadlineExceeded then
      ({ r with udfStats.timeoutWaiting := r.udfStats.timeoutWaiting + 1 }, .skipped)
    else if code = .cancelled then
      ({ r with udfStats.timeoutExecuted := r.udfStats.timeoutExecuted + 1 }, .cancelled)
    else ({ r with udfStats.errorExecuted := r.udfStats.errorExecuted + 1 }, .error)
  | .ok bids =>
    let r := { r with udfStats.successExecuted := r.udfStats.successExecuted + 1 }
    if bids.isEmpty then (r, .emptyResponse)
    else if u.multiBidLimit < bids.length then (r, .error)
    else
      let adsWithBids := bids.map (parseProtectedAudienceBid igName
        (u.isDebugReportingEnabled && !u.isRequestInCooldownOrLockout))
      ({ r with adsWithBidsByIg := r.adsWithBidsByIg.set igIndex adsWithBids }, .success)

end Setup

/-! ## The two paths -/

/-- An interest group by its name, with what the binary answers for it. -/
structure Answer (F : Type) where
  igName : String
  response : UdfResponse F

/-- The reactor while responses come back one by one. -/
structure PendingReactor (F : Type) where
  reactor : Reactor F
  asyncTaskTracker : AsyncTaskTracker
  finished : Option (Finish F) := none

namespace Setup

variable {F : Type} (u : Setup F) (answers : List (Answer F))

def start : Reactor F where
  udfStats := { total := answers.length }
  adsWithBidsByIg := List.replicate answers.length []

def processAnswer (r : Reactor F) (igIndex : ℕ) : Reactor F × Option TaskStatus :=
  match answers[igIndex]? with
  | none => (r, none)
  | some answer =>
    let processed := u.processResponse r answer.response answer.igName igIndex
    (processed.1, some processed.2)

/-- The callback of `DispatchInterestGroup`. -/
def completeTask (p : PendingReactor F) (igIndex : ℕ) : PendingReactor F :=
  match u.processAnswer answers p.reactor igIndex with
  | (_, none) => p
  | (reactor, some taskStatus) =>
    let completed := p.asyncTaskTracker.taskCompleted taskStatus
    { reactor := reactor
      asyncTaskTracker := completed.1
      finished :=
        match completed.2 with
        | none => p.finished
        | some anySuccessfulBid => some (u.onAllBidsDone reactor anySuccessfulBid) }

/-- `DispatchExecutions`, with the order the responses come back in: how the call ends, if
it does. -/
def finishEach (order : List ℕ) : Option (Finish F) :=
  (order.foldl (u.completeTask answers)
    { reactor := start answers
      asyncTaskTracker := .setNumTasksToTrack answers.length }).finished

/-- `DispatchExecutionsInBatch`, with the status of the dispatch: how the call ends. -/
def finishBatch (executeStatus : Except GrpcStatusCode Unit) : Finish F :=
  match executeStatus with
  | .error .resourceExhausted =>
    u.finishWithNoBids (.resourceExhausted, "Queue size exceeded. Try again.")
  | .error _ => u.finishWithNoBids (.internal, kInternalError)
  | .ok () =>
    let r := (List.range answers.length).foldl (fun r i => (u.processAnswer answers r i).1)
      (start answers)
    u.onAllBidsDone r (0 < r.udfStats.successExecuted)

end Setup

/-! ## Kinds of answers -/

inductive AnswerKind where
  | bids
  | emptyResponse
  | tooManyBids
  | deadlineExceeded
  | cancelled
  | otherError
deriving DecidableEq, Repr

namespace AnswerKind

def taskStatus : AnswerKind → TaskStatus
  | bids => .success
  | emptyResponse => .emptyResponse
  | tooManyBids => .error
  | deadlineExceeded => .skipped
  | cancelled => .cancelled
  | otherError => .error

def isExecuted : AnswerKind → Bool
  | bids | emptyResponse | tooManyBids => true
  | deadlineExceeded | cancelled | otherError => false

end AnswerKind

def UdfStats.count (stats : UdfStats) : AnswerKind → UdfStats
  | .bids | .emptyResponse | .tooManyBids =>
    { stats with successExecuted := stats.successExecuted + 1 }
  | .deadlineExceeded => { stats with timeoutWaiting := stats.timeoutWaiting + 1 }
  | .cancelled => { stats with timeoutExecuted := stats.timeoutExecuted + 1 }
  | .otherError => { stats with errorExecuted := stats.errorExecuted + 1 }

def Reactor.record {F : Type} (r : Reactor F) (igIndex : ℕ) (kind : AnswerKind)
    (adsWithBids : List (AdWithBid F)) : Reactor F where
  udfStats := r.udfStats.count kind
  adsWithBidsByIg :=
    if kind = .bids then r.adsWithBidsByIg.set igIndex adsWithBids else r.adsWithBidsByIg

namespace Setup

variable {F : Type} (u : Setup F)

def kind : UdfResponse F → AnswerKind
  | .error code =>
    if code = .deadlineExceeded then .deadlineExceeded
    else if code = .cancelled ∨ code = .unavailable then .cancelled
    else .otherError
  | .ok bids =>
    if bids.isEmpty then .emptyResponse
    else if u.multiBidLimit < bids.length then .tooManyBids
    else .bids

def adsWithBids (answer : Answer F) : List (AdWithBid F) :=
  match answer.response with
  | .error _ => []
  | .ok bids => bids.map (parseProtectedAudienceBid answer.igName
      (u.isDebugReportingEnabled && !u.isRequestInCooldownOrLockout))

variable {u}

theorem processAnswer_eq {answers : List (Answer F)} {i : ℕ} {answer : Answer F}
    (h : answers[i]? = some answer) (r : Reactor F) :
    u.processAnswer answers r i = (r.record i (u.kind answer.response) (u.adsWithBids answer),
      some (u.kind answer.response).taskStatus) := by
  unfold processAnswer
  rw [h]
  show ((u.processResponse r answer.response answer.igName i).1,
    some (u.processResponse r answer.response answer.igName i).2) = _
  obtain ⟨igName, response⟩ := answer
  cases response with
  | error code =>
    unfold processResponse kind
    by_cases hdeadline : code = .deadlineExceeded
    · subst hdeadline
      rfl
    · by_cases hunavailable : code = .unavailable
      · subst hunavailable
        rfl
      · by_cases hcancelled : code = .cancelled
        · subst hcancelled
          rfl
        · simp only [hdeadline, hunavailable, hcancelled, if_false, or_self]
          rfl
  | ok bids =>
    unfold processResponse kind adsWithBids
    by_cases hempty : bids.isEmpty = true
    · simp only [hempty, if_true]
      rfl
    · by_cases hlimit : u.multiBidLimit < bids.length
      · simp only [hempty, hlimit, if_true]
        rfl
      · simp only [hempty, hlimit, if_false]
        rfl

end Setup

end Byob

end BiddingAuction
