import BiddingAuction.BuyerFrontEnd.BiddingRequests
import BiddingAuction.Common.AsyncTaskTracker
import BiddingAuction.Common.Status
import BiddingAuction.Foundation.Runs
import BiddingAuction.Proto.GetBids

/-!
# `GetBidsUnaryReactor`

A call asks for bids of protected audience, of protected app signals, or of both. The number
of these tasks is counted before they are started; each goes through its own callbacks, and
the last to be completed finishes the call. A handler may also finish the call by itself,
or return without either. The responses come back in any order, also while `Execute` is still
to start the second task.
-/

namespace BiddingAuction

open Foundation
open SelectAd (GetBidsRawRequest BuyerInputForBidding)

namespace BuyerFrontEnd

abbrev Status := GrpcStatusCode × String

/-! ## Metadata -/

/-- `kBuyerKVMetadata`, `kBiddingMetadata`: the keys, lower case, and what they are sent as. -/
def kBuyerKVMetadata : List (String × String) :=
  [("x-accept-language", "Accept-Language"), ("x-user-agent", "User-Agent"),
    ("x-bna-client-ip", "X-BnA-Client-IP")]

def kBiddingMetadata : List (String × String) :=
  [("x-accept-language", "x-accept-language"), ("x-user-agent", "x-user-agent"),
    ("x-bna-client-ip", "x-bna-client-ip")]

def grpcMetadataToRequestMetadata (clientMetadata sourceTargetKeyMap : List (String × String)) :
    Except String (FlatHashMap String String) :=
  sourceTargetKeyMap.foldlM (fun mapped keys =>
    match clientMetadata.lookup keys.1 with
    | none => .ok mapped
    | some value =>
      if PasBidding.isValidHeaderValue value then .ok (mapped.emplace keys.2 value)
      else .error (PasBidding.illegalHeaderError keys.1 value)) ∅

/-! ## A call -/

structure Setup where
  lib : Library
  ord : HashOrder := .stored
  config : GetBidsConfig := {}
  clientMetadata : List (String × String) := []
  /-- `decrypt_status_`, when it is an error. -/
  decryptStatus : Option Status := none
  rawRequest : GetBidsRawRequest := {}
  /-- The provider and the client are there. -/
  biddingSignalsAsyncProvider : Bool := true
  kvAsyncClient : Bool := true
  calculateDotProduct : List (String × Json) → SelectAd.BrowserSignalsForBidding →
    List (String × Json) → ℚ := fun _ _ _ => 0

structure GenerateBidsRawResponse where
  bids : List (AdWithBid ℚ) := []
  biddingExportDebug : Bool := false

structure GenerateProtectedAppSignalsBidsRawResponse where
  bids : List PasBidding.ProtectedAppSignalsAdWithBid := []
  biddingExportDebug : Bool := false

structure GetBidsRawResponse where
  bids : List (AdWithBid ℚ) := []
  protectedAppSignalsBids : Option (List PasBidding.ProtectedAppSignalsAdWithBid) := none
  updateInterestGroupList : List UpdateInterestGroup := []

/-- What is out of the hands of a handler while it runs. -/
structure Outcome where
  /-- `IsCancelled`, as the handler is entered. -/
  isCancelled : Bool := false
  /-- `IsCancelled`, in `ExecuteChaffRequest` or `OnAllBidsDone`. -/
  isCancelledAtEnd : Bool := false
  /-- Whether the next request is sent, or its status. -/
  starts : Except String Unit := .ok ()
  /-- Whether the response is encoded and encrypted, or the status. -/
  encrypts : Except String Unit := .ok ()
  /-- Whether there are values for a chaff request. -/
  chaffingValues : Bool := true

/-- A request that was sent and calls back; the second task of `Execute`, still to be
started; the timer of a chaff request. -/
inductive Pending where
  | biddingSignals (isHybrid : Bool)
  | biddingSignalsV2
  | generateBids
  | getProtectedSignalsBids
  | generateProtectedAppSignalsBids
  | chaff
deriving DecidableEq, Repr

inductive FinishedBy where
  | allBidsDone
  | chaff
  | early
deriving DecidableEq, Repr

structure Reactor where
  executed : Bool := false
  /-- `kNumDefaultOutboundBiddingCalls` until the tasks are counted. -/
  asyncTaskTracker : AsyncTaskTracker := .setNumTasksToTrack 1
  /-- What `SetNumTasksToTrack` was called with in `Execute`. -/
  announced : ℕ := 0
  /-- The calls of `TaskCompleted`, latest first. -/
  completed : List TaskStatus := []
  bidErrors : List String := []
  getBidsRawResponse : GetBidsRawResponse := {}
  shouldExportDebug : Bool := false
  /-- What was sent, latest first. -/
  getBuyerValuesInputs : List GetBuyerValuesInput := []
  getValuesRequests : List GetValuesRequest := []
  generateBidsRequests : List Byob.GenerateBidsRawRequest := []
  protectedAppSignalsRequests : List PasBidding.RawRequest := []
  pending : List Pending := []
  /-- The calls of `Finish`, latest first. -/
  finished : List (FinishedBy × Status) := []
  aborted : Bool := false

def kRequestCancelled := "Request Cancelled by Client."
def kMissingInputs := "Missing inputs"
def kInternalServerError := "Internal server error."
def kCheckBiddingSignalsFetchFlagV1ErrorMsg :=
  "Definite logical error: Called V1 function to get bidding signals despite " ++
    "BIDDING_SIGNALS_FETCH_MODE being NOT_FETCHED."
def kCheckBiddingSignalsFetchFlagV2ErrorMsg :=
  "Definite logical error: Called V2 function to get bidding signals despite " ++
    "BIDDING_SIGNALS_FETCH_MODE being NOT_FETCHED."
def kCheckBiddingSignalsProviderV1ErrorMsg :=
  "Definite logical error: Called V1 function to get bidding signals despite " ++
    "the bidding signals async provider being nullptr."
def kCheckBiddingSignalsProviderV2ErrorMsg :=
  "Definite logical error: Called V2 function to get bidding signals despite " ++
    "the kv async client being nullptr."

namespace Setup

variable (u : Setup)

/-- `raw_request_.buyer_input_for_bidding()`, once the input of the client is converted. -/
def buyerInputForBidding : BuyerInputForBidding := SelectAd.executedBuyerInput u.lib u.rawRequest

def enableEnforceKanon : Bool := u.config.enableKanon && u.rawRequest.enforceKanon

/-- `GetNumberOfMaximumBiddingCalls`, of each kind: interest groups may be in either input. -/
def countsProtectedAudience : Bool :=
  u.config.isProtectedAudienceEnabled &&
    (!((u.rawRequest.buyerInput.getD {}).interestGroups).isEmpty ||
      !((u.rawRequest.buyerInputForBidding.getD {}).interestGroups).isEmpty)

def countsProtectedSignals : Bool :=
  u.config.isProtectedAppSignalsEnabled && u.rawRequest.protectedAppSignalsBuyerInput.isSome

def getNumberOfMaximumBiddingCalls : ℕ :=
  u.countsProtectedAudience.toNat + u.countsProtectedSignals.toNat

def getProtectedAudienceBids : Bool :=
  u.config.isProtectedAudienceEnabled && !u.buyerInputForBidding.interestGroups.isEmpty

def getProtectedSignalsBids : Bool :=
  u.config.isProtectedAppSignalsEnabled && u.rawRequest.protectedAppSignalsBuyerInput.isSome

def usesKvV2 : Bool :=
  useKvV2 u.rawRequest.clientType u.config.isTkvV2BrowserEnabled u.config.testMode
    u.config.tkvV2AddressEmpty

/-- What `Execute` refuses a request for before it looks at its inputs. -/
def refusal : Option Status :=
  match grpcMetadataToRequestMetadata u.clientMetadata kBuyerKVMetadata with
  | .error message => some (.invalidArgument, message)
  | .ok _ =>
    match grpcMetadataToRequestMetadata u.clientMetadata kBiddingMetadata with
    | .error message => some (.invalidArgument, message)
    | .ok _ => u.decryptStatus

def isChaff : Bool := u.config.isChaffingV1Enabled && u.rawRequest.isChaff

/-- `priority_signals_vector_`, null where the request has none, or that it is malformed. -/
def prioritySignalsVector : Except String (Option (List (String × Json))) :=
  if u.config.priorityVectorEnabled && u.rawRequest.prioritySignals ≠ "" then
    (SelectAd.parsePriorityVector u.lib u.rawRequest.prioritySignals).map some
  else .ok none

def isMissingInputs : Bool :=
  match u.prioritySignalsVector with
  | .error _ => true
  | .ok _ => u.getNumberOfMaximumBiddingCalls = 0

/-! ## Preparing the bidding request -/

/-- What `PrepareAndGenerateProtectedAudienceBid` comes to before it sends the request. -/
inductive Prepared where
  | aborted
  | emptyResponse
  | error (message : String)
  | request (updateIgs : Option (List UpdateInterestGroup)) (request : Byob.GenerateBidsRawRequest)

def prepareRequest (components : BiddingSignalJsonComponents) (dataVersion : UInt32) :
    Option Byob.GenerateBidsRawRequest :=
  prepareGenerateBidsRequest u.ord u.rawRequest u.buyerInputForBidding
    (match components.biddingSignals with
      | none => ∅
      | some signals => biddingSignalsToMap u.lib signals)
    dataVersion
    { priorityVectorEnabled := u.config.priorityVectorEnabled
      prioritySignals := u.prioritySignalsVector.toOption.join
      perIgPriorityVectors := components.perIgPriorityVectors
      calculateDotProduct := u.calculateDotProduct }
    u.enableEnforceKanon (u.config.biddingSignalsFetchMode = .required)

def nonEmptyRequest (updateIgs : Option (List UpdateInterestGroup)) :
    Option Byob.GenerateBidsRawRequest → Prepared
  | none => .aborted
  | some request =>
    if request.interestGroupForBidding.isEmpty then .emptyResponse else .request updateIgs request

def prepare (biddingSignals : BiddingSignals) : Prepared :=
  match parseTrustedBiddingSignals u.lib biddingSignals u.buyerInputForBidding with
  | .ok components =>
    nonEmptyRequest (some components.updateIgs)
      (u.prepareRequest components biddingSignals.dataVersion)
  | .error .aborted => .aborted
  | .error (.invalidArgument _) =>
    if u.config.biddingSignalsFetchMode = .required then .emptyResponse
    else nonEmptyRequest none (u.prepareRequest {} biddingSignals.dataVersion)
  | .error (.internal message) =>
    if u.config.biddingSignalsFetchMode = .required then .error ("INTERNAL: " ++ message)
    else nonEmptyRequest none (u.prepareRequest {} biddingSignals.dataVersion)

end Setup

namespace Reactor

variable (u : Setup) (o : Outcome) (r : Reactor)

/-! ## Finishing -/

def finish (finishedBy : FinishedBy) (status : Status) : Reactor :=
  { r with finished := (finishedBy, status) :: r.finished }

def abort : Reactor := { r with aborted := true }

def await (pending : Pending) : Reactor := { r with pending := pending :: r.pending }

def onAllBidsDone (anySuccessfulBids : Bool) : Reactor :=
  if u.config.enableCancellation && o.isCancelledAtEnd then
    r.finish .allBidsDone (.cancelled, kRequestCancelled)
  else if !anySuccessfulBids then
    r.finish .allBidsDone (.internal, "; ".intercalate r.bidErrors)
  else
    match o.encrypts with
    | .error message => r.finish .allBidsDone (.internal, message)
    | .ok () => r.finish .allBidsDone (.ok, "")

def taskCompleted (taskStatus : TaskStatus) : Reactor :=
  let completed := r.asyncTaskTracker.taskCompleted taskStatus
  let r := { r with
    asyncTaskTracker := completed.1
    completed := taskStatus :: r.completed }
  match completed.2 with
  | none => r
  | some anySuccessfulBid => r.onAllBidsDone u o anySuccessfulBid

def taskFailed (message : String) : Reactor :=
  { r with bidErrors := r.bidErrors ++ [message] }.taskCompleted u o .error

/-- `ExecuteInternal` of a client: the request is sent and calls back, or the task fails. -/
def executeInternal (pending : Pending) : Reactor :=
  match o.starts with
  | .ok () => r.await pending
  | .error message => r.taskFailed u o message

/-! ## Protected audience -/

def prepareAndGenerateProtectedAudienceBid (biddingSignals : BiddingSignals) : Reactor :=
  match u.prepare biddingSignals with
  | .aborted => r.abort
  | .emptyResponse => r.taskCompleted u o .emptyResponse
  | .error message => r.taskFailed u o message
  | .request updateIgs request =>
    { r with
      getBidsRawResponse.updateInterestGroupList :=
        updateIgs.getD r.getBidsRawResponse.updateInterestGroupList
      generateBidsRequests := request :: r.generateBidsRequests }.executeInternal u o
        .generateBids

def mayGetProtectedAudienceBidsV1 (isHybrid : Bool) : Reactor :=
  if u.config.biddingSignalsFetchMode = .notFetched then
    r.finish .early (.internal, kCheckBiddingSignalsFetchFlagV1ErrorMsg)
  else if !u.biddingSignalsAsyncProvider then
    r.finish .early (.internal, kCheckBiddingSignalsProviderV1ErrorMsg)
  else
    -- the HTTP client of the provider always sends its request
    let input := getBuyerValuesInput u.rawRequest u.buyerInputForBidding
    { r with getBuyerValuesInputs := input :: r.getBuyerValuesInputs }.await
      (.biddingSignals isHybrid)

def mayGetProtectedAudienceBidsV2 (byosOutput : Option String) : Reactor :=
  if u.config.biddingSignalsFetchMode = .notFetched then
    r.finish .early (.internal, kCheckBiddingSignalsFetchFlagV2ErrorMsg)
  else if !u.kvAsyncClient then
    r.finish .early (.internal, kCheckBiddingSignalsProviderV2ErrorMsg)
  else
    match createV2BiddingRequest u.rawRequest u.buyerInputForBidding
      u.config.propagateBuyerSignalsToTkv byosOutput with
    -- the task stays as it is
    | .error _ => r
    | .ok request =>
      { r with getValuesRequests := request :: r.getValuesRequests }.executeInternal u o
        .biddingSignalsV2

def getProtectedAudienceBids : Reactor :=
  if u.config.biddingSignalsFetchMode ≠ .notFetched then
    if u.usesKvV2 then r.mayGetProtectedAudienceBidsV2 u o none
    else if u.config.isHybridEnabled && u.rawRequest.clientType = .browser then
      r.mayGetProtectedAudienceBidsV1 u true
    else r.mayGetProtectedAudienceBidsV1 u false
  else r.prepareAndGenerateProtectedAudienceBid u o {}

/-- The signals of the first version have come, behind the cancellation wrapper. -/
def onBiddingSignals (isHybrid : Bool) (response : Except String GetBuyerValuesOutput) : Reactor :=
  if u.config.enableCancellation && o.isCancelled then r.taskCompleted u o .cancelled
  else
    match response with
    | .error message => r.taskFailed u o message
    | .ok output =>
      let signals := toBiddingSignals u.rawRequest.clientType output
      if isHybrid && !signals.isHybridV1Return then
        r.mayGetProtectedAudienceBidsV2 u o signals.trustedSignals
      else r.prepareAndGenerateProtectedAudienceBid u o signals

/-- `ConvertV2BiddingSignalsToV1`, of the contents of the compression groups. -/
def convertV2BiddingSignalsToV1 (contents : List String) :
    Except KvV2.Failure BiddingSignals := do
  let converted ← KvV2.convertKvV2ResponseToV1String u.lib u.ord
    ["keys", KvV2.kInterestGroupNames] contents {}
  pure { trustedSignals := some converted.1 }

def failureMessage : KvV2.Failure → String
  | .invalidArgument message => "INVALID_ARGUMENT: " ++ message
  | .jsonParseError => "INVALID_ARGUMENT: JSON Parse Error"
  | .serializationError => "INTERNAL: Unknown JSON to string serialization error"
  | .aborted => ""

/-- The signals of the second version have come, behind the cancellation wrapper. -/
def onBiddingSignalsV2 (response : Except String (List String)) : Reactor :=
  if u.config.enableCancellation && o.isCancelled then r.taskCompleted u o .cancelled
  else
    match response with
    | .error message => r.taskFailed u o message
    | .ok contents =>
      match convertV2BiddingSignalsToV1 u contents with
      | .ok signals => r.prepareAndGenerateProtectedAudienceBid u o signals
      | .error .aborted => r.abort
      | .error failure => r.taskFailed u o (failureMessage failure)

/-- The bids have come: `HandleSingleBidCompletion`, where only a response with bids is
behind the cancellation wrapper. -/
def onGenerateBids (response : Except String GenerateBidsRawResponse) : Reactor :=
  match response with
  | .error message => r.taskFailed u o message
  | .ok response =>
    let r := { r with shouldExportDebug := response.biddingExportDebug }
    if response.bids.isEmpty then r.taskCompleted u o .emptyResponse
    else if u.config.enableCancellation && o.isCancelled then r.taskCompleted u o .cancelled
    else { r with getBidsRawResponse.bids := response.bids }.taskCompleted u o .success

/-! ## Protected app signals -/

def getProtectedSignalsBids : Reactor :=
  match u.rawRequest.protectedAppSignalsBuyerInput.bind
    SelectAd.ProtectedAppSignalsBuyerInput.protectedAppSignals with
  -- the task stays as it is
  | none => r
  | some protectedAppSignals =>
    let request := createGenerateProtectedAppSignalsBidsRawRequest u.rawRequest
      protectedAppSignals u.enableEnforceKanon
    { r with protectedAppSignalsRequests := request :: r.protectedAppSignalsRequests
      }.executeInternal u o .generateProtectedAppSignalsBids

def onGenerateProtectedAppSignalsBids
    (response : Except String GenerateProtectedAppSignalsBidsRawResponse) : Reactor :=
  match response with
  | .error message => r.taskFailed u o message
  | .ok response =>
    let r := { r with shouldExportDebug := response.biddingExportDebug }
    if response.bids.isEmpty then
      let bids := r.getBidsRawResponse.protectedAppSignalsBids.getD []
      { r with getBidsRawResponse.protectedAppSignalsBids := some bids }.taskCompleted u o
        .emptyResponse
    else if u.config.enableCancellation && o.isCancelled then r.taskCompleted u o .cancelled
    else
      { r with getBidsRawResponse.protectedAppSignalsBids := some response.bids }.taskCompleted
        u o .success

/-! ## Execution -/

/-- `ExecuteChaffRequest`, behind its cancellation wrapper. -/
def executeChaffRequest : Reactor :=
  if u.config.enableCancellation && o.isCancelledAtEnd then
    r.finish .early (.cancelled, kRequestCancelled)
  else if !u.config.isChaffingV1Enabled && !u.config.isChaffingV2Enabled then
    r.finish .early (.internal, kInternalServerError)
  else if u.config.isChaffingV2Enabled && !o.chaffingValues then
    r.finish .early (.internal, kInternalServerError)
  else
    match o.encrypts with
    | .error _ => r.finish .early (.internal, kInternalServerError)
    | .ok () => r.await .chaff

/-- The tasks are counted and started: that of protected audience at once, the other one
next. -/
def startTasks : Reactor :=
  let r := { r with
    asyncTaskTracker := .setNumTasksToTrack u.getNumberOfMaximumBiddingCalls
    announced := u.getNumberOfMaximumBiddingCalls }
  let r := if u.getProtectedSignalsBids then r.await .getProtectedSignalsBids else r
  if u.getProtectedAudienceBids then r.getProtectedAudienceBids u o else r

/-- `Execute`, behind its cancellation wrapper. -/
def execute : Reactor :=
  let r := { r with executed := true }
  if u.config.enableCancellation && o.isCancelled then
    r.finish .early (.cancelled, kRequestCancelled)
  else
    match u.refusal with
    | some status => r.finish .early status
    | none =>
      if u.isChaff then r.executeChaffRequest u o
      else if u.isMissingInputs then r.finish .early (.invalidArgument, kMissingInputs)
      else r.startTasks u o

/-! ## Steps -/

inductive Event where
  | execute (o : Outcome)
  | getProtectedSignalsBids (o : Outcome)
  | biddingSignals (isHybrid : Bool) (response : Except String GetBuyerValuesOutput) (o : Outcome)
  | biddingSignalsV2 (response : Except String (List String)) (o : Outcome)
  | generateBids (response : Except String GenerateBidsRawResponse) (o : Outcome)
  | generateProtectedAppSignalsBids
      (response : Except String GenerateProtectedAppSignalsBidsRawResponse) (o : Outcome)
  | chaff

namespace Event

def callback? : Event → Option Pending
  | execute _ => none
  | getProtectedSignalsBids _ => some .getProtectedSignalsBids
  | biddingSignals isHybrid _ _ => some (.biddingSignals isHybrid)
  | biddingSignalsV2 _ _ => some .biddingSignalsV2
  | generateBids _ _ => some .generateBids
  | generateProtectedAppSignalsBids _ _ => some .generateProtectedAppSignalsBids
  | chaff => some .chaff

end Event

def handle : Event → Reactor
  | .execute o => r.execute u o
  | .getProtectedSignalsBids o => r.getProtectedSignalsBids u o
  | .biddingSignals isHybrid response o => r.onBiddingSignals u o isHybrid response
  | .biddingSignalsV2 response o => r.onBiddingSignalsV2 u o response
  | .generateBids response o => r.onGenerateBids u o response
  | .generateProtectedAppSignalsBids response o =>
    r.onGenerateProtectedAppSignalsBids u o response
  | .chaff => r.finish .chaff (.ok, "")

def take (pending : Pending) : Reactor := { r with pending := r.pending.erase pending }

/-- The service calls `Execute` once; a request that was sent calls back once. -/
def step (r : Reactor) (e : Event) : Option Reactor :=
  if r.aborted then none
  else
    match e.callback? with
    | none => if r.executed then none else some (r.handle u e)
    | some pending => if pending ∈ r.pending then some ((r.take pending).handle u e) else none

/-- A call, from the start of `Execute`. -/
def system : LTS Reactor Event := .ofStep (fun r => r = {}) (step u)

end Reactor

end BuyerFrontEnd

end BiddingAuction
