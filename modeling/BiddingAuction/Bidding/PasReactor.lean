import BiddingAuction.Bidding.UdfTexts
import BiddingAuction.Foundation.Runs
import BiddingAuction.Proto.AdScore
import BiddingAuction.ScoreAds.Dispatch

/-!
# `ProtectedAppSignalsGenerateBidsReactor`

A call runs through up to three steps that call back: the script that prepares the data
for ad retrieval, the fetch of the ads data, and `generateBid`. With contextual ads the
first is left out. Every handler leaves by finishing the call or by waiting for the
next callback; it ends the process where it calls a client that is not configured, or
where the JSON library asserts.
-/

namespace BiddingAuction

open Foundation

namespace PasBidding

/-! ## The request -/

structure ContextualProtectedAppSignalsData where
  adRenderIds : List String := []
  fetchAdsFromRetrievalService : Bool := false

structure RawRequest where
  auctionSignals : String := ""
  buyerSignals : String := ""
  appInstallSignals : List UInt8 := []
  encodingVersion : ℤ := 0
  topLevelSeller : String := ""
  contextualProtectedAppSignalsData : Option ContextualProtectedAppSignalsData := none
  enableDebugReporting : Bool := false
  enableUnlimitedEgress : Bool := false
  multiBidLimit : ℤ := 0
  generationId : String := ""

/-- What the reactor is constructed with, versions resolved. -/
structure Setup where
  rawRequest : RawRequest := {}
  clientMetadata : List (String × String) := []
  enableCancellation : Bool := false
  enableAdtechCodeLogging : Bool := false
  enableBuyerDebugUrlGeneration : Bool := false
  romaTimeoutDuration : String := ""
  protectedAppSignalsGenerateBidVersion : String := ""
  prepareDataForAdRetrievalVersion : String := ""
  egressSchemaVersion : String := ""
  temporaryUnlimitedEgressSchemaVersion : String := ""
  limitedEgressBits : ℤ := 0
  enableTemporaryUnlimitedEgress : Bool := false
  /-- The client is there: an address of the server is configured. One of the two
  addresses is enough for the service to start. -/
  adRetrievalAsyncClient : Bool := true
  kvAsyncClient : Bool := true

structure ProtectedAppSignalsAdWithBid where
  render : String := ""
  bid : ℚ := 0
  egressPayload : String := ""
  temporaryUnlimitedEgressPayload : String := ""
  allowComponentAuction : Bool := false
deriving DecidableEq, Repr

/-- What the code takes from its libraries and from the caches of egress schemas. -/
structure Library extends JsonTexts where
  jsonStringToMessage : String → Except String ProtectedAppSignalsAdWithBid
  /-- `GetSerializedEgressPayload`, with the schema id, the payload and the limit on the
  bits, if any. -/
  getSerializedEgressPayload : String → String → Option ℤ → Except String String

namespace Setup

variable (u : Setup)

/-- `auction_scope_`: only server component auctions are implemented. -/
def auctionScope : AuctionScope :=
  if u.rawRequest.topLevelSeller = "" then .singleSeller else .serverComponentMultiSeller

def isContextualRetrievalRequest : Bool :=
  match u.rawRequest.contextualProtectedAppSignalsData with
  | none => false
  | some data => !data.adRenderIds.isEmpty && !data.fetchAdsFromRetrievalService

end Setup

/-! ## Metadata -/

def kClientIpKey := "x-bna-client-ip"
def kUserAgentKey := "x-user-agent"
def kAcceptLanguageKey := "x-accept-language"

/-- `kBuyerMetadataKeysMap`: every key is mapped to itself. -/
def kBuyerMetadataKeysMap : List String := [kAcceptLanguageKey, kUserAgentKey, kClientIpKey]

def isValidHeaderValue (candidateValue : String) : Bool :=
  candidateValue.toList.all fun c => 32 ≤ c.toNat && c.toNat ≤ 126

def illegalHeaderError (key value : String) : String :=
  "Illegal character provided in request header: (key: " ++ key ++ ", value: " ++ value ++ ")"

def grpcMetadataToRequestMetadata (clientMetadata : List (String × String)) :
    Except String (FlatHashMap String String) :=
  kBuyerMetadataKeysMap.foldlM (fun mapped key =>
    match clientMetadata.lookup key with
    | none => .ok mapped
    | some value =>
      if isValidHeaderValue value then .ok (mapped.emplace key value)
      else .error (illegalHeaderError key value)) ∅

/-! ## The requests of a step -/

/-- A `DispatchRequest`, with its arguments in the order of the script. -/
structure DispatchRequest where
  id : String
  versionString : String
  handlerName : String
  input : List String
  tags : List (String × String) := []
deriving DecidableEq, Repr

/-- A request for ads data: `BuildRetrievalRequest` or `BuildLookupRequest`. -/
inductive AdsRequest where
  | retrieval (protectedSignals : String) (deviceMetadata : List (String × String))
      (contextualSignals : String) (adRenderIds : List String)
  | lookup (adRenderIds : List String)
deriving DecidableEq, Repr

def kNumPrepareDataForRetrievalUdfArgs := 5
def kNumGenerateProtectedAppSignalsBidUdfArgs := 10
def kPrepareDataForAdRetrievalEntryFunctionName := "prepareDataForAdRetrievalEntryFunction"
def kDispatchHandlerFunctionNameWithCodeWrapper := "generateBidEntryFunction"
def kRomaTimeoutTag := "TimeoutDuration"

/-- `PopulateArgInRomaRequest`: an empty argument becomes an empty string of the script. -/
def populateArgInRomaRequest (arg : String) (index : ℕ) (request : List String) : List String :=
  request.set index (if arg = "" then "\"\"" else arg)

def hexDigit (n : ℕ) : Char := "0123456789abcdef".toList.getD n '0'

def bytesToHexString (bytes : List UInt8) : String :=
  String.ofList (bytes.flatMap fun b => [hexDigit (b.toNat / 16), hexDigit (b.toNat % 16)])

namespace Setup

variable (u : Setup)

def createPrepareDataForAdsRetrievalRequest : DispatchRequest :=
  let input := List.replicate kNumPrepareDataForRetrievalUdfArgs ""
  let input := populateArgInRomaRequest
    ("\"" ++ bytesToHexString u.rawRequest.appInstallSignals ++ "\"") 0 input
  let input := populateArgInRomaRequest (toString u.rawRequest.encodingVersion) 1 input
  let input := populateArgInRomaRequest u.rawRequest.auctionSignals 2 input
  let input := populateArgInRomaRequest u.rawRequest.buyerSignals 3 input
  let input := populateArgInRomaRequest (getFeatureFlagJson u.enableAdtechCodeLogging false) 4
    input
  { id := u.rawRequest.generationId
    versionString := u.prepareDataForAdRetrievalVersion
    handlerName := kPrepareDataForAdRetrievalEntryFunctionName
    input := input
    tags := [(kRomaTimeoutTag, u.romaTimeoutDuration)] }

/-- `CreateGenerateBidsRequest`: without prepared data a contextual request hands the
signals themselves to `generateBid`. -/
def createGenerateBidsRequest (adsData prepareDataForAdsRetrievalResponse : String) :
    DispatchRequest :=
  let input := List.replicate kNumGenerateProtectedAppSignalsBidUdfArgs ""
  let input := populateArgInRomaRequest adsData 0 input
  let input := populateArgInRomaRequest u.rawRequest.auctionSignals 1 input
  let input := populateArgInRomaRequest u.rawRequest.buyerSignals 2 input
  let input := populateArgInRomaRequest prepareDataForAdsRetrievalResponse 3 input
  let input :=
    if prepareDataForAdsRetrievalResponse = "" && u.isContextualRetrievalRequest then
      populateArgInRomaRequest (toString u.rawRequest.encodingVersion) 5
        (populateArgInRomaRequest
          ("\"" ++ bytesToHexString u.rawRequest.appInstallSignals ++ "\"") 4 input)
    else input
  let input := populateArgInRomaRequest
    (if u.rawRequest.topLevelSeller ≠ "" then
      "\x7b\"topLevelSeller\":\"" ++ u.rawRequest.topLevelSeller ++ "\"\x7d"
    else "\x7b\x7d") 7 input
  let input := populateArgInRomaRequest (getFeatureFlagJson u.enableAdtechCodeLogging
    (u.enableBuyerDebugUrlGeneration && u.rawRequest.enableDebugReporting)) 8 input
  let input := populateArgInRomaRequest (toString u.rawRequest.multiBidLimit) 6 input
  { id := u.rawRequest.generationId
    versionString := u.protectedAppSignalsGenerateBidVersion
    handlerName := kDispatchHandlerFunctionNameWithCodeWrapper
    input := input
    tags := [(kRomaTimeoutTag, u.romaTimeoutDuration)] }

/-- The request of `CancellableFetchAds`, of the data prepared for it and without ids. -/
def createAdsRetrievalRequest (metadata : FlatHashMap String String)
    (prepareDataForAdsRetrievalResponse : String) : AdsRequest :=
  .retrieval prepareDataForAdsRetrievalResponse
    [("X-BnA-Client-IP", (metadata.lookup kClientIpKey).getD ""),
      ("X-Accept-Language", (metadata.lookup kAcceptLanguageKey).getD ""),
      ("X-User-Agent", (metadata.lookup kUserAgentKey).getD "")]
    u.rawRequest.buyerSignals []

def createKVLookupRequest : AdsRequest :=
  .lookup ((u.rawRequest.contextualProtectedAppSignalsData.map
    ContextualProtectedAppSignalsData.adRenderIds).getD [])

end Setup

/-! ## The reactor -/

inductive Status where
  | ok
  | cancelled
  | invalidArgument (message : String)
  | internal (message : String)
deriving DecidableEq, Repr

/-- A script, and where ads data is fetched. -/
inductive RomaCall where
  | prepareDataForAdRetrieval
  | generateBid
deriving DecidableEq, Repr

inductive AdsSource where
  | adRetrieval
  | kv
deriving DecidableEq, Repr

/-- A call that was started and calls back, with what the callback captured. -/
inductive Pending where
  | roma (call : RomaCall)
  | ads (source : AdsSource) (prepareDataForAdsRetrievalResponse : String)
deriving DecidableEq, Repr

def Setup.hasClient (u : Setup) : AdsSource → Bool
  | .adRetrieval => u.adRetrievalAsyncClient
  | .kv => u.kvAsyncClient

def Setup.createAdsRequest (u : Setup) (source : AdsSource)
    (metadata : FlatHashMap String String) (prepareDataForAdsRetrievalResponse : String) :
    AdsRequest :=
  match source with
  | .adRetrieval => u.createAdsRetrievalRequest metadata prepareDataForAdsRetrievalResponse
  | .kv => u.createKVLookupRequest

/-- What is out of the hands of a handler while it runs. -/
structure Outcome where
  /-- `IsCancelled`, as the handler is entered. -/
  isCancelled : Bool := false
  /-- `IsCancelled`, as the next step is about to start. -/
  isCancelledAtNext : Bool := false
  /-- Whether the next step starts, or its status. -/
  starts : Except String Unit := .ok ()
  /-- Whether `AeadEncrypt` succeeds, or its status. -/
  encrypts : Except String Unit := .ok ()

structure Reactor where
  metadata : FlatHashMap String String := ∅
  embeddingsRequests : List DispatchRequest := []
  dispatchRequests : List DispatchRequest := []
  bids : List ProtectedAppSignalsAdWithBid := []
  pending : List Pending := []
  /-- The batches that were executed, and the fetches that were started, latest first. -/
  executions : List (RomaCall × List DispatchRequest) := []
  fetches : List AdsRequest := []
  /-- The calls of `EncryptResponseAndFinish`, and of `Finish`, latest first. -/
  encryptedAndFinished : List Status := []
  finished : List Status := []
  executed : Bool := false
  aborted : Bool := false

def kInternalServerError := "Internal server error."
def kUnexpectedNumberOfRomaResponses := "Unexpected count of roma responses received."

namespace Reactor

variable (u : Setup) (lib : Library) (o : Outcome) (r : Reactor)

/-- `EncryptResponseAndFinish`: a failed encryption finishes the call by itself. -/
def encryptResponseAndFinish (status : Status) : Reactor :=
  { r with
    encryptedAndFinished := status :: r.encryptedAndFinished
    finished :=
      match status, o.encrypts with
      | .ok, .error message =>
        .internal kInternalServerError :: .internal message :: r.finished
      | status, _ => status :: r.finished }

def abort : Reactor := { r with aborted := true }

def await (pending : Pending) : Reactor := { r with pending := pending :: r.pending }

/-- `ExecuteRomaRequests`, up to its callback. -/
def executeRomaRequests (call : RomaCall) (requests : List DispatchRequest) : Reactor :=
  if u.enableCancellation && o.isCancelledAtNext then r.encryptResponseAndFinish o .cancelled
  else
    let r := { r with executions := (call, requests) :: r.executions }
    match o.starts with
    | .ok () => r.await (.roma call)
    | .error status => r.encryptResponseAndFinish o (.internal status)

def validateRomaResponse (result : List (Except String String)) : Except String String :=
  match result with
  | [.ok response] => .ok response
  | [.error status] => .error status
  | _ => .error kUnexpectedNumberOfRomaResponses

/-- The ads data is fetched: `CancellableFetchAds` and `CancellableFetchAdsMetadata`,
behind their cancellation wrapper. -/
def fetch (source : AdsSource) (prepareDataForAdsRetrievalResponse : String) : Reactor :=
  if u.enableCancellation && o.isCancelledAtNext then r.encryptResponseAndFinish o .cancelled
  else
    if !u.hasClient source then r.abort
    else
      let request := u.createAdsRequest source r.metadata prepareDataForAdsRetrievalResponse
      let r := { r with fetches := request :: r.fetches }
      match o.starts with
      | .ok () => r.await (.ads source prepareDataForAdsRetrievalResponse)
      | .error status => r.encryptResponseAndFinish o (.internal status)

def fetchAds (prepareDataForAdsRetrievalResponse : String) : Reactor :=
  r.fetch u o .adRetrieval prepareDataForAdsRetrievalResponse

def fetchAdsMetadata (prepareDataForAdsRetrievalResponse : String) : Reactor :=
  r.fetch u o .kv prepareDataForAdsRetrievalResponse

def startContextualAdsRetrieval : Reactor := r.fetchAdsMetadata u o ""

def startNonContextualAdsRetrieval : Reactor :=
  let r := { r with
    embeddingsRequests := r.embeddingsRequests ++ [u.createPrepareDataForAdsRetrievalRequest] }
  r.executeRomaRequests u o .prepareDataForAdRetrieval r.embeddingsRequests

def execute : Reactor :=
  let r := { r with executed := true }
  if u.enableCancellation && o.isCancelled then r.encryptResponseAndFinish o .cancelled
  else
    match grpcMetadataToRequestMetadata u.clientMetadata with
    | .error status => r.encryptResponseAndFinish o (.invalidArgument status)
    | .ok metadata =>
      let r := { r with metadata := metadata }
      if u.isContextualRetrievalRequest then r.startContextualAdsRetrieval u o
      else r.startNonContextualAdsRetrieval u o

/-- The end of `prepareDataForAdRetrieval`, behind the cancellation wrapper. -/
def onPrepareDataForAdRetrievalDone (result : List (Except String String)) : Reactor :=
  if u.enableCancellation && o.isCancelled then r.encryptResponseAndFinish o .cancelled
  else
    match validateRomaResponse result with
    | .error status => r.encryptResponseAndFinish o (.internal status)
    | .ok response =>
      match lib.parsePreparedData response with
      | .error _ => r.abort
      | .ok (.error status) => r.encryptResponseAndFinish o (.internal status)
      | .ok (.ok parsedResponse) => r.fetchAds u o parsedResponse

def onFetchAdsDataDone (adsData prepareDataForAdsRetrievalResponse : String) : Reactor :=
  if adsData = "" then r.encryptResponseAndFinish o .ok
  else
    let r := { r with
      dispatchRequests := r.dispatchRequests ++
        [u.createGenerateBidsRequest adsData prepareDataForAdsRetrievalResponse] }
    r.executeRomaRequests u o .generateBid r.dispatchRequests

def onAdsResult (result : Except String String) (prepareDataForAdsRetrievalResponse : String) :
    Reactor :=
  if u.enableCancellation && o.isCancelled then r.encryptResponseAndFinish o .cancelled
  else
    match result with
    | .error status => r.encryptResponseAndFinish o (.internal status)
    | .ok adsData => r.onFetchAdsDataDone u o adsData prepareDataForAdsRetrievalResponse

/-! ## The bids -/

def parseProtectedSignalsGenerateBidsResponse (response : String) :
    Except ReadError (Except String (List ProtectedAppSignalsAdWithBid)) := do
  return (← lib.parseAndGetResponseJsonArray u.enableAdtechCodeLogging response) >>=
    List.mapM lib.jsonStringToMessage

def isValidProtectedAppSignalsBid (bid : ProtectedAppSignalsAdWithBid) : Bool :=
  bid.bid ≠ 0 &&
    !(u.auctionScope = .serverComponentMultiSeller && !bid.allowComponentAuction)

def populateSerializedEgressPayload (schemaId egressPayload : String) (egressBitLimit : Option ℤ) :
    String :=
  if egressPayload = "" then egressPayload
  else
    match lib.getSerializedEgressPayload schemaId egressPayload egressBitLimit with
    | .ok serializedPayload => serializedPayload
    | .error _ => ""

def addedBid (bid : ProtectedAppSignalsAdWithBid) : ProtectedAppSignalsAdWithBid :=
  { bid with
    egressPayload :=
      if u.limitedEgressBits ≤ 0 then ""
      else populateSerializedEgressPayload lib u.egressSchemaVersion bid.egressPayload
        (some u.limitedEgressBits)
    temporaryUnlimitedEgressPayload :=
      if !u.rawRequest.enableUnlimitedEgress || !u.enableTemporaryUnlimitedEgress then ""
      else populateSerializedEgressPayload lib u.temporaryUnlimitedEgressSchemaVersion
        bid.temporaryUnlimitedEgressPayload none }

/-- The end of `generateBid`, behind the cancellation wrapper. -/
def onGenerateBidDone (result : List (Except String String)) : Reactor :=
  if u.enableCancellation && o.isCancelled then r.encryptResponseAndFinish o .cancelled
  else
    match validateRomaResponse result with
    | .error status => r.encryptResponseAndFinish o (.internal status)
    | .ok response =>
      match parseProtectedSignalsGenerateBidsResponse u lib response with
      | .error _ => r.abort
      | .ok (.error status) => r.encryptResponseAndFinish o (.internal status)
      | .ok (.ok bids) =>
        let added := (bids.filter (isValidProtectedAppSignalsBid u)).map (addedBid u lib)
        { r with bids := r.bids ++ added }.encryptResponseAndFinish o .ok

/-! ## Steps -/

inductive Event where
  | execute (o : Outcome)
  | romaDone (call : RomaCall) (result : List (Except String String)) (o : Outcome)
  | adsDone (source : AdsSource) (prepareDataForAdsRetrievalResponse : String)
      (result : Except String String) (o : Outcome)

def take (pending : Pending) : Reactor := { r with pending := r.pending.erase pending }

def romaDone (call : RomaCall) (result : List (Except String String)) : Reactor :=
  match call with
  | .prepareDataForAdRetrieval => r.onPrepareDataForAdRetrievalDone u lib o result
  | .generateBid => r.onGenerateBidDone u lib o result

/-- The service calls `Execute` once; a started call calls back once. -/
def step (r : Reactor) (e : Event) : Option Reactor :=
  if r.aborted then none
  else
    match e with
    | .execute o => if r.executed then none else some (r.execute u o)
    | .romaDone call result o =>
      if Pending.roma call ∈ r.pending then
        some ((r.take (.roma call)).romaDone u lib o call result)
      else none
    | .adsDone source prepared result o =>
      if Pending.ads source prepared ∈ r.pending then
        some ((r.take (.ads source prepared)).onAdsResult u o result prepared)
      else none

/-- A call, from the start of `Execute`. -/
def system : LTS Reactor Event := .ofStep (fun r => r = {}) (step u lib)

end Reactor

end PasBidding

end BiddingAuction
