import BiddingAuction.KAnon.JoinCandidate
import BiddingAuction.SelectAd.DebugReporting
import BiddingAuction.SelectAd.GetBidsRequest
import BiddingAuction.SelectAd.Rpc
import BiddingAuction.SelectAuctionResult.Components
import BiddingAuction.SelectAuctionResult.Response

/-!
# What a `SelectAd` request comes to

From the routing of a request to its answer, with every place where the auction config is
read: the one that was extracted, or the plain field of the request once more. The services
that are called answer a request as they do.
-/

namespace BiddingAuction

open Foundation.Cbor

/-! ## Scores as the encoder takes them -/

section Floats

variable {F G : Type} (f : F → G)

def PrivateAggregationBucket.map : PrivateAggregationBucket F → PrivateAggregationBucket G
  | .bucket128Bit bits => .bucket128Bit bits
  | .signalBucket bucket => .signalBucket ⟨bucket.baseValue, f bucket.scale, bucket.offset⟩

def PrivateAggregationValue.map : PrivateAggregationValue F → PrivateAggregationValue G
  | .intValue value => .intValue value
  | .extendedValue value => .extendedValue ⟨value.baseValue, f value.scale, value.offset⟩

def PrivateAggregateContribution.map (contribution : PrivateAggregateContribution F) :
    PrivateAggregateContribution G where
  bucket := contribution.bucket.map (PrivateAggregationBucket.map f)
  value := contribution.value.map (PrivateAggregationValue.map f)
  event := contribution.event
  igIdx := contribution.igIdx

def AdScore.map (score : AdScore F) : AdScore G where
  desirability := f score.desirability
  render := score.render
  componentRenders := score.componentRenders
  interestGroupName := score.interestGroupName
  buyerBid := f score.buyerBid
  interestGroupOwner := score.interestGroupOwner
  adMetadata := score.adMetadata
  allowComponentAuction := score.allowComponentAuction
  bid := f score.bid
  winReportingUrls := score.winReportingUrls
  debugReportUrls := score.debugReportUrls
  igOwnerHighestScoringOtherBidsMap :=
    mapValues (fun _ bids => bids.map f) score.igOwnerHighestScoringOtherBidsMap
  adRejectionReasons := score.adRejectionReasons
  adType := score.adType
  incomingBidInSellerCurrency := f score.incomingBidInSellerCurrency
  bidCurrency := score.bidCurrency
  buyerBidCurrency := score.buyerBidCurrency
  buyerReportingId := score.buyerReportingId
  buyerAndSellerReportingId := score.buyerAndSellerReportingId
  interestGroupOrigin := score.interestGroupOrigin
  topLevelContributions := score.topLevelContributions.map fun response =>
    ⟨response.contributions.map (PrivateAggregateContribution.map f), response.adtechOrigin⟩
  selectedBuyerAndSellerReportingId := score.selectedBuyerAndSellerReportingId
  kAnonJoinCandidate := score.kAnonJoinCandidate
  seller := score.seller

end Floats

/-- The numbers of an auction are exact; the encoder takes them as floats. -/
def AdScore.asFloats : AdScore ℚ → AdScore FloatVal := AdScore.map .fin

namespace SelectAd

/-! ## Messages -/

/-- What scoring reads of a `ProtectedAppSignalsAdWithBid`. -/
structure ProtectedAppSignalsBid extends ProtectedAppSignalsAdWithBid where
  ad : Option Json := none
  bid : ℚ := 0

/-- `GetBidsRawResponse`, with what is read of it later. -/
structure BuyerReply where
  bids : List (AdWithBid ℚ) := []
  protectedAppSignalsBids : List ProtectedAppSignalsBid := []
  updateInterestGroupList : UpdateInterestGroupList := {}

def BuyerReply.toGetBidsRawResponse (reply : BuyerReply) : GetBidsRawResponse where
  bids := reply.bids
  protectedAppSignalsBids :=
    reply.protectedAppSignalsBids.map ProtectedAppSignalsBid.toProtectedAppSignalsAdWithBid

/-- A `GetBids` call. -/
structure SentGetBids where
  buyerName : String
  timeoutMs : Int32
  request : GetBidsRawRequest
deriving DecidableEq, Repr

/-- `ScoringSignalsRequest`; the debug id is sent in the second version only. -/
structure ScoringSignalsRequest where
  clientType : ClientType
  buyerBidsMap : FlatHashMap String BuyerReply
  sellerKvExperimentGroupId : String := ""
  adtechDebugId : String := ""

/-- `ScoreAdsRawRequest`, as it is sent. -/
structure SentScoreAdsRequest extends ScoreAdsRawRequest where
  auctionSignals : String := ""
  sellerSignals : String := ""
  scoreAdVersion : String := ""
  scoringSignals : String := ""
  logContext : LogContext := {}
  consentedDebugConfig : Option ConsentedDebugConfiguration := none
  enforceKanon : Bool := false
  isSampledForDebug : Bool := false

/-- `ScoreAdsRawResponse`, with the debug reports of the seller. -/
structure ScoreAdsReply extends ScoreAdsRawResponse ℚ where
  sellerDebugReports : Option DebugReports := none

/-- What becomes of a fetch of scoring signals: nobody may be told of it. -/
inductive FetchedSignals where
  | unanswered
  | failed
  | fetched (scoringSignals : String) (dataVersion : UInt32)

/-- What a ciphertext comes to, decrypted and decoded. -/
structure DecryptedRequest where
  protectedAuctionInput : ProtectedAuctionInput := {}
  buyerInputs : FlatHashMap String BuyerInputForBidding := ∅
  /-- The errors of the decoding and of `ValidateProtectedAuctionInput`. -/
  clientVisibleErrors : List String := []
  isSampledForDebug : Bool := false
  previouslyInvokedBuyers : Option InvokedBuyers := none
  rng : RandomNumberGenerator

/-- `GetNonEncryptedResponse`, before the compression: what the encoder comes to, its errors
included, or a message. -/
inductive NonEncryptedResponse where
  | cbor (encoded : Emit Status Bytes)
  | message (auctionResult : AuctionResult FloatVal)

/-- How a request ends. The response is encrypted for the device, or for another seller in
its cloud. -/
inductive Answer where
  | finished (status : GrpcStatus)
  | response (recipient : Option EncryptionCloudPlatform) (plaintext : NonEncryptedResponse)
  | unanswered
  | aborted
  /-- It is up to `SelectAuctionResultReactor`. -/
  | topLevelAuction

/-! ## The server and the services around it -/

/-- The settings of a server, and what it is built with. -/
structure SellerFrontEnd where
  lib : Library
  keys : KeyLibrary
  cbor : LibCbor
  ord : HashOrder
  strings : StringsLibrary
  ops : FloatOps ℚ
  codec : ConfigCodec
  /-- What is read for a winner whose owner is missing from the map of report URLs. -/
  pastTheEnd : AdScore FloatVal → KAnonJoinCandidate
  allowCompressedAuctionConfig : Bool := false
  sellerOriginDomain : String := ""
  enableProtectedAppSignals : Bool := false
  isProtectedAudienceEnabled : Bool := true
  enablePriorityVector : Bool := false
  enableKanon : Bool := false
  /-- As the reactor for a client is made. -/
  enableBuyerPrivateAggregateReporting : ClientType → Bool := fun _ => false
  perAdtechPaapiContributionsLimit : Int32 := 100
  performScoringSignalsFetch : Bool := true
  /-- `UseKvV2`. -/
  useKvV2 : ClientType → Bool := fun _ => true
  chaffingEnabled : Bool := false
  chaffingV2Enabled : Bool := false
  buyerCachingEnabled : Bool := false
  getBidRpcTimeoutMs : Int32 := 0
  buyerFactory : FlatHashSet String
  buyerReportWinJsUrls : FlatHashMap String String := ∅

/-- The services around: each answers a request. Decryption looks at the ciphertexts and
the kind of client. -/
structure Services where
  decryptRequest : ClientType → Bytes → Bytes → Except String DecryptedRequest
  getBids : String → GetBidsRawRequest → Option BuyerReply
  areKAnonymous : FlatHashSet Hash → KAnonQueryOutcome
  fetchScoringSignals : ScoringSignalsRequest → FetchedSignals
  scoreAds : SentScoreAdsRequest → Except GrpcStatus ScoreAdsReply

/-- What is seen of the processing of a request. -/
structure Processing where
  auctionScope : AuctionScope
  /-- The errors of the validation. -/
  adServerVisibleErrors : List String := []
  getBidsRequests : List SentGetBids := []
  scoringSignalsRequest : Option ScoringSignalsRequest := none
  scoreAdsRequest : Option SentScoreAdsRequest := none
  answer : Answer

/-- A reactor whose request is decrypted and whose config is extracted. -/
structure ConfiguredReactor where
  server : SellerFrontEnd
  services : Services
  clientType : ClientType
  decrypted : DecryptedRequest
  auctionScope : AuctionScope
  auctionConfig : AuctionConfig
  /-- `request_->auction_config()`. -/
  requestAuctionConfig : AuctionConfig

/-! ## Constants -/

def kInvalidArgument : ℕ := 3

def kEmptySellerSignals := "Seller signals missing in auction config"
def kEmptyAuctionSignals := "Auction signals missing in auction config"
def kEmptyBuyerList := "No buyers specified"
def kEmptySeller := "Seller origin missing in auction config"
def kEmptyBuyerSignals (buyer : String) :=
  "Buyer signals missing in auction config for buyer: " ++ buyer
def kWrongSellerDomain := "Seller domain passed in request does not match this server's domain"
def kEmptyBuyerInPerBuyerConfig := "One or more buyer keys are empty in per buyer config map"
def kDeviceComponentAuctionWithAndroid :=
  "Device orchestrated Component Auctions not supported for Android"
def kInvalidBuyerCurrency := "Invalid Buyer Currency"
def kInvalidSellerCurrency := "Invalid Seller Currency"
def kUnsupportedClientType := "Unsupported client type."
def kAllBidsRejectedBuyerCurrencyMismatch :=
  "All bids rejected for failure to match buyer currency."
def kMalformedPrioritySignals := "Malformed priority signals JSON"
def kErrorDelimiter := "; "

/-- `ErrorCode::CLIENT_SIDE`. -/
def kClientSide : Int32 := 400

def kNumAllowedChromeGhostWinners : Int32 := 1

/-- `GetAccumulatedErrorString`: the errors of the client's side, which are kept in a set. -/
def accumulatedErrorString (errors : List String) : String :=
  kErrorDelimiter.intercalate (errors.eraseDups.mergeSort fun a b => !decide (b < a))

namespace ConfiguredReactor

variable (r : ConfiguredReactor)

/-! ## Validation -/

/-- `^[A-Z]{3}$`. -/
def isValidCurrencyCode (currency : String) : Bool :=
  currency.toList.length = 3 && currency.toList.all Char.isUpper

def perBuyerConfigErrors (buyer : String × PerBuyerConfig) : List String :=
  reportError buyer.1.isEmpty kEmptyBuyerInPerBuyerConfig ++
  reportError buyer.2.buyerSignals.isEmpty (kEmptyBuyerSignals buyer.1) ++
  reportError (!buyer.2.buyerCurrency.isEmpty && !isValidCurrencyCode buyer.2.buyerCurrency)
    kInvalidBuyerCurrency

/-- `priority_signals_vector_`; an error where there is no object to read it from. -/
def prioritySignalsVector : Except String (List (String × Json)) :=
  if r.server.enablePriorityVector && !r.auctionConfig.prioritySignals.isEmpty then
    parsePriorityVector r.server.lib r.auctionConfig.prioritySignals
  else .ok []

/-- `MayPopulateAdServerVisibleErrors`. -/
def adServerVisibleErrors : List String :=
  reportError r.auctionConfig.sellerSignals.isEmpty kEmptySellerSignals ++
  reportError r.auctionConfig.auctionSignals.isEmpty kEmptyAuctionSignals ++
  reportError r.auctionConfig.buyerList.isEmpty kEmptyBuyerList ++
  reportError r.auctionConfig.seller.isEmpty kEmptySeller ++
  reportError (!r.auctionConfig.sellerCurrency.isEmpty &&
    !isValidCurrencyCode r.auctionConfig.sellerCurrency) kInvalidSellerCurrency ++
  reportError (r.server.sellerOriginDomain ≠ r.auctionConfig.seller) kWrongSellerDomain ++
  (r.server.ord.entries r.auctionConfig.perBuyerConfig).flatMap perBuyerConfigErrors ++
  reportError (r.clientType = .android && r.auctionScope = .deviceComponentMultiSeller)
    kDeviceComponentAuctionWithAndroid ++
  reportError (!r.prioritySignalsVector.isOk) kMalformedPrioritySignals

def clientVisibleError : Option AuctionResultError :=
  if r.decrypted.clientVisibleErrors.isEmpty then none
  else some ⟨kClientSide, accumulatedErrorString r.decrypted.clientVisibleErrors⟩

/-! ## The requests to the buyers -/

def enableEnforceKanon : Bool :=
  r.server.enableKanon && r.decrypted.protectedAuctionInput.enforceKanon

def setup : Setup where
  lib := r.server.lib
  auctionScope := r.auctionScope
  auctionConfig := r.auctionConfig
  requestAuctionConfig := r.requestAuctionConfig
  protectedAuctionInput := r.decrypted.protectedAuctionInput
  prioritySignalsVector := r.prioritySignalsVector.toOption.getD []
  enableProtectedAppSignals := r.server.enableProtectedAppSignals
  isProtectedAudienceEnabled := r.server.isProtectedAudienceEnabled
  enablePriorityVector := r.server.enablePriorityVector
  enableEnforceKanon := r.enableEnforceKanon

def interestGroups : FlatHashMap String (List InterestGroupForBidding) :=
  mapValues (fun _ input => input.interestGroups.map fun group => ⟨group.name, group.origin⟩)
    r.decrypted.buyerInputs

def rpcSetup : SelectAdRpcSetup where
  buyerFactory := r.server.buyerFactory
  buyerList := r.auctionConfig.buyerList
  buyerInputs := r.interestGroups
  chaffingEnabled := r.server.chaffingEnabled
  chaffingV2Enabled := r.server.chaffingV2Enabled
  buyerCachingEnabled := r.server.buyerCachingEnabled
  previouslyInvokedBuyers := r.decrypted.previouslyInvokedBuyers
  isDebugEligible :=
    r.clientType = .android && r.decrypted.protectedAuctionInput.enableUnlimitedEgress
  rng := r.decrypted.rng
  isProtectedAudienceEnabled := r.server.isProtectedAudienceEnabled
  isPasEnabled := r.setup.isPasEnabled
  enableEnforceKanon := r.enableEnforceKanon
  performScoringSignalsFetch := r.server.performScoringSignalsFetch
  useKvV2 := r.server.useKvV2 r.clientType
  isApp := r.clientType = .android
  buyerCurrencies :=
    mapValues (fun _ config => config.buyerCurrency) r.auctionConfig.perBuyerConfig

def buyersAsked : List BuyerGetBidsRequest :=
  (r.rpcSetup.requestsToMake.take r.rpcSetup.cap.toNat).filter fun request =>
    request.buyerName ∈ r.server.buyerFactory

/-- The request to a buyer; one that is chaff has the generation id only. -/
def getBidsRequest (request : BuyerGetBidsRequest) : GetBidsRawRequest :=
  if request.isChaff then
    { isChaff := true
      logContext := ⟨r.decrypted.protectedAuctionInput.generationId, ""⟩ }
  else
    r.setup.getBidsRequest r.clientType request.buyerName
      ((r.decrypted.buyerInputs.lookup request.buyerName).getD {})

/-- `FetchBids`: the calls that are made. -/
def getBidsRequests : List SentGetBids :=
  r.buyersAsked.map fun request => {
    buyerName := request.buyerName
    timeoutMs :=
      if 0 < r.auctionConfig.buyerTimeoutMs then r.auctionConfig.buyerTimeoutMs
      else r.server.getBidRpcTimeoutMs
    request := r.getBidsRequest request }

/-! ## The bids -/

/-- What the buyers replied: bids, updates of interest groups, and how the calls went. -/
structure Replies where
  sharedBuyerBidsMap : FlatHashMap String BuyerReply := ∅
  sharedIgUpdatesMap : UpdateGroupMap := ∅
  statuses : List TaskStatus := []

def recordInterestGroupUpdates (buyer : String) (updates : UpdateGroupMap) (reply : BuyerReply) :
    UpdateGroupMap :=
  if reply.updateInterestGroupList.interestGroups.isEmpty then updates
  else FlatHashMap.emplace updates buyer reply.updateInterestGroupList

def onFetchBidsDone (replies : Replies) (call : SentGetBids) : Replies :=
  match r.services.getBids call.buyerName call.request with
  | none => { replies with statuses := replies.statuses ++ [.error] }
  | some reply =>
    let updates := recordInterestGroupUpdates call.buyerName replies.sharedIgUpdatesMap reply
    if FetchBids.hasNoBids r.rpcSetup.toSelectAdSetup reply.toGetBidsRawResponse then
      { replies with
        sharedIgUpdatesMap := updates
        statuses := replies.statuses ++ [.emptyResponse] }
    else
      { sharedBuyerBidsMap := FlatHashMap.emplace replies.sharedBuyerBidsMap call.buyerName reply
        sharedIgUpdatesMap := updates
        statuses := replies.statuses ++ [.success] }

/-- The replies to the calls, one after another. The buyers that are skipped are counted
first. -/
def replies (calls : List SentGetBids) : Replies :=
  calls.foldl r.onFetchBidsDone
    { statuses := List.replicate (r.rpcSetup.requestsToMake.length - calls.length) .skipped }

/-- What `OnAllBidsDone` is told. -/
def anySuccessfulBids (statuses : List TaskStatus) : Bool :=
  (statuses.foldl AsyncTaskTracker.countTask
    (.setNumTasksToTrack statuses.length)).anyTaskSuccessfullyCompleted

def filterBuyerBids (buyer : String) (reply : BuyerReply) : BuyerReply :=
  match r.rpcSetup.buyerCurrencies.lookup buyer with
  | none | some "" => reply
  | some buyerCurrency =>
    { reply with
      bids := filterBidsWithMismatchingCurrencyHelper AdWithBid.bidCurrency buyerCurrency
        reply.bids
      protectedAppSignalsBids := filterBidsWithMismatchingCurrencyHelper
        (fun bid => bid.bidCurrency) buyerCurrency reply.protectedAppSignalsBids }

/-- `FilterBidsWithMismatchingCurrency`. -/
def filterBids (bids : FlatHashMap String BuyerReply) : Bool × FlatHashMap String BuyerReply :=
  (bids.entries.any fun buyer =>
      hasValidBids r.rpcSetup buyer.1 buyer.2.toGetBidsRawResponse,
    bids.entries.foldl (fun kept buyer =>
      let reply := r.filterBuyerBids buyer.1 buyer.2
      if FetchBids.hasNoBids r.rpcSetup.toSelectAdSetup reply.toGetBidsRawResponse then kept
      else kept.insert buyer.1 reply) ∅)

/-! ## Scoring -/

def scoringSignalsRequest (bids : FlatHashMap String BuyerReply) : ScoringSignalsRequest where
  clientType := r.clientType
  buyerBidsMap := bids
  sellerKvExperimentGroupId :=
    ((r.auctionConfig.codeExperimentSpec.bind
      SellerCodeExperimentSpecification.sellerKvExperimentGroupId).map toString).getD ""
  adtechDebugId :=
    if r.server.useKvV2 r.clientType then r.auctionConfig.sellerDebugId else ""

def reactor (bids : FlatHashMap String BuyerReply) : SelectAdReactor where
  sharedBuyerBidsMap := mapValues (fun _ reply => reply.bids) bids
  buyerReportWinJsUrls := r.server.buyerReportWinJsUrls
  buyerInputs := r.interestGroups
  enableEnforceKanon := r.enableEnforceKanon
  isProtectedAudienceEnabled := r.server.isProtectedAudienceEnabled
  auctionScope := r.auctionScope
  seller := r.auctionConfig.seller
  sellerCurrency := r.auctionConfig.sellerCurrency
  enableDebugReporting := r.decrypted.protectedAuctionInput.enableDebugReporting
  enableSampledDebugReporting := r.decrypted.protectedAuctionInput.enableSampledDebugReporting

/-- The hash of an app install ad, if its buyer has a report URL. -/
def pasKAnonHash (owner : String) (bid : ProtectedAppSignalsBid) : Option Hash :=
  (r.server.buyerReportWinJsUrls.lookup owner).map fun biddingUrl =>
    hashedKAnonKeyForAdRenderURL r.server.keys owner biddingUrl bid.render

/-- The hashes asked for: an app's are those of its install ads as well. -/
def queriedHashes (bids : FlatHashMap String BuyerReply) : FlatHashSet Hash :=
  .ofList <|
    ((r.reactor bids).getKAnonHashesForBids r.server.keys).entries.flatMap
        (fun bid => bid.2.elems) ++
      if r.clientType = .android then
        bids.entries.flatMap fun buyer =>
          buyer.2.protectedAppSignalsBids.filterMap (r.pasKAnonHash buyer.1)
      else []

def buildProtectedAppSignalsAdWithBidMetadata (outcome : KAnonQueryOutcome) (owner : String)
    (input : ProtectedAppSignalsBid) : ProtectedAppSignalsAdWithBidMetadata where
  ad := input.ad.getD .null
  bid := input.bid
  render := input.render
  owner := owner
  bidCurrency := input.bidCurrency
  kAnonStatus := r.enableEnforceKanon &&
    ((r.pasKAnonHash owner input).any (SelectAdReactor.listed outcome))

/-- `CreateScoreAdsRequest`, of the web and of the app. -/
def createScoreAdsRequest (bids : FlatHashMap String BuyerReply) (outcome : KAnonQueryOutcome)
    (signals : Option (String × UInt32)) : SentScoreAdsRequest :=
  let input := r.decrypted.protectedAuctionInput
  let queried :=
    if r.enableEnforceKanon then
      SelectAdReactor.queryKAnonHashes r.server.keys outcome (r.reactor bids)
    else r.reactor bids
  let isApp : Bool := r.clientType = .android
  { adBids := queried.createScoreAdsRequest.1
    protectedAppSignalsAdBids :=
      if isApp && r.setup.isPasEnabled then
        bids.entries.flatMap fun buyer => buyer.2.protectedAppSignalsBids.map
          (r.buildProtectedAppSignalsAdWithBidMetadata outcome buyer.1)
      else []
    auctionSignals := r.auctionConfig.auctionSignals
    sellerCurrency := r.auctionConfig.sellerCurrency
    sellerSignals := r.auctionConfig.sellerSignals
    topLevelSeller := r.auctionConfig.topLevelSeller
    scoreAdVersion :=
      (r.auctionConfig.codeExperimentSpec.map
        SellerCodeExperimentSpecification.scoreAdVersion).getD ""
    scoringSignals := (signals.map Prod.fst).getD ""
    sellerDataVersion := (signals.map Prod.snd).getD 0
    publisherHostname := input.publisherName
    enableDebugReporting := !isApp && input.enableDebugReporting
    fdoFlags :=
      { enableSampledDebugReporting := !isApp && input.enableSampledDebugReporting
        inCooldownOrLockout := input.inCooldownOrLockout }
    logContext := ⟨input.generationId, r.auctionConfig.sellerDebugId⟩
    consentedDebugConfig := input.consentedDebugConfig
    numAllowedGhostWinners :=
      if r.enableEnforceKanon then
        if isApp then input.numKAnonGhostWinners.getD 0 else kNumAllowedChromeGhostWinners
      else 0
    enforceKanon := r.enableEnforceKanon && input.enforceKanon
    perBuyerSignals :=
      mapValues (fun _ config => config.buyerSignals) r.auctionConfig.perBuyerConfig
    seller := r.auctionConfig.seller
    isSampledForDebug := r.decrypted.isSampledForDebug }

/-! ## The response -/

/-- `GetBiddingGroups`: the positions of the interest groups that bid. -/
def getBiddingGroups (bids : BuyerBidsResponseMap ℚ) : BiddingGroupMap :=
  bids.entries.foldl (fun biddingGroups buyer =>
    let interestGroups := (r.interestGroups.lookup buyer.1).getD []
    FlatHashMap.emplace biddingGroups buyer.1
      ⟨(interestGroups.zipIdx.filter fun group => buyer.2.any fun bid =>
        0 < bid.bid && bid.interestGroupName = group.1.name).map fun group => .ofNat group.2⟩) ∅

/-- `SelectAdReactorForWeb::GetKAnonJoinCandidate`. -/
def joinCandidate (score : AdScore FloatVal) : KAnonJoinCandidate :=
  (getKAnonJoinCandidate r.server.keys score r.server.buyerReportWinJsUrls).getD
    (r.server.pastTheEnd score)

/-- The data on k-anonymity that the web response is made with. -/
def kanonData (done : ScoreAdsDone ℚ) : Option (KAnonAuctionResultData FloatVal) :=
  if r.enableEnforceKanon then
    some (getKAnonAuctionResultData (done.highScore.map AdScore.asFloats)
      (done.ghostWinners.map (List.map AdScore.asFloats)) (isComponentAuction r.auctionScope)
      r.joinCandidate)
  else none

/-- The message for an app or for another seller, with the sellers read from the request once
more. An app's is made without data on k-anonymity. -/
def auctionResult (done : ScoreAdsDone ℚ) (updates : UpdateGroupMap) :
    AuctionResult FloatVal :=
  let data : ComponentAuctionData := {
    biddingGroups := some (r.getBiddingGroups done.sharedBuyerBidsMap)
    updateGroups := updates
    seller := r.requestAuctionConfig.seller
    generationId := r.decrypted.protectedAuctionInput.generationId
    topLevelSeller := r.requestAuctionConfig.topLevelSeller }
  adScoreToAuctionResult (done.highScore.map AdScore.asFloats) r.clientVisibleError
    r.auctionScope data (if r.clientType = .android then none else r.kanonData done)

/-- `GetNonEncryptedResponse`, of the web and of the app. -/
def getNonEncryptedResponse (done : ScoreAdsDone ℚ) (updates : UpdateGroupMap)
    (debugUrls : AdtechOriginDebugUrlsMap) : NonEncryptedResponse :=
  let highScore := done.highScore.map AdScore.asFloats
  let groups := r.getBiddingGroups done.sharedBuyerBidsMap
  if r.clientType = .android then .message (r.auctionResult done updates)
  else
    match r.auctionScope with
    | .deviceComponentMultiSeller =>
      .cbor (encodeComponent r.server.cbor r.requestAuctionConfig.topLevelSeller highScore groups
        updates debugUrls r.clientVisibleError r.auctionConfig.adAuctionResultNonce
        (r.kanonData done))
    | .serverComponentMultiSeller => .message (r.auctionResult done updates)
    | .singleSeller | .serverTopLevelSeller =>
      .cbor (encode r.server.cbor r.server.ord highScore groups updates debugUrls
        r.clientVisibleError r.server.perAdtechPaapiContributionsLimit
        r.auctionConfig.adAuctionResultNonce (r.kanonData done))

/-- The end of a request that is answered, `EncryptResponse` included. -/
def respond (done : ScoreAdsDone ℚ) (updates : UpdateGroupMap)
    (debugUrls : AdtechOriginDebugUrlsMap) : Answer :=
  .response
    (if r.auctionScope = .serverComponentMultiSeller then
      some r.auctionConfig.topLevelCloudPlatform
    else none)
    (r.getNonEncryptedResponse done updates debugUrls)

/-- What the scores come to, with private aggregation handled. -/
def scoresDone (bids : FlatHashMap String BuyerReply)
    (interestGroupIndexMap : FlatHashMap InterestGroupIdentity ℕ) (reply : ScoreAdsReply) :
    ScoreAdsDone ℚ :=
  BiddingAuction.onScoreAdsDone r.server.ops
    (r.server.enableBuyerPrivateAggregateReporting r.clientType) interestGroupIndexMap
    (r.reactor bids).sharedBuyerBidsMap reply.toScoreAdsRawResponse

/-- `OnScoreAdsDone`: an internal error of the scoring is not told. -/
def onScoreAdsDone (bids : FlatHashMap String BuyerReply) (updates : UpdateGroupMap)
    (interestGroupIndexMap : FlatHashMap InterestGroupIdentity ℕ)
    (reply : Except GrpcStatus ScoreAdsReply) : Answer :=
  match reply with
  | .error status =>
    if status.code ≠ kInternal then .finished status
    else r.respond ⟨none, none, (r.reactor bids).sharedBuyerBidsMap⟩ updates ∅
  | .ok reply =>
    let highScore := reply.adScore.filter fun score => r.server.ops.isPositive score.buyerBid
    let debugReports := (r.reactor bids).performDebugReporting r.server.strings r.server.ord
      reply.sellerDebugReports highScore
    r.respond (r.scoresDone bids interestGroupIndexMap reply) updates debugReports.1

/-! ## The whole -/

/-- `ScoreAds`: the request for the auction, if there are ads to score, and the answer. -/
def scoreAds (bids : FlatHashMap String BuyerReply) (updates : UpdateGroupMap)
    (signals : Option (String × UInt32)) : Option SentScoreAdsRequest × Answer :=
  let request := r.createScoreAdsRequest bids
    (r.services.areKAnonymous (r.queriedHashes bids)) signals
  if request.adBids.isEmpty && request.protectedAppSignalsAdBids.isEmpty then
    (none, r.onScoreAdsDone bids updates ∅ (.ok {}))
  else
    (some request, r.onScoreAdsDone bids updates (r.reactor bids).createScoreAdsRequest.2
      (r.services.scoreAds request))

/-- `OnAllBidsDone`: what is asked for from there on, and the answer. -/
def onAllBidsDone (replies : Replies) :
    Option ScoringSignalsRequest × Option SentScoreAdsRequest × Answer :=
  let updates := replies.sharedIgUpdatesMap
  if replies.sharedBuyerBidsMap.entries.isEmpty then
    if anySuccessfulBids replies.statuses then
      (none, none, r.onScoreAdsDone ∅ updates ∅ (.ok {}))
    else (none, none, .finished ⟨kInternal, kInternalServerError⟩)
  else
    let filtered := r.filterBids replies.sharedBuyerBidsMap
    if !filtered.1 then
      (none, none, .finished ⟨kInvalidArgument, kAllBidsRejectedBuyerCurrencyMismatch⟩)
    else if r.server.performScoringSignalsFetch then
      let request := r.scoringSignalsRequest filtered.2
      match r.services.fetchScoringSignals request with
      | .unanswered => (some request, none, .unanswered)
      -- the error reported is not one of the client's side, and leaves the text empty
      | .failed => (some request, none, .finished ⟨kInvalidArgument, ""⟩)
      | .fetched scoringSignals dataVersion =>
        if scoringSignals = "" then
          (some request, none, r.onScoreAdsDone filtered.2 updates ∅ (.ok {}))
        else (some request, r.scoreAds filtered.2 updates (some (scoringSignals, dataVersion)))
    else (none, r.scoreAds filtered.2 updates none)

/-- `Execute`, once the request is decrypted. -/
def execute : Processing :=
  let errors := r.adServerVisibleErrors
  match r.prioritySignalsVector with
  -- the value of what could not be parsed is read
  | .error _ =>
    { auctionScope := r.auctionScope, adServerVisibleErrors := errors, answer := .aborted }
  | .ok _ =>
    if !errors.isEmpty then
      { auctionScope := r.auctionScope
        adServerVisibleErrors := errors
        answer := .finished ⟨kInvalidArgument, accumulatedErrorString errors⟩ }
    else if !r.decrypted.clientVisibleErrors.isEmpty then
      { auctionScope := r.auctionScope, answer := r.onScoreAdsDone ∅ ∅ ∅ (.ok {}) }
    else
      let auction := r.onAllBidsDone (r.replies r.getBidsRequests)
      { auctionScope := r.auctionScope
        getBidsRequests := r.getBidsRequests
        scoringSignalsRequest := auction.1
        scoreAdsRequest := auction.2.1
        answer := auction.2.2 }

end ConfiguredReactor

def process (server : SellerFrontEnd) (services : Services) (request : SelectAdRequest) :
    Processing :=
  let auctionScope := getAuctionScope request
  let finished (message : String) : Processing :=
    { auctionScope := auctionScope, answer := .finished ⟨kInvalidArgument, message⟩ }
  if auctionScope = .serverTopLevelSeller then
    { auctionScope := auctionScope, answer := .topLevelAuction }
  else if request.clientType = .unknown then finished kUnsupportedClientType
  else
    match extractAuctionConfig server.codec server.allowCompressedAuctionConfig request with
    | .error message => finished message
    | .ok auctionConfig =>
      match services.decryptRequest request.clientType request.protectedAuctionCiphertext
          request.protectedAudienceCiphertext with
      | .error message => finished message
      | .ok decrypted =>
        ConfiguredReactor.execute {
          server := server
          services := services
          clientType := request.clientType
          decrypted := decrypted
          auctionScope := auctionScope
          auctionConfig := auctionConfig
          requestAuctionConfig := request.auctionConfigOrDefault }

end SelectAd

end BiddingAuction
