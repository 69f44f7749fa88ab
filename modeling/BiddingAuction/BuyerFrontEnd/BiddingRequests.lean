import BiddingAuction.Bidding.ByobRequest
import BiddingAuction.Bidding.PasReactor
import BiddingAuction.KeyValue.V2Response

/-!
# What the buyer front end asks for

A request for bids is preceded by a request for bidding signals, to a key-value server of
the first or of the second version. The signals are JSON; the interest groups that are
left after reading them make up the request to the bidding service.
-/

namespace BiddingAuction

open SelectAd (GetBidsRawRequest BuyerInputForBidding InterestGroup BrowserSignalsForBidding)

namespace BuyerFrontEnd

inductive BiddingSignalsFetchMode where
  | required
  | fetchedButOptional
  | notFetched
deriving DecidableEq, Repr

structure GetBidsConfig where
  isProtectedAppSignalsEnabled : Bool := false
  isProtectedAudienceEnabled : Bool := true
  isChaffingV1Enabled : Bool := false
  isChaffingV2Enabled : Bool := false
  isTkvV2BrowserEnabled : Bool := false
  enableCancellation : Bool := false
  enableKanon : Bool := false
  priorityVectorEnabled : Bool := false
  testMode : Bool := false
  tkvV2AddressEmpty : Bool := false
  biddingSignalsFetchMode : BiddingSignalsFetchMode := .required
  propagateBuyerSignalsToTkv : Bool := false
  isHybridEnabled : Bool := false
deriving DecidableEq, Repr

/-! ## Requests for bidding signals -/

/-- `UseKvV2`. -/
def useKvV2 (clientType : SelectAd.ClientType)
    (isTkvV2BrowserEnabled isTestModeEnabled isTkvV2Empty : Bool) : Bool :=
  match clientType with
  | .browser => isTkvV2BrowserEnabled
  | .android => !(isTestModeEnabled && isTkvV2Empty)
  | .unknown => false

def clientTypeNumber : SelectAd.ClientType → ℕ
  | .unknown => 0
  | .android => 1
  | .browser => 2

structure GetBuyerValuesInput where
  hostname : String
  clientType : SelectAd.ClientType
  buyerKvExperimentGroupId : String
  interestGroupNames : FlatHashSet String
  keys : FlatHashSet String

/-- The request of `HttpBiddingSignalsAsyncProvider::Get`. -/
def getBuyerValuesInput (rawRequest : GetBidsRawRequest) (buyerInput : BuyerInputForBidding) :
    GetBuyerValuesInput where
  hostname := rawRequest.publisherName
  clientType := rawRequest.clientType
  buyerKvExperimentGroupId :=
    match rawRequest.buyerKvExperimentGroupId with
    | none => ""
    | some id => toString id
  interestGroupNames := .ofList (buyerInput.interestGroups.map InterestGroup.name)
  keys := .ofList (buyerInput.interestGroups.flatMap InterestGroup.biddingSignalsKeys)

structure GetBuyerValuesOutput where
  result : String
  dataVersion : UInt32 := 0
  isHybridV1Return : Bool := false

structure BiddingSignals where
  trustedSignals : Option String := none
  dataVersion : UInt32 := 0
  isHybridV1Return : Bool := false

/-- What `HttpBiddingSignalsAsyncProvider` hands on: for Android a version fits in a byte. -/
def toBiddingSignals (clientType : SelectAd.ClientType) (output : GetBuyerValuesOutput) :
    BiddingSignals :=
  match clientType with
  | .android =>
    { trustedSignals := some output.result
      dataVersion := if output.dataVersion ≤ 255 then output.dataVersion else 0 }
  | _ =>
    { trustedSignals := some output.result
      dataVersion := output.dataVersion
      isHybridV1Return := output.isHybridV1Return }

structure UDFArgument where
  tag : String
  keys : List String
deriving DecidableEq, Repr

structure RequestPartition where
  id : ℕ := 0
  compressionGroupId : ℕ := 0
  arguments : List UDFArgument := []
deriving DecidableEq, Repr

structure GetValuesRequest where
  clientVersion : String
  metadata : List (String × String)
  consentedDebugConfig : Option SelectAd.ConsentedDebugConfiguration
  logContext : SelectAd.LogContext
  partitions : List RequestPartition
deriving DecidableEq, Repr

def kClient := "Bna.PA.Buyer.20240930"

def validateInterestGroups (buyerInput : BuyerInputForBidding) : Except String Unit :=
  if buyerInput.interestGroups.isEmpty then .error "No interest groups in the buyer input"
  else if buyerInput.interestGroups.any fun ig => !ig.biddingSignalsKeys.isEmpty then .ok ()
  else .error "Interest groups don't have any bidding signals"

def requestPartition (ig : InterestGroup BrowserSignalsForBidding) (index : ℕ) :
    RequestPartition where
  id := if ig.biddingSignalsKeys.isEmpty then 0 else index
  compressionGroupId := if ig.biddingSignalsKeys.isEmpty then 0 else index
  arguments := ⟨KvV2.kInterestGroupNames, [ig.name]⟩ ::
    ig.biddingSignalsKeys.map fun key => ⟨"keys", [key]⟩

/-- `CreateV2BiddingRequest`. -/
def createV2BiddingRequest (rawRequest : GetBidsRawRequest) (buyerInput : BuyerInputForBidding)
    (propagateBuyerSignalsToTkv : Bool) (byosOutput : Option String) :
    Except String GetValuesRequest := do
  validateInterestGroups buyerInput
  pure
    { clientVersion := kClient
      metadata :=
        [("hostname", rawRequest.publisherName),
          ("client_type", toString (clientTypeNumber rawRequest.clientType))] ++
        (match rawRequest.buyerKvExperimentGroupId with
          | none => []
          | some id => [("experiment_group_id", toString id)]) ++
        (if propagateBuyerSignalsToTkv then [("buyer_signals", rawRequest.buyerSignals)] else []) ++
        (match byosOutput with
          | none => []
          | some output => [("byos_output", output)])
      -- the field is set even where the request has none
      consentedDebugConfig := some (rawRequest.consentedDebugConfig.getD {})
      logContext := rawRequest.logContext
      partitions := buyerInput.interestGroups.zipIdx.map fun ig => requestPartition ig.1 ig.2 }

/-! ## Reading the signals -/

structure UpdateInterestGroup where
  index : ℕ
  updateIfOlderThanMs : ℕ
deriving DecidableEq, Repr

structure BiddingSignalJsonComponents where
  biddingSignals : Option (List (String × Json)) := none
  updateIgs : List UpdateInterestGroup := []
  perIgPriorityVectors : FlatHashMap String (List (String × Json)) := ∅

/-- What reading the signals fails with, or that the process ends because the JSON library
asserts. -/
inductive SignalsFailure where
  | invalidArgument (message : String)
  | internal (message : String)
  | aborted
deriving DecidableEq, Repr

def kGetBiddingSignalsSuccessButEmpty := "GetBiddingSignals request succeeded but was empty."
def kBiddingSignalsJsonNotParseable := "Could not parse trusted signals json."
def kBiddingSignalsJsonMissingKeysProperty :=
  "Trusted bidding signals JSON validate error (Missing or non-object property \"keys\")"

/-- An unsigned `int`. -/
def uint? : Json → Option ℕ
  | .number value =>
    if value.den = 1 ∧ 0 ≤ value.num ∧ value.num < 2 ^ 32 then some value.num.toNat else none
  | _ => none

/-- One turn of the loop of `ParsePerInterestGroupData`. A name is read up to its first null
character. -/
def parseInterestGroupData (perInterestGroupData : Json) (result : BiddingSignalJsonComponents)
    (interestGroup : InterestGroup BrowserSignalsForBidding × ℕ) :
    Except SignalsFailure BiddingSignalJsonComponents :=
  if interestGroup.1.name = "" then .ok result
  else
    match perInterestGroupData.findMember (cString interestGroup.1.name) with
    | none => .ok result
    | some (.object members) =>
      let interestGroupDoc := Json.object members
      let result :=
        match (interestGroupDoc.findMember "updateIfOlderThanMs").bind uint? with
        | none => result
        | some ms =>
          { result with updateIgs := result.updateIgs ++ [⟨interestGroup.2, ms⟩] }
      match interestGroupDoc.findMember "priorityVector" with
      | some (.object priorityVector) =>
        -- the vector is moved out, so that a name read the same finds null
        if result.perIgPriorityVectors.keys.any fun name =>
            cString name = cString interestGroup.1.name then .ok result
        else .ok
          { result with
            perIgPriorityVectors := result.perIgPriorityVectors.insert interestGroup.1.name
              (SelectAd.sanitizePriorityVector priorityVector) }
      | _ => .ok result
    | some _ => .error .aborted

def parsePerInterestGroupData (perInterestGroupData : Json) (buyerInput : BuyerInputForBidding) :
    Except SignalsFailure BiddingSignalJsonComponents :=
  match perInterestGroupData with
  | .object _ =>
    buyerInput.interestGroups.zipIdx.foldlM (parseInterestGroupData perInterestGroupData) {}
  | _ => .ok {}

def parseTrustedBiddingSignals (lib : Library) (biddingSignals : BiddingSignals)
    (buyerInput : BuyerInputForBidding) : Except SignalsFailure BiddingSignalJsonComponents := do
  let text := biddingSignals.trustedSignals.getD ""
  if text = "" then throw (.invalidArgument kGetBiddingSignalsSuccessButEmpty)
  else
    match lib.parseJsonString text with
    | none => throw (.internal kBiddingSignalsJsonNotParseable)
    | some (.object members) =>
      let result ←
        match (Json.object members).findMember KvV2.kPerInterestGroupData with
        | none => pure {}
        | some perInterestGroupData => parsePerInterestGroupData perInterestGroupData buyerInput
      match (Json.object members).findMember "keys" with
      | some (.object keys) => pure { result with biddingSignals := some keys }
      | _ => throw (.invalidArgument kBiddingSignalsJsonMissingKeysProperty)
    | some _ => throw .aborted

/-! ## The request for bids -/

def biddingSignalsToMap (lib : Library) (signals : List (String × Json)) :
    FlatHashMap String String :=
  signals.foldl (fun keySignals signal =>
    match lib.serializeJsonDoc signal.2 with
    | none => keySignals
    | some text => keySignals.insert (cString signal.1) text) ∅

def serializeSignalsMap (signals : List (String × String)) : String :=
  "\x7b" ++ ",".intercalate (signals.map fun signal => "\"" ++ signal.1 ++ "\":" ++ signal.2) ++
    "\x7d"

structure ParsedTrustedBiddingSignals where
  json : String := ""
  keys : List String := []

def getSignalsForIG (ord : HashOrder) (biddingSignalsKeys : List String)
    (biddingSignalsObj : FlatHashMap String String) : ParsedTrustedBiddingSignals :=
  let igSignals := biddingSignalsKeys.foldl (fun signals key =>
    match biddingSignalsObj.lookup key with
    | none => signals
    | some value => signals.emplace key value) (∅ : FlatHashMap String String)
  let entries := ord.entries igSignals
  { json := if entries.isEmpty then "" else serializeSignalsMap entries
    keys := entries.map Prod.fst }

/-- `PriorityVectorConfig`. The vector is null where the request came without one. -/
structure PriorityVectorConfig where
  priorityVectorEnabled : Bool
  prioritySignals : Option (List (String × Json))
  perIgPriorityVectors : FlatHashMap String (List (String × Json))
  /-- `CalculateDotProduct` in floating point, with the fields of the device signals. -/
  calculateDotProduct :
    List (String × Json) → BrowserSignalsForBidding → List (String × Json) → ℚ

def browserSignals (ig : InterestGroup BrowserSignalsForBidding) : BrowserSignalsForBidding :=
  match ig.deviceSignals with
  | some (.browser signals) => signals
  | _ => {}

def priority (config : PriorityVectorConfig) (prioritySignals : List (String × Json))
    (ig : InterestGroup BrowserSignalsForBidding) : ℚ :=
  match config.perIgPriorityVectors.lookup ig.name with
  | none => 0
  | some priorityVector =>
    config.calculateDotProduct prioritySignals (browserSignals ig) priorityVector

/-- `CalculateInterestGroupPriorities`, by the names of the interest groups. -/
def calculateInterestGroupPriorities (config : PriorityVectorConfig)
    (prioritySignals : List (String × Json))
    (interestGroups : List (InterestGroup BrowserSignalsForBidding)) : FlatHashMap String ℚ :=
  interestGroups.foldl (fun priorities ig =>
    priorities.insert ig.name (priority config prioritySignals ig)) ∅

/-- `interest_group_priorities`, none where the process ends: they are calculated on signals that
have to be an object. -/
def interestGroupPriorities (config : PriorityVectorConfig) (buyerInput : BuyerInputForBidding) :
    Option (FlatHashMap String ℚ) :=
  if config.priorityVectorEnabled then
    config.prioritySignals.map fun prioritySignals =>
      calculateInterestGroupPriorities config prioritySignals buyerInput.interestGroups
  else some ∅

def isNegative (config : PriorityVectorConfig) (priorities : FlatHashMap String ℚ)
    (ig : InterestGroup BrowserSignalsForBidding) : Bool :=
  config.priorityVectorEnabled && ((priorities.lookup ig.name).getD 0 < 0 : Bool)

/-- `CopyIGFromDeviceToIGForBidding`, with the signals that were found. -/
def igForBidding (parsedSignals : ParsedTrustedBiddingSignals)
    (ig : InterestGroup BrowserSignalsForBidding) : Byob.InterestGroupForBidding where
  name := ig.name
  trustedBiddingSignalsKeys := if parsedSignals.json ≠ "" then parsedSignals.keys else []
  trustedBiddingSignals := if parsedSignals.json ≠ "" then parsedSignals.json else "null"
  userBiddingSignals := ig.userBiddingSignals
  adRenderIds := ig.adRenderIds
  adComponentRenderIds := ig.componentAds
  deviceSignalsForBidding := ig.deviceSignals

/-- What the task of an interest group comes to: nothing, that it is counted as filtered out, or
that it is added as this. -/
inductive TaskResult where
  | skipped
  | filtered
  | added (ig : Byob.InterestGroupForBidding)

def runTask (ord : HashOrder) (biddingSignalsObj : FlatHashMap String String)
    (requireBiddingSignals isNegative : Bool) (ig : InterestGroup BrowserSignalsForBidding) :
    TaskResult :=
  if ig.name = "" || (requireBiddingSignals && ig.biddingSignalsKeys.isEmpty) then .skipped
  else if isNegative then .filtered
  else
    let parsedSignals := getSignalsForIG ord ig.biddingSignalsKeys biddingSignalsObj
    if requireBiddingSignals && parsedSignals.json = "" then .skipped
    else .added (igForBidding parsedSignals ig)

def TaskResult.added? : TaskResult → Option Byob.InterestGroupForBidding
  | .added ig => some ig
  | _ => none

def generateBidsRawRequest (rawRequest : GetBidsRawRequest) (buyerInput : BuyerInputForBidding)
    (dataVersion : UInt32) (enableKanon : Bool)
    (interestGroups : List Byob.InterestGroupForBidding) : Byob.GenerateBidsRawRequest where
  interestGroupForBidding := interestGroups
  auctionSignals := rawRequest.auctionSignals
  buyerSignals := rawRequest.buyerSignals
  enableDebugReporting := rawRequest.enableDebugReporting
  seller := rawRequest.seller
  publisherName := rawRequest.publisherName
  topLevelSeller := rawRequest.topLevelSeller
  multiBidLimit :=
    if enableKanon && 0 < rawRequest.multiBidLimit then rawRequest.multiBidLimit else 2
  dataVersion := dataVersion
  fdoFlags := ⟨rawRequest.enableSampledDebugReporting, buyerInput.inCooldownOrLockout⟩

/-- `PrepareGenerateBidsRequest`, none where the process ends. The interest groups are prepared in
parallel, so the order of those that are left is open. -/
def prepareGenerateBidsRequest (ord : HashOrder) (rawRequest : GetBidsRawRequest)
    (buyerInput : BuyerInputForBidding) (biddingSignalsObj : FlatHashMap String String)
    (dataVersion : UInt32) (priorityVectorConfig : PriorityVectorConfig)
    (enableKanon requireBiddingSignals : Bool) : Option Byob.GenerateBidsRawRequest :=
  (interestGroupPriorities priorityVectorConfig buyerInput).map fun priorities =>
    generateBidsRawRequest rawRequest buyerInput dataVersion enableKanon
      (buyerInput.interestGroups.filterMap fun ig =>
        (runTask ord biddingSignalsObj requireBiddingSignals
          (isNegative priorityVectorConfig priorities ig) ig).added?)

def createGenerateProtectedAppSignalsBidsRawRequest (rawRequest : GetBidsRawRequest)
    (protectedAppSignals : SelectAd.ProtectedAppSignals) (enableKanon : Bool) :
    PasBidding.RawRequest where
  auctionSignals := rawRequest.auctionSignals
  buyerSignals := rawRequest.buyerSignals
  appInstallSignals := protectedAppSignals.appInstallSignals
  encodingVersion := protectedAppSignals.encodingVersion.toInt
  topLevelSeller := rawRequest.topLevelSeller
  contextualProtectedAppSignalsData :=
    (rawRequest.protectedAppSignalsBuyerInput.bind
      SelectAd.ProtectedAppSignalsBuyerInput.contextualProtectedAppSignalsData).map fun data =>
        ⟨data.adRenderIds, data.fetchAdsFromRetrievalService⟩
  enableDebugReporting := rawRequest.enableDebugReporting
  enableUnlimitedEgress := rawRequest.enableUnlimitedEgress
  multiBidLimit :=
    if enableKanon && 0 < rawRequest.multiBidLimit then rawRequest.multiBidLimit.toInt else 2
  generationId := rawRequest.logContext.generationId

end BuyerFrontEnd

end BiddingAuction
