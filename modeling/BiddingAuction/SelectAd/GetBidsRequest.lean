import BiddingAuction.Common.FlatHash
import BiddingAuction.Common.Json
import BiddingAuction.Proto.AdScore
import BiddingAuction.Web.CborCommon

/-!
# `SelectAdRequest` and its auction config

The config comes plain or compressed, and is extracted into a member of the reactor. The
scope of the auction is read off the plain field of the request alone.
-/

namespace BiddingAuction

namespace SelectAd

/-! ## Messages -/

inductive ClientType where
  | unknown
  | android
  | browser
deriving DecidableEq, Repr

inductive EncryptionCloudPlatform where
  | unspecified
  | aws
  | gcp
deriving DecidableEq, Repr

structure BuyerBlobVersions where
  protectedAudienceGenerateBidUdf : String := ""
  protectedAppSignalsGenerateBidUdf : String := ""
  prepareDataForAdRetrievalUdf : String := ""
  egressSchema : String := ""
deriving DecidableEq, Repr

structure ContextualProtectedAppSignalsData where
  adRenderIds : List String := []
  fetchAdsFromRetrievalService : Bool := false
deriving DecidableEq, Repr

structure PerBuyerConfig where
  buyerSignals : String := ""
  buyerKvExperimentGroupId : Option Int32 := none
  buyerDebugId : String := ""
  buyerCurrency : String := ""
  contextualProtectedAppSignalsData : Option ContextualProtectedAppSignalsData := none
  perBuyerMultiBidLimit : Int32 := 0
  prioritySignalsOverrides : String := ""
  blobVersions : Option BuyerBlobVersions := none
deriving DecidableEq, Repr

structure SellerCodeExperimentSpecification where
  sellerKvExperimentGroupId : Option Int32 := none
  scoreAdVersion : String := ""
deriving DecidableEq, Repr

structure AuctionConfig where
  sellerSignals : String := ""
  auctionSignals : String := ""
  buyerList : List String := []
  seller : String := ""
  perBuyerConfig : FlatHashMap String PerBuyerConfig := ∅
  codeExperimentSpec : Option SellerCodeExperimentSpecification := none
  sellerDebugId : String := ""
  buyerTimeoutMs : Int32 := 0
  topLevelSeller : String := ""
  sellerCurrency : String := ""
  topLevelCloudPlatform : EncryptionCloudPlatform := .unspecified
  prioritySignals : String := ""
  adAuctionResultNonce : String := ""

structure SelectAdRequest where
  auctionConfig : Option AuctionConfig := none
  /-- The bytes of `compressed_auction_config`. -/
  compressedAuctionConfig : Option Bytes := none
  clientType : ClientType := .unknown
  protectedAuctionCiphertext : Bytes := []
  protectedAudienceCiphertext : Bytes := []
  componentAuctionResultsSize : ℕ := 0

/-- `request.auction_config()`: the default where there is none. -/
def SelectAdRequest.auctionConfigOrDefault (request : SelectAdRequest) : AuctionConfig :=
  request.auctionConfig.getD {}

/-! ## The scope and the config of a request -/

def getAuctionScope (request : SelectAdRequest) : AuctionScope :=
  if request.auctionConfigOrDefault.topLevelSeller ≠ "" then
    match request.auctionConfigOrDefault.topLevelCloudPlatform with
    | .gcp | .aws => .serverComponentMultiSeller
    | .unspecified => .deviceComponentMultiSeller
  else if 0 < request.componentAuctionResultsSize then .serverTopLevelSeller
  else .singleSeller

structure ConfigCodec where
  gzipDecompress : Bytes → Option Bytes
  parseFromString : Bytes → Option AuctionConfig

/-- `ExtractAuctionConfig`, with the message of an `INVALID_ARGUMENT`. -/
def extractAuctionConfig (codec : ConfigCodec) (allowCompressedAuctionConfig : Bool)
    (request : SelectAdRequest) : Except String AuctionConfig :=
  match request.auctionConfig, request.compressedAuctionConfig with
  | some _, some _ | none, none => .error "Provide one AuctionConfig value in SelectAdRequest"
  | some auctionConfig, none => .ok auctionConfig
  | none, some compressed =>
    if !allowCompressedAuctionConfig then
      .error ("Server is not accepting compressed AuctionConfig protos; " ++
        "provide the uncompressed_auction_config field in SelectAdRequest")
    else
      match codec.gzipDecompress compressed with
      | none => .error "Unable to decompress compressed_auction_config field"
      | some decompressed =>
        match codec.parseFromString decompressed with
        | none => .error ("Unable to parse AuctionConfig proto from " ++
            "decompressed compressed_auction_config")
        | some auctionConfig => .ok auctionConfig

/-! ## Priority vectors -/

/-- `SanitizePriorityVector`: members that are numbers. -/
def sanitizePriorityVector (members : List (String × Json)) : List (String × Json) :=
  members.filter fun member => member.2.isNumber

def parsePriorityVector (lib : Library) (priorityVectorJson : String) :
    Except String (List (String × Json)) :=
  match lib.parseJsonString priorityVectorJson with
  | some (.object members) => .ok (sanitizePriorityVector members)
  | _ => .error "Malformed priority vector JSON"

def setMember (name : String) (value : Json) : List (String × Json) → List (String × Json)
  | [] => [(name, value)]
  | member :: rest =>
    if member.1 = name then (name, value) :: rest else member :: setMember name value rest

/-- `GetBuyerPrioritySignals`: the overrides of a buyer that are numbers go over the vector
of the auction. `none` where there are no signals. -/
def getBuyerPrioritySignals (lib : Library) (prioritySignalsVector : List (String × Json))
    (perBuyerConfig : FlatHashMap String PerBuyerConfig) (buyerIgOwner : String) :
    Option String :=
  let overrides :=
    ((perBuyerConfig.lookup buyerIgOwner).map PerBuyerConfig.prioritySignalsOverrides).getD ""
  if overrides = "" then lib.serializeJsonDoc (.object prioritySignalsVector)
  else
    match lib.parseJsonString overrides with
    | some (.object members) =>
      lib.serializeJsonDoc (.object ((sanitizePriorityVector members).foldl
        (fun signals member => setMember member.1 member.2 signals) prioritySignalsVector))
    | _ => none

end SelectAd

/-!
# The request to a buyer

A buyer's input is decoded from CBOR or from a message into its internal form, and is
sent in both forms, the internal one and the one of the client. The buyer front end takes
the client's form where there is one, and converts it again.
-/

open Foundation.Cbor

namespace SelectAd

/-! ## Inputs of a buyer -/

structure BrowserSignals where
  joinCount : Int64 := 0
  bidCount : Int64 := 0
  recency : Int64 := 0
  prevWins : String := ""
  recencyMs : Option Int64 := none
deriving DecidableEq, Repr

structure BrowserSignalsForBidding extends BrowserSignals where
  prevWinsMs : Option String := none
deriving DecidableEq, Repr

/-- The `oneof` of the device signals. -/
inductive DeviceSignals (Browser : Type) where
  | android
  | browser (signals : Browser)
deriving DecidableEq, Repr

/-- An interest group, of the client's input or of the internal one. -/
structure InterestGroup (Browser : Type) where
  name : String := ""
  biddingSignalsKeys : List String := []
  adRenderIds : List String := []
  componentAds : List String := []
  userBiddingSignals : String := ""
  deviceSignals : Option (DeviceSignals Browser) := none
  origin : String := ""
deriving DecidableEq, Repr

structure ProtectedAppSignals where
  appInstallSignals : Bytes := []
  encodingVersion : Int32 := 0
deriving DecidableEq, Repr

structure BuyerInputOf (Browser : Type) where
  interestGroups : List (InterestGroup Browser) := []
  protectedAppSignals : Option ProtectedAppSignals := none
  inCooldownOrLockout : Bool := false
deriving DecidableEq, Repr

abbrev BuyerInput := BuyerInputOf BrowserSignals

abbrev BuyerInputForBidding := BuyerInputOf BrowserSignalsForBidding

/-! ## From one form to the other -/

section Convert

variable (lib : Library)

/-- An `int`. -/
def int32? : Json → Option Int32
  | .number value =>
    if value.den = 1 ∧ -2 ^ 31 ≤ value.num ∧ value.num < 2 ^ 31 then some (.ofInt value.num)
    else none
  | _ => none

def entryInMs : Json → Option Json
  | .array [time, .string adRenderId] =>
    (int32? time).map fun time =>
      .array [.number ((time * 1000).toInt : ℚ), .string adRenderId]
  | _ => none

def toPrevWinsMs (prevWins : String) : Option String :=
  match lib.parseJsonString prevWins with
  | some (.array entries) =>
    (entries.mapM entryInMs).bind fun entries => lib.serializeJsonDoc (.array entries)
  | _ => none

def toBrowserSignalsForBidding (signals : BrowserSignals) : BrowserSignalsForBidding :=
  { signals with prevWinsMs := toPrevWinsMs lib signals.prevWins }

def toInterestGroupForBidding (interestGroup : InterestGroup BrowserSignals) :
    InterestGroup BrowserSignalsForBidding where
  name := interestGroup.name
  biddingSignalsKeys := interestGroup.biddingSignalsKeys
  adRenderIds := interestGroup.adRenderIds
  componentAds := interestGroup.componentAds
  userBiddingSignals := interestGroup.userBiddingSignals
  deviceSignals :=
    match interestGroup.deviceSignals with
    | some (.browser signals) => some (.browser (toBrowserSignalsForBidding lib signals))
    | some .android => some .android
    | none => none
  origin := interestGroup.origin

def toBuyerInputForBidding (buyerInput : BuyerInput) : BuyerInputForBidding where
  interestGroups := buyerInput.interestGroups.map (toInterestGroupForBidding lib)
  protectedAppSignals := buyerInput.protectedAppSignals
  inCooldownOrLockout := buyerInput.inCooldownOrLockout

/-- One turn of the loop of `ToBuyerInput`. -/
def toInterestGroup (igForBidding : InterestGroup BrowserSignalsForBidding) :
    InterestGroup BrowserSignals where
  name := igForBidding.name
  biddingSignalsKeys := igForBidding.biddingSignalsKeys
  adRenderIds := igForBidding.adRenderIds
  componentAds := igForBidding.componentAds
  userBiddingSignals := igForBidding.userBiddingSignals
  deviceSignals :=
    match igForBidding.deviceSignals with
    | some (.browser signals) => some (.browser signals.toBrowserSignals)
    | some .android => some .android
    | none => none
  origin := igForBidding.origin

/-- `ToBuyerInput`: the app signals are there afterwards, if only by default. -/
def toBuyerInput (buyerInputForBidding : BuyerInputForBidding) : BuyerInput where
  interestGroups := buyerInputForBidding.interestGroups.map toInterestGroup
  protectedAppSignals := some (buyerInputForBidding.protectedAppSignals.getD {})
  inCooldownOrLockout := buyerInputForBidding.inCooldownOrLockout

end Convert

/-! ## Decoding -/

section Decode

variable (lib : Library)

def kBrowserSignalKeys : List String :=
  ["bidCount", "joinCount", "recency", "prevWins", "recencyMs"]

def kInterestGroupKeys : List String :=
  ["name", "biddingSignalsKeys", "userBiddingSignals", "ads", "components", "browserSignals",
    "inCooldownOrLockout"]

/-- What a decoder finds, if no error is reported: a request with an error is not
processed any further. -/
abbrev Decoded := Option

def decodeString (item : Item) : Decoded String :=
  if cborIsaString item then some (cborDecodeString item) else none

def decodeStringArray (item : Item) : Decoded (List String) :=
  if cborIsaArray item then (cborArrayHandle item).mapM decodeString else none

def decodeInt64 (item : Item) : Decoded Int64 :=
  if cborIsInt item then some (.ofNat (cborGetInt item)) else none

def decodeBool (item : Item) : Decoded Bool :=
  if cborIsBool item then some (cborGetBool item) else none

/-- A previous win: its time, as an `int`, and its ad. -/
def decodePrevWin : Item → Decoded (Int32 × String)
  | .array [time, adRenderId] => do
    if !cborIsInt time then none
    return (.ofNat (cborGetInt time), ← decodeString adRenderId)
  | _ => none

/-- The document of the previous wins, with the times as they are or in milliseconds. -/
def prevWinsDocument (unit : Int32) (wins : List (Int32 × String)) : Json :=
  .array (wins.map fun win => .array [.number ((win.1 * unit).toInt : ℚ), .string win.2])

def getStringifiedPrevWins (wins : List (Int32 × String)) : String × String :=
  match lib.serializeJsonDoc (prevWinsDocument 1 wins),
    lib.serializeJsonDoc (prevWinsDocument 1000 wins) with
  | some prevWinsSeconds, some prevWinsMs => (prevWinsSeconds, prevWinsMs)
  | _, _ => ("", "")

/-- One case of `DecodeBrowserSignals`. -/
def decodeBrowserSignal (signals : BrowserSignalsForBidding) (signal : Item × Item) :
    Decoded BrowserSignalsForBidding := do
  match findKeyIndex kBrowserSignalKeys (← decodeString signal.1) with
  | some 0 => return { signals with bidCount := ← decodeInt64 signal.2 }
  | some 1 => return { signals with joinCount := ← decodeInt64 signal.2 }
  | some 2 => return { signals with recency := ← decodeInt64 signal.2 }
  | some 3 =>
    if !cborIsaArray signal.2 then none
    let prevWins := getStringifiedPrevWins lib (← (cborArrayHandle signal.2).mapM decodePrevWin)
    return { signals with prevWins := prevWins.1, prevWinsMs := some prevWins.2 }
  | some 4 => return { signals with recencyMs := some (← decodeInt64 signal.2) }
  | _ => return signals

def decodeBrowserSignals (root : Item) : Decoded BrowserSignalsForBidding :=
  if cborIsaMap root then (cborMapHandle root).foldlM (decodeBrowserSignal lib) {} else none

/-- One entry of an interest group; the flag is one of the buyer. -/
def decodeInterestGroupEntry (acc : InterestGroup BrowserSignalsForBidding × Bool)
    (igEntry : Item × Item) : Decoded (InterestGroup BrowserSignalsForBidding × Bool) := do
  match findKeyIndex kInterestGroupKeys (← decodeString igEntry.1) with
  | some 0 => return ({ acc.1 with name := ← decodeString igEntry.2 }, acc.2)
  | some 1 => return ({ acc.1 with biddingSignalsKeys := ← decodeStringArray igEntry.2 }, acc.2)
  | some 2 => return ({ acc.1 with userBiddingSignals := ← decodeString igEntry.2 }, acc.2)
  | some 3 => return ({ acc.1 with adRenderIds := ← decodeStringArray igEntry.2 }, acc.2)
  | some 4 => return ({ acc.1 with componentAds := ← decodeStringArray igEntry.2 }, acc.2)
  | some 5 =>
    return ({ acc.1 with
      deviceSignals := some (.browser (← decodeBrowserSignals lib igEntry.2)) }, acc.2)
  | some 6 => return (acc.1, ← decodeBool igEntry.2)
  | _ => return acc

def decodeInterestGroup (buyerInput : BuyerInputForBidding) (interestGroup : Item) :
    Decoded BuyerInputForBidding := do
  if !cborIsaMap interestGroup then none
  let (group, inCooldownOrLockout) ← (cborMapHandle interestGroup).foldlM
    (decodeInterestGroupEntry lib) ({}, buyerInput.inCooldownOrLockout)
  return { buyerInput with
    interestGroups := buyerInput.interestGroups ++ [group]
    inCooldownOrLockout := inCooldownOrLockout }

/-- `DecodeBuyerInput`, past the decompression. -/
def decodeBuyerInput (root : Item) : Decoded BuyerInputForBidding :=
  if cborIsaArray root then (cborArrayHandle root).foldlM (decodeInterestGroup lib) {} else none

/-- An input that a client may have sent: CBOR of a browser, a message of an app. -/
inductive DecodedBuyerInput : ClientType → BuyerInputForBidding → Prop
  | browser {root : Item} {buyerInput : BuyerInputForBidding} :
      decodeBuyerInput lib root = some buyerInput → DecodedBuyerInput .browser buyerInput
  | android (buyerInput : BuyerInput) :
      DecodedBuyerInput .android (toBuyerInputForBidding lib buyerInput)

end Decode

/-! ## The request -/

structure ConsentedDebugConfiguration where
  isConsented : Bool := false
  token : String := ""
  isDebugInfoInResponse : Bool := false
deriving DecidableEq, Repr

structure LogContext where
  generationId : String := ""
  adtechDebugId : String := ""
deriving DecidableEq, Repr

/-- `ProtectedAuctionInput`, or `ProtectedAudienceInput`, without the inputs of the buyers. -/
structure ProtectedAuctionInput where
  publisherName : String := ""
  enableDebugReporting : Bool := false
  generationId : String := ""
  consentedDebugConfig : Option ConsentedDebugConfiguration := none
  enableUnlimitedEgress : Bool := false
  numKAnonGhostWinners : Option Int32 := none
  enforceKanon : Bool := false
  /-- `fdo_flags`. -/
  enableSampledDebugReporting : Bool := false
  inCooldownOrLockout : Bool := false

structure ProtectedAppSignalsBuyerInput where
  protectedAppSignals : Option ProtectedAppSignals := none
  contextualProtectedAppSignalsData : Option ContextualProtectedAppSignalsData := none
deriving DecidableEq, Repr

structure GetBidsRawRequest where
  isChaff : Bool := false
  buyerInput : Option BuyerInput := none
  auctionSignals : String := ""
  buyerSignals : String := ""
  seller : String := ""
  publisherName : String := ""
  enableDebugReporting : Bool := false
  logContext : LogContext := {}
  consentedDebugConfig : Option ConsentedDebugConfiguration := none
  protectedAppSignalsBuyerInput : Option ProtectedAppSignalsBuyerInput := none
  clientType : ClientType := .unknown
  topLevelSeller : String := ""
  buyerKvExperimentGroupId : Option Int32 := none
  enableUnlimitedEgress : Bool := false
  multiBidLimit : Int32 := 0
  enforceKanon : Bool := false
  isDebugEligible : Bool := false
  prioritySignals : String := ""
  blobVersions : Option BuyerBlobVersions := none
  buyerInputForBidding : Option BuyerInputForBidding := none
  enableSampledDebugReporting : Bool := false
deriving DecidableEq, Repr

/-- What a reactor knows when it asks the buyers. -/
structure Setup where
  lib : Library
  auctionScope : AuctionScope
  /-- The config that was extracted. -/
  auctionConfig : AuctionConfig
  /-- The config in the plain field of the request, read again by some functions. -/
  requestAuctionConfig : AuctionConfig
  protectedAuctionInput : ProtectedAuctionInput := {}
  prioritySignalsVector : List (String × Json) := []
  enableProtectedAppSignals : Bool := false
  isProtectedAudienceEnabled : Bool := true
  enablePriorityVector : Bool := false
  enableEnforceKanon : Bool := false

namespace Setup

variable (u : Setup)

def isPasEnabled : Bool := u.enableProtectedAppSignals && u.auctionScope = .singleSeller

def withPerBuyerConfig (config : PerBuyerConfig) (request : GetBidsRawRequest) :
    GetBidsRawRequest :=
  { request with
    buyerKvExperimentGroupId := config.buyerKvExperimentGroupId
    blobVersions := config.blobVersions
    buyerSignals := config.buyerSignals
    multiBidLimit := if u.enableEnforceKanon then config.perBuyerMultiBidLimit else 0 }

/-- The interest groups are not forwarded while protected audience is disabled. -/
def clearInterestGroups (buyerInputForBidding : BuyerInputForBidding) : BuyerInputForBidding :=
  if u.isProtectedAudienceEnabled then buyerInputForBidding
  else { buyerInputForBidding with interestGroups := [] }

def prioritySignals (buyerIgOwner : String) : String :=
  if u.enablePriorityVector then
    (getBuyerPrioritySignals u.lib u.prioritySignalsVector u.auctionConfig.perBuyerConfig
      buyerIgOwner).getD ""
  else ""

def createGetBidsRequest (clientType : ClientType) (buyerIgOwner : String)
    (buyerInputForBidding : BuyerInputForBidding) : GetBidsRawRequest :=
  let config := u.auctionConfig.perBuyerConfig.lookup buyerIgOwner
  let request : GetBidsRawRequest := {
    seller := u.auctionConfig.seller
    clientType := clientType
    auctionSignals := u.auctionConfig.auctionSignals
    buyerInput := some (toBuyerInput buyerInputForBidding)
    buyerInputForBidding := some (u.clearInterestGroups buyerInputForBidding)
    topLevelSeller := u.auctionConfig.topLevelSeller
    publisherName := u.protectedAuctionInput.publisherName
    enableDebugReporting := u.protectedAuctionInput.enableDebugReporting
    enableSampledDebugReporting := u.protectedAuctionInput.enableSampledDebugReporting
    logContext := ⟨u.protectedAuctionInput.generationId,
      (config.map PerBuyerConfig.buyerDebugId).getD ""⟩
    consentedDebugConfig := u.protectedAuctionInput.consentedDebugConfig
    enableUnlimitedEgress := u.protectedAuctionInput.enableUnlimitedEgress
    enforceKanon := u.enableEnforceKanon && u.protectedAuctionInput.enforceKanon
    prioritySignals := u.prioritySignals buyerIgOwner }
  match config with
  | some config => u.withPerBuyerConfig config request
  | none => request

def hasAppInstallSignals (protectedAppSignals : Option ProtectedAppSignals) : Bool :=
  protectedAppSignals.any fun signals => !signals.appInstallSignals.isEmpty

/-- The ads of the contextual path for a buyer, read from the request's own config. -/
def contextualData? (buyer : String) : Option ContextualProtectedAppSignalsData :=
  ((u.requestAuctionConfig.perBuyerConfig.lookup buyer).bind
    PerBuyerConfig.contextualProtectedAppSignalsData).filter fun data =>
      !data.adRenderIds.isEmpty

def mayPopulateProtectedAppSignalsBuyerInput (buyer : String) (request : GetBidsRawRequest) :
    GetBidsRawRequest :=
  let clearInput (request : GetBidsRawRequest) : GetBidsRawRequest := { request with
    buyerInput := request.buyerInput.map fun input => { input with protectedAppSignals := none } }
  let clearForBidding (request : GetBidsRawRequest) : GetBidsRawRequest := { request with
    buyerInputForBidding := request.buyerInputForBidding.map fun input =>
      { input with protectedAppSignals := none } }
  if !u.isPasEnabled then clearForBidding (clearInput request)
  else if !hasAppInstallSignals (request.buyerInput.bind BuyerInputOf.protectedAppSignals) then
    clearInput request
  else
    let signals := request.buyerInputForBidding.bind BuyerInputOf.protectedAppSignals
    if !hasAppInstallSignals signals then clearForBidding request
    else { clearForBidding (clearInput request) with
      protectedAppSignalsBuyerInput := some {
        protectedAppSignals := signals
        contextualProtectedAppSignalsData := u.contextualData? buyer } }

/-- `SelectAdReactorForApp::CreateGetBidsRequest`. -/
def createGetBidsRequestForApp (buyerIgOwner : String)
    (buyerInputForBidding : BuyerInputForBidding) : GetBidsRawRequest :=
  let request := u.createGetBidsRequest .android buyerIgOwner buyerInputForBidding
  u.mayPopulateProtectedAppSignalsBuyerInput buyerIgOwner { request with
    enableDebugReporting := false
    enableSampledDebugReporting := false
    isDebugEligible := request.enableUnlimitedEgress }

def getBidsRequest (clientType : ClientType) (buyerIgOwner : String)
    (buyerInputForBidding : BuyerInputForBidding) : GetBidsRawRequest :=
  match clientType with
  | .android => u.createGetBidsRequestForApp buyerIgOwner buyerInputForBidding
  | clientType => u.createGetBidsRequest clientType buyerIgOwner buyerInputForBidding

end Setup

/-! ## At the buyer -/

/-- The input that `GetBidsUnaryReactor` works on. -/
def executedBuyerInput (lib : Library) (rawRequest : GetBidsRawRequest) : BuyerInputForBidding :=
  match rawRequest.buyerInput with
  | some buyerInput => toBuyerInputForBidding lib buyerInput
  | none => rawRequest.buyerInputForBidding.getD {}

end SelectAd

end BiddingAuction
