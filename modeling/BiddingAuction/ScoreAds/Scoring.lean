import BiddingAuction.ScoreAds.Reactor
import Mathlib.Algebra.Order.Group.Unbundled.Abs
import Mathlib.Algebra.Order.Ring.Rat

/-!
# From responses of `scoreAd` to scored ads

`CollectValidRomaResponses` turns each response that executed, belongs to an ad
and parses into a scored ad; the others drop out, so positions among the scored
ads are not positions among the responses. `GetAdRejectionReason` then decides
whether a scored ad is rejected.
-/

namespace BiddingAuction

structure DispatchResponse where
  id : String
  resp : String
deriving DecidableEq, Repr

/-- A response or the message of its failed status. -/
abbrev RomaResponse := Except String DispatchResponse

/-- `ScoredAdData`: the score of an ad with the document it was read from. -/
structure ScoredAdData where
  adScore : AdScore ℚ
  responseJson : Json
  id : String
  kAnonStatus : Bool

/-! ## Reading a response -/

/-- `ParseAndGetScoreAdResponseJson`: an object or a number under `response`. -/
def parseAndGetScoreAdResponseJson (scoreAdsWrapperResponse : Json) : Json :=
  match scoreAdsWrapperResponse.findMember "response" with
  | some (.object members) => .object members
  | some (.number value) => .number value
  | some (.double value) => .double value
  | _ => .null

def toSellerRejectionReason (rejectionReason : String) : SellerRejectionReason :=
  if rejectionReason = "invalid-bid" then .invalidBid
  else if rejectionReason = "bid-below-auction-floor" then .bidBelowAuctionFloor
  else if rejectionReason = "pending-approval-by-exchange" then .pendingApprovalByExchange
  else if rejectionReason = "disapproved-by-exchange" then .disapprovedByExchange
  else if rejectionReason = "blocked-by-publisher" then .blockedByPublisher
  else if rejectionReason = "language-exclusions" then .languageExclusions
  else if rejectionReason = "category-exclusions" then .categoryExclusions
  else if rejectionReason = "bid-from-gen-bid-failed-currency-check" then
    .bidFromGenerateBidFailedCurrencyCheck
  else if rejectionReason = "bid-from-score-ad-failed-currency-check" then
    .bidFromScoreAdFailedCurrencyCheck
  else if rejectionReason = "did-not-meet-the-kanonymity-threshold" then
    .didNotMeetTheKAnonymityThreshold
  else .sellerRejectionReasonNotAvailable

def parseAdRejectionReason (scoreAdResp : Json) (interestGroupOwner interestGroupName : String) :
    Option AdRejectionReason := do
  let rejectionReason ← (scoreAdResp.findMember "rejectReason").bind Json.string?
  return ⟨interestGroupOwner, interestGroupName,
    toSellerRejectionReason (cString rejectionReason)⟩

def getDebugUrlIfInLimit (urlType : String) (debugReportingUrls : Json)
    (maxAllowedSizeDebugUrlChars : ℤ) : String :=
  match (debugReportingUrls.findMember urlType).bind Json.string? with
  | none => ""
  | some debugUrl =>
    if (cString debugUrl).utf8ByteSize ≤ maxAllowedSizeDebugUrlChars then cString debugUrl else ""

/-- The number under a name, as a `float`. -/
def floatMember (lib : Library) (scoreAdResp : Json) (name : String) : Option ℚ :=
  ((scoreAdResp.findMember name).bind Json.number?).map lib.toFloat

/-- The metadata for the top-level seller: a string in quotes, an object as
JSON. `none` when that fails. -/
def adMetadataForComponentAuction (lib : Library) (scoreAdResp : Json) : Option String :=
  match scoreAdResp.findMember "ad" with
  | some (.string s) => some ("\"" ++ cString s ++ "\"")
  | some (.object members) => lib.serializeJsonDoc (.object members)
  | _ => some ""

def AdScore.ofDesirability (desirability : ℚ) : AdScore ℚ where
  desirability := desirability
  buyerBid := 0
  bid := 0
  incomingBidInSellerCurrency := 0

def addComponentAuctionFields (lib : Library) (scoreAdResp : Json) (adScore : AdScore ℚ) :
    Option (AdScore ℚ) := do
  let adMetadata ← adMetadataForComponentAuction lib scoreAdResp
  return { adScore with
    allowComponentAuction :=
      ((scoreAdResp.findMember "allowComponentAuction").bind Json.bool?).getD false
    adMetadata := adMetadata
    bid := (floatMember lib scoreAdResp "bid").getD 0
    bidCurrency :=
      (((scoreAdResp.findMember "bidCurrency").bind Json.string?).map cString).getD "" }

def scoreAdResponseJsonToProto (lib : Library) (scoreAdResp : Json)
    (maxAllowedSizeDebugUrlChars : ℤ) (deviceComponentAuction : Bool) : Option (AdScore ℚ) :=
  match scoreAdResp with
  | .number value | .double value => some (.ofDesirability (lib.toFloat value))
  | _ => do
    let adScore := { AdScore.ofDesirability ((floatMember lib scoreAdResp "desirability").getD 0)
      with incomingBidInSellerCurrency :=
        (floatMember lib scoreAdResp "incomingBidInSellerCurrency").getD 0 }
    let adScore ← if deviceComponentAuction then
        addComponentAuctionFields lib scoreAdResp adScore
      else
        some adScore
    match scoreAdResp.findMember "debugReportUrls" with
    | none => return adScore
    | some debugReportingUrls => return { adScore with
        debugReportUrls := some
          { auctionDebugWinUrl := getDebugUrlIfInLimit "auctionDebugWinUrl" debugReportingUrls
              maxAllowedSizeDebugUrlChars
            auctionDebugLossUrl := getDebugUrlIfInLimit "auctionDebugLossUrl" debugReportingUrls
              maxAllowedSizeDebugUrlChars } }

/-! ## Collecting the scored ads -/

/-- `ScoringAdWithBidMetadata`: what scoring needs of either type of ad. -/
structure ScoringAdWithBidMetadata where
  buyerBid : ℚ
  adWithBidCurrency : String
  interestGroupName : String := ""
  interestGroupOwner : String
  interestGroupOrigin : String := ""
  kAnonStatus : Bool
  adType : AdType

def getScoringDataFromAd : ScoredAdType → ScoringAdWithBidMetadata
  | .protectedAudience ad =>
    { buyerBid := ad.bid
      adWithBidCurrency := ad.bidCurrency
      interestGroupName := ad.interestGroupName
      interestGroupOwner := ad.interestGroupOwner
      interestGroupOrigin := ad.interestGroupOrigin
      kAnonStatus := ad.kAnonStatus
      adType := .protectedAudienceAd }
  | .protectedAppSignals ad =>
    { buyerBid := ad.bid
      adWithBidCurrency := ad.bidCurrency
      interestGroupOwner := ad.owner
      kAnonStatus := ad.kAnonStatus
      adType := .protectedAppSignalsAd }

def populateAdScoreData (adScore : AdScore ℚ) (data : ScoringAdWithBidMetadata) : AdScore ℚ :=
  { adScore with
    interestGroupName := data.interestGroupName
    interestGroupOwner := data.interestGroupOwner
    interestGroupOrigin := data.interestGroupOrigin
    adType := data.adType
    buyerBid := data.buyerBid
    buyerBidCurrency := data.adWithBidCurrency }

namespace ScoreAdsReactor

variable (r : ScoreAdsReactor)

/-- `MayAddKAnonJoinCandidate`: in top-level auctions only. -/
def mayAddKAnonJoinCandidate (requestId : String) (adScore : AdScore ℚ) : AdScore ℚ :=
  if r.auctionScope = .serverTopLevelSeller then
    match r.adKAnonJoinCand.lookup requestId with
    | some candidate => { adScore with kAnonJoinCandidate := some candidate }
    | none => adScore
  else
    adScore

def scoredAd (lib : Library) (response : RomaResponse) : Option ScoredAdData := do
  let response ← response.toOption
  let ad ← r.findScoredAdType response.id
  let scoreAdsWrapperResponse ← lib.parseJsonString response.resp
  let responseJson := parseAndGetScoreAdResponseJson scoreAdsWrapperResponse
  let adScore ← scoreAdResponseJsonToProto lib responseJson r.maxAllowedSizeDebugUrlChars
    (isComponentAuction r.auctionScope)
  let data := getScoringDataFromAd ad
  return {
    adScore := populateAdScoreData (r.mayAddKAnonJoinCandidate response.id adScore) data
    responseJson := responseJson
    id := response.id
    kAnonStatus := !r.enableEnforceKanon || data.kAnonStatus }

/-- A candidate that was moved into a score is empty from then on. -/
def moveKAnonJoinCandidate (requestId : String) : ScoreAdsReactor :=
  if r.auctionScope = .serverTopLevelSeller ∧ requestId ∈ r.adKAnonJoinCand then
    { r with adKAnonJoinCand := r.adKAnonJoinCand.insert requestId {} }
  else
    r

def collectValidRomaResponses (r : ScoreAdsReactor) (lib : Library) :
    List RomaResponse → List ScoredAdData
  | [] => []
  | response :: rest =>
    match r.scoredAd lib response with
    | none => collectValidRomaResponses r lib rest
    | some ad => ad :: collectValidRomaResponses (r.moveKAnonJoinCandidate ad.id) lib rest

/-! ## Rejection -/

/-- `kCurrencyFloatComparisonEpsilon`: the `float` closest to 0.00001. -/
def currencyFloatComparisonEpsilon : ℚ := 10995116 / 2 ^ 40

def isBidCurrencyMismatched (auctionScope : AuctionScope) (sellerCurrency : String)
    (modifiedBid : ℚ) (modifiedBidCurrency : String) : Bool :=
  isComponentAuction auctionScope && sellerCurrency != "" && modifiedBid > 0 &&
    modifiedBidCurrency != "" && modifiedBidCurrency != sellerCurrency

def isIncomingBidInSellerCurrencyIllegallyModified (lib : Library)
    (sellerCurrency adWithBidCurrency : String) (incomingBidInSellerCurrency buyerBid : ℚ) :
    Bool :=
  sellerCurrency != "" && adWithBidCurrency != "" && sellerCurrency = adWithBidCurrency &&
    incomingBidInSellerCurrency > currencyFloatComparisonEpsilon &&
    |lib.toFloat (incomingBidInSellerCurrency - buyerBid)| > currencyFloatComparisonEpsilon

/-- `CheckAndUpdateModifiedBid`: a component auction falls back on the buyer's bid. -/
def checkAndUpdateModifiedBid (auctionScope : AuctionScope) (adScore : AdScore ℚ) : AdScore ℚ :=
  if isComponentAuction auctionScope ∧ adScore.bid ≤ 0 ∧ adScore.buyerBid > 0 then
    { adScore with bid := adScore.buyerBid, bidCurrency := adScore.buyerBidCurrency }
  else
    adScore

/-- `GetAdRejectionReason`: failed checks and a desirability that is not positive
come before the reason the seller gave. -/
def getAdRejectionReason (lib : Library) (responseJson : Json) (adScore : AdScore ℚ) :
    Option AdRejectionReason :=
  if isBidCurrencyMismatched r.auctionScope r.rawRequest.sellerCurrency adScore.bid
      adScore.bidCurrency then
    some ⟨adScore.interestGroupOwner, adScore.interestGroupName,
      .bidFromScoreAdFailedCurrencyCheck⟩
  else if isIncomingBidInSellerCurrencyIllegallyModified lib r.rawRequest.sellerCurrency
      adScore.buyerBidCurrency adScore.incomingBidInSellerCurrency adScore.buyerBid then
    some ⟨adScore.interestGroupOwner, adScore.interestGroupName, .invalidBid⟩
  else if adScore.desirability ≤ 0 then
    some ⟨adScore.interestGroupOwner, adScore.interestGroupName,
      .sellerRejectionReasonNotAvailable⟩
  else if responseJson.isNumber then
    none
  else
    parseAdRejectionReason responseJson adScore.interestGroupOwner adScore.interestGroupName

def rejection (lib : Library) (ad : ScoredAdData) : Option AdRejectionReason :=
  (r.getAdRejectionReason lib ad.responseJson ad.adScore).filter fun reason =>
    reason.rejectionReason != .sellerRejectionReasonNotAvailable

/-- An ad that may not take part in the top-level auction on the device. -/
def isComponentAuctionNotAllowed (adScore : AdScore ℚ) : Bool :=
  r.auctionScope = .deviceComponentMultiSeller && !adScore.allowComponentAuction

def withModifiedBid (ad : ScoredAdData) : ScoredAdData :=
  { ad with adScore := checkAndUpdateModifiedBid r.auctionScope ad.adScore }

/-- The ad stays in the auction: it is not rejected and may take part. -/
def isAccepted (lib : Library) (ad : ScoredAdData) : Bool :=
  (r.rejection lib (r.withModifiedBid ad)).isNone &&
    !r.isComponentAuctionNotAllowed (r.withModifiedBid ad).adScore

/-- The ads that stay, with their bids updated, in the order of their scores' arrival. -/
def accepted (lib : Library) (ads : List ScoredAdData) : List ScoredAdData :=
  (ads.filter (r.isAccepted lib)).map r.withModifiedBid

end ScoreAdsReactor

end BiddingAuction
