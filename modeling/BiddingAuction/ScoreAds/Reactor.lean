import BiddingAuction.Common.Json
import BiddingAuction.Proto.AdScore

/-!
# The state of `ScoreAdsReactor`

The request, the settings it is served with and the maps the reactor fills while
it serves it. Auctions are decided on exact rationals.
-/

namespace BiddingAuction

/-- `AdWithBidMetadata`: a protected audience ad. -/
structure AdWithBidMetadata where
  ad : Json := .null
  bid : ℚ := 0
  render : String := ""
  adComponents : List String := []
  interestGroupName : String := ""
  interestGroupOwner : String := ""
  bidCurrency : String := ""
  interestGroupOrigin : String := ""
  buyerReportingId : Option String := none
  buyerAndSellerReportingId : Option String := none
  selectedBuyerAndSellerReportingId : Option String := none
  kAnonStatus : Bool := false

/-- `ProtectedAppSignalsAdWithBidMetadata`: an app install ad. -/
structure ProtectedAppSignalsAdWithBidMetadata where
  ad : Json := .null
  bid : ℚ := 0
  render : String := ""
  owner : String := ""
  bidCurrency : String := ""
  kAnonStatus : Bool := false

structure ForDebuggingOnlyFlags where
  enableSampledDebugReporting : Bool := false
  inCooldownOrLockout : Bool := false
deriving DecidableEq, Repr

structure ScoreAdsRawRequest where
  adBids : List AdWithBidMetadata := []
  protectedAppSignalsAdBids : List ProtectedAppSignalsAdWithBidMetadata := []
  publisherHostname : String := ""
  seller : String := ""
  enableDebugReporting : Bool := false
  sellerCurrency : String := ""
  topLevelSeller : String := ""
  sellerDataVersion : UInt32 := 0
  fdoFlags : ForDebuggingOnlyFlags := {}
  numAllowedGhostWinners : Int32 := 0
  perBuyerSignals : FlatHashMap String String := ∅

/-- A scored ad, found under a dispatch id: `FindScoredAdType`. -/
inductive ScoredAdType where
  | protectedAudience (ad : AdWithBidMetadata)
  | protectedAppSignals (ad : ProtectedAppSignalsAdWithBidMetadata)

/-- What a component auction result says about the reporting of its winner. -/
structure ComponentReportingDataInAuctionResult where
  componentSeller : String := ""
  buyerReportingUrls : ReportingUrls := {}
  componentSellerReportingUrls : ReportingUrls := {}
  topLevelSellerReportingUrls : ReportingUrls := {}
  buyerReportingId : String := ""
  buyerAndSellerReportingId : String := ""
deriving DecidableEq

structure ScoreAdsReactor where
  rawRequest : ScoreAdsRawRequest := {}
  auctionScope : AuctionScope := .singleSeller
  enableEnforceKanon : Bool := false
  enableAdtechCodeLogging : Bool := false
  enableProtectedAppSignals : Bool := true
  requireScoringSignalsForScoring : Bool := false
  enableSellerDebugUrlGeneration : Bool := false
  enableReportResultUrlGeneration : Bool := false
  enableReportWinUrlGeneration : Bool := false
  enableSellerAndBuyerCodeIsolation : Bool := false
  enableCancellation : Bool := false
  buyersWithReportWinEnabled : FlatHashSet String := .ofList []
  protectedAppSignalsBuyersWithReportWinEnabled : FlatHashSet String := .ofList []
  maxAllowedSizeDebugUrlChars : ℤ := 0
  /-- Compared as a `size_t`. -/
  maxAllowedSizeAllDebugUrlsChars : ℕ := 0
  codeVersion : String := ""
  romaTimeoutDuration : String := ""
  adData : FlatHashMap String AdWithBidMetadata := ∅
  protectedAppSignalsAdData : FlatHashMap String ProtectedAppSignalsAdWithBidMetadata := ∅
  adKAnonJoinCand : FlatHashMap String KAnonJoinCandidate := ∅
  componentAdSeller : FlatHashMap String String := ∅
  componentLevelReportingData : FlatHashMap String ComponentReportingDataInAuctionResult := ∅

namespace ScoreAdsReactor

/-- `FindScoredAdType`: protected audience ads come first. -/
def findScoredAdType (r : ScoreAdsReactor) (responseId : String) : Option ScoredAdType :=
  match r.adData.lookup responseId with
  | some ad => some (.protectedAudience ad)
  | none => (r.protectedAppSignalsAdData.lookup responseId).map .protectedAppSignals

theorem findScoredAdType_of_ad {r : ScoreAdsReactor} {id : String} {ad : AdWithBidMetadata}
    (h : r.adData.lookup id = some ad) : r.findScoredAdType id = some (.protectedAudience ad) := by
  unfold findScoredAdType
  rw [h]

theorem findScoredAdType_of_appAd {r : ScoreAdsReactor} {id : String}
    {ad : ProtectedAppSignalsAdWithBidMetadata} (hnone : r.adData.lookup id = none)
    (h : r.protectedAppSignalsAdData.lookup id = some ad) :
    r.findScoredAdType id = some (.protectedAppSignals ad) := by
  unfold findScoredAdType
  rw [hnone, h]
  rfl

end ScoreAdsReactor

end BiddingAuction
