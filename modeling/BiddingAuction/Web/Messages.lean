import BiddingAuction.Proto.AdScore

/-!
# `AuctionResult` and what it is made from

The message a web client is sent, the data it is encoded from and the keys of its
CBOR form. Of each message only what some modelled function reads or writes.
-/

namespace BiddingAuction

structure InterestGroupIndex where
  index : List Int32 := []
deriving DecidableEq, Repr

abbrev BiddingGroupMap := FlatHashMap String InterestGroupIndex

structure UpdateInterestGroup where
  index : Int32 := 0
  updateIfOlderThanMs : Int32 := 0
deriving DecidableEq, Repr

structure UpdateInterestGroupList where
  interestGroups : List UpdateInterestGroup := []
deriving DecidableEq, Repr

abbrev UpdateGroupMap := FlatHashMap String UpdateInterestGroupList

structure DebugReport where
  url : String := ""
  isWinReport : Bool := false
  isSellerReport : Bool := false
  isComponentWin : Bool := false
deriving DecidableEq, Repr

structure DebugReports where
  reports : List DebugReport := []
deriving DecidableEq, Repr

abbrev AdtechOriginDebugUrlsMap := FlatHashMap String DebugReports

/-- `AuctionResult.Error`. -/
structure AuctionResultError where
  code : Int32 := 0
  message : String := ""
deriving DecidableEq, Repr

structure GhostWinnerPrivateAggregationSignals where
  bucket : Bytes := []
  value : Int32 := 0
deriving DecidableEq, Repr

structure GhostWinnerForTopLevelAuction (F : Type) where
  adRenderUrl : String := ""
  adComponentRenderUrls : List String := []
  modifiedBid : F
  bidCurrency : String := ""
  adMetadata : String := ""
  buyerReportingId : Option String := none
  selectedBuyerAndSellerReportingId : Option String := none
  buyerAndSellerReportingId : Option String := none
  adType : AdType := .unknown
deriving DecidableEq, Repr

structure KAnonGhostWinner (F : Type) where
  kAnonJoinCandidates : KAnonJoinCandidate := {}
  interestGroupIndex : Int32 := 0
  owner : String := ""
  igName : String := ""
  ghostWinnerPrivateAggregationSignals : List GhostWinnerPrivateAggregationSignals := []
  ghostWinnerForTopLevelAuction : Option (GhostWinnerForTopLevelAuction F) := none
deriving DecidableEq, Repr

/-- The pointers are optional, the index is that of no winner by default. -/
structure KAnonAuctionResultData (F : Type) where
  kanonGhostWinners : Option (List (KAnonGhostWinner F)) := none
  kanonWinnerJoinCandidates : Option KAnonJoinCandidate := none
  kanonWinnerPositionalIndex : Int32 := -1
deriving DecidableEq, Repr

structure AuctionParams where
  ciphertextGenerationId : String := ""
  componentSeller : String := ""
deriving DecidableEq, Repr

structure AuctionResult (F : Type) where
  adRenderUrl : String := ""
  adComponentRenderUrls : List String := []
  interestGroupName : String := ""
  interestGroupOwner : String := ""
  score : F
  bid : F
  isChaff : Bool := false
  winReportingUrls : WinReportingUrls := {}
  biddingGroups : BiddingGroupMap := ∅
  updateGroups : UpdateGroupMap := ∅
  error : Option AuctionResultError := none
  interestGroupOrigin : String := ""
  adType : AdType := .unknown
  topLevelSeller : String := ""
  adMetadata : String := ""
  bidCurrency : String := ""
  auctionParams : AuctionParams := {}
  buyerReportingId : Option String := none
  buyerAndSellerReportingId : Option String := none
  kAnonWinnerJoinCandidates : Option KAnonJoinCandidate := none
  kAnonWinnerPositionalIndex : Option Int32 := none
  kAnonGhostWinners : List (KAnonGhostWinner F) := []
  topLevelContributions : List (PrivateAggregateReportingResponse F) := []
  adtechOriginDebugUrlsMap : AdtechOriginDebugUrlsMap := ∅

/-- `AuctionResult` with no field set. -/
def AuctionResult.unset {F : Type} [Zero F] : AuctionResult F where
  score := 0
  bid := 0

/-! ## Keys -/

def kBid := "bid"
def kAdAuctionResultNonce := "nonce"
def kScore := "score"
def kChaff := "isChaff"
def kAdMetadata := "adMetadata"
def kAdComponents := "components"
def kAdRenderUrl := "adRenderURL"
def kBidCurrency := "bidCurrency"
def kDebugReports := "debugReports"
def kPAggResponse := "paggResponse"
def kUpdateGroups := "updateGroups"
def kBiddingGroups := "biddingGroups"
def kTopLevelSeller := "topLevelSeller"
def kBuyerReportingId := "buyerReportingId"
def kWinReportingUrls := "winReportingURLs"
def kInterestGroupName := "interestGroupName"
def kKAnonGhostWinners := "kAnonGhostWinners"
def kInterestGroupOwner := "interestGroupOwner"
def kKAnonWinnerJoinCandidates := "kAnonWinnerJoinCandidates"
def kKAnonWinnerPositionalIndex := "kAnonWinnerPositionalIndex"
def kError := "error"

def kMessage := "message"
def kCode := "code"

def kIndex := "index"
def kUpdateIfOlderThanMs := "updateIfOlderThanMs"

/-- The keys of the debug reports of an origin, and of a report. -/
def kReports := "reports"
def kAdTechOrigin := "adTechOrigin"
def kUrl := "url"
def kIsWinReport := "isWinReport"
def kComponentWin := "componentWin"
def kIsSellerReport := "isSellerReport"

/-- The keys of win reporting URLs, and of those of one party. -/
def kBuyerReportingUrls := "buyerReportingURLs"
def kTopLevelSellerReportingUrls := "topLevelSellerReportingURLs"
def kComponentSellerReportingUrls := "componentSellerReportingURLs"
def kReportingUrl := "reportingURL"
def kInteractionReportingUrls := "interactionReportingURLs"

def kAdRenderUrlHash := "adRenderURLHash"
def kReportingIdHash := "reportingIdHash"
def kAdComponentRenderUrlsHash := "adComponentRenderURLsHash"

def kOwner := "owner"
def kInterestGroupIndex := "interestGroupIndex"
def kKAnonJoinCandidates := "kAnonJoinCandidates"
def kGhostWinnerForTopLevelAuction := "ghostWinnerForTopLevelAuction"
def kGhostWinnerPrivateAggregationSignals := "ghostWinnerPrivateAggregationSignals"

def kModifiedBid := "modifiedBid"
def kAdComponentRenderUrls := "adComponentRenderURLs"
def kBuyerAndSellerReportingId := "buyerAndSellerReportingId"
def kSelectedBuyerAndSellerReportingId := "selectedBuyerAndSellerReportingId"

def kValue := "value"
def kBucket := "bucket"
def kEvent := "event"
def kContributions := "contributions"
def kIgIndex := "igIndex"
def kEventContributions := "eventContributions"
def kIgContributions := "igContributions"
def kReportingOrigin := "reportingOrigin"

/-! ## Capacities -/

def kNumAuctionResultKeys := 21
def kNumErrorKeys := 2
def kNumWinReportingUrlsKeys := 3
def kNumReportingUrlsKeys := 2
def kNumDebugReportKeys := 4
def kNumDebugReportsKeys := 2
def kNumKAnonJoinCandidateKeys := 3
def kNumKAnonGhostWinnerKeys := 6
def kNumGhostWinnerForTopLevelAuctionKeys := 8
def kNumGhostWinnerPrivateAggregationSignalsKeys := 2
def kNumContributionKeys := 2
def kNumEventContributionKeys := 2
def kNumIgContributionKeys := 2
def kNumIgContributionKeysWithoutIgIdx := 1
def kNumPAggResponseKeys := 2

end BiddingAuction
