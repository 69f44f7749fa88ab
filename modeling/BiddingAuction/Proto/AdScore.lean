import BiddingAuction.Common.FlatHash
import Mathlib.Data.Rat.Defs

/-!
# `AdScore` and the messages in it

Only the fields some modelled function reads or writes. `F` is the type of the
`float` and `double` fields: exact rationals where an auction is decided,
floating-point values where their encoding matters. A sub-message is an `Option`
where the code asks whether it is present.
-/

namespace BiddingAuction

abbrev Bytes := List UInt8

inductive AdType where
  | unknown
  | protectedAudienceAd
  | protectedAppSignalsAd
deriving DecidableEq, Repr

inductive SellerRejectionReason where
  | sellerRejectionReasonNotAvailable
  | invalidBid
  | bidBelowAuctionFloor
  | pendingApprovalByExchange
  | disapprovedByExchange
  | blockedByPublisher
  | languageExclusions
  | categoryExclusions
  | didNotMeetTheKAnonymityThreshold
  | bidFromGenerateBidFailedCurrencyCheck
  | bidFromScoreAdFailedCurrencyCheck
deriving DecidableEq, Repr

inductive AuctionScope where
  | singleSeller
  | deviceComponentMultiSeller
  | serverComponentMultiSeller
  | serverTopLevelSeller
deriving DecidableEq, Repr

def isComponentAuction (scope : AuctionScope) : Bool :=
  scope = .deviceComponentMultiSeller || scope = .serverComponentMultiSeller

structure DebugReportUrls where
  auctionDebugWinUrl : String
  auctionDebugLossUrl : String
deriving DecidableEq, Repr

structure AdRejectionReason where
  interestGroupOwner : String
  interestGroupName : String
  rejectionReason : SellerRejectionReason
deriving DecidableEq, Repr

structure KAnonJoinCandidate where
  adRenderUrlHash : Bytes := []
  adComponentRenderUrlsHash : List Bytes := []
  reportingIdHash : Bytes := []
deriving DecidableEq, Repr

structure ReportingUrls where
  reportingUrl : String := ""
  interactionReportingUrls : FlatHashMap String String := ∅
deriving DecidableEq

structure WinReportingUrls where
  buyerReportingUrls : Option ReportingUrls := none
  componentSellerReportingUrls : Option ReportingUrls := none
  topLevelSellerReportingUrls : Option ReportingUrls := none
deriving DecidableEq

/-! ## Private aggregation -/

inductive BaseValue where
  | unspecified
  | winningBid
  | highestScoringOtherBid
  | scriptRunTime
  | signalsFetchTime
  | bidRejectionReason
deriving DecidableEq, Repr

structure BucketOffset where
  value : List UInt64
  isNegative : Bool
deriving DecidableEq, Repr

structure SignalBucket (F : Type) where
  baseValue : BaseValue
  scale : F
  offset : BucketOffset
deriving DecidableEq, Repr

/-- The `oneof` of a bucket. -/
inductive PrivateAggregationBucket (F : Type) where
  | bucket128Bit (bucket128Bits : List UInt64)
  | signalBucket (bucket : SignalBucket F)
deriving DecidableEq, Repr

structure SignalValue (F : Type) where
  baseValue : BaseValue
  scale : F
  offset : Int32
deriving DecidableEq, Repr

/-- The `oneof` of a value. -/
inductive PrivateAggregationValue (F : Type) where
  | intValue (value : Int32)
  | extendedValue (value : SignalValue F)
deriving DecidableEq, Repr

/-- `EventType` of a contribution. -/
inductive PAggEventType where
  | unspecified
  | win
  | loss
  | always
  | custom
deriving DecidableEq, Repr

structure PrivateAggregationEvent where
  eventType : PAggEventType := .unspecified
  eventName : String := ""
deriving DecidableEq, Repr

structure PrivateAggregateContribution (F : Type) where
  bucket : Option (PrivateAggregationBucket F) := none
  value : Option (PrivateAggregationValue F) := none
  event : PrivateAggregationEvent := {}
  igIdx : Option Int32 := none
deriving DecidableEq, Repr

structure PrivateAggregateReportingResponse (F : Type) where
  contributions : List (PrivateAggregateContribution F) := []
  adtechOrigin : String := ""
deriving DecidableEq, Repr

/-! ## The score of an ad -/

structure AdScore (F : Type) where
  desirability : F
  render : String := ""
  componentRenders : List String := []
  interestGroupName : String := ""
  buyerBid : F
  interestGroupOwner : String := ""
  adMetadata : String := ""
  allowComponentAuction : Bool := false
  bid : F
  winReportingUrls : WinReportingUrls := {}
  debugReportUrls : Option DebugReportUrls := none
  igOwnerHighestScoringOtherBidsMap : FlatHashMap String (List F) := ∅
  adRejectionReasons : List AdRejectionReason := []
  adType : AdType := .unknown
  incomingBidInSellerCurrency : F
  bidCurrency : String := ""
  buyerBidCurrency : String := ""
  buyerReportingId : Option String := none
  buyerAndSellerReportingId : Option String := none
  interestGroupOrigin : String := ""
  topLevelContributions : List (PrivateAggregateReportingResponse F) := []
  selectedBuyerAndSellerReportingId : Option String := none
  kAnonJoinCandidate : Option KAnonJoinCandidate := none
  seller : String := ""

/-- `AdScore` with no field set. -/
def AdScore.unset {F : Type} [Zero F] : AdScore F where
  desirability := 0
  buyerBid := 0
  bid := 0
  incomingBidInSellerCurrency := 0

end BiddingAuction
