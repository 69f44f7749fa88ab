import BiddingAuction.Common.Json
import BiddingAuction.Proto.AdScore

/-!
# The bids of the buyers

What `GetBids` returned, as the seller front end keeps it until the auction is over.
-/

namespace BiddingAuction

/-- `AdWithBid`: a protected audience bid. -/
structure AdWithBid (F : Type) where
  ad : Option Json := none
  bid : F
  render : String := ""
  adComponents : List String := []
  interestGroupName : String := ""
  bidCurrency : String := ""
  buyerReportingId : Option String := none
  privateAggregationContributions : List (PrivateAggregateContribution F) := []
  buyerAndSellerReportingId : Option String := none
  selectedBuyerAndSellerReportingId : Option String := none
  debugReportUrls : Option DebugReportUrls := none
  debugWinUrlFailedSampling : Bool := false
  debugLossUrlFailedSampling : Bool := false

/-- `BuyerBidsResponseMap`: the bids of each interest group owner. -/
abbrev BuyerBidsResponseMap (F : Type) := FlatHashMap String (List (AdWithBid F))

structure InterestGroupIdentity where
  interestGroupOwner : String
  interestGroupName : String
deriving DecidableEq, Repr

end BiddingAuction
