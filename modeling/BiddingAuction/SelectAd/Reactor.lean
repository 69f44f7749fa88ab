import BiddingAuction.KAnon.Keys
import BiddingAuction.ScoreAds.Reactor

/-!
# The k-anonymity part of `SelectAdReactor`

The bids of all buyers are hashed in one pass, all hashes are asked for in one
query, and the answer is joined with the bids again before they are sent to be
scored. A bid is told apart by where it is stored: its buyer and its position.
-/

namespace BiddingAuction

structure BidPointer where
  buyerIgOwner : String
  position : ℕ
deriving DecidableEq, Repr

structure InterestGroupForBidding where
  name : String
  origin : String := ""
deriving DecidableEq, Repr

/-- What `AreKAnonymous` comes to: the call fails, or the reply comes, with an
error or with the hashes that are k-anonymous. -/
inductive KAnonQueryOutcome where
  | callFailed
  | replyFailed
  | replied (response : FlatHashSet Hash)

structure SelectAdReactor where
  sharedBuyerBidsMap : BuyerBidsResponseMap ℚ
  buyerReportWinJsUrls : FlatHashMap String String
  buyerInputs : FlatHashMap String (List InterestGroupForBidding)
  enableEnforceKanon : Bool
  isProtectedAudienceEnabled : Bool := true
  interestGroupIndexMap : FlatHashMap InterestGroupIdentity ℕ := ∅
  bidKAnonHashSets : FlatHashMap BidPointer (FlatHashSet Hash) := ∅
  queriedKAnonHashes : FlatHashSet Hash := ⟨[], List.nodup_nil⟩
  bidKAnonStatus : FlatHashMap BidPointer Bool := ∅
  auctionScope : AuctionScope := .singleSeller
  seller : String := ""
  sellerCurrency : String := ""
  enableDebugReporting : Bool := false
  enableSampledDebugReporting : Bool := false

namespace SelectAdReactor

/-! ## Hashing the bids -/

def kAnonHashesForBid {F : Type} (lib : KeyLibrary) (owner biddingUrl : String)
    (bid : AdWithBid F) : FlatHashSet Hash :=
  let reportingIds : KAnonKeyReportingIDParam := {
    buyerReportingId := bid.buyerReportingId
    buyerAndSellerReportingId := bid.buyerAndSellerReportingId
    selectedBuyerAndSellerReportingId := bid.selectedBuyerAndSellerReportingId }
  .ofList (hashedKAnonKeyForAdRenderURL lib owner biddingUrl bid.render ::
    hashedKAnonKeyForReportingID lib owner bid.interestGroupName biddingUrl bid.render
      reportingIds ::
    bid.adComponents.map (hashedKAnonKeyForAdComponentRenderURL lib))

def hashBuyerBids (lib : KeyLibrary) (r : SelectAdReactor)
    (bidKAnonHashes : FlatHashMap BidPointer (FlatHashSet Hash))
    (buyer : Sigma fun _ : String => List (AdWithBid ℚ)) :
    FlatHashMap BidPointer (FlatHashSet Hash) :=
  match r.buyerReportWinJsUrls.lookup buyer.1 with
  | none => bidKAnonHashes
  | some biddingUrl =>
    buyer.2.zipIdx.foldl (fun bidKAnonHashes bid =>
      bidKAnonHashes.insert ⟨buyer.1, bid.2⟩ (kAnonHashesForBid lib buyer.1 biddingUrl bid.1))
      bidKAnonHashes

def getKAnonHashesForBids (lib : KeyLibrary) (r : SelectAdReactor) :
    FlatHashMap BidPointer (FlatHashSet Hash) :=
  r.sharedBuyerBidsMap.entries.foldl (hashBuyerBids lib r) ∅

/-! ## The query and its answer -/

def populateKAnonStatusForBids (r : SelectAdReactor) : SelectAdReactor :=
  { r with
    bidKAnonStatus := r.bidKAnonHashSets.entries.foldl (fun status bid =>
      status.insert bid.1
        (!r.enableEnforceKanon || bid.2.elems.all fun hash => hash ∈ r.queriedKAnonHashes))
      r.bidKAnonStatus }

/-- `QueryKAnonHashes`, to the end of the query. There is none when there is
nothing to ask for. -/
def queryKAnonHashes (lib : KeyLibrary) (outcome : KAnonQueryOutcome) (r : SelectAdReactor) :
    SelectAdReactor :=
  let r := { r with bidKAnonHashSets := r.getKAnonHashesForBids lib }
  let querySets := r.bidKAnonHashSets.entries.flatMap fun bid => bid.2.elems
  if r.bidKAnonHashSets.entries.isEmpty then r
  else if querySets.isEmpty then r
  else
    match outcome with
    | .callFailed => r.populateKAnonStatusForBids
    | .replyFailed => r
    | .replied response =>
      populateKAnonStatusForBids { r with queriedKAnonHashes := response }

/-! ## The request for the auction -/

/-- `BuildAdWithBidMetadata`, with the interest group's index remembered for the
private aggregation contributions. -/
def buildAdWithBidMetadata (r : SelectAdReactor) (input : AdWithBid ℚ)
    (interestGroupOwner : String) (kAnonStatus : Bool)
    (interestGroupIndexMap : FlatHashMap InterestGroupIdentity ℕ) :
    AdWithBidMetadata × FlatHashMap InterestGroupIdentity ℕ :=
  let interestGroups := (r.buyerInputs.lookup interestGroupOwner).getD []
  let interestGroupIdx := interestGroups.findIdx? fun ig => ig.name = input.interestGroupName
  let result : AdWithBidMetadata := {
    ad := input.ad.getD .null
    bid := input.bid
    render := input.render
    adComponents := input.adComponents
    interestGroupName := input.interestGroupName
    interestGroupOwner := interestGroupOwner
    bidCurrency := input.bidCurrency
    interestGroupOrigin :=
      ((interestGroups.find? fun ig => ig.name = input.interestGroupName).map fun ig =>
        ig.origin).getD ""
    buyerReportingId := input.buyerReportingId
    buyerAndSellerReportingId := input.buyerAndSellerReportingId
    selectedBuyerAndSellerReportingId := input.selectedBuyerAndSellerReportingId
    kAnonStatus := if r.enableEnforceKanon then kAnonStatus else true }
  match interestGroupIdx with
  | none => (result, interestGroupIndexMap)
  | some idx =>
    (result, FlatHashMap.emplace interestGroupIndexMap
      ⟨interestGroupOwner, input.interestGroupName⟩ idx)

/-- The bids in the order in which they are sent, each with its pointer. -/
def bidsToScore (r : SelectAdReactor) : List (BidPointer × AdWithBid ℚ) :=
  if r.isProtectedAudienceEnabled then
    r.sharedBuyerBidsMap.entries.flatMap fun buyer =>
      buyer.2.zipIdx.map fun bid => (⟨buyer.1, bid.2⟩, bid.1)
  else []

def addAdBid (r : SelectAdReactor)
    (acc : List AdWithBidMetadata × FlatHashMap InterestGroupIdentity ℕ)
    (bid : BidPointer × AdWithBid ℚ) :
    List AdWithBidMetadata × FlatHashMap InterestGroupIdentity ℕ :=
  let built := r.buildAdWithBidMetadata bid.2 bid.1.buyerIgOwner
    ((r.bidKAnonStatus.lookup bid.1).getD false) acc.2
  (acc.1 ++ [built.1], built.2)

/-- `CreateScoreAdsRequest`: the bids of the request, and the indices of their
interest groups. -/
def createScoreAdsRequest (r : SelectAdReactor) :
    List AdWithBidMetadata × FlatHashMap InterestGroupIdentity ℕ :=
  r.bidsToScore.foldl r.addAdBid ([], r.interestGroupIndexMap)

end SelectAdReactor

end BiddingAuction
