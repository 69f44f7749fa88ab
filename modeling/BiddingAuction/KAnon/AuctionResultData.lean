import BiddingAuction.PrivateAggregation.Serialize

/-!
# K-anonymity data of an auction result

`k_anon_utils`: the ghost winners of an auction and the join candidate of its
winner, as they go into the auction result. In a component auction each ghost
winner also carries what the top-level auction needs to score it.
-/

namespace BiddingAuction

variable {F : Type}

def getGhostWinnerDataForTopLevelAuction (score : AdScore F) : GhostWinnerForTopLevelAuction F where
  adRenderUrl := score.render
  adComponentRenderUrls := score.componentRenders
  modifiedBid := score.bid
  bidCurrency := score.bidCurrency
  adMetadata := score.adMetadata
  buyerReportingId := score.buyerReportingId
  selectedBuyerAndSellerReportingId := score.selectedBuyerAndSellerReportingId
  buyerAndSellerReportingId := score.buyerAndSellerReportingId
  adType := score.adType

/-! ## Private aggregation signals -/

/-- `int_value` of a value, zero unless it is one. -/
def intValueOf : Option (PrivateAggregationValue F) → Int32
  | some (.intValue value) => value
  | _ => 0

def signalsOf (contribution : PrivateAggregateContribution F) :
    GhostWinnerPrivateAggregationSignals where
  bucket := convertIntArrayToByteString (contribution.bucket.getD (.bucket128Bit []))
  value := intValueOf contribution.value

/-- One turn of the loop over the contributions of the ghost winner's owner: only
those for a loss. -/
def addGhostWinnerSignals (ghostWinner : KAnonGhostWinner F)
    (contribution : PrivateAggregateContribution F) : KAnonGhostWinner F :=
  if contribution.event.eventType = .loss then
    { ghostWinner with
      ghostWinnerPrivateAggregationSignals :=
        ghostWinner.ghostWinnerPrivateAggregationSignals ++ [signalsOf contribution]
      interestGroupIndex := contribution.igIdx.getD ghostWinner.interestGroupIndex }
  else ghostWinner

/-- The loop over the responses. It ends at another adtech's once there are signals. -/
def populateSignals (owner : String) :
    List (PrivateAggregateReportingResponse F) → KAnonGhostWinner F → KAnonGhostWinner F
  | [], ghostWinner => ghostWinner
  | response :: responses, ghostWinner =>
    if response.adtechOrigin = owner then
      populateSignals owner responses
        (response.contributions.foldl addGhostWinnerSignals ghostWinner)
    else if ghostWinner.ghostWinnerPrivateAggregationSignals.isEmpty then
      populateSignals owner responses ghostWinner
    else ghostWinner

theorem addGhostWinnerSignals_identity (ghostWinner : KAnonGhostWinner F)
    (contributions : List (PrivateAggregateContribution F)) :
    (contributions.foldl addGhostWinnerSignals ghostWinner).owner = ghostWinner.owner ∧
      (contributions.foldl addGhostWinnerSignals ghostWinner).igName = ghostWinner.igName := by
  induction contributions generalizing ghostWinner with
  | nil => exact ⟨rfl, rfl⟩
  | cons contribution contributions ih =>
    rw [List.foldl_cons]
    obtain ⟨howner, hname⟩ := ih (addGhostWinnerSignals ghostWinner contribution)
    rw [howner, hname]
    unfold addGhostWinnerSignals
    split <;> exact ⟨rfl, rfl⟩

theorem populateSignals_identity (owner : String)
    (responses : List (PrivateAggregateReportingResponse F)) (ghostWinner : KAnonGhostWinner F) :
    (populateSignals owner responses ghostWinner).owner = ghostWinner.owner ∧
      (populateSignals owner responses ghostWinner).igName = ghostWinner.igName := by
  induction responses generalizing ghostWinner with
  | nil => exact ⟨rfl, rfl⟩
  | cons response responses ih =>
    unfold populateSignals
    split
    · obtain ⟨howner, hname⟩ := addGhostWinnerSignals_identity ghostWinner response.contributions
      rw [← howner, ← hname]
      exact ih _
    · split
      · exact ih ghostWinner
      · exact ⟨rfl, rfl⟩

def populateGhostWinnerPrivateAggregationSignals (score : AdScore F)
    (ghostWinner : KAnonGhostWinner F) : KAnonGhostWinner F :=
  populateSignals score.interestGroupOwner score.topLevelContributions ghostWinner

/-! ## The data of an auction -/

/-- The ghost winner of a score, in the auction that decided it. -/
def kAnonGhostWinnerOf (isComponentAuction : Bool)
    (getKAnonJoinCandidate : AdScore F → KAnonJoinCandidate) (score : AdScore F) :
    KAnonGhostWinner F :=
  let ghostWinner := populateGhostWinnerPrivateAggregationSignals score {
    owner := score.interestGroupOwner
    igName := score.interestGroupName }
  { ghostWinner with
    ghostWinnerForTopLevelAuction :=
      if isComponentAuction then some (getGhostWinnerDataForTopLevelAuction score) else none
    kAnonJoinCandidates := getKAnonJoinCandidate score }

/-- `GetKAnonAuctionResultData`, where the auction computes the join candidates. -/
def getKAnonAuctionResultData (highScore : Option (AdScore F))
    (ghostWinningScores : Option (List (AdScore F))) (isComponentAuction : Bool)
    (getKAnonJoinCandidate : AdScore F → KAnonJoinCandidate) : KAnonAuctionResultData F where
  kanonGhostWinners :=
    ghostWinningScores.map (List.map (kAnonGhostWinnerOf isComponentAuction getKAnonJoinCandidate))
  kanonWinnerJoinCandidates := highScore.map getKAnonJoinCandidate

/-- The ghost winner of a score of a top-level auction, which brings its join
candidate with it. -/
def topLevelGhostWinnerOf (score : AdScore F) : KAnonGhostWinner F where
  owner := score.interestGroupOwner
  igName := score.interestGroupName
  kAnonJoinCandidates := score.kAnonJoinCandidate.getD {}

/-- `GetKAnonAuctionResultData` of a top-level auction. -/
def getTopLevelKAnonAuctionResultData (highScore : Option (AdScore F))
    (ghostWinningScores : List (AdScore F)) : KAnonAuctionResultData F where
  kanonGhostWinners := some (ghostWinningScores.map topLevelGhostWinnerOf)
  kanonWinnerJoinCandidates := highScore.bind fun highScore => highScore.kAnonJoinCandidate

end BiddingAuction
