import BiddingAuction.KAnon.AuctionResultData

/-!
# From a score to an auction result

`proto_mapping_util`: what app clients and top-level auctions are sent. An error is
sent alone, a score as a winner, and no score as chaff.
-/

namespace BiddingAuction

variable {F : Type}

/-- The reporting URLs of one party, present in the result even when empty. -/
def presentUrls (urls : Option ReportingUrls) : Option ReportingUrls := some (urls.getD {})

def setReportingUrls (winReportingUrls : WinReportingUrls) : WinReportingUrls where
  buyerReportingUrls := presentUrls winReportingUrls.buyerReportingUrls
  topLevelSellerReportingUrls := presentUrls winReportingUrls.topLevelSellerReportingUrls
  componentSellerReportingUrls := presentUrls winReportingUrls.componentSellerReportingUrls

section

variable [Zero F] [LT F] [DecidableLT F]

def winnerAuctionResult (highScore : AdScore F) (kanonData : Option (KAnonAuctionResultData F)) :
    AuctionResult F where
  isChaff := false
  bid := if 0 < highScore.bid then highScore.bid else 0
  score := highScore.desirability
  interestGroupName := highScore.interestGroupName
  interestGroupOwner := highScore.interestGroupOwner
  interestGroupOrigin := highScore.interestGroupOrigin
  adRenderUrl := highScore.render
  winReportingUrls := setReportingUrls highScore.winReportingUrls
  topLevelContributions := highScore.topLevelContributions
  adComponentRenderUrls := highScore.componentRenders
  adType := highScore.adType
  kAnonGhostWinners := (kanonData.bind fun data => data.kanonGhostWinners).getD []
  kAnonWinnerJoinCandidates := kanonData.bind fun data => data.kanonWinnerJoinCandidates

def mapAdScoreToAuctionResult (highScore : Option (AdScore F)) (error : Option AuctionResultError)
    (kanonData : Option (KAnonAuctionResultData F)) : AuctionResult F :=
  match error, highScore with
  | some error, _ => { AuctionResult.unset with error := some error }
  | none, some highScore => winnerAuctionResult highScore kanonData
  | none, none => { AuctionResult.unset with isChaff := true }

/-- What a component auction adds to its result. -/
structure ComponentAuctionData where
  biddingGroups : Option BiddingGroupMap := none
  updateGroups : UpdateGroupMap := ∅
  seller : String := ""
  generationId : String := ""
  topLevelSeller : String := ""

def adScoreToAuctionResult (highScore : Option (AdScore F)) (error : Option AuctionResultError)
    (auctionScope : AuctionScope) (data : ComponentAuctionData)
    (kanonData : Option (KAnonAuctionResultData F)) : AuctionResult F :=
  let auctionResult := mapAdScoreToAuctionResult highScore error kanonData
  if highScore.isSome && auctionScope = .serverComponentMultiSeller then
    { auctionResult with
      auctionParams := ⟨data.generationId, data.seller⟩
      topLevelSeller := data.topLevelSeller
      biddingGroups := data.biddingGroups.getD ∅
      updateGroups := data.updateGroups }
  else auctionResult

end

end BiddingAuction
