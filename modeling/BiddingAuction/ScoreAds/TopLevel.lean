import BiddingAuction.ScoreAds.Dispatch
import BiddingAuction.SelectAd.AuctionResult

/-!
# Component winners in a top-level auction

A top-level auction scores the winner and the ghost winners of each component
result. What it reads of a result is one record each; the requests are built from
the records. The hand-over asks whether a record read from the result of a score
holds what the score said.
-/

namespace BiddingAuction

/-! ## What is read of a component result -/

structure ComponentWinner (F : Type) where
  adRenderUrl : String := ""
  adMetadata : String := ""
  bid : F
  interestGroupName : String := ""
  interestGroupOwner : String := ""
  adComponentRenderUrls : List String := []
  bidCurrency : String := ""
  adType : AdType := .unknown
  reportingData : ComponentReportingDataInAuctionResult := {}
  kAnonJoinCandidate : KAnonJoinCandidate := {}
deriving DecidableEq

structure ComponentGhostWinner (F : Type) where
  owner : String
  igName : String
  adRenderUrl : String
  adMetadata : String
  modifiedBid : F
  adComponentRenderUrls : List String
  bidCurrency : String
  adType : AdType
  kAnonJoinCandidate : KAnonJoinCandidate
deriving DecidableEq

variable {F : Type}

def getComponentReportingDataInAuctionResult (auctionResult : AuctionResult F) :
    ComponentReportingDataInAuctionResult where
  componentSeller := auctionResult.auctionParams.componentSeller
  buyerReportingUrls := auctionResult.winReportingUrls.buyerReportingUrls.getD {}
  componentSellerReportingUrls :=
    auctionResult.winReportingUrls.componentSellerReportingUrls.getD {}
  topLevelSellerReportingUrls := auctionResult.winReportingUrls.topLevelSellerReportingUrls.getD {}
  buyerReportingId := auctionResult.buyerReportingId.getD ""
  buyerAndSellerReportingId := auctionResult.buyerAndSellerReportingId.getD ""

def componentWinner (auctionResult : AuctionResult F) : ComponentWinner F where
  adRenderUrl := auctionResult.adRenderUrl
  adMetadata := auctionResult.adMetadata
  bid := auctionResult.bid
  interestGroupName := auctionResult.interestGroupName
  interestGroupOwner := auctionResult.interestGroupOwner
  adComponentRenderUrls := auctionResult.adComponentRenderUrls
  bidCurrency := auctionResult.bidCurrency
  adType := auctionResult.adType
  reportingData := getComponentReportingDataInAuctionResult auctionResult
  kAnonJoinCandidate := auctionResult.kAnonWinnerJoinCandidates.getD {}

/-- The ghost winners that carry data for the top-level auction. -/
def componentGhostWinners (auctionResult : AuctionResult F) : List (ComponentGhostWinner F) :=
  auctionResult.kAnonGhostWinners.filterMap fun ghostWinner =>
    ghostWinner.ghostWinnerForTopLevelAuction.map fun data => {
      owner := ghostWinner.owner
      igName := ghostWinner.igName
      adRenderUrl := data.adRenderUrl
      adMetadata := data.adMetadata
      modifiedBid := data.modifiedBid
      adComponentRenderUrls := data.adComponentRenderUrls
      bidCurrency := data.bidCurrency
      adType := data.adType
      kAnonJoinCandidate := ghostWinner.kAnonJoinCandidates }

/-! ## The requests -/

def makeBidMetadataForTopLevelAuction (lib : Library)
    (publisherHostname interestGroupOwner renderUrl : String) (adComponentRenderUrls : List String)
    (componentSeller bidCurrency : String) (sellerDataVersion : UInt32) : String :=
  let bidMetadataDoc := startMakingBidMetadataJson publisherHostname interestGroupOwner
    adComponentRenderUrls bidCurrency sellerDataVersion ++
    [("componentSeller", .string componentSeller), ("renderUrl", .string renderUrl)]
  (lib.serializeJsonDoc (.object bidMetadataDoc)).getD "\x7b\x7d"

def mapAuctionResultToAdWithBidMetadata (winner : ComponentWinner ℚ) : AdWithBidMetadata where
  bid := winner.bid
  render := winner.adRenderUrl
  adComponents := winner.adComponentRenderUrls
  interestGroupName := winner.interestGroupName
  interestGroupOwner := winner.interestGroupOwner
  bidCurrency := winner.bidCurrency
  kAnonStatus := true

def mapAuctionResultToProtectedAppSignalsAdWithBidMetadata (winner : ComponentWinner ℚ) :
    ProtectedAppSignalsAdWithBidMetadata where
  bid := winner.bid
  render := winner.adRenderUrl
  owner := winner.interestGroupOwner
  bidCurrency := winner.bidCurrency
  kAnonStatus := true

def mapKAnonGhostWinnerToAdWithBidMetadata (ghostWinner : ComponentGhostWinner ℚ) :
    AdWithBidMetadata where
  bid := ghostWinner.modifiedBid
  render := ghostWinner.adRenderUrl
  adComponents := ghostWinner.adComponentRenderUrls
  interestGroupName := ghostWinner.igName
  interestGroupOwner := ghostWinner.owner
  bidCurrency := ghostWinner.bidCurrency
  kAnonStatus := false

def mapKAnonGhostWinnerToProtectedAppSignalsAdWithBidMetadata
    (ghostWinner : ComponentGhostWinner ℚ) : ProtectedAppSignalsAdWithBidMetadata where
  bid := ghostWinner.modifiedBid
  render := ghostWinner.adRenderUrl
  owner := ghostWinner.owner
  bidCurrency := ghostWinner.bidCurrency
  kAnonStatus := false

namespace ScoreAdsReactor

/-- The ad kept under a dispatch id, in the map of its type; `none` on a conflict of
ids and for an unknown type. -/
def keepAd (r : ScoreAdsReactor) (id : String) (adType : AdType) (ad : AdWithBidMetadata)
    (appAd : ProtectedAppSignalsAdWithBidMetadata) : Option ScoreAdsReactor :=
  match adType with
  | .protectedAudienceAd =>
    if id ∈ r.adData then none else some { r with adData := r.adData.insert id ad }
  | .protectedAppSignalsAd =>
    if id ∈ r.protectedAppSignalsAdData then none
    else some { r with
      protectedAppSignalsAdData := r.protectedAppSignalsAdData.insert id appAd }
  | .unknown => none

variable (lib : Library) (enableDebugReporting : Bool) (auctionConfig : String)

/-- The requests so far, with the generation id of the results taken. -/
structure TopLevelRequests where
  reactor : ScoreAdsReactor
  dispatchRequests : List DispatchRequest := []
  generationId : String := ""

/-- `BuildScoreAdRequestForComponentWinner`. The component seller is moved out of the
result when the request is sent. -/
def buildScoreAdRequestForComponentWinner (t : TopLevelRequests)
    (auctionResult : AuctionResult ℚ) : TopLevelRequests × AuctionResult ℚ :=
  let r := t.reactor
  let winner := componentWinner auctionResult
  match buildScoreAdRequest lib winner.adRenderUrl (.string winner.adMetadata) "\x7b\x7d" winner.bid
      auctionConfig
      (makeBidMetadataForTopLevelAuction lib r.rawRequest.publisherHostname
        winner.interestGroupOwner winner.adRenderUrl winner.adComponentRenderUrls
        winner.reportingData.componentSeller winner.bidCurrency r.rawRequest.sellerDataVersion)
      r.enableAdtechCodeLogging enableDebugReporting r.codeVersion with
  | none => (t, auctionResult)
  | some dispatchRequest =>
    if dispatchRequest.id ∈ r.componentLevelReportingData then (t, auctionResult)
    else
      let r := { r with
        componentLevelReportingData :=
          r.componentLevelReportingData.insert dispatchRequest.id winner.reportingData }
      match r.keepAd dispatchRequest.id winner.adType (mapAuctionResultToAdWithBidMetadata winner)
          (mapAuctionResultToProtectedAppSignalsAdWithBidMetadata winner) with
      | none => ({ t with reactor := r }, auctionResult)
      | some r =>
        ({ t with
            reactor := { r with
              componentAdSeller := FlatHashMap.emplace r.componentAdSeller dispatchRequest.id
                winner.reportingData.componentSeller
              adKAnonJoinCand := FlatHashMap.emplace r.adKAnonJoinCand dispatchRequest.id
                winner.kAnonJoinCandidate }
            dispatchRequests := t.dispatchRequests ++ [r.withTimeout dispatchRequest] },
          { auctionResult with
            auctionParams := { auctionResult.auctionParams with componentSeller := "" } })

def buildScoreAdRequestForComponentGhostWinner (componentSeller : String)
    (t : TopLevelRequests) (ghostWinner : ComponentGhostWinner ℚ) : TopLevelRequests :=
  let r := t.reactor
  match buildScoreAdRequest lib ghostWinner.adRenderUrl (.string ghostWinner.adMetadata)
      "\x7b\x7d" ghostWinner.modifiedBid auctionConfig
      (makeBidMetadataForTopLevelAuction lib r.rawRequest.publisherHostname ghostWinner.owner
        ghostWinner.adRenderUrl ghostWinner.adComponentRenderUrls componentSeller
        ghostWinner.bidCurrency r.rawRequest.sellerDataVersion)
      r.enableAdtechCodeLogging enableDebugReporting r.codeVersion with
  | none => t
  | some dispatchRequest =>
    match r.keepAd dispatchRequest.id ghostWinner.adType
        (mapKAnonGhostWinnerToAdWithBidMetadata ghostWinner)
        (mapKAnonGhostWinnerToProtectedAppSignalsAdWithBidMetadata ghostWinner) with
    | none => t
    | some r =>
      { t with
        reactor := { r with
          adKAnonJoinCand := FlatHashMap.emplace r.adKAnonJoinCand dispatchRequest.id
            ghostWinner.kAnonJoinCandidate }
        dispatchRequests := t.dispatchRequests ++ [r.withTimeout dispatchRequest] }

def buildScoreAdRequestForComponentGhostWinners (t : TopLevelRequests)
    (auctionResult : AuctionResult ℚ) : TopLevelRequests :=
  (componentGhostWinners auctionResult).foldl
    (buildScoreAdRequestForComponentGhostWinner lib enableDebugReporting auctionConfig
      auctionResult.auctionParams.componentSeller) t

def addComponentAuctionResult (t : TopLevelRequests) (auctionResult : AuctionResult ℚ) :
    Except String TopLevelRequests :=
  let resultGenerationId := auctionResult.auctionParams.ciphertextGenerationId
  if auctionResult.isChaff || auctionResult.auctionParams.componentSeller.isEmpty then .ok t
  else if !t.generationId.isEmpty && t.generationId ≠ resultGenerationId then
    .error "Mismatched generation ids in component auction results."
  else
    let t := { t with
      generationId := if t.generationId.isEmpty then resultGenerationId else t.generationId }
    let (t, auctionResult) :=
      if auctionResult.adRenderUrl.isEmpty then (t, auctionResult)
      else buildScoreAdRequestForComponentWinner lib enableDebugReporting auctionConfig t
        auctionResult
    .ok (if t.reactor.enableEnforceKanon then
      buildScoreAdRequestForComponentGhostWinners lib enableDebugReporting auctionConfig t
        auctionResult
      else t)

def populateTopLevelAuctionDispatchRequests (r : ScoreAdsReactor)
    (componentAuctionResults : List (AuctionResult ℚ)) : Except String TopLevelRequests :=
  componentAuctionResults.foldlM
    (addComponentAuctionResult lib enableDebugReporting auctionConfig) { reactor := r }

end ScoreAdsReactor

/-! ## The hand-over -/

section HandOver

def winnerOfScore (seller : String) (joinCandidate : KAnonJoinCandidate) (score : AdScore F) :
    ComponentWinner F where
  adRenderUrl := score.render
  adMetadata := score.adMetadata
  bid := score.bid
  interestGroupName := score.interestGroupName
  interestGroupOwner := score.interestGroupOwner
  adComponentRenderUrls := score.componentRenders
  bidCurrency := score.bidCurrency
  adType := score.adType
  reportingData := {
    componentSeller := seller
    buyerReportingUrls := score.winReportingUrls.buyerReportingUrls.getD {}
    componentSellerReportingUrls := score.winReportingUrls.componentSellerReportingUrls.getD {}
    topLevelSellerReportingUrls := score.winReportingUrls.topLevelSellerReportingUrls.getD {}
    buyerReportingId := score.buyerReportingId.getD ""
    buyerAndSellerReportingId := score.buyerAndSellerReportingId.getD "" }
  kAnonJoinCandidate := joinCandidate

def ghostWinnerOfScore (joinCandidate : KAnonJoinCandidate) (score : AdScore F) :
    ComponentGhostWinner F where
  owner := score.interestGroupOwner
  igName := score.interestGroupName
  adRenderUrl := score.render
  adMetadata := score.adMetadata
  modifiedBid := score.bid
  adComponentRenderUrls := score.componentRenders
  bidCurrency := score.bidCurrency
  adType := score.adType
  kAnonJoinCandidate := joinCandidate

def unsetWinner [Zero F] (seller : String) : ComponentWinner F where
  bid := 0
  reportingData := { componentSeller := seller }

theorem componentGhostWinners_of_scores (result : AuctionResult F)
    (getKAnonJoinCandidate : AdScore F → KAnonJoinCandidate) (scores : List (AdScore F))
    (h : result.kAnonGhostWinners = scores.map (kAnonGhostWinnerOf true getKAnonJoinCandidate)) :
    componentGhostWinners result =
      scores.map fun score => ghostWinnerOfScore (getKAnonJoinCandidate score) score := by
  unfold componentGhostWinners
  rw [h, List.filterMap_map, ← List.filterMap_eq_map']
  refine List.filterMap_congr fun score _ => ?_
  obtain ⟨howner, hname⟩ := populateSignals_identity score.interestGroupOwner
    score.topLevelContributions
    { owner := score.interestGroupOwner, igName := score.interestGroupName }
  have howner' : (kAnonGhostWinnerOf true getKAnonJoinCandidate score).owner =
      score.interestGroupOwner := howner
  have hname' : (kAnonGhostWinnerOf true getKAnonJoinCandidate score).igName =
      score.interestGroupName := hname
  have hdata : (kAnonGhostWinnerOf true getKAnonJoinCandidate score).ghostWinnerForTopLevelAuction =
      some (getGhostWinnerDataForTopLevelAuction score) := rfl
  rw [Function.comp_apply, hdata, Option.map_some, howner', hname']
  rfl

variable [Zero F] [LT F] [DecidableLT F]

/-- The result a component auction hands over for its scores. -/
def handedOver (highScore : Option (AdScore F)) (ghostWinningScores : List (AdScore F))
    (error : Option AuctionResultError) (data : ComponentAuctionData)
    (getKAnonJoinCandidate : AdScore F → KAnonJoinCandidate) : AuctionResult F :=
  adScoreToAuctionResult highScore error .serverComponentMultiSeller data
    (some (getKAnonAuctionResultData highScore (some ghostWinningScores) true
      getKAnonJoinCandidate))

/-- All that the top-level auction reads of the result is as the scores had it. -/
def HandsOver (highScore : Option (AdScore F)) (ghostWinningScores : List (AdScore F))
    (error : Option AuctionResultError) (data : ComponentAuctionData)
    (getKAnonJoinCandidate : AdScore F → KAnonJoinCandidate) : Prop :=
  let result := handedOver highScore ghostWinningScores error data getKAnonJoinCandidate
  (∀ score, highScore = some score →
    componentWinner result = winnerOfScore data.seller (getKAnonJoinCandidate score) score) ∧
  componentGhostWinners result =
    ghostWinningScores.map fun score => ghostWinnerOfScore (getKAnonJoinCandidate score) score

/-- The mapping has a field in the result for each field set in the score. -/
structure MapsAllFields (score : AdScore F) : Prop where
  bid : 0 < score.bid ∨ score.bid = 0
  bidCurrency : score.bidCurrency = ""
  adMetadata : score.adMetadata = ""
  buyerReportingId : score.buyerReportingId.getD "" = ""
  buyerAndSellerReportingId : score.buyerAndSellerReportingId.getD "" = ""

theorem componentWinner_of_score (score : AdScore F) (data : ComponentAuctionData)
    (ghostWinningScores : List (AdScore F))
    (getKAnonJoinCandidate : AdScore F → KAnonJoinCandidate) :
    componentWinner (handedOver (some score) ghostWinningScores none data getKAnonJoinCandidate) =
        winnerOfScore data.seller (getKAnonJoinCandidate score) score ↔
      MapsAllFields score := by
  have hbid : (if 0 < score.bid then score.bid else 0) = score.bid ↔
      0 < score.bid ∨ score.bid = 0 := by
    by_cases hpos : 0 < score.bid
    · simp [hpos]
    · simp [hpos, eq_comm]
  constructor
  · intro h
    refine ⟨hbid.mp (congrArg ComponentWinner.bid h), ?_, ?_, ?_, ?_⟩
    · exact (congrArg ComponentWinner.bidCurrency h).symm
    · exact (congrArg ComponentWinner.adMetadata h).symm
    · exact (congrArg (fun w => w.reportingData.buyerReportingId) h).symm
    · exact (congrArg (fun w => w.reportingData.buyerAndSellerReportingId) h).symm
  · rintro ⟨hpos, hcurrency, hmetadata, hbuyer, hbuyerSeller⟩
    unfold winnerOfScore
    rw [hcurrency, hmetadata, hbuyer, hbuyerSeller, ← hbid.mpr hpos]
    rfl

/-- The hand-over is faithful just when the mapping has a place for each field that is
set, and, without a winner, when there is no ghost winner either. An error is sent
alone, so nothing else may be set. -/
theorem handsOver_iff (highScore : Option (AdScore F)) (ghostWinningScores : List (AdScore F))
    (error : Option AuctionResultError) (data : ComponentAuctionData)
    (getKAnonJoinCandidate : AdScore F → KAnonJoinCandidate) :
    HandsOver highScore ghostWinningScores error data getKAnonJoinCandidate ↔
      (error = none ∧ (∀ score, highScore = some score → MapsAllFields score) ∧
        (highScore = none → ghostWinningScores = [])) ∨
      (error ≠ none ∧ (∀ score, highScore = some score →
        winnerOfScore data.seller (getKAnonJoinCandidate score) score = unsetWinner data.seller) ∧
        ghostWinningScores = []) := by
  unfold HandsOver
  cases error with
  | some error =>
    -- the result holds the error, and the seller where there is a score
    have hghosts : componentGhostWinners (handedOver highScore ghostWinningScores (some error) data
        getKAnonJoinCandidate) = [] := by
      cases highScore <;> rfl
    simp only [hghosts, reduceCtorEq, false_and, ne_eq, not_false_eq_true, true_and, false_or]
    refine and_congr ?_ ?_
    · refine forall_congr' fun score => ?_
      refine imp_congr_right fun hscore => ?_
      subst hscore
      exact eq_comm
    · rw [eq_comm, List.map_eq_nil_iff]
  | none =>
    simp only [true_and, ne_eq, not_true_eq_false, false_and, or_false]
    cases highScore with
    | none =>
      have hghosts : componentGhostWinners (handedOver none ghostWinningScores none data
          getKAnonJoinCandidate) = [] := rfl
      rw [hghosts, eq_comm (a := []), List.map_eq_nil_iff]
      simp
    | some score =>
      have hghosts := componentGhostWinners_of_scores
        (handedOver (some score) ghostWinningScores none data getKAnonJoinCandidate)
        getKAnonJoinCandidate ghostWinningScores rfl
      simp only [hghosts, and_true, Option.some.injEq, forall_eq', reduceCtorEq, false_implies]
      exact componentWinner_of_score score data ghostWinningScores getKAnonJoinCandidate

def exampleComponentScore : AdScore ℚ where
  desirability := 1
  render := "https://ad.example/ad"
  interestGroupName := "shoes"
  interestGroupOwner := "https://buyer.example"
  buyerBid := 1
  bid := 1
  incomingBidInSellerCurrency := 0
  adType := .protectedAudienceAd
  bidCurrency := "EUR"

/-- The currency does not reach the top-level auction. -/
theorem handsOver_loses_bid_currency :
    ¬ ∀ (highScore : Option (AdScore ℚ)) (ghostWinningScores : List (AdScore ℚ))
      (data : ComponentAuctionData) (getKAnonJoinCandidate : AdScore ℚ → KAnonJoinCandidate),
      HandsOver highScore ghostWinningScores none data getKAnonJoinCandidate := by
  intro h
  obtain ⟨hwinner, -⟩ := h (some exampleComponentScore) [] {} fun _ => {}
  have hcurrency := congrArg ComponentWinner.bidCurrency (hwinner exampleComponentScore rfl)
  revert hcurrency
  decide

end HandOver

end BiddingAuction
