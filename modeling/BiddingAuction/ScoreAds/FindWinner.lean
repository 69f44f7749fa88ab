import BiddingAuction.Common.Reporting
import BiddingAuction.Foundation.Ranking
import BiddingAuction.ScoreAds.Scoring

/-!
# `FindWinningAd` and the callback around it

`FindWinningAd` moves rejected ads to the end and drops them, sorts the others,
gathers candidates in one pass and draws the winner and the ghost winners among
them; the callback then fills the response. What sorting, sampling and the
conversion of a score to `int` leave open is a parameter.
-/

namespace BiddingAuction

open Foundation

namespace ScoredAdData

abbrev desirability (ad : ScoredAdData) : ℚ := ad.adScore.desirability

/-- `operator>`: by desirability, then bid, then k-anonymity. -/
def isGreater (ad other : ScoredAdData) : Bool :=
  if ad.desirability > other.desirability then
    true
  else if ad.desirability = other.desirability then
    if ad.adScore.buyerBid > other.adScore.buyerBid then
      true
    else if ad.adScore.buyerBid = other.adScore.buyerBid then
      ad.kAnonStatus && !other.kAnonStatus
    else
      false
  else
    false

end ScoredAdData

def truncate (d : ℚ) : ℤ := d.num.tdiv d.den

/-- What the standard library and the compiler leave open. A score whose integer
part does not fit into an `int` may be converted to any `int`. -/
structure Choices where
  sortAds : Sorting fun ad other : ScoredAdData => ad.isGreater other
  sample : Sampling ℕ
  toInt : ℚ → ℤ
  toInt_eq : ∀ d, |d| < 2 ^ 31 → toInt d = truncate d
  toInt_lt : ∀ d, toInt d < 2 ^ 31
  le_toInt : ∀ d, -2 ^ 31 ≤ toInt d
  /-- `std::sort` by `[](int a, int b) { return a > b; }`. -/
  sortScores : Sorting fun a b : ℚ => toInt b < toInt a

/-- `ScoringData`; there is no winner where `winner_index` is -1. -/
structure ScoringData where
  winnerIndex : Option ℕ := none
  sellerRejectedBidCount : ℕ := 0
  scoreAdMap : FlatHashMap ℚ (List ℕ) := ∅
  adRejectionReasons : List AdRejectionReason := []
  winnerCandIndices : List ℕ := []
  ghostWinnerCandIndices : List ℕ := []
  ghostWinnerIndices : List ℕ := []

namespace ScoreAdsReactor

variable (r : ScoreAdsReactor) (lib : Library) (ch : Choices)

/-! ## Dropping the rejected ads -/

/-- The first loop: `parsed_ads[0, index)` are kept, `parsed_ads[index, end)` are
still to do. -/
structure Screening where
  kept : List ScoredAdData := []
  todo : List ScoredAdData
  adScores : FlatHashMap String (AdScore ℚ) := ∅
  adRejectionReasons : List AdRejectionReason := []
  sellerRejectedBidCount : ℕ := 0

/-- The ads to do without the first, the last moved to its place. -/
def swapWithLast (rest : List ScoredAdData) : List ScoredAdData :=
  rest.getLast?.toList ++ rest.dropLast

def screenAd (s : Screening) : Screening :=
  match s.todo with
  | [] => s
  | ad :: rest =>
    let adScores := FlatHashMap.emplace s.adScores ad.id ad.adScore
    let updated := r.withModifiedBid ad
    match r.rejection lib updated with
    | some reason => { s with
        todo := swapWithLast rest
        adScores := adScores
        adRejectionReasons := s.adRejectionReasons ++ [reason]
        sellerRejectedBidCount := s.sellerRejectedBidCount + 1 }
    | none =>
      if r.isComponentAuctionNotAllowed updated.adScore then
        { s with todo := swapWithLast rest, adScores := adScores }
      else
        { s with kept := s.kept ++ [updated], todo := rest, adScores := adScores }

def screenAds (parsedAds : List ScoredAdData) : Screening :=
  (r.screenAd lib)^[parsedAds.length] { todo := parsedAds }

/-! ## Gathering the candidates -/

/-- `AddIfCandsEmptyOrHasEqLastDesirability`; the desirability arrives as an `int`. -/
def addIfCandsEmptyOrHasEqLastDesirability (indToAdd : ℕ) (desirability : ℤ)
    (parsedAds : List ScoredAdData) (cands : List ℕ) : List ℕ :=
  match cands.getLast? with
  | none => cands ++ [indToAdd]
  | some back =>
    if (parsedAds[back]?.map ScoredAdData.desirability) = some (desirability : ℚ) then
      cands ++ [indToAdd]
    else
      cands

/-- The second loop: the ads and the candidates so far. -/
structure Candidates where
  parsedAds : List ScoredAdData
  winnerCandIndices : List ℕ := []
  ghostWinnerCandIndices : List ℕ := []

def clearDebugReportUrls (ad : ScoredAdData) : ScoredAdData :=
  { ad with adScore := { ad.adScore with debugReportUrls := none } }

def considerAd (toInt : ℚ → ℤ) (c : Candidates) (ind : ℕ) : Candidates :=
  match c.parsedAds[ind]? with
  | none => c
  | some ad =>
    if ad.desirability ≤ 0 then
      c
    else if ad.kAnonStatus then
      { c with
        winnerCandIndices := addIfCandsEmptyOrHasEqLastDesirability ind
          (toInt ad.desirability) c.parsedAds c.winnerCandIndices }
    else if c.winnerCandIndices.isEmpty then
      let parsedAds := c.parsedAds.set ind (clearDebugReportUrls ad)
      { c with
        parsedAds := parsedAds
        ghostWinnerCandIndices := addIfCandsEmptyOrHasEqLastDesirability ind
          (toInt ad.desirability) parsedAds c.ghostWinnerCandIndices }
    else
      c

def gatherCandidates (toInt : ℚ → ℤ) (parsedAds : List ScoredAdData) : Candidates :=
  (List.range parsedAds.length).foldl (considerAd toInt) { parsedAds := parsedAds }

/-! ## Choosing -/

/-- An `int32` as a `size_t`. -/
def toSizeT (n : Int32) : ℕ := (n.toInt % 2 ^ 64).toNat

/-- The winner's index of `ChooseWinnerAndGhostWinners`. -/
def chooseWinner (sample : Sampling ℕ) (winnerCandIndices : List ℕ) : Option ℕ :=
  (sample.sample winnerCandIndices 1).head?

/-- The ghost winners' indices of `ChooseWinnerAndGhostWinners`. -/
def chooseGhostWinners (sample : Sampling ℕ) (maxGhostWinners : ℕ)
    (ghostWinnerCandIndices : List ℕ) : List ℕ :=
  if ghostWinnerCandIndices.length < maxGhostWinners then
    ghostWinnerCandIndices
  else
    sample.sample ghostWinnerCandIndices (min maxGhostWinners ghostWinnerCandIndices.length)

/-- The indices of the ads with each score, ghost winner candidates left out. -/
def scoreAdMap (parsedAds : List ScoredAdData) (ghostWinnerCands : List ℕ) :
    FlatHashMap ℚ (List ℕ) :=
  FlatHashMap.groupBy (fun entry => entry.1.desirability) Prod.snd
    (parsedAds.zipIdx.filter fun entry => entry.2 ∉ ghostWinnerCands)

/-- What `FindWinningAd` leaves: the ads it kept in their order, `ad_scores_` and
the scoring data. -/
structure Found where
  parsedAds : List ScoredAdData
  adScores : FlatHashMap String (AdScore ℚ)
  scoringData : ScoringData

def findWinningAd (parsedAds : List ScoredAdData) : Found :=
  let screened := r.screenAds lib parsedAds
  let sorted := ch.sortAds.sort screened.kept
  let cands := gatherCandidates ch.toInt sorted
  { parsedAds := cands.parsedAds
    adScores := screened.adScores
    scoringData := {
      winnerIndex := chooseWinner ch.sample cands.winnerCandIndices
      sellerRejectedBidCount := screened.sellerRejectedBidCount
      scoreAdMap := scoreAdMap cands.parsedAds cands.ghostWinnerCandIndices
      adRejectionReasons := screened.adRejectionReasons
      winnerCandIndices := cands.winnerCandIndices
      ghostWinnerCandIndices := cands.ghostWinnerCandIndices
      ghostWinnerIndices := chooseGhostWinners ch.sample
        (toSizeT r.rawRequest.numAllowedGhostWinners) cands.ghostWinnerCandIndices } }

/-! ## Filling the response -/

def populateSeller (requestId : String) (adScore : AdScore ℚ) : AdScore ℚ :=
  if r.auctionScope = .serverTopLevelSeller then
    match r.componentAdSeller.lookup requestId with
    | some seller => { adScore with seller := seller }
    | none => adScore
  else
    adScore

/-- `PopulateRelevantFieldsInResponse`: the score with the fields of its ad, and
the reactor after the ad's components were swapped with those of the score. -/
def populateRelevantFieldsInResponse (ad : ScoredAdData) : AdScore ℚ × ScoreAdsReactor :=
  let requestId := ad.id
  match r.findScoredAdType requestId with
  | some (.protectedAudience found) =>
    let adScore := { ad.adScore with
      render := found.render
      componentRenders := found.adComponents }
    let swapped := { found with adComponents := ad.adScore.componentRenders }
    (r.populateSeller requestId adScore, { r with adData := r.adData.insert requestId swapped })
  | some (.protectedAppSignals found) =>
    (r.populateSeller requestId { ad.adScore with render := found.render }, r)
  | none => (r.populateSeller requestId ad.adScore, r)

/-- The owner and the bid recorded for another ad, in the seller's currency if
there is one. -/
def otherBid (adScores : FlatHashMap String (AdScore ℚ)) (id : String) : String × ℚ :=
  let own := match r.findScoredAdType id with
    | some (.protectedAudience ad) => (ad.interestGroupOwner, ad.bid)
    | some (.protectedAppSignals ad) => (ad.owner, ad.bid)
    | none => ("", 0)
  if r.rawRequest.sellerCurrency != "" then
    match adScores.lookup id with
    | some adScore => (own.1, adScore.incomingBidInSellerCurrency)
    | none => own
  else
    own

/-- The scores whose bids are recorded: the first two, up to a zero. -/
def topScores (m : FlatHashMap ℚ (List ℕ)) : List ℚ :=
  ((ch.sortScores.sort m.keys).take 2).takeWhile fun score => score != 0

def otherIndices (indexOfMostDesirableAdScore : ℕ) (m : FlatHashMap ℚ (List ℕ)) : List ℕ :=
  ((topScores ch m).flatMap fun score => (m.lookup score).getD []).filter fun ind =>
    ind != indexOfMostDesirableAdScore

/-- `PopulateHighestScoringOtherBidsData`: the map put in the winning score, where
`UpdateHighestScoringOtherBidMap` adds each bid to the list of its owner. -/
def highestScoringOtherBids (indexOfMostDesirableAdScore : ℕ) (found : Found) :
    FlatHashMap String (List ℚ) :=
  if r.auctionScope = .serverTopLevelSeller then
    ∅
  else
    FlatHashMap.groupBy Prod.fst Prod.snd
      ((otherIndices ch indexOfMostDesirableAdScore found.scoringData.scoreAdMap).map fun ind =>
        r.otherBid found.adScores ((found.parsedAds[ind]?.map ScoredAdData.id).getD ""))

/-- What the callback leaves: the response, the dispatch id recorded for the
winner, which is also handed to the private aggregation reporting, and the id the
win is reported under. -/
structure Served where
  adScore : Option (AdScore ℚ) := none
  ghostWinningAdScores : List (AdScore ℚ) := []
  winningAdDispatchId : Option String := none
  reportingId : Option String := none

def addGhostWinnersToResponse (ghostWinners : List ScoredAdData) :
    List (AdScore ℚ) × ScoreAdsReactor :=
  ghostWinners.foldl (fun acc ghostWinner =>
    let populated := acc.2.populateRelevantFieldsInResponse ghostWinner
    (acc.1 ++ [populated.1], populated.2)) ([], r)

/-- `ScoreAdsCallback`; `none` when it reads the value of a failed response. -/
def scoreAdsCallback (responses : List RomaResponse) : Option Served :=
  let found := r.findWinningAd lib ch (r.collectValidRomaResponses lib responses)
  let data := found.scoringData
  let ghosts := r.addGhostWinnersToResponse
    (data.ghostWinnerIndices.filterMap fun ind => found.parsedAds[ind]?)
  match data.winnerIndex with
  | none => some { ghostWinningAdScores := ghosts.1 }
  | some winnerIndex => do
    let response ← responses[winnerIndex]?
    let id ← response.toOption.map DispatchResponse.id
    let winner ← found.parsedAds[winnerIndex]?
    let adScore := { (ghosts.2.populateRelevantFieldsInResponse winner).1 with
      igOwnerHighestScoringOtherBidsMap := ghosts.2.highestScoringOtherBids ch winnerIndex found
      adRejectionReasons := data.adRejectionReasons }
    return {
      adScore := some adScore
      ghostWinningAdScores := ghosts.1
      winningAdDispatchId := some id
      reportingId := some winner.id }

end ScoreAdsReactor

end BiddingAuction

/-!
# From the winner to the reporting

What `ScoreAdsCallback` has set when the reporting starts: the signals of the
auction, and the interest groups of the ghost winners.
-/

namespace BiddingAuction

namespace ScoreAdsReactor

variable (r : ScoreAdsReactor)

/-- `SetPostAuctionSignals`; not called without a winner. -/
def postAuctionSignals (ord : HashOrder) (memory : Memory) (winner : Option (AdScore ℚ)) :
    PostAuctionSignals :=
  match winner with
  | none => .uninitialized memory
  | some adScore =>
    if r.auctionScope = .serverTopLevelSeller then
      PostAuctionSignals.generateForTopLevelSeller adScore
    else
      PostAuctionSignals.generate ord adScore r.rawRequest.sellerCurrency

/-- `ghost_winner_interest_group_data_`: one interest group per owner. -/
def ghostWinnerInterestGroupData (ghostWinningAdScores : List (AdScore ℚ)) :
    FlatHashMap String String :=
  ghostWinningAdScores.foldl (fun m ghostWinner =>
    FlatHashMap.emplace m ghostWinner.interestGroupOwner ghostWinner.interestGroupName) ∅

/-- The interest group of a scored ad: its owner and its name. -/
def interestGroup? (id : String) : Option (String × String) :=
  (r.findScoredAdType id).map fun ad =>
    ((getScoringDataFromAd ad).interestGroupOwner, (getScoringDataFromAd ad).interestGroupName)

end ScoreAdsReactor

end BiddingAuction
