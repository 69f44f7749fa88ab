import BiddingAuction.PrivateAggregation.Handlers

/-!
# The signals of ghost winners

What is reported for a ghost winner is stored in its score, and `k_anon_utils` takes
the signals of the ghost winner from there. It selects by the event, which the
resolution has cleared: only what the score brought with it is selected.
-/

namespace BiddingAuction

variable {F : Type}

/-! ## What the signals are taken from -/

/-- The contributions of a response that signals are made of. -/
def lossContributions (response : PrivateAggregateReportingResponse F) :
    List (PrivateAggregateContribution F) :=
  response.contributions.filter fun contribution => contribution.event.eventType = .loss

/-- The loss contributions of a score: those of its owner's responses, from the first
that has any to the next response of another adtech. -/
def broughtForLoss (owner : String) (responses : List (PrivateAggregateReportingResponse F)) :
    List (PrivateAggregateContribution F) :=
  ((responses.dropWhile fun response =>
    response.adtechOrigin ≠ owner || (lossContributions response).isEmpty).takeWhile
      fun response => response.adtechOrigin = owner).flatMap lossContributions

theorem addGhostWinnerSignals_signals (ghostWinner : KAnonGhostWinner F)
    (contributions : List (PrivateAggregateContribution F)) :
    (contributions.foldl addGhostWinnerSignals ghostWinner).ghostWinnerPrivateAggregationSignals =
      ghostWinner.ghostWinnerPrivateAggregationSignals ++
        (contributions.filter fun contribution =>
          contribution.event.eventType = .loss).map signalsOf := by
  induction contributions generalizing ghostWinner with
  | nil => exact (List.append_nil _).symm
  | cons contribution contributions ih =>
    rw [List.foldl_cons, ih]
    unfold addGhostWinnerSignals
    by_cases hloss : contribution.event.eventType = .loss
    · rw [if_pos hloss, List.filter_cons_of_pos (by simp [hloss]), List.map_cons,
        List.append_assoc]
      rfl
    · rw [if_neg hloss, List.filter_cons_of_neg (by simp [hloss])]

theorem populateSignals_of_signals {owner : String}
    {responses : List (PrivateAggregateReportingResponse F)} {ghostWinner : KAnonGhostWinner F}
    (h : ghostWinner.ghostWinnerPrivateAggregationSignals ≠ []) :
    (populateSignals owner responses ghostWinner).ghostWinnerPrivateAggregationSignals =
      ghostWinner.ghostWinnerPrivateAggregationSignals ++
        ((responses.takeWhile fun response => response.adtechOrigin = owner).flatMap
          lossContributions).map signalsOf := by
  induction responses generalizing ghostWinner with
  | nil => exact (List.append_nil _).symm
  | cons response responses ih =>
    unfold populateSignals
    by_cases howner : response.adtechOrigin = owner
    · have hadded := addGhostWinnerSignals_signals ghostWinner response.contributions
      rw [if_pos howner, ih (by rw [hadded]; simp [h]), hadded,
        List.takeWhile_cons_of_pos (by simp [howner]), List.flatMap_cons, List.map_append,
        List.append_assoc]
      rfl
    · rw [if_neg howner, if_neg (by simp [h]), List.takeWhile_cons_of_neg (by simp [howner])]
      exact (List.append_nil _).symm

theorem populateSignals_signals {owner : String}
    {responses : List (PrivateAggregateReportingResponse F)} {ghostWinner : KAnonGhostWinner F}
    (h : ghostWinner.ghostWinnerPrivateAggregationSignals = []) :
    (populateSignals owner responses ghostWinner).ghostWinnerPrivateAggregationSignals =
      (broughtForLoss owner responses).map signalsOf := by
  unfold broughtForLoss
  induction responses generalizing ghostWinner with
  | nil => exact h
  | cons response responses ih =>
    unfold populateSignals
    have hadded := addGhostWinnerSignals_signals ghostWinner response.contributions
    rw [h, List.nil_append] at hadded
    by_cases howner : response.adtechOrigin = owner
    · rw [if_pos howner]
      cases hloss : (lossContributions response).isEmpty with
      | true =>
        rw [List.dropWhile_cons_of_pos (by simp [hloss])]
        refine ih ?_
        rw [hadded]
        unfold lossContributions at hloss
        rw [List.isEmpty_iff.mp hloss]
        rfl
      | false =>
        -- the first response with signals
        rw [List.dropWhile_cons_of_neg (by simp [howner, hloss]),
          List.takeWhile_cons_of_pos (by simp [howner]), List.flatMap_cons, List.map_append]
        rw [populateSignals_of_signals, hadded]
        · rfl
        · rw [hadded, ne_eq, List.map_eq_nil_iff]
          unfold lossContributions at hloss
          exact List.isEmpty_eq_false_iff.mp hloss
    · rw [if_neg howner, if_pos (by rw [h]; rfl), List.dropWhile_cons_of_pos (by simp [howner])]
      exact ih h

theorem addGhostWinnerSignals_silent {contributions : List (PrivateAggregateContribution F)}
    (h : ∀ contribution ∈ contributions, contribution.event.eventType ≠ .loss)
    (ghostWinner : KAnonGhostWinner F) :
    contributions.foldl addGhostWinnerSignals ghostWinner = ghostWinner := by
  induction contributions with
  | nil => rfl
  | cons contribution contributions ih =>
    rw [List.forall_mem_cons] at h
    rw [List.foldl_cons, addGhostWinnerSignals, if_neg h.1]
    exact ih h.2

theorem populateSignals_append_silent {owner : String}
    {responses silent : List (PrivateAggregateReportingResponse F)}
    (h : ∀ response ∈ silent, ∀ contribution ∈ response.contributions,
      contribution.event.eventType ≠ .loss)
    (ghostWinner : KAnonGhostWinner F) :
    populateSignals owner (responses ++ silent) ghostWinner =
      populateSignals owner responses ghostWinner := by
  induction responses generalizing ghostWinner with
  | cons response responses ih =>
    rw [List.cons_append]
    unfold populateSignals
    rw [ih, ih]
  | nil =>
    show populateSignals owner silent ghostWinner = ghostWinner
    induction silent with
    | nil => rfl
    | cons response silent ih =>
      rw [List.forall_mem_cons] at h
      unfold populateSignals
      rw [addGhostWinnerSignals_silent h.1, ih h.2]
      split
      · rfl
      · split <;> rfl

/-! ## What the handler stores -/

variable (ops : FloatOps F) (interestGroupIndexMap : FlatHashMap InterestGroupIdentity ℕ)

theorem handleGhostBids_event (ig : InterestGroupIdentity) (bids : List (AdWithBid F)) :
    ∀ contribution ∈ (handleGhostBids ops interestGroupIndexMap ig bids).1,
      contribution.event = {} := by
  induction bids with
  | nil =>
    intro contribution hmem
    cases hmem
  | cons ad ads ih =>
    rw [handleGhostBids]
    split
    · exact ih
    · split
      · exact ih
      · dsimp only
        split
        · exact ih
        · intro contribution hmem
          obtain ⟨resolved, hprocessed, rfl⟩ := List.mem_map.mp hmem
          obtain ⟨declared, -, hresolved⟩ := List.mem_filterMap.mp hprocessed
          show resolved.event = {}
          exact postAuction_event hresolved

/-- A ghost winner after the handler: all that is new is silent. -/
def StoredSilently (ghost handled : AdScore F) : Prop :=
  ∃ silent, handled = { ghost with
      topLevelContributions := ghost.topLevelContributions ++ silent } ∧
    ∀ response ∈ silent, ∀ contribution ∈ response.contributions,
      contribution.event.eventType ≠ .loss

theorem StoredSilently.refl (ghost : AdScore F) : StoredSilently ghost ghost := by
  refine ⟨[], ?_, by simp⟩
  rw [List.append_nil]

theorem handlePrivateAggregationContributionsForGhostWinner_stored
    (sharedBuyerBidsMap : BuyerBidsResponseMap F) (ghost : AdScore F) :
    StoredSilently ghost (handlePrivateAggregationContributionsForGhostWinner ops
      interestGroupIndexMap sharedBuyerBidsMap ghost).1 := by
  unfold handlePrivateAggregationContributionsForGhostWinner
  cases sharedBuyerBidsMap.lookup ghost.interestGroupOwner with
  | none => exact StoredSilently.refl ghost
  | some bids =>
    refine ⟨_, rfl, ?_⟩
    intro response hresponse contribution hmem
    unfold reportingResponse at hresponse
    split at hresponse
    · cases hresponse
    · obtain rfl := List.mem_singleton.mp hresponse
      rw [handleGhostBids_event ops interestGroupIndexMap _ bids contribution hmem]
      decide

theorem handleGhostWinners_stored (ghosts : List (AdScore F))
    (sharedBuyerBidsMap : BuyerBidsResponseMap F) :
    List.Forall₂ StoredSilently ghosts
      (handleGhostWinners ops interestGroupIndexMap ghosts sharedBuyerBidsMap).1 := by
  induction ghosts generalizing sharedBuyerBidsMap with
  | nil => exact .nil
  | cons ghost ghosts ih =>
    exact .cons (handlePrivateAggregationContributionsForGhostWinner_stored ops
      interestGroupIndexMap sharedBuyerBidsMap ghost) (ih _)

theorem onScoreAdsDone_ghostWinners (enableBuyerPrivateAggregateReporting : Bool)
    (sharedBuyerBidsMap : BuyerBidsResponseMap F) (response : ScoreAdsRawResponse F) :
    ∃ handled, List.Forall₂ StoredSilently response.ghostWinningAdScores handled ∧
      (onScoreAdsDone ops enableBuyerPrivateAggregateReporting interestGroupIndexMap
        sharedBuyerBidsMap response).ghostWinners =
          if handled.isEmpty then none else some handled := by
  unfold onScoreAdsDone
  cases enableBuyerPrivateAggregateReporting with
  | true =>
    refine ⟨_, handleGhostWinners_stored ops interestGroupIndexMap
      response.ghostWinningAdScores sharedBuyerBidsMap, ?_⟩
    cases response.adScore.filter fun adScore => ops.isPositive adScore.buyerBid <;> rfl
  | false =>
    refine ⟨response.ghostWinningAdScores, ?_, ?_⟩
    · rw [List.forall₂_same]
      intro ghost _
      exact StoredSilently.refl ghost
    · cases response.adScore.filter fun adScore => ops.isPositive adScore.buyerBid <;> rfl

theorem StoredSilently.signals {ghost handled : AdScore F} (h : StoredSilently ghost handled)
    (isComponentAuction : Bool) (getKAnonJoinCandidate : AdScore F → KAnonJoinCandidate) :
    (kAnonGhostWinnerOf isComponentAuction getKAnonJoinCandidate
        handled).ghostWinnerPrivateAggregationSignals =
      (broughtForLoss ghost.interestGroupOwner ghost.topLevelContributions).map signalsOf := by
  obtain ⟨silent, rfl, hsilent⟩ := h
  show (populateSignals ghost.interestGroupOwner (ghost.topLevelContributions ++ silent)
    _).ghostWinnerPrivateAggregationSignals = _
  rw [populateSignals_append_silent hsilent, populateSignals_signals rfl]

/-! ## Complete signals -/

def resolvedForGhost (ad : AdWithBid F) : List (PrivateAggregateContribution F) :=
  (ad.privateAggregationContributions.filter isLossEvent).filterMap
    (postAuction ops (ghostBaseValues ops))

/-- A bid of the ghost winner's buyer and interest group with anything resolved. -/
def ReportsFor (sharedBuyerBidsMap : BuyerBidsResponseMap F) (ghost : AdScore F)
    (ad : AdWithBid F) : Prop :=
  ad ∈ (sharedBuyerBidsMap.lookup ghost.interestGroupOwner).getD [] ∧
    ad.interestGroupName = ghost.interestGroupName ∧ resolvedForGhost ops ad ≠ []

/-- The signals are of exactly what one such bid has resolved, if there is one. -/
def CompleteSignals (sharedBuyerBidsMap : BuyerBidsResponseMap F) (ghost : AdScore F)
    (signals : List GhostWinnerPrivateAggregationSignals) : Prop :=
  (∃ ad, ReportsFor ops sharedBuyerBidsMap ghost ad) →
    ∃ ad, ReportsFor ops sharedBuyerBidsMap ghost ad ∧
      signals.Perm ((resolvedForGhost ops ad).map signalsOf)

/-- **Completeness of the signals.** Only the loss contributions that a score brought
with it can make them complete. -/
theorem completeSignals_iff (enableBuyerPrivateAggregateReporting isComponentAuction : Bool)
    (sharedBuyerBidsMap : BuyerBidsResponseMap F) (response : ScoreAdsRawResponse F)
    (getKAnonJoinCandidate : AdScore F → KAnonJoinCandidate) :
    List.Forall₂ (fun ghost ghostWinner =>
        CompleteSignals ops sharedBuyerBidsMap ghost
          (KAnonGhostWinner.ghostWinnerPrivateAggregationSignals ghostWinner))
      response.ghostWinningAdScores
      ((getKAnonAuctionResultData
        (onScoreAdsDone ops enableBuyerPrivateAggregateReporting interestGroupIndexMap
          sharedBuyerBidsMap response).highScore
        (onScoreAdsDone ops enableBuyerPrivateAggregateReporting interestGroupIndexMap
          sharedBuyerBidsMap response).ghostWinners
        isComponentAuction getKAnonJoinCandidate).kanonGhostWinners.getD []) ↔
    ∀ ghost ∈ response.ghostWinningAdScores,
      CompleteSignals ops sharedBuyerBidsMap ghost
        ((broughtForLoss ghost.interestGroupOwner ghost.topLevelContributions).map signalsOf) := by
  obtain ⟨handled, hhandled, hghosts⟩ := onScoreAdsDone_ghostWinners ops interestGroupIndexMap
    enableBuyerPrivateAggregateReporting sharedBuyerBidsMap response
  have hbuilt : (getKAnonAuctionResultData
      (onScoreAdsDone ops enableBuyerPrivateAggregateReporting interestGroupIndexMap
        sharedBuyerBidsMap response).highScore
      (onScoreAdsDone ops enableBuyerPrivateAggregateReporting interestGroupIndexMap
        sharedBuyerBidsMap response).ghostWinners
      isComponentAuction getKAnonJoinCandidate).kanonGhostWinners.getD [] =
      handled.map (kAnonGhostWinnerOf isComponentAuction getKAnonJoinCandidate) := by
    rw [hghosts]
    cases handled <;> rfl
  rw [hbuilt, List.forall₂_map_right_iff]
  clear hghosts hbuilt
  generalize response.ghostWinningAdScores = ghosts at hhandled ⊢
  induction hhandled with
  | nil => simp
  | cons hstored hrest ih =>
    rw [List.forall₂_cons, List.forall_mem_cons]
    refine and_congr ?_ ih
    rw [hstored.signals isComponentAuction getKAnonJoinCandidate]

section Example

def naturalNumbers : FloatOps ℕ where
  zero := 0
  isPositive x := 0 < x
  ofInt x := x.toNatClampNeg
  toInt := Int32.ofNat
  mulToUInt64 x y := UInt64.ofNat (x * y)
  mulToInt x y := Int32.ofNat (x.toNatClampNeg * y)
  uninitialized := 0

/-- A bid with one contribution for a loss, with nothing left to compute. -/
def exampleLosingBid : AdWithBid ℕ where
  bid := 1
  render := "https://ad.example/1"
  interestGroupName := "shoes"
  privateAggregationContributions := [
    { bucket := some (.bucket128Bit [1, 0])
      value := some (.intValue 5)
      event := { eventType := .loss, eventName := "reserved.loss" } }]

def exampleLosingBids : BuyerBidsResponseMap ℕ :=
  AList.insert "https://buyer.example" [exampleLosingBid] ∅

def exampleLosingGhost : AdScore ℕ where
  desirability := 1
  render := "https://ad.example/1"
  interestGroupName := "shoes"
  interestGroupOwner := "https://buyer.example"
  buyerBid := 1
  bid := 1
  incomingBidInSellerCurrency := 0

theorem exampleLosingBid_reports :
    ReportsFor naturalNumbers exampleLosingBids exampleLosingGhost exampleLosingBid := by
  refine ⟨?_, rfl, by decide⟩
  show exampleLosingBid ∈ [exampleLosingBid]
  exact List.mem_singleton_self _

/-- The contribution is resolved, and no signals are made of it. -/
theorem completeSignals_fails_on_loss_contribution :
    ¬ ∀ (enable isComponentAuction : Bool)
      (interestGroupIndexMap : FlatHashMap InterestGroupIdentity ℕ)
      (sharedBuyerBidsMap : BuyerBidsResponseMap ℕ) (response : ScoreAdsRawResponse ℕ)
      (getKAnonJoinCandidate : AdScore ℕ → KAnonJoinCandidate),
      List.Forall₂ (fun ghost ghostWinner =>
          CompleteSignals naturalNumbers sharedBuyerBidsMap ghost
            (KAnonGhostWinner.ghostWinnerPrivateAggregationSignals ghostWinner))
        response.ghostWinningAdScores
        ((getKAnonAuctionResultData
          (onScoreAdsDone naturalNumbers enable interestGroupIndexMap sharedBuyerBidsMap
            response).highScore
          (onScoreAdsDone naturalNumbers enable interestGroupIndexMap sharedBuyerBidsMap
            response).ghostWinners
          isComponentAuction getKAnonJoinCandidate).kanonGhostWinners.getD []) := by
  intro h
  have hall := h true false (AList.insert ⟨"https://buyer.example", "shoes"⟩ 0 ∅)
    exampleLosingBids { ghostWinningAdScores := [exampleLosingGhost] } fun _ => {}
  cases hall with
  | cons hcomplete _ =>
    obtain ⟨ad, hreports, hperm⟩ := hcomplete ⟨exampleLosingBid, exampleLosingBid_reports⟩
    have hempty : (resolvedForGhost naturalNumbers ad).map signalsOf = [] :=
      (List.Perm.nil_eq hperm).symm
    exact hreports.2.2 (List.map_eq_nil_iff.mp hempty)

end Example

end BiddingAuction
