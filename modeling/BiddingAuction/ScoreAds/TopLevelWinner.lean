import BiddingAuction.ScoreAds.TopLevelCandidates
import BiddingAuction.ScoreAds.Winner

/-!
# The winner of a top-level auction

What the response says of the component auction of the winner is looked up under
its dispatch id. The ad kept under that id decides which result supplied it.
-/

namespace BiddingAuction

namespace ScoreAdsReactor

/-! ## The winning score -/

def renderOf : ScoredAdType → String
  | .protectedAudience ad => ad.render
  | .protectedAppSignals ad => ad.render

def okIds (responses : List RomaResponse) : List String :=
  responses.filterMap fun response => response.toOption.map DispatchResponse.id

section Score

variable {r r' : ScoreAdsReactor} {lib : Library} {ad : ScoredAdData}

structure IsUnset (adScore : AdScore ℚ) : Prop where
  seller : adScore.seller = ""
  winReportingUrls : adScore.winReportingUrls = {}
  buyerReportingId : adScore.buyerReportingId = none
  buyerAndSellerReportingId : adScore.buyerAndSellerReportingId = none

/-- A score as it comes out of the response, with the data of its ad. -/
structure ScoredFor (r : ScoreAdsReactor) (ad : ScoredAdData) (found : ScoredAdType) : Prop where
  isFound : r.findScoredAdType ad.id = some found
  kAnonStatus : ad.kAnonStatus =
    (!r.enableEnforceKanon || (getScoringDataFromAd found).kAnonStatus)
  interestGroupOwner :
    ad.adScore.interestGroupOwner = (getScoringDataFromAd found).interestGroupOwner
  buyerBid : ad.adScore.buyerBid = (getScoringDataFromAd found).buyerBid
  adType : ad.adScore.adType = (getScoringDataFromAd found).adType
  unset : IsUnset ad.adScore

theorem scoreAdResponseJsonToProto_unset {scoreAdResp : Json} {maxSize : ℤ} {component : Bool}
    {adScore : AdScore ℚ}
    (h : scoreAdResponseJsonToProto lib scoreAdResp maxSize component = some adScore) :
    IsUnset adScore ∧ adScore.kAnonJoinCandidate = none := by
  have hnumber : ∀ value, IsUnset (AdScore.ofDesirability value) ∧
      (AdScore.ofDesirability value).kAnonJoinCandidate = none :=
    fun value => ⟨⟨rfl, rfl, rfl, rfl⟩, rfl⟩
  unfold scoreAdResponseJsonToProto at h
  split at h
  · cases h
    exact hnumber _
  · cases h
    exact hnumber _
  · dsimp only at h
    split at h
    · obtain ⟨s, hs, h⟩ := Option.bind_eq_some_iff.mp h
      obtain ⟨metadata, -, hmetadata⟩ := Option.bind_eq_some_iff.mp hs
      cases hmetadata
      split at h <;> cases h <;> exact ⟨⟨rfl, rfl, rfl, rfl⟩, rfl⟩
    · obtain ⟨s, hs, h⟩ := Option.bind_eq_some_iff.mp h
      cases hs
      split at h <;> cases h <;> exact ⟨⟨rfl, rfl, rfl, rfl⟩, rfl⟩

variable (r) in
theorem mayAddKAnonJoinCandidate_unset (requestId : String) {adScore : AdScore ℚ}
    (h : IsUnset adScore) : IsUnset (r.mayAddKAnonJoinCandidate requestId adScore) := by
  unfold mayAddKAnonJoinCandidate
  split
  · split
    · exact ⟨h.seller, h.winReportingUrls, h.buyerReportingId, h.buyerAndSellerReportingId⟩
    · exact h
  · exact h

theorem scoredFor_of_scoredAd {response : RomaResponse} (h : r.scoredAd lib response = some ad) :
    (∃ found, ScoredFor r ad found) ∧ response.toOption.map DispatchResponse.id = some ad.id ∧
      (r.auctionScope = .serverTopLevelSeller →
        ad.adScore.kAnonJoinCandidate = r.adKAnonJoinCand.lookup ad.id) := by
  unfold scoredAd at h
  obtain ⟨ok, hok, h⟩ := Option.bind_eq_some_iff.mp h
  obtain ⟨found, hfound, h⟩ := Option.bind_eq_some_iff.mp h
  obtain ⟨wrapper, -, h⟩ := Option.bind_eq_some_iff.mp h
  obtain ⟨adScore, hadScore, h⟩ := Option.bind_eq_some_iff.mp h
  obtain ⟨hunset, hjoin⟩ := scoreAdResponseJsonToProto_unset hadScore
  cases h
  obtain ⟨hseller, hurls, hbuyerId, hbothId⟩ :=
    mayAddKAnonJoinCandidate_unset r ok.id hunset
  refine ⟨⟨found, hfound, rfl, rfl, rfl, rfl, hseller, hurls, hbuyerId, hbothId⟩, ?_, ?_⟩
  · rw [hok]
    rfl
  · intro hscope
    show (r.mayAddKAnonJoinCandidate ok.id adScore).kAnonJoinCandidate = _
    unfold mayAddKAnonJoinCandidate
    rw [if_pos hscope]
    cases hlookup : r.adKAnonJoinCand.lookup ok.id with
    | none => exact hjoin
    | some candidate => rfl

theorem moveKAnonJoinCandidate_same (requestId : String) :
    (r.moveKAnonJoinCandidate requestId).withoutCandidates = r.withoutCandidates ∧
    (r.moveKAnonJoinCandidate requestId).findScoredAdType = r.findScoredAdType ∧
    ∀ id ≠ requestId, (r.moveKAnonJoinCandidate requestId).adKAnonJoinCand.lookup id =
      r.adKAnonJoinCand.lookup id := by
  unfold moveKAnonJoinCandidate
  split
  · exact ⟨rfl, rfl, fun id hne => AList.lookup_insert_ne hne⟩
  · exact ⟨rfl, rfl, fun _ _ => rfl⟩

theorem ScoredFor.congr {found : ScoredAdType}
    (hsettings : r'.withoutCandidates = r.withoutCandidates)
    (hfind : r'.findScoredAdType = r.findScoredAdType) (h : ScoredFor r' ad found) :
    ScoredFor r ad found :=
  { h with
    isFound := hfind ▸ h.isFound
    kAnonStatus := by
      have henforce := congrArg ScoreAdsReactor.enableEnforceKanon hsettings
      have henforce : r'.enableEnforceKanon = r.enableEnforceKanon := henforce
      rw [h.kAnonStatus, henforce] }

/-- Each scored ad has the data of the ad it is found under; if no other response
has its id it has the join candidate of that id. -/
theorem scoredFor_of_mem {responses : List RomaResponse}
    (hmem : ad ∈ r.collectValidRomaResponses lib responses) :
    (∃ found, ScoredFor r ad found) ∧ ad.id ∈ okIds responses ∧
      (r.auctionScope = .serverTopLevelSeller → (okIds responses).count ad.id ≤ 1 →
        ad.adScore.kAnonJoinCandidate = r.adKAnonJoinCand.lookup ad.id) := by
  induction responses generalizing r with
  | nil => exact absurd hmem List.not_mem_nil
  | cons response responses ih =>
    rw [collectValidRomaResponses] at hmem
    split at hmem
    · obtain ⟨hfor, hid, hjoin⟩ := ih hmem
      have hsub : (okIds responses).Sublist (okIds (response :: responses)) :=
        (List.sublist_cons_self _ _).filterMap _
      exact ⟨hfor, hsub.subset hid, fun hscope hcount =>
        hjoin hscope ((hsub.count_le _).trans hcount)⟩
    · rename_i first hfirst
      obtain ⟨hfor, hid, hjoin⟩ := scoredFor_of_scoredAd hfirst
      have hids : okIds (response :: responses) = first.id :: okIds responses :=
        List.filterMap_cons_some hid
      rw [hids]
      rcases List.mem_cons.mp hmem with rfl | hmem
      · exact ⟨hfor, List.mem_cons_self, fun hscope _ => hjoin hscope⟩
      · obtain ⟨⟨found, hfor⟩, hid, hjoin⟩ := ih hmem
        obtain ⟨hsettings, hfind, hothers⟩ := moveKAnonJoinCandidate_same (r := r) first.id
        refine ⟨⟨found, hfor.congr hsettings hfind⟩, List.mem_cons_of_mem _ hid, ?_⟩
        intro hscope hcount
        have hne : ad.id ≠ first.id := by
          intro heq
          rw [heq, List.count_cons_self, ← heq] at hcount
          have := List.count_pos_iff.mpr hid
          omega
        have hscope' : (r.moveKAnonJoinCandidate first.id).auctionScope =
            .serverTopLevelSeller := by
          have heq := congrArg ScoreAdsReactor.auctionScope hsettings
          exact Eq.trans heq hscope
        rw [hjoin hscope' (by rw [List.count_cons_of_ne (Ne.symm hne)] at hcount; exact hcount),
          hothers _ hne]

/-- What filling in the fields of an ad leaves as it was in the score. -/
structure SameScore (s s' : AdScore ℚ) : Prop where
  interestGroupOwner : s.interestGroupOwner = s'.interestGroupOwner
  buyerBid : s.buyerBid = s'.buyerBid
  adType : s.adType = s'.adType
  winReportingUrls : s.winReportingUrls = s'.winReportingUrls
  buyerReportingId : s.buyerReportingId = s'.buyerReportingId
  buyerAndSellerReportingId : s.buyerAndSellerReportingId = s'.buyerAndSellerReportingId
  kAnonJoinCandidate : s.kAnonJoinCandidate = s'.kAnonJoinCandidate

/-- In the reactors the same fields are filled in. -/
structure SameFields (r r' : ScoreAdsReactor) : Prop where
  auctionScope : r'.auctionScope = r.auctionScope
  componentAdSeller : r'.componentAdSeller = r.componentAdSeller
  render : ∀ id, (r'.findScoredAdType id).map renderOf = (r.findScoredAdType id).map renderOf

theorem SameFields.trans {r'' : ScoreAdsReactor} (h : SameFields r r') (h' : SameFields r' r'') :
    SameFields r r'' :=
  ⟨h'.auctionScope.trans h.auctionScope, h'.componentAdSeller.trans h.componentAdSeller,
    fun id => (h'.render id).trans (h.render id)⟩

theorem populateRelevantFieldsInResponse_sameFields (ad : ScoredAdData) :
    SameFields r (r.populateRelevantFieldsInResponse ad).2 := by
  unfold populateRelevantFieldsInResponse
  dsimp only
  split
  · rename_i found hfound
    refine ⟨rfl, rfl, fun id => ?_⟩
    by_cases hid : id = ad.id
    · subst hid
      rw [hfound]
      simp [findScoredAdType, AList.lookup_insert, renderOf]
    · simp [findScoredAdType, AList.lookup_insert_ne hid]
  · exact ⟨rfl, rfl, fun _ => rfl⟩
  · exact ⟨rfl, rfl, fun _ => rfl⟩

theorem addGhostWinnersToResponse_sameFields (ghostWinners : List ScoredAdData) :
    SameFields r (r.addGhostWinnersToResponse ghostWinners).2 := by
  unfold addGhostWinnersToResponse
  induction ghostWinners using List.reverseRecOn with
  | nil => exact ⟨rfl, rfl, fun _ => rfl⟩
  | append_singleton ghostWinners ghostWinner ih =>
    rw [List.foldl_append]
    exact ih.trans (populateRelevantFieldsInResponse_sameFields ghostWinner)

theorem populateSeller_score (hscope : r.auctionScope = .serverTopLevelSeller)
    (requestId : String) (s : AdScore ℚ) :
    (r.populateSeller requestId s).render = s.render ∧
      (r.populateSeller requestId s).seller =
        (r.componentAdSeller.lookup requestId).getD s.seller ∧
      SameScore (r.populateSeller requestId s) s := by
  unfold populateSeller
  rw [if_pos hscope]
  cases r.componentAdSeller.lookup requestId <;>
    exact ⟨rfl, rfl, rfl, rfl, rfl, rfl, rfl, rfl, rfl⟩

theorem populateRelevantFieldsInResponse_score (hscope : r.auctionScope = .serverTopLevelSeller)
    {found : ScoredAdType} (hfound : r.findScoredAdType ad.id = some found) :
    (r.populateRelevantFieldsInResponse ad).1.render = renderOf found ∧
      (r.populateRelevantFieldsInResponse ad).1.seller =
        (r.componentAdSeller.lookup ad.id).getD ad.adScore.seller ∧
      SameScore (r.populateRelevantFieldsInResponse ad).1 ad.adScore := by
  unfold populateRelevantFieldsInResponse
  dsimp only
  rw [hfound]
  have hseller := r.populateSeller_score hscope ad.id
  cases found with
  | protectedAudience found =>
    obtain ⟨hrender, hseller, hsame⟩ := hseller
      { ad.adScore with render := found.render, componentRenders := found.adComponents }
    exact ⟨hrender, hseller, ⟨hsame.interestGroupOwner, hsame.buyerBid, hsame.adType,
      hsame.winReportingUrls, hsame.buyerReportingId, hsame.buyerAndSellerReportingId,
      hsame.kAnonJoinCandidate⟩⟩
  | protectedAppSignals found =>
    obtain ⟨hrender, hseller, hsame⟩ := hseller { ad.adScore with render := found.render }
    exact ⟨hrender, hseller, ⟨hsame.interestGroupOwner, hsame.buyerBid, hsame.adType,
      hsame.winReportingUrls, hsame.buyerReportingId, hsame.buyerAndSellerReportingId,
      hsame.kAnonJoinCandidate⟩⟩

theorem winningScore (hscope : r.auctionScope = .serverTopLevelSeller) {ch : Choices}
    {responses : List RomaResponse} {served : Served} {score : AdScore ℚ}
    (hserved : r.scoreAdsCallback lib ch responses = some served)
    (hscore : served.adScore = some score) :
    ∃ ad ∈ r.collectValidRomaResponses lib responses, ∃ found, ScoredFor r ad found ∧
      ad.kAnonStatus = true ∧ served.reportingId = some ad.id ∧ score.render = renderOf found ∧
      score.seller = (r.componentAdSeller.lookup ad.id).getD "" ∧ SameScore score ad.adScore := by
  unfold scoreAdsCallback at hserved
  dsimp only at hserved
  cases hind : (r.findWinningAd lib ch
      (r.collectValidRomaResponses lib responses)).scoringData.winnerIndex with
  | none =>
    rw [hind] at hserved
    cases hserved
    cases hscore
  | some ind =>
    rw [hind] at hserved
    obtain ⟨response, -, hserved⟩ := Option.bind_eq_some_iff.mp hserved
    obtain ⟨id, -, hserved⟩ := Option.bind_eq_some_iff.mp hserved
    obtain ⟨winner, hwinner, hserved⟩ := Option.bind_eq_some_iff.mp hserved
    obtain ⟨winner', hat, -, hmay⟩ := r.winner_of_winnerIndex lib ch hind
    obtain rfl := Option.some.inj (hwinner.symm.trans hat)
    obtain ⟨ad, had, heq⟩ := List.mem_map.mp hmay.accepted
    have hmem := List.mem_of_mem_filter had
    -- outside component auctions the bid is not modified
    have hsame : r.withModifiedBid ad = ad := by
      unfold withModifiedBid checkAndUpdateModifiedBid
      rw [hscope, if_neg (fun h => Bool.false_ne_true h.1)]
    rw [hsame] at heq
    subst heq
    obtain ⟨⟨found, hfor⟩, -, -⟩ := scoredFor_of_mem hmem
    cases hserved
    cases hscore
    generalize (r.findWinningAd lib ch (r.collectValidRomaResponses lib responses)) = f
    have hfields := addGhostWinnersToResponse_sameFields (r := r)
      (f.scoringData.ghostWinnerIndices.filterMap fun ind => f.parsedAds[ind]?)
    generalize (r.addGhostWinnersToResponse
      (f.scoringData.ghostWinnerIndices.filterMap fun ind => f.parsedAds[ind]?)) = ghosts at hfields
    have hrender := hfields.render ad.id
    rw [hfor.isFound] at hrender
    obtain ⟨found', hfound', hrender⟩ := Option.map_eq_some_iff.mp hrender
    obtain ⟨hrender', hseller, hsame⟩ := populateRelevantFieldsInResponse_score
      (hfields.auctionScope.trans hscope) hfound'
    refine ⟨ad, hmem, found, hfor, hmay.kAnonymous, rfl, hrender'.trans hrender, ?_, ?_⟩
    · rw [hfields.componentAdSeller, hfor.unset.seller] at hseller
      exact hseller
    · exact ⟨hsame.interestGroupOwner, hsame.buyerBid, hsame.adType, hsame.winReportingUrls,
        hsame.buyerReportingId, hsame.buyerAndSellerReportingId, hsame.kAnonJoinCandidate⟩

end Score

/-! ## The candidates are kept apart -/

/-- The URLs agree, in whatever order the events are stored. -/
def SameUrls (urls urls' : ReportingUrls) : Prop :=
  urls.reportingUrl = urls'.reportingUrl ∧ ∀ event,
    urls.interactionReportingUrls.lookup event = urls'.interactionReportingUrls.lookup event

theorem putReportingUrls_same (added : ReportingUrls) :
    SameUrls (putReportingUrls {} added) added := by
  refine ⟨rfl, fun event => ?_⟩
  show AList.lookup _ (List.foldl _ _ _) = _
  rw [FlatHashMap.lookup_foldl_emplace (AList.nodupKeys _), AList.lookup_empty, Option.none_or]
  rfl

/-- All that a winning score says of a component auction is from one result. -/
structure SuppliedBy (result : AuctionResult ℚ) (score : AdScore ℚ) : Prop where
  render : score.render = result.adRenderUrl
  interestGroupOwner : score.interestGroupOwner = result.interestGroupOwner
  buyerBid : score.buyerBid = result.bid
  adType : score.adType = result.adType
  seller : score.seller = result.auctionParams.componentSeller
  componentSellerReportingUrls :
    SameUrls (score.winReportingUrls.componentSellerReportingUrls.getD {})
      (result.winReportingUrls.componentSellerReportingUrls.getD {})
  buyerReportingUrls : SameUrls (score.winReportingUrls.buyerReportingUrls.getD {})
    (result.winReportingUrls.buyerReportingUrls.getD {})
  buyerReportingId : ∀ id ∈ score.buyerReportingId, id = result.buyerReportingId.getD ""
  buyerAndSellerReportingId : ∀ id ∈ score.buyerAndSellerReportingId,
    id = result.buyerAndSellerReportingId.getD ""

theorem reportWinForTopLevelAuction_same (r : ScoreAdsReactor) (winnerId : String)
    (reportResult : Option ReportingUrls) (score : AdScore ℚ) :
    (r.reportWinForTopLevelAuction winnerId reportResult score).render = score.render ∧
    (r.reportWinForTopLevelAuction winnerId reportResult score).seller = score.seller ∧
    (r.reportWinForTopLevelAuction winnerId reportResult score).interestGroupOwner =
      score.interestGroupOwner ∧
    (r.reportWinForTopLevelAuction winnerId reportResult score).buyerBid = score.buyerBid ∧
    (r.reportWinForTopLevelAuction winnerId reportResult score).adType = score.adType ∧
    (r.reportWinForTopLevelAuction winnerId reportResult score).kAnonJoinCandidate =
      score.kAnonJoinCandidate := by
  unfold reportWinForTopLevelAuction populateComponentReportingUrlsInTopLevelResponse
    setReportingIdsForTopLevelAuction
  dsimp only
  cases r.componentLevelReportingData.lookup winnerId <;>
    cases r.enableReportResultUrlGeneration <;>
    cases r.enableSellerAndBuyerCodeIsolation && (r.findScoredAdType winnerId).isSome <;>
    cases reportResult <;> exact ⟨rfl, rfl, rfl, rfl, rfl, rfl⟩

theorem reportWinForTopLevelAuction_data {r : ScoreAdsReactor} {winnerId : String}
    {data : ComponentReportingDataInAuctionResult}
    (hdata : r.componentLevelReportingData.lookup winnerId = some data)
    (reportResult : Option ReportingUrls) {score : AdScore ℚ}
    (hurls : score.winReportingUrls = {}) (hbuyerId : score.buyerReportingId = none)
    (hbothId : score.buyerAndSellerReportingId = none) :
    let reported := r.reportWinForTopLevelAuction winnerId reportResult score
    SameUrls (reported.winReportingUrls.componentSellerReportingUrls.getD {})
        data.componentSellerReportingUrls ∧
      SameUrls (reported.winReportingUrls.buyerReportingUrls.getD {}) data.buyerReportingUrls ∧
      (∀ id ∈ reported.buyerReportingId, id = data.buyerReportingId) ∧
      ∀ id ∈ reported.buyerAndSellerReportingId, id = data.buyerAndSellerReportingId := by
  unfold reportWinForTopLevelAuction populateComponentReportingUrlsInTopLevelResponse
    setReportingIdsForTopLevelAuction
  dsimp only
  rw [hdata]
  have hseller := putReportingUrls_same data.componentSellerReportingUrls
  have hbuyer := putReportingUrls_same data.buyerReportingUrls
  cases r.enableReportResultUrlGeneration <;>
    cases r.enableSellerAndBuyerCodeIsolation && (r.findScoredAdType winnerId).isSome <;>
    cases reportResult <;>
    simp [hurls, hbuyerId, hbothId, hseller, hbuyer, setSellerReportingUrlsInResponse]

section Kept

variable (r : ScoreAdsReactor) (lib : Library) (enableDebugReporting : Bool)
  (auctionConfig : String)

/-- What is kept apart, when `winners` are dispatched of the results. -/
structure KeptApart (results winners : List (AuctionResult ℚ)) (t : TopLevelRequests) : Prop where
  sublist : winners.Sublist (results.filter hasKnownWinner)
  distinct : (winners.map AuctionResult.adRenderUrl).Nodup
  dispatched : r.forTopLevelAuction.DispatchedFor lib enableDebugReporting auctionConfig results
    winners t
  unshared : ∀ before result after, results = before ++ result :: after →
    hasKnownWinner result = true → Unshared r.enableEnforceKanon before result → result ∈ winners
  supplied : ∀ ch responses reportResult score,
    t.reactor.topLevelAdScore lib ch responses reportResult = some score →
      ∃ result ∈ winners, SuppliedBy result score ∧
        ((∀ other ∈ results, ∀ adType, ¬ hasGhost other adType result.adRenderUrl) →
          (okIds responses).Subperm (t.dispatchRequests.map DispatchRequest.id) →
            score.kAnonJoinCandidate = some (componentWinner result).kAnonJoinCandidate)

variable {r lib enableDebugReporting auctionConfig}

theorem CandidatesInv.count_le_one {done winners : List (AuctionResult ℚ)} {t : TopLevelRequests}
    (inv : CandidatesInv r lib enableDebugReporting auctionConfig done winners t) {id : String}
    (hnone : ∀ other ∈ done, ∀ adType, ¬ hasGhost other adType id) :
    (t.dispatchRequests.map DispatchRequest.id).count id ≤ 1 := by
  obtain ⟨ghosts, hperm, hghosts⟩ := inv.dispatched
  have hzero : (ghosts.map DispatchRequest.id).count id = 0 := by
    refine List.count_eq_zero.mpr fun hmem => ?_
    obtain ⟨request, hrequest, rfl⟩ := List.mem_map.mp hmem
    obtain ⟨other, hother, adType, hghost⟩ := hghosts request hrequest
    exact hnone other hother adType hghost
  have hwinners : (winners.map (r.forTopLevelAuction.winnerRequest lib enableDebugReporting
      auctionConfig)).map DispatchRequest.id = winners.map AuctionResult.adRenderUrl := by
    rw [List.map_map]
    rfl
  rw [(hperm.map DispatchRequest.id).count_eq, List.map_append, List.count_append, hwinners, hzero,
    Nat.add_zero]
  exact List.nodup_iff_count_le_one.mp inv.distinct id

theorem CandidatesInv.winner_of_scored {done winners : List (AuctionResult ℚ)}
    {t : TopLevelRequests}
    (inv : CandidatesInv r lib enableDebugReporting auctionConfig done winners t)
    {ad : ScoredAdData} {found : ScoredAdType} (hfor : ScoredFor t.reactor ad found)
    (hk : ad.kAnonStatus = true) :
    ∃ result ∈ winners,
      result.adRenderUrl = ad.id ∧ winnerAd (componentWinner result) = some found := by
  obtain ⟨adType, hstored⟩ := findScoredAdType_stored hfor.isFound
  rcases inv.stored _ _ _ hstored with ⟨result, hmem, -, hurl, had⟩ | ⟨henforce, hnot, -⟩
  · exact ⟨result, hmem, hurl, had⟩
  · have hstatus := hfor.kAnonStatus
    rw [hk, hnot, inv.enforceKanon_eq, henforce] at hstatus
    cases hstatus

theorem winnerAd_data {winner : ComponentWinner ℚ} {found : ScoredAdType}
    (h : winnerAd winner = some found) :
    renderOf found = winner.adRenderUrl ∧
      (getScoringDataFromAd found).interestGroupOwner = winner.interestGroupOwner ∧
      (getScoringDataFromAd found).buyerBid = winner.bid ∧
      (getScoringDataFromAd found).adType = winner.adType := by
  unfold winnerAd adOfType at h
  cases htype : winner.adType <;> rw [htype] at h <;> cases h <;> exact ⟨rfl, rfl, rfl, rfl⟩

/-- Winners are dispatched once, those with a URL of their own without exception;
whichever ad wins, what the response says of its component auction is from the result
that supplied it, and so is the join candidate of a URL that no ghost winner has. -/
theorem topLevelCandidates_keptApart {results : List (AuctionResult ℚ)} {t : TopLevelRequests}
    (h : r.forTopLevelAuction.populateTopLevelAuctionDispatchRequests lib enableDebugReporting
      auctionConfig results = .ok t) :
    ∃ winners, KeptApart r lib enableDebugReporting auctionConfig results winners t := by
  obtain ⟨winners, inv⟩ := candidatesInv_of_populate h
  refine ⟨winners, inv.sublist, inv.distinct, inv.dispatched, inv.unshared, ?_⟩
  intro ch responses reportResult score hscore
  obtain ⟨served, hserved, hscore⟩ := Option.bind_eq_some_iff.mp hscore
  obtain ⟨base, hbase, hscore⟩ := Option.bind_eq_some_iff.mp hscore
  obtain ⟨winnerId, hid, hscore⟩ := Option.bind_eq_some_iff.mp hscore
  have hscope : t.reactor.auctionScope = .serverTopLevelSeller := by
    have heq := congrArg ScoreAdsReactor.auctionScope inv.settings
    exact heq
  obtain ⟨ad, hmem, found, hfor, hk, hid', hrender, hseller, hsame⟩ :=
    winningScore hscope hserved hbase
  obtain rfl := Option.some.inj (hid.symm.trans hid')
  obtain ⟨result, hresult, hurl, had⟩ := inv.winner_of_scored hfor hk
  obtain ⟨hrender', howner, hbid, htype⟩ := winnerAd_data had
  obtain ⟨hreporting, hseller', hjoin⟩ := inv.own result hresult
  rw [hurl] at hreporting hseller' hjoin
  cases hscore
  obtain ⟨hr, hs, ho, hb, ht, hj⟩ :=
    t.reactor.reportWinForTopLevelAuction_same ad.id reportResult base
  obtain ⟨hsellerUrls, hbuyerUrls, hbuyerId, hbothId⟩ :=
    reportWinForTopLevelAuction_data hreporting reportResult
      (hsame.winReportingUrls.trans hfor.unset.winReportingUrls)
      (hsame.buyerReportingId.trans hfor.unset.buyerReportingId)
      (hsame.buyerAndSellerReportingId.trans hfor.unset.buyerAndSellerReportingId)
  refine ⟨result, hresult, ⟨?_, ?_, ?_, ?_, ?_, hsellerUrls, hbuyerUrls, hbuyerId, hbothId⟩, ?_⟩
  · rw [hr, hrender, hrender']
    rfl
  · rw [ho, hsame.interestGroupOwner, hfor.interestGroupOwner, howner]
    rfl
  · rw [hb, hsame.buyerBid, hfor.buyerBid, hbid]
    rfl
  · rw [ht, hsame.adType, hfor.adType, htype]
    rfl
  · rw [hs, hseller, hseller']
    rfl
  · intro hnone hanswers
    rw [hurl] at hnone
    obtain ⟨-, -, hcandidate⟩ := scoredFor_of_mem hmem
    have hcount := (hanswers.count_le ad.id).trans (inv.count_le_one hnone)
    rw [hj, hsame.kAnonJoinCandidate, hcandidate hscope hcount, hjoin hnone]

variable (r lib enableDebugReporting auctionConfig) in
def DispatchesEachWinner (results : List (AuctionResult ℚ)) : Prop :=
  ∀ t, r.forTopLevelAuction.populateTopLevelAuctionDispatchRequests lib enableDebugReporting
    auctionConfig results = .ok t →
    r.forTopLevelAuction.DispatchedFor lib enableDebugReporting auctionConfig results
      (results.filter hasKnownWinner) t

def sameAdResults : List (AuctionResult ℚ) :=
  let result (componentSeller : String) : AuctionResult ℚ :=
    { AuctionResult.unset with
      adRenderUrl := "https://ad.example/ad"
      adType := .protectedAudienceAd
      auctionParams := { ciphertextGenerationId := "g", componentSeller := componentSeller } }
  [result "https://seller1.example", result "https://seller2.example"]

theorem dispatchesEachWinner_fails_on_same_ad :
    ¬ DispatchesEachWinner {} scoreLibrary false "" sameAdResults := by
  intro h
  have hone : (((({} : ScoreAdsReactor).forTopLevelAuction.populateTopLevelAuctionDispatchRequests
      scoreLibrary false "" sameAdResults).toOption).map fun t => t.dispatchRequests.length) =
        some 1 := by
    decide +kernel
  obtain ⟨t, ht, hlength⟩ := Option.map_eq_some_iff.mp hone
  cases hpopulate :
    ({} : ScoreAdsReactor).forTopLevelAuction.populateTopLevelAuctionDispatchRequests
      scoreLibrary false "" sameAdResults with
  | error message =>
    rw [hpopulate] at ht
    cases ht
  | ok s =>
    rw [hpopulate] at ht
    cases ht
    obtain ⟨ghosts, hperm, hghosts⟩ := h t hpopulate
    have hempty : ghosts = [] := by
      refine List.eq_nil_iff_forall_not_mem.mpr fun request hrequest => ?_
      obtain ⟨result, hresult, adType, -, ghost, hghost, -⟩ := hghosts request hrequest
      have hnone : ∀ result ∈ sameAdResults, componentGhostWinners result = [] := by decide
      rw [hnone result hresult] at hghost
      cases hghost
    have htwo : (sameAdResults.filter hasKnownWinner).length = 2 := by decide
    have hlengths := hperm.length_eq
    rw [hempty, List.append_nil, List.length_map, htwo, hlength] at hlengths
    cases hlengths

/-- One of the two is dispatched and supplies whatever wins. -/
theorem topLevelCandidates_keptApart_of_two :
    ∃ t winners, (({} : ScoreAdsReactor).forTopLevelAuction.populateTopLevelAuctionDispatchRequests
        scoreLibrary false "" sameAdResults = .ok t) ∧
      KeptApart {} scoreLibrary false "" sameAdResults winners t := by
  cases hpopulate :
    ({} : ScoreAdsReactor).forTopLevelAuction.populateTopLevelAuctionDispatchRequests
      scoreLibrary false "" sameAdResults with
  | error message =>
    have hok : (({} : ScoreAdsReactor).forTopLevelAuction.populateTopLevelAuctionDispatchRequests
        scoreLibrary false "" sameAdResults).toOption.isSome = true := by
      decide +kernel
    rw [hpopulate] at hok
    cases hok
  | ok t =>
    obtain ⟨winners, hkept⟩ := topLevelCandidates_keptApart hpopulate
    exact ⟨t, winners, rfl, hkept⟩

end Kept

end ScoreAdsReactor

end BiddingAuction
