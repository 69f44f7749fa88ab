import BiddingAuction.SelectAd.Reactor

/-!
# The k-anonymity status of the bids

With enforcement on, a bid is sent as k-anonymous when all of its hashes are among
those the query returned. Nothing else decides it: not the other bids, and not the
order in which the bids are stored.
-/

namespace BiddingAuction

namespace SelectAdReactor

/-! ## The hashes kept for a bid -/

theorem lookup_hashBids (owner : String) (hashes : AdWithBid ℚ → FlatHashSet Hash)
    (bids : List (AdWithBid ℚ)) (m : FlatHashMap BidPointer (FlatHashSet Hash))
    (p : BidPointer) :
    (bids.zipIdx.foldl (fun m bid => m.insert ⟨owner, bid.2⟩ (hashes bid.1)) m).lookup p =
      if p.buyerIgOwner = owner then (bids[p.position]?.map hashes).or (m.lookup p)
      else m.lookup p := by
  induction bids using List.reverseRecOn with
  | nil => simp
  | append_singleton bids bid ih =>
    rw [List.zipIdx_append, List.foldl_append, List.zipIdx_singleton, List.foldl_cons,
      List.foldl_nil]
    by_cases hp : p = ⟨owner, 0 + bids.length⟩
    · subst hp
      rw [AList.lookup_insert]
      simp
    · rw [AList.lookup_insert_ne hp, ih]
      by_cases howner : p.buyerIgOwner = owner
      · have hne : p.position ≠ bids.length := by
          intro heq
          apply hp
          cases p
          simp_all
        rw [if_pos howner, if_pos howner]
        rcases lt_or_gt_of_ne hne with hlt | hgt
        · rw [List.getElem?_append_left hlt]
        · rw [List.getElem?_eq_none (show bids.length ≤ p.position by omega),
            List.getElem?_eq_none (by rw [List.length_append, List.length_singleton]; omega)]
      · rw [if_neg howner, if_neg howner]

theorem lookup_hashBuyers (lib : KeyLibrary) (r : SelectAdReactor)
    {buyers : List (Sigma fun _ : String => List (AdWithBid ℚ))} (hnodup : buyers.NodupKeys)
    (m : FlatHashMap BidPointer (FlatHashSet Hash)) (p : BidPointer) :
    (buyers.foldl (hashBuyerBids lib r) m).lookup p =
      ((r.buyerReportWinJsUrls.lookup p.buyerIgOwner).bind fun biddingUrl =>
        (buyers.dlookup p.buyerIgOwner).bind fun bids =>
          bids[p.position]?.map (kAnonHashesForBid lib p.buyerIgOwner biddingUrl)).or
        (m.lookup p) := by
  induction buyers generalizing m with
  | nil => cases r.buyerReportWinJsUrls.lookup p.buyerIgOwner <;> simp
  | cons buyer buyers ih =>
    obtain ⟨owner, bids⟩ := buyer
    obtain ⟨hnot, hnodup⟩ := List.nodupKeys_cons.mp hnodup
    rw [List.foldl_cons, ih hnodup]
    unfold hashBuyerBids
    by_cases howner : p.buyerIgOwner = owner
    · rw [howner, List.dlookup_cons_eq, List.dlookup_eq_none.mpr hnot]
      cases hurl : r.buyerReportWinJsUrls.lookup owner with
      | none => rfl
      | some biddingUrl =>
        simp only
        rw [lookup_hashBids, if_pos howner]
        rfl
    · rw [List.dlookup_cons_ne _ _ howner]
      cases hurl : r.buyerReportWinJsUrls.lookup owner with
      | none => rfl
      | some biddingUrl =>
        simp only
        rw [lookup_hashBids, if_neg howner]

theorem lookup_getKAnonHashesForBids (lib : KeyLibrary) (r : SelectAdReactor) (p : BidPointer) :
    (r.getKAnonHashesForBids lib).lookup p =
      (r.buyerReportWinJsUrls.lookup p.buyerIgOwner).bind fun biddingUrl =>
        (r.sharedBuyerBidsMap.lookup p.buyerIgOwner).bind fun bids =>
          bids[p.position]?.map (kAnonHashesForBid lib p.buyerIgOwner biddingUrl) := by
  unfold getKAnonHashesForBids
  rw [lookup_hashBuyers lib r r.sharedBuyerBidsMap.nodupKeys]
  exact Option.or_none

/-! ## The status of a bid -/

theorem lookup_populateKAnonStatusForBids (r : SelectAdReactor) (p : BidPointer) :
    r.populateKAnonStatusForBids.bidKAnonStatus.lookup p =
      ((r.bidKAnonHashSets.lookup p).map fun hashes => !r.enableEnforceKanon ||
        hashes.elems.all fun hash => hash ∈ r.queriedKAnonHashes).or
        (r.bidKAnonStatus.lookup p) := by
  unfold populateKAnonStatusForBids
  exact FlatHashMap.lookup_foldl_insert (fun _ (hashes : FlatHashSet Hash) =>
    !r.enableEnforceKanon || hashes.elems.all fun hash => hash ∈ r.queriedKAnonHashes)
    r.bidKAnonHashSets.nodupKeys _ p

/-- A reactor with its bids, before the query; enforcement is on. -/
def withBids (sharedBuyerBidsMap : BuyerBidsResponseMap ℚ)
    (buyerReportWinJsUrls : FlatHashMap String String)
    (buyerInputs : FlatHashMap String (List InterestGroupForBidding))
    (isProtectedAudienceEnabled : Bool) : SelectAdReactor where
  sharedBuyerBidsMap := sharedBuyerBidsMap
  buyerReportWinJsUrls := buyerReportWinJsUrls
  buyerInputs := buyerInputs
  enableEnforceKanon := true
  isProtectedAudienceEnabled := isProtectedAudienceEnabled

/-- Whether the reply lists a hash; without a reply none is listed. -/
def listed (outcome : KAnonQueryOutcome) (hash : Hash) : Bool :=
  match outcome with
  | .replied response => hash ∈ response
  | .callFailed => false
  | .replyFailed => false

def ownStatus (lib : KeyLibrary) (buyerReportWinJsUrls : FlatHashMap String String)
    (outcome : KAnonQueryOutcome) (owner : String) (bid : AdWithBid ℚ) : Bool :=
  match buyerReportWinJsUrls.lookup owner with
  | none => false
  | some biddingUrl => (kAnonHashesForBid lib owner biddingUrl bid).elems.all (listed outcome)

theorem renderHash_mem_kAnonHashesForBid (lib : KeyLibrary) (owner biddingUrl : String)
    (bid : AdWithBid ℚ) :
    hashedKAnonKeyForAdRenderURL lib owner biddingUrl bid.render ∈
      (kAnonHashesForBid lib owner biddingUrl bid).elems :=
  FlatHashSet.mem_ofList.mpr (List.mem_cons_self ..)

theorem all_listed_eq_false (lib : KeyLibrary) (owner biddingUrl : String) (bid : AdWithBid ℚ)
    (outcome : KAnonQueryOutcome) (hnone : ∀ hash, listed outcome hash = false) :
    (kAnonHashesForBid lib owner biddingUrl bid).elems.all (listed outcome) = false := by
  rw [List.all_eq_false]
  refine ⟨_, renderHash_mem_kAnonHashesForBid lib owner biddingUrl bid, ?_⟩
  rw [hnone]
  exact Bool.false_ne_true

theorem status_queryKAnonHashes (lib : KeyLibrary) (outcome : KAnonQueryOutcome)
    {r : SelectAdReactor} (henforce : r.enableEnforceKanon = true)
    (hstatus : r.bidKAnonStatus = ∅) (hqueried : r.queriedKAnonHashes.elems = [])
    {p : BidPointer} {bids : List (AdWithBid ℚ)} {bid : AdWithBid ℚ}
    (hbids : r.sharedBuyerBidsMap.lookup p.buyerIgOwner = some bids)
    (hbid : bids[p.position]? = some bid) :
    ((queryKAnonHashes lib outcome r).bidKAnonStatus.lookup p).getD false =
      ownStatus lib r.buyerReportWinJsUrls outcome p.buyerIgOwner bid := by
  have hsets := lookup_getKAnonHashesForBids lib r p
  unfold ownStatus
  cases hurl : r.buyerReportWinJsUrls.lookup p.buyerIgOwner with
  | none =>
    -- no hashes are kept for the bid, so whatever happens its status is not set
    have hnone : (r.getKAnonHashesForBids lib).lookup p = none := by
      rw [hsets, hurl]
      rfl
    simp only [queryKAnonHashes]
    split
    · simp [hstatus]
    · split
      · simp [hstatus]
      · cases outcome <;>
          simp [lookup_populateKAnonStatusForBids, hnone, hstatus]
  | some biddingUrl =>
    have hsome : (r.getKAnonHashesForBids lib).lookup p =
        some (kAnonHashesForBid lib p.buyerIgOwner biddingUrl bid) := by
      rw [hsets, hurl, Option.bind_some, hbids, Option.bind_some, hbid]
      rfl
    have hmem := AList.mem_lookup_iff.mp hsome
    -- the bid has hashes, so the query is not skipped
    have hnotEmpty : (r.getKAnonHashesForBids lib).entries.isEmpty = false := by
      rw [List.isEmpty_eq_false_iff]
      exact List.ne_nil_of_mem hmem
    have hasked : ((r.getKAnonHashesForBids lib).entries.flatMap fun bid =>
        bid.2.elems).isEmpty = false := by
      rw [List.isEmpty_eq_false_iff]
      exact List.ne_nil_of_mem (List.mem_flatMap.mpr ⟨_, hmem,
        renderHash_mem_kAnonHashesForBid lib p.buyerIgOwner biddingUrl bid⟩)
    simp only [queryKAnonHashes, hnotEmpty, hasked, Bool.false_eq_true, if_false]
    cases outcome with
    | callFailed =>
      -- the statuses are filled in from the hashes queried, of which there are none
      have hall := all_listed_eq_false lib p.buyerIgOwner biddingUrl bid
        .callFailed fun _ => rfl
      rw [hall, lookup_populateKAnonStatusForBids, hsome, henforce]
      rw [List.all_eq_false] at hall
      obtain ⟨hash, hhash, -⟩ := hall
      have hnone : ((kAnonHashesForBid lib p.buyerIgOwner biddingUrl bid).elems.all
          fun hash => hash ∈ r.queriedKAnonHashes) = false := by
        rw [List.all_eq_false]
        refine ⟨hash, hhash, fun hmem => ?_⟩
        have hin : hash ∈ r.queriedKAnonHashes := of_decide_eq_true hmem
        have hnil : hash ∈ ([] : List Hash) := hqueried ▸ hin
        cases hnil
      simp [hnone]
    | replyFailed =>
      -- the callback returns before it fills in any status
      rw [all_listed_eq_false lib p.buyerIgOwner biddingUrl bid .replyFailed
        fun _ => rfl]
      simp [hstatus]
    | replied response =>
      rw [lookup_populateKAnonStatusForBids, hsome, henforce]
      rfl

/-! ## The bids sent -/

theorem kAnonStatus_buildAdWithBidMetadata (r : SelectAdReactor) (input : AdWithBid ℚ)
    (owner : String) (status : Bool) (m : FlatHashMap InterestGroupIdentity ℕ) :
    (r.buildAdWithBidMetadata input owner status m).1 =
      (r.buildAdWithBidMetadata input owner status ∅).1 := by
  unfold buildAdWithBidMetadata
  simp only
  split <;> rfl

theorem createScoreAdsRequest_eq (r : SelectAdReactor) :
    r.createScoreAdsRequest.1 = r.bidsToScore.map fun bid =>
      (r.buildAdWithBidMetadata bid.2 bid.1.buyerIgOwner
        ((r.bidKAnonStatus.lookup bid.1).getD false) ∅).1 := by
  unfold createScoreAdsRequest
  induction r.bidsToScore using List.reverseRecOn with
  | nil => rfl
  | append_singleton bids bid ih =>
    rw [List.foldl_append, List.foldl_cons, List.foldl_nil, List.map_append, ← ih,
      List.map_singleton, ← kAnonStatus_buildAdWithBidMetadata]
    rfl

theorem lookup_of_mem_bidsToScore {r : SelectAdReactor} {p : BidPointer} {bid : AdWithBid ℚ}
    (hmem : (p, bid) ∈ r.bidsToScore) :
    ∃ bids, r.sharedBuyerBidsMap.lookup p.buyerIgOwner = some bids ∧
      bids[p.position]? = some bid := by
  unfold bidsToScore at hmem
  split at hmem
  · obtain ⟨⟨owner, bids⟩, hbuyer, hbid⟩ := List.mem_flatMap.mp hmem
    obtain ⟨⟨bid', position⟩, hposition, heq⟩ := List.mem_map.mp hbid
    obtain ⟨rfl, rfl⟩ := Prod.mk.inj heq
    refine ⟨bids, AList.mem_lookup_iff.mpr hbuyer, ?_⟩
    obtain ⟨hlt, hget⟩ := List.mem_zipIdx' hposition
    rw [List.getElem?_eq_getElem hlt, hget]
  · cases hmem

theorem ownStatus_iff (lib : KeyLibrary) (buyerReportWinJsUrls : FlatHashMap String String)
    (outcome : KAnonQueryOutcome) (owner : String) (bid : AdWithBid ℚ) :
    ownStatus lib buyerReportWinJsUrls outcome owner bid = true ↔ ∃ response biddingUrl,
      outcome = .replied response ∧ buyerReportWinJsUrls.lookup owner = some biddingUrl ∧
      hashedKAnonKeyForAdRenderURL lib owner biddingUrl bid.render ∈ response ∧
      hashedKAnonKeyForReportingID lib owner bid.interestGroupName biddingUrl bid.render
        { buyerReportingId := bid.buyerReportingId
          buyerAndSellerReportingId := bid.buyerAndSellerReportingId
          selectedBuyerAndSellerReportingId := bid.selectedBuyerAndSellerReportingId } ∈
        response ∧
      ∀ component ∈ bid.adComponents,
        hashedKAnonKeyForAdComponentRenderURL lib component ∈ response := by
  unfold ownStatus
  cases buyerReportWinJsUrls.lookup owner with
  | none => simp
  | some biddingUrl =>
    cases outcome with
    | callFailed => simp [all_listed_eq_false lib owner biddingUrl bid .callFailed fun _ => rfl]
    | replyFailed => simp [all_listed_eq_false lib owner biddingUrl bid .replyFailed fun _ => rfl]
    | replied response =>
      simp only [List.all_eq_true, listed, decide_eq_true_eq, KAnonQueryOutcome.replied.injEq,
        Option.some.injEq]
      constructor
      · intro hall
        refine ⟨response, biddingUrl, rfl, rfl, ?_, ?_, fun component hcomponent => ?_⟩
        · exact hall _ (renderHash_mem_kAnonHashesForBid lib owner biddingUrl bid)
        · apply hall
          exact FlatHashSet.mem_ofList.mpr (List.mem_cons_of_mem _ (List.mem_cons_self ..))
        · apply hall
          exact FlatHashSet.mem_ofList.mpr (List.mem_cons_of_mem _ (List.mem_cons_of_mem _
            (List.mem_map_of_mem hcomponent)))
      · -- a hash of the bid is one of the three kinds
        rintro ⟨_, _, rfl, rfl, hrender, hreporting, hcomponents⟩ hash hhash
        rcases List.mem_cons.mp (FlatHashSet.mem_ofList.mp hhash) with rfl | hhash
        · exact hrender
        · rcases List.mem_cons.mp hhash with rfl | hhash
          · exact hreporting
          · obtain ⟨component, hcomponent, rfl⟩ := List.mem_map.mp hhash
            exact hcomponents component hcomponent

theorem queryKAnonHashes_bids (lib : KeyLibrary) (outcome : KAnonQueryOutcome)
    (r : SelectAdReactor) :
    (queryKAnonHashes lib outcome r).bidsToScore = r.bidsToScore ∧
      ∀ input owner status, (queryKAnonHashes lib outcome r).buildAdWithBidMetadata input owner
        status ∅ = r.buildAdWithBidMetadata input owner status ∅ := by
  unfold queryKAnonHashes
  simp only
  split
  · exact ⟨rfl, fun _ _ _ => rfl⟩
  · split
    · exact ⟨rfl, fun _ _ _ => rfl⟩
    · cases outcome <;> exact ⟨rfl, fun _ _ _ => rfl⟩

end SelectAdReactor

end BiddingAuction
