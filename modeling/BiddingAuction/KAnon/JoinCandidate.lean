import BiddingAuction.KAnon.Keys
import BiddingAuction.SelectAd.KAnonStatus

/-!
# K-anonymity join candidates

What is reported for the winner, so that its ad can become k-anonymous: the hashes
of the keys it was looked up under, with the reporting ids of its score.
-/

namespace BiddingAuction

open SelectAdReactor

variable {F : Type}

/-- `GetKAnonJoinCandidate`; `none` where the winner's owner has no report URL. -/
def getKAnonJoinCandidate (lib : KeyLibrary) (score : AdScore F)
    (buyerReportWinJsUrls : FlatHashMap String String) : Option KAnonJoinCandidate := do
  let biddingUrl ← buyerReportWinJsUrls.lookup score.interestGroupOwner
  let scoreIds : KAnonKeyReportingIDParam := {
    buyerReportingId := score.buyerReportingId
    buyerAndSellerReportingId := score.buyerAndSellerReportingId }
  return {
    adRenderUrlHash :=
      hashedKAnonKeyForAdRenderURL lib score.interestGroupOwner biddingUrl score.render
    adComponentRenderUrlsHash :=
      score.componentRenders.map (hashedKAnonKeyForAdComponentRenderURL lib)
    reportingIdHash :=
      hashedKAnonKeyForReportingID lib score.interestGroupOwner score.interestGroupName biddingUrl
        score.render scoreIds }

def KAnonJoinCandidate.hashes (candidate : KAnonJoinCandidate) : List Hash :=
  candidate.adRenderUrlHash :: candidate.reportingIdHash :: candidate.adComponentRenderUrlsHash

structure DescribesSameAd (owner : String) (bid : AdWithBid ℚ) (score : AdScore F) : Prop where
  owner : score.interestGroupOwner = owner
  name : score.interestGroupName = bid.interestGroupName
  render : score.render = bid.render
  components : score.componentRenders = bid.adComponents
  buyer : score.buyerReportingId = bid.buyerReportingId
  buyerAndSeller : score.buyerAndSellerReportingId = bid.buyerAndSellerReportingId
  selected : score.selectedBuyerAndSellerReportingId = bid.selectedBuyerAndSellerReportingId

/-- The hashes checked for a bid are those reported for the score of its ad. -/
def HashesAgree (lib : KeyLibrary) (r : SelectAdReactor) (p : BidPointer) (score : AdScore F) :
    Prop :=
  ∃ checked joined, (r.getKAnonHashesForBids lib).lookup p = some checked ∧
    getKAnonJoinCandidate lib score r.buyerReportWinJsUrls = some joined ∧
    ∀ hash, hash ∈ checked ↔ hash ∈ joined.hashes

/-! ## The keys of a bid -/

def plainTextKAnonKeys (lib : KeyLibrary) (owner biddingUrl : String) (bid : AdWithBid ℚ)
    (reportingIds : KAnonKeyReportingIDParam) : List Bytes :=
  plainTextKAnonKeyForAdRenderURL lib owner biddingUrl bid.render ::
    plainTextKAnonKeyForReportingID lib owner bid.interestGroupName biddingUrl bid.render
      reportingIds ::
    bid.adComponents.map (plainTextKAnonKeyForAdComponentRenderURL lib)

def AdWithBid.reportingIds (bid : AdWithBid ℚ) : KAnonKeyReportingIDParam where
  buyerReportingId := bid.buyerReportingId
  buyerAndSellerReportingId := bid.buyerAndSellerReportingId
  selectedBuyerAndSellerReportingId := bid.selectedBuyerAndSellerReportingId

def AdWithBid.joinedReportingIds (bid : AdWithBid ℚ) : KAnonKeyReportingIDParam where
  buyerReportingId := bid.buyerReportingId
  buyerAndSellerReportingId := bid.buyerAndSellerReportingId

def KeyLibrary.CollidesWith (lib : KeyLibrary) (key : Bytes) (keys : List Bytes) : Prop :=
  ∃ key' ∈ keys, key' ≠ key ∧ lib.sha256 key' = lib.sha256 key

theorem mem_kAnonHashesForBid (lib : KeyLibrary) (owner biddingUrl : String)
    (bid : AdWithBid ℚ) (hash : Hash) :
    hash ∈ kAnonHashesForBid lib owner biddingUrl bid ↔
      hash ∈ (plainTextKAnonKeys lib owner biddingUrl bid bid.reportingIds).map lib.sha256 := by
  unfold kAnonHashesForBid plainTextKAnonKeys
  rw [List.map_cons, List.map_cons, List.map_map]
  exact FlatHashSet.mem_ofList

theorem hashes_getKAnonJoinCandidate (lib : KeyLibrary) {owner biddingUrl : String}
    {bid : AdWithBid ℚ} {score : AdScore F} {buyerReportWinJsUrls : FlatHashMap String String}
    (hurl : buyerReportWinJsUrls.lookup owner = some biddingUrl)
    (hsame : DescribesSameAd owner bid score) :
    (getKAnonJoinCandidate lib score buyerReportWinJsUrls).map KAnonJoinCandidate.hashes =
      some ((plainTextKAnonKeys lib owner biddingUrl bid bid.joinedReportingIds).map
        lib.sha256) := by
  unfold getKAnonJoinCandidate plainTextKAnonKeys
  rw [hsame.owner, hsame.name, hsame.render, hsame.components, hsame.buyer, hsame.buyerAndSeller,
    hurl, List.map_cons, List.map_cons, List.map_map]
  rfl

/-- With a selected id the reporting id key starts with `S`. -/
theorem head_selectedKey (lib : KeyLibrary) (owner igName biddingUrl renderUrl : String)
    {reportingIds : KAnonKeyReportingIDParam} {selected : String}
    (hselected : reportingIds.selectedBuyerAndSellerReportingId = some selected) :
    (plainTextKAnonKeyForReportingID lib owner igName biddingUrl renderUrl reportingIds).head? =
      some 83 := by
  obtain ⟨buyerId, buyerSellerId, selectedId⟩ := reportingIds
  cases hselected
  rw [head_plainTextKAnonKeyForReportingID]
  show ReportingKind.selected.word.head? = some 83
  decide

/-- Without one it starts with `B` or `N`. -/
theorem head_unselectedKey (lib : KeyLibrary) (owner igName biddingUrl renderUrl : String)
    {reportingIds : KAnonKeyReportingIDParam}
    (hselected : reportingIds.selectedBuyerAndSellerReportingId = none) :
    (plainTextKAnonKeyForReportingID lib owner igName biddingUrl renderUrl reportingIds).head? =
        some 66 ∨
      (plainTextKAnonKeyForReportingID lib owner igName biddingUrl renderUrl reportingIds).head? =
        some 78 := by
  obtain ⟨buyerId, buyerSellerId, selectedId⟩ := reportingIds
  cases hselected
  rw [head_plainTextKAnonKeyForReportingID]
  cases buyerSellerId with
  | some buyerSellerId => exact .inl (by decide : ReportingKind.buyerAndSeller.word.head? = some 66)
  | none =>
    cases buyerId with
    | some buyerId => exact .inl (by decide : ReportingKind.buyer.word.head? = some 66)
    | none => exact .inr (by decide : ReportingKind.name.word.head? = some 78)

/-- Two lists of keys that differ in one have the same hashes just when the hash of
each of the two differing ones is among the other's. -/
theorem sameHashes_iff (hash : Bytes → Hash) (a k k' : Bytes) (l : List Bytes) :
    (∀ x, x ∈ (a :: k :: l).map hash ↔ x ∈ (a :: k' :: l).map hash) ↔
      hash k ∈ (a :: k' :: l).map hash ∧ hash k' ∈ (a :: k :: l).map hash := by
  constructor
  · intro h
    exact ⟨(h _).mp (by simp), (h _).mpr (by simp)⟩
  · -- all other hashes are common to both lists
    rintro ⟨hk, hk'⟩ x
    simp only [List.map_cons, List.mem_cons] at hk hk' ⊢
    constructor
    · rintro (rfl | rfl | hx)
      · exact Or.inl rfl
      · exact hk
      · exact Or.inr (Or.inr hx)
    · rintro (rfl | rfl | hx)
      · exact Or.inl rfl
      · exact hk'
      · exact Or.inr (Or.inr hx)

theorem collidesWith_iff {lib : KeyLibrary} {key : Bytes} {keys : List Bytes}
    (hnot : key ∉ keys) : lib.CollidesWith key keys ↔ lib.sha256 key ∈ keys.map lib.sha256 := by
  rw [List.mem_map]
  constructor
  · rintro ⟨key', hmem, -, heq⟩
    exact ⟨key', hmem, heq⟩
  · rintro ⟨key', hmem, heq⟩
    exact ⟨key', hmem, fun h => hnot (h ▸ hmem), heq⟩

theorem notMem_plainTextKAnonKeys (lib : KeyLibrary) (owner biddingUrl : String)
    (bid : AdWithBid ℚ) (reportingIds : KAnonKeyReportingIDParam) {key : Bytes}
    (hrender : key.head? ≠ some 65) (hcomponent : key.head? ≠ some 67)
    (hreporting : key.head? ≠ (plainTextKAnonKeyForReportingID lib owner bid.interestGroupName
      biddingUrl bid.render reportingIds).head?) :
    key ∉ plainTextKAnonKeys lib owner biddingUrl bid reportingIds := by
  intro hmem
  rcases List.mem_cons.mp hmem with rfl | hmem
  · exact hrender (head_plainTextKAnonKeyForAdRenderURL ..)
  · rcases List.mem_cons.mp hmem with rfl | hmem
    · exact hreporting rfl
    · obtain ⟨component, -, rfl⟩ := List.mem_map.mp hmem
      exact hcomponent (head_plainTextKAnonKeyForAdComponentRenderURL ..)

/-! ## When checked and joined hashes agree -/

theorem hashesAgree_iff (lib : KeyLibrary) (r : SelectAdReactor) (score : AdScore F)
    {p : BidPointer} {biddingUrl : String} {bids : List (AdWithBid ℚ)} {bid : AdWithBid ℚ}
    (hurl : r.buyerReportWinJsUrls.lookup p.buyerIgOwner = some biddingUrl)
    (hbids : r.sharedBuyerBidsMap.lookup p.buyerIgOwner = some bids)
    (hbid : bids[p.position]? = some bid) (hsame : DescribesSameAd p.buyerIgOwner bid score) :
    HashesAgree lib r p score ↔ ∀ hash,
      hash ∈ (plainTextKAnonKeys lib p.buyerIgOwner biddingUrl bid bid.reportingIds).map
          lib.sha256 ↔
        hash ∈ (plainTextKAnonKeys lib p.buyerIgOwner biddingUrl bid bid.joinedReportingIds).map
          lib.sha256 := by
  obtain ⟨joined, hjoined, hhashes⟩ :=
    Option.map_eq_some_iff.mp (hashes_getKAnonJoinCandidate lib hurl hsame)
  unfold HashesAgree
  rw [lookup_getKAnonHashesForBids, hurl, Option.bind_some, hbids, Option.bind_some, hbid,
    Option.map_some, ← hhashes, hjoined]
  simp only [← mem_kAnonHashesForBid]
  constructor
  · rintro ⟨_, _, hchecked, hjoined, h⟩
    rw [← Option.some.inj hchecked, ← Option.some.inj hjoined] at h
    exact h
  · intro h
    exact ⟨_, _, rfl, rfl, h⟩

/-- The hashes checked for a bid are those joined for its score just when it has no
selected reporting id: the join candidate leaves that one out. Otherwise SHA-256
has to collide, on the key that is only checked and on the key that is only joined. -/
theorem kAnonHashes_agree_iff (lib : KeyLibrary) (r : SelectAdReactor) (score : AdScore F)
    {p : BidPointer} {biddingUrl : String} {bids : List (AdWithBid ℚ)} {bid : AdWithBid ℚ}
    (hurl : r.buyerReportWinJsUrls.lookup p.buyerIgOwner = some biddingUrl)
    (hbids : r.sharedBuyerBidsMap.lookup p.buyerIgOwner = some bids)
    (hbid : bids[p.position]? = some bid) (hsame : DescribesSameAd p.buyerIgOwner bid score) :
    HashesAgree lib r p score ↔
      bid.selectedBuyerAndSellerReportingId = none ∨
        (lib.CollidesWith
            (plainTextKAnonKeyForReportingID lib p.buyerIgOwner bid.interestGroupName biddingUrl
              bid.render bid.reportingIds)
            (plainTextKAnonKeys lib p.buyerIgOwner biddingUrl bid bid.joinedReportingIds) ∧
          lib.CollidesWith
            (plainTextKAnonKeyForReportingID lib p.buyerIgOwner bid.interestGroupName biddingUrl
              bid.render bid.joinedReportingIds)
            (plainTextKAnonKeys lib p.buyerIgOwner biddingUrl bid bid.reportingIds)) := by
  rw [hashesAgree_iff lib r score hurl hbids hbid hsame]
  cases hselected : bid.selectedBuyerAndSellerReportingId with
  | none =>
    have hids : bid.reportingIds = bid.joinedReportingIds := by
      unfold AdWithBid.reportingIds AdWithBid.joinedReportingIds
      rw [hselected]
    rw [hids]
    exact iff_of_true (fun _ => Iff.rfl) (Or.inl rfl)
  | some selected =>
    -- the first byte tells the two reporting id keys apart, and from all other keys
    have hcheckedHead := head_selectedKey lib p.buyerIgOwner bid.interestGroupName biddingUrl
      bid.render (show bid.reportingIds.selectedBuyerAndSellerReportingId = _ from hselected)
    have hjoinedHead := head_unselectedKey lib p.buyerIgOwner bid.interestGroupName biddingUrl
      bid.render (show bid.joinedReportingIds.selectedBuyerAndSellerReportingId = none from rfl)
    rw [or_iff_right (Option.some_ne_none selected)]
    have hcheckedFresh := notMem_plainTextKAnonKeys lib p.buyerIgOwner biddingUrl bid
      bid.joinedReportingIds (by rw [hcheckedHead]; decide) (by rw [hcheckedHead]; decide)
      (by rw [hcheckedHead]; rcases hjoinedHead with h | h <;> rw [h] <;> decide)
    have hjoinedFresh := notMem_plainTextKAnonKeys lib p.buyerIgOwner biddingUrl bid
      bid.reportingIds (by rcases hjoinedHead with h | h <;> rw [h] <;> decide)
      (by rcases hjoinedHead with h | h <;> rw [h] <;> decide)
      (by rw [hcheckedHead]; rcases hjoinedHead with h | h <;> rw [h] <;> decide)
    rw [collidesWith_iff hcheckedFresh, collidesWith_iff hjoinedFresh]
    exact sameHashes_iff lib.sha256 _ _ _ _

/-- A bid with a buyer reporting id, and perhaps a selected one. -/
def exampleReportedBid (selected : Option String) : AdWithBid ℚ where
  bid := 1
  render := "https://ad.example/ad"
  interestGroupName := "shoes"
  buyerReportingId := some "b"
  selectedBuyerAndSellerReportingId := selected

def exampleReportedScore (selected : Option String) : AdScore ℚ where
  desirability := 1
  render := "https://ad.example/ad"
  interestGroupName := "shoes"
  interestGroupOwner := "https://buyer.example"
  buyerBid := 1
  bid := 0
  incomingBidInSellerCurrency := 0
  buyerReportingId := some "b"
  selectedBuyerAndSellerReportingId := selected

def exampleReportedReactor (selected : Option String) : SelectAdReactor :=
  withBids (AList.singleton "https://buyer.example" [exampleReportedBid selected])
    (AList.singleton "https://buyer.example" "https://buyer.example/bid.js") ∅ true

/-- A URL canonicalized, and the SHA-256 of the keys of the bid. -/
def exampleKeyLibrary : KeyLibrary where
  gurlSpec url := if url = "https://buyer.example" then "https://buyer.example/" else url
  sha256 key :=
    if key.head? = some 65 then
      [236, 87, 205, 185, 72, 57, 128, 88, 96, 103, 125, 100, 200, 202, 220, 118, 211, 60, 162, 88,
        54, 142, 156, 122, 158, 106, 13, 15, 217, 218, 52, 228]
    else if key.head? = some 83 then
      [129, 25, 38, 69, 36, 5, 128, 99, 177, 218, 98, 5, 9, 247, 32, 98, 243, 203, 157, 122, 236,
        90, 206, 145, 212, 216, 222, 6, 230, 231, 196, 237]
    else
      [48, 0, 213, 252, 68, 40, 139, 252, 143, 237, 73, 186, 218, 81, 154, 126, 84, 208, 65, 37,
        53, 78, 58, 145, 55, 81, 52, 86, 46, 210, 64, 24]

theorem kAnonHashes_agree_iff_unselected :
    HashesAgree exampleKeyLibrary (exampleReportedReactor none) ⟨"https://buyer.example", 0⟩
      (exampleReportedScore none) :=
  (kAnonHashes_agree_iff exampleKeyLibrary (exampleReportedReactor none)
    (exampleReportedScore none) (p := ⟨"https://buyer.example", 0⟩) rfl rfl
    (show [exampleReportedBid none][0]? = some (exampleReportedBid none) from rfl)
    ⟨rfl, rfl, rfl, rfl, rfl, rfl, rfl⟩).mpr (Or.inl rfl)

/-- With a selected id the key that is checked is never joined. -/
theorem kAnonHashes_disagree_on_selected_id :
    ¬ ∀ (lib : KeyLibrary) (r : SelectAdReactor) (score : AdScore ℚ) (p : BidPointer)
      (biddingUrl : String) (bids : List (AdWithBid ℚ)) (bid : AdWithBid ℚ),
      r.buyerReportWinJsUrls.lookup p.buyerIgOwner = some biddingUrl →
      r.sharedBuyerBidsMap.lookup p.buyerIgOwner = some bids → bids[p.position]? = some bid →
      DescribesSameAd p.buyerIgOwner bid score → HashesAgree lib r p score := by
  intro h
  obtain ⟨checked, joined, hchecked, hjoined, hagree⟩ := h exampleKeyLibrary
    (exampleReportedReactor (some "s")) (exampleReportedScore (some "s"))
    ⟨"https://buyer.example", 0⟩ _ _ (exampleReportedBid (some "s"))
    rfl rfl rfl ⟨rfl, rfl, rfl, rfl, rfl, rfl, rfl⟩
  have hjoinedHash : joined.reportingIdHash ∈ joined.hashes := by simp [KAnonJoinCandidate.hashes]
  have hmem := (hagree _).mpr hjoinedHash
  rw [lookup_getKAnonHashesForBids] at hchecked
  cases hchecked
  cases hjoined
  revert hmem
  decide

end BiddingAuction
