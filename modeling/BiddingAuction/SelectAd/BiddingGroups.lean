import BiddingAuction.SelectAd.Processing
import BiddingAuction.SelectAuctionResult.Components

/-!
# Interest groups that bid

The result of an auction names for each buyer that answered with bids the interest groups
of its input that bid a positive value, by their positions.
-/

namespace BiddingAuction

namespace BiddingGroups

/-! ## The source -/

section Source

variable {F : Type}

/-- `bid > 0`, by name. -/
def buyerInterestGroups (isPositive : F → Bool) (bids : List (AdWithBid F)) :
    FlatHashSet String :=
  .ofList ((bids.filter fun adWithBid => isPositive adWithBid.bid).map AdWithBid.interestGroupName)

def interestGroupIndex (buyerInterestGroups : FlatHashSet String)
    (interestGroups : List InterestGroupForBidding) : InterestGroupIndex where
  index := (interestGroups.zipIdx.filter fun group => group.1.name ∈ buyerInterestGroups).map
    fun group => .ofNat group.2

/-- `GetBiddingGroups`; none where `at` finds no input of a buyer with bids. -/
def getBiddingGroups (isPositive : F → Bool) (ord : HashOrder)
    (sharedBuyerBidsMap : BuyerBidsResponseMap F)
    (buyerInputs : FlatHashMap String (List InterestGroupForBidding)) : Option BiddingGroupMap :=
  (ord.entries sharedBuyerBidsMap).foldlM (fun biddingGroups buyer =>
    (buyerInputs.lookup buyer.1).map fun interestGroups =>
      FlatHashMap.emplace biddingGroups buyer.1
        (interestGroupIndex (buyerInterestGroups isPositive buyer.2) interestGroups)) ∅

end Source

/-! ## Positions -/

section Positions

variable {F : Type} {isPositive : F → Bool} {bids : List (AdWithBid F)}
  {interestGroups : List InterestGroupForBidding}

def Bids (isPositive : F → Bool) (bids : List (AdWithBid F)) (igName : String) : Prop :=
  ∃ bid ∈ bids, isPositive bid.bid = true ∧ bid.interestGroupName = igName

theorem mem_buyerInterestGroups {igName : String} :
    igName ∈ buyerInterestGroups isPositive bids ↔ Bids isPositive bids igName := by
  unfold buyerInterestGroups Bids
  rw [FlatHashSet.mem_ofList, List.mem_map]
  simp only [List.mem_filter, and_assoc]

theorem zipIdx_pairwise {α : Type} (l : List α) : l.zipIdx.Pairwise fun a b => a.2 < b.2 := by
  have hrange : (l.zipIdx.map Prod.snd).Pairwise (· < ·) := by
    rw [List.zipIdx_map_snd]
    exact List.pairwise_lt_range'
  exact List.pairwise_map.mp hrange

theorem interestGroupIndex_spec (hlength : interestGroups.length < 2 ^ 31) :
    (interestGroupIndex (buyerInterestGroups isPositive bids) interestGroups).index.Pairwise
        (· < ·) ∧
      ∀ i, i ∈ (interestGroupIndex (buyerInterestGroups isPositive bids) interestGroups).index ↔
        0 ≤ i ∧ ∃ group, interestGroups[i.toInt.toNat]? = some group ∧
          Bids isPositive bids group.name := by
  -- no position wraps
  have hposition : ∀ group ∈ interestGroups.zipIdx, (Int32.ofNat group.2).toInt = group.2 :=
    fun group hgroup => Int32.toInt_ofNat_of_lt ((List.snd_lt_of_mem_zipIdx hgroup).trans hlength)
  unfold interestGroupIndex
  constructor
  · refine List.pairwise_map.mpr
      (((zipIdx_pairwise interestGroups).filter _).imp_of_mem fun ha hb hlt => ?_)
    rw [Int32.lt_iff_toInt_lt, hposition _ (List.mem_of_mem_filter ha),
      hposition _ (List.mem_of_mem_filter hb)]
    exact Int.ofNat_lt.mpr hlt
  · intro i
    constructor
    · intro hi
      obtain ⟨group, hgroup, rfl⟩ := List.mem_map.mp hi
      obtain ⟨hzip, hbids⟩ := List.mem_filter.mp hgroup
      have htoInt := hposition group hzip
      refine ⟨?_, group.1, ?_, mem_buyerInterestGroups.mp (of_decide_eq_true hbids)⟩
      · rw [Int32.le_iff_toInt_le, htoInt]
        exact Int.natCast_nonneg group.2
      · rw [htoInt, Int.toNat_natCast]
        exact List.mem_zipIdx_iff_getElem?.mp hzip
    · rintro ⟨hnonneg, group, hgroup, hbids⟩
      have hnonneg : 0 ≤ i.toInt := Int32.le_iff_toInt_le.mp hnonneg
      have hi : Int32.ofNat i.toInt.toNat = i := by
        rw [← Int32.ofInt_eq_ofNat, Int.toNat_of_nonneg hnonneg, Int32.ofInt_toInt]
      refine List.mem_map.mpr ⟨(group, i.toInt.toNat), List.mem_filter.mpr ⟨?_, ?_⟩, hi⟩
      · exact List.mem_zipIdx_iff_getElem?.mpr hgroup
      · exact decide_eq_true (mem_buyerInterestGroups.mpr hbids)

end Positions

/-! ## The map -/

section Map

variable {F : Type} {isPositive : F → Bool} {ord : HashOrder}
  {sharedBuyerBidsMap : BuyerBidsResponseMap F}
  {buyerInputs : FlatHashMap String (List InterestGroupForBidding)}

/-- Every buyer with bids has an input, as long as a message can have. -/
def HaveInputs (sharedBuyerBidsMap : BuyerBidsResponseMap F)
    (buyerInputs : FlatHashMap String (List InterestGroupForBidding)) : Prop :=
  ∀ buyer ∈ sharedBuyerBidsMap,
    ∃ interestGroups ∈ buyerInputs.lookup buyer, interestGroups.length < 2 ^ 31

def indexOf (isPositive : F → Bool)
    (buyerInputs : FlatHashMap String (List InterestGroupForBidding))
    (buyer : String × List (AdWithBid F)) : InterestGroupIndex :=
  interestGroupIndex (buyerInterestGroups isPositive buyer.2)
    ((buyerInputs.lookup buyer.1).getD [])

theorem getBiddingGroups_eq (hinputs : HaveInputs sharedBuyerBidsMap buyerInputs) :
    getBiddingGroups isPositive ord sharedBuyerBidsMap buyerInputs =
      some ((ord.entries sharedBuyerBidsMap).foldl (fun biddingGroups buyer =>
        FlatHashMap.emplace biddingGroups buyer.1 (indexOf isPositive buyerInputs buyer)) ∅) := by
  have hentries : ∀ buyer ∈ ord.entries sharedBuyerBidsMap,
      buyerInputs.lookup buyer.1 = some ((buyerInputs.lookup buyer.1).getD []) := by
    intro buyer hbuyer
    have hmem : buyer.1 ∈ sharedBuyerBidsMap :=
      AList.lookup_isSome.mp (by rw [HashOrder.mem_entries.mp hbuyer]; rfl)
    obtain ⟨interestGroups, hlookup, -⟩ := hinputs buyer.1 hmem
    rw [Option.mem_def.mp hlookup]
    rfl
  unfold getBiddingGroups
  generalize (∅ : BiddingGroupMap) = biddingGroups
  generalize ord.entries sharedBuyerBidsMap = entries at hentries
  induction entries generalizing biddingGroups with
  | nil => rfl
  | cons buyer rest ih =>
    rw [List.foldlM_cons, hentries buyer List.mem_cons_self]
    exact ih _ fun other hother => hentries other (List.mem_cons_of_mem _ hother)

/-- The buyers with bids are mapped, each to the positions of those that bid for it. -/
structure CollectsBidders (isPositive : F → Bool) (sharedBuyerBidsMap : BuyerBidsResponseMap F)
    (buyerInputs : FlatHashMap String (List InterestGroupForBidding))
    (biddingGroups : BiddingGroupMap) : Prop where
  buyers : ∀ buyer, buyer ∈ biddingGroups ↔ buyer ∈ sharedBuyerBidsMap
  sorted : ∀ buyer, ∀ listed ∈ biddingGroups.lookup buyer, listed.index.Pairwise (· < ·)
  positions : ∀ buyer, ∀ listed ∈ biddingGroups.lookup buyer,
    ∀ bids ∈ sharedBuyerBidsMap.lookup buyer,
      ∀ interestGroups ∈ buyerInputs.lookup buyer, ∀ i, i ∈ listed.index ↔
        0 ≤ i ∧ ∃ group, interestGroups[i.toInt.toNat]? = some group ∧
          Bids isPositive bids group.name

theorem lookup_emplaced (buyer : String) :
    ((ord.entries sharedBuyerBidsMap).foldl (fun biddingGroups buyer =>
        FlatHashMap.emplace biddingGroups buyer.1 (indexOf isPositive buyerInputs buyer))
        (∅ : BiddingGroupMap)).lookup buyer =
      (sharedBuyerBidsMap.lookup buyer).map fun bids =>
        indexOf isPositive buyerInputs (buyer, bids) := by
  rw [FlatHashMap.lookup_foldl_emplace_first Prod.fst (indexOf isPositive buyerInputs)]
  cases hfound : (ord.entries sharedBuyerBidsMap).find? fun entry => entry.1 = buyer with
  | none =>
    cases hlookup : sharedBuyerBidsMap.lookup buyer with
    | none => rfl
    | some bids =>
      exact absurd (decide_eq_true rfl)
        (List.find?_eq_none.mp hfound (buyer, bids) (HashOrder.mem_entries.mpr hlookup))
  | some entry =>
    -- a map has one entry of the buyer
    obtain ⟨found, bids⟩ := entry
    have hname : found = buyer := of_decide_eq_true (List.find?_some hfound :)
    subst hname
    rw [HashOrder.mem_entries.mp (List.mem_of_find?_eq_some hfound)]
    rfl

theorem collectsBidders_emplaced (hinputs : HaveInputs sharedBuyerBidsMap buyerInputs) :
    CollectsBidders isPositive sharedBuyerBidsMap buyerInputs
      ((ord.entries sharedBuyerBidsMap).foldl (fun biddingGroups buyer =>
        FlatHashMap.emplace biddingGroups buyer.1 (indexOf isPositive buyerInputs buyer)) ∅) := by
  have hspec : ∀ buyer, ∀ listed ∈ ((ord.entries sharedBuyerBidsMap).foldl
      (fun biddingGroups buyer =>
        FlatHashMap.emplace biddingGroups buyer.1 (indexOf isPositive buyerInputs buyer))
      (∅ : BiddingGroupMap)).lookup buyer,
      ∃ bids ∈ sharedBuyerBidsMap.lookup buyer, ∃ interestGroups ∈ buyerInputs.lookup buyer,
        interestGroups.length < 2 ^ 31 ∧
          listed = interestGroupIndex (buyerInterestGroups isPositive bids) interestGroups := by
    intro buyer listed hlisted
    rw [lookup_emplaced] at hlisted
    obtain ⟨bids, hbids, rfl⟩ := Option.map_eq_some_iff.mp hlisted
    obtain ⟨interestGroups, hgroups, hlength⟩ :=
      hinputs buyer (AList.lookup_isSome.mp (by rw [hbids]; rfl))
    refine ⟨bids, hbids, interestGroups, hgroups, hlength, ?_⟩
    unfold indexOf
    rw [Option.mem_def.mp hgroups]
    rfl
  refine ⟨fun buyer => ?_, fun buyer listed hlisted => ?_, ?_⟩
  · rw [← AList.lookup_isSome, lookup_emplaced, Option.isSome_map, AList.lookup_isSome]
  · obtain ⟨bids, -, interestGroups, -, hlength, rfl⟩ := hspec buyer listed hlisted
    exact (interestGroupIndex_spec hlength).1
  · intro buyer listed hlisted bids hbids interestGroups hgroups
    obtain ⟨bids', hbids', interestGroups', hgroups', hlength, rfl⟩ := hspec buyer listed hlisted
    cases hbids'.symm.trans hbids
    cases hgroups'.symm.trans hgroups
    exact (interestGroupIndex_spec hlength).2

end Map

theorem mergesAll_perm {K V E : Type} [DecidableEq K] {listed : V → List E}
    {maps other : List (FlatHashMap K V)} {merged : FlatHashMap K V} (hperm : other.Perm maps)
    (h : MergesAll listed other merged) : MergesAll listed maps merged := by
  obtain ⟨howners, hlisted⟩ := h
  simp only [hperm.mem_iff] at howners hlisted
  exact ⟨howners, hlisted⟩

/-- Where the buyers with bids have inputs, each is mapped to the sorted positions of the interest
groups with a positive bid, if there are any; and the maps of component results are merged
into their union, in any order. -/
theorem biddingGroups_collected {F : Type} (isPositive : F → Bool) (ord : HashOrder)
    (sharedBuyerBidsMap : BuyerBidsResponseMap F)
    (buyerInputs : FlatHashMap String (List InterestGroupForBidding))
    (hinputs : HaveInputs sharedBuyerBidsMap buyerInputs) (maps : List BiddingGroupMap) :
    (∃ biddingGroups,
      getBiddingGroups isPositive ord sharedBuyerBidsMap buyerInputs = some biddingGroups ∧
        CollectsBidders isPositive sharedBuyerBidsMap buyerInputs biddingGroups) ∧
      ∀ other : List BiddingGroupMap, other.Perm maps →
        MergesAll InterestGroupIndex.index maps (getBuyerIgsWithBidsMap other) :=
  ⟨⟨_, getBiddingGroups_eq hinputs, collectsBidders_emplaced hinputs⟩,
    fun other hperm => mergesAll_perm hperm (biddingGroups_mergesAll other)⟩

/-- A buyer with one bid, for the one interest group of its input. -/
def bidOf (bid : ℚ) : BuyerBidsResponseMap ℚ :=
  AList.singleton "https://buyer.com"
    [{ bid := bid, interestGroupName := "group", render := "https://ads.com/1" }]

def oneGroup : FlatHashMap String (List InterestGroupForBidding) :=
  AList.singleton "https://buyer.com" [⟨"group", ""⟩]

theorem haveInputs_bidOf (bid : ℚ) : HaveInputs (bidOf bid) oneGroup := by
  intro buyer hbuyer
  have hname : buyer = "https://buyer.com" := List.mem_singleton.mp hbuyer
  subst hname
  exact ⟨[⟨"group", ""⟩], rfl, by decide⟩

/-- A buyer whose only bid is zero is mapped all the same, to no position. -/
theorem biddingGroups_bidOf_zero :
    ¬ ∀ (sharedBuyerBidsMap : BuyerBidsResponseMap ℚ)
      (buyerInputs : FlatHashMap String (List InterestGroupForBidding)) (groups : BiddingGroupMap),
      HaveInputs sharedBuyerBidsMap buyerInputs →
      getBiddingGroups (fun bid : ℚ => 0 < bid) .stored sharedBuyerBidsMap buyerInputs =
        some groups →
      ∀ buyer ∈ groups, ∃ bids ∈ sharedBuyerBidsMap.lookup buyer,
        ∃ interestGroups ∈ buyerInputs.lookup buyer, ∃ group ∈ interestGroups,
          Bids (fun bid : ℚ => 0 < bid) bids group.name := by
  intro h
  have hinputs := haveInputs_bidOf 0
  obtain ⟨bids, hbids, -, -, group, -, bid, hbid, hpositive, -⟩ :=
    h _ _ _ hinputs (getBiddingGroups_eq hinputs) _
      (((collectsBidders_emplaced hinputs).buyers "https://buyer.com").mpr
        (List.mem_singleton.mpr rfl))
  cases hbids
  rw [List.mem_singleton.mp hbid] at hpositive
  exact absurd hpositive (by decide)

theorem biddingGroups_bidOf_one : ∃ biddingGroups,
    getBiddingGroups (fun bid : ℚ => 0 < bid) .stored (bidOf 1) oneGroup = some biddingGroups ∧
      CollectsBidders (fun bid : ℚ => 0 < bid) (bidOf 1) oneGroup biddingGroups :=
  (biddingGroups_collected (fun bid : ℚ => 0 < bid) .stored (bidOf 1) oneGroup
    (haveInputs_bidOf 1) []).1

end BiddingGroups

end BiddingAuction
