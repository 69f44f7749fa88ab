import BiddingAuction.Foundation.SwapPartition
import BiddingAuction.SelectAd.Processing

/-!
# Filtering by currency

The bids that `FilterBidsWithMismatchingCurrency` swaps to the end and deletes, and the
buyers it erases. What it leaves is a permutation of what a filter leaves, so the processing
of a request may take it for one.
-/

namespace BiddingAuction

open Foundation

/-! ## Erasing from a map -/

def FlatHashMap.eraseIf {K V : Type} (p : K → V → Bool) (m : FlatHashMap K V) :
    FlatHashMap K V where
  entries := m.entries.filter fun e => !p e.1 e.2
  nodupKeys := m.nodupKeys.sublist List.filter_sublist

section Lookup

variable {K V W : Type} [DecidableEq K]

theorem FlatHashMap.lookup_eraseIf (p : K → V → Bool) (m : FlatHashMap K V) (k : K) :
    (eraseIf p m).lookup k = (m.lookup k).filter fun v => !p k v := by
  ext v
  rw [← Option.mem_def, AList.mem_lookup_iff]
  simp only [eraseIf, List.mem_filter, Option.filter_eq_some_iff, ← AList.mem_lookup_iff,
    Option.mem_def]

theorem lookup_mapValues (f : K → V → W) (m : FlatHashMap K V) (k : K) :
    (mapValues f m).lookup k = (m.lookup k).map (f k) := by
  ext w
  rw [← Option.mem_def, AList.mem_lookup_iff, Option.map_eq_some_iff]
  simp only [mapValues, List.mem_map]
  constructor
  · rintro ⟨⟨key, v⟩, hentry, heq⟩
    cases heq
    exact ⟨v, AList.mem_lookup_iff.mpr hentry, rfl⟩
  · rintro ⟨v, hlookup, rfl⟩
    exact ⟨⟨k, v⟩, AList.mem_lookup_iff.mp hlookup, rfl⟩

end Lookup

namespace SelectAd

/-! ## The code -/

def isMismatching {Ad : Type} (bidCurrency : Ad → String) (buyerCurrency : String) (ad : Ad) :
    Bool :=
  bidCurrency ad ≠ "" && buyerCurrency ≠ bidCurrency ad

/-- `FilterBidsWithMismatchingCurrencyHelper`, which swaps the bids in the array. -/
def deleteMismatching {Ad : Type} (bidCurrency : Ad → String) (buyerCurrency : String)
    (adsWithBids : List Ad) : List Ad :=
  (removeRejected (isMismatching bidCurrency buyerCurrency) adsWithBids.toArray).toList

section Filter

variable (c : SelectAdRpcSetup)

def noBidsRemain (reply : BuyerReply) : Bool :=
  (!c.isProtectedAudienceEnabled || reply.bids.isEmpty) &&
    (!c.isPasEnabled || reply.protectedAppSignalsBids.isEmpty)

/-- One turn of the loop over the buyers: whether there are valid bids, and what is left. -/
def filterBuyer (buyer : String) (reply : BuyerReply) : Bool × BuyerReply :=
  match c.buyerCurrencies.lookup buyer with
  | none => (true, reply)
  | some buyerCurrency =>
    if buyerCurrency = "" then (true, reply)
    else
      -- only here a buyer may be left without bids
      let reply := { reply with
        bids := deleteMismatching AdWithBid.bidCurrency buyerCurrency reply.bids
        protectedAppSignalsBids :=
          deleteMismatching (fun bid => bid.bidCurrency) buyerCurrency
            reply.protectedAppSignalsBids }
      (!noBidsRemain c reply, reply)

/-- `FilterBidsWithMismatchingCurrency`, in place. -/
def filterBidsInPlace (sharedBuyerBidsMap : FlatHashMap String BuyerReply) :
    Bool × FlatHashMap String BuyerReply :=
  (sharedBuyerBidsMap.entries.any fun buyer => (filterBuyer c buyer.1 buyer.2).1,
    FlatHashMap.eraseIf (fun _ reply => noBidsRemain c reply)
      (mapValues (fun buyer reply => (filterBuyer c buyer reply).2) sharedBuyerBidsMap))

/-! ## What it is for -/

/-- The bid has the currency that is configured for the buyer, if both have one. -/
def HasExpectedCurrency (buyer bidCurrency : String) : Prop :=
  ∀ expected, c.buyerCurrencies.lookup buyer = some expected → expected ≠ "" →
    bidCurrency ≠ "" → bidCurrency = expected

instance (buyer bidCurrency : String) : Decidable (HasExpectedCurrency c buyer bidCurrency) :=
  match h : c.buyerCurrencies.lookup buyer with
  | none => .isTrue fun expected hexpected => by rw [h] at hexpected; cases hexpected
  | some currency =>
    decidable_of_iff (currency ≠ "" → bidCurrency ≠ "" → bidCurrency = currency) (by
      unfold HasExpectedCurrency
      rw [h]
      exact ⟨fun hcurrency expected hexpected => Option.some.inj hexpected ▸ hcurrency,
        fun hcurrency => hcurrency currency rfl⟩)

def expectedBids (buyer : String) (reply : BuyerReply) : BuyerReply :=
  { reply with
    bids := reply.bids.filter fun ad => HasExpectedCurrency c buyer ad.bidCurrency
    protectedAppSignalsBids := reply.protectedAppSignalsBids.filter fun bid =>
      HasExpectedCurrency c buyer bid.bidCurrency }

structure BuyerReply.Perm (reply other : BuyerReply) : Prop where
  bids : reply.bids.Perm other.bids
  protectedAppSignalsBids : reply.protectedAppSignalsBids.Perm other.protectedAppSignalsBids
  updateInterestGroupList : reply.updateInterestGroupList = other.updateInterestGroupList

def EachHasBids (bids : FlatHashMap String BuyerReply) : Prop :=
  ∀ buyer reply, bids.lookup buyer = some reply → noBidsRemain c reply = false

/-- The bids of each buyer are filtered; the buyers of which `isGone` are removed; and
whether anything is left is told. -/
structure FiltersByCurrency (isGone : BuyerReply → Bool) (bids : FlatHashMap String BuyerReply) :
    Prop where
  other : ∀ buyer, bids.lookup buyer = none →
    (filterBidsInPlace c bids).2.lookup buyer = none
  removed : ∀ buyer reply, bids.lookup buyer = some reply →
    isGone (expectedBids c buyer reply) = true →
    (filterBidsInPlace c bids).2.lookup buyer = none
  kept : ∀ buyer reply, bids.lookup buyer = some reply →
    isGone (expectedBids c buyer reply) = false →
    ∃ left, (filterBidsInPlace c bids).2.lookup buyer = some left ∧
      left.Perm (expectedBids c buyer reply)
  anyValidBids : EachHasBids c bids →
    ((filterBidsInPlace c bids).1 = true ↔ (filterBidsInPlace c bids).2 ≠ ∅)

/-! ## Each buyer -/

theorem deleteMismatching_perm {Ad : Type} (bidCurrency : Ad → String) (buyerCurrency : String)
    (adsWithBids : List Ad) :
    (deleteMismatching bidCurrency buyerCurrency adsWithBids).Perm
      (filterBidsWithMismatchingCurrencyHelper bidCurrency buyerCurrency adsWithBids) := by
  refine (removeRejected_perm _ _).trans (.of_eq (List.filter_congr fun ad _ => ?_))
  rw [Bool.eq_iff_iff]
  simp [isMismatching, or_iff_not_imp_left]

theorem hasExpectedCurrency_of_lookup {buyer buyerCurrency : String}
    (hlookup : c.buyerCurrencies.lookup buyer = some buyerCurrency) (hne : buyerCurrency ≠ "")
    (bidCurrency : String) :
    HasExpectedCurrency c buyer bidCurrency ↔ bidCurrency = "" ∨ bidCurrency = buyerCurrency := by
  unfold HasExpectedCurrency
  simp only [hlookup, Option.some.injEq, forall_eq', ne_eq, hne, not_false_eq_true,
    forall_const]
  exact or_iff_not_imp_left.symm

theorem expectedBids_of_unconfigured {buyer : String}
    (hlookup : ∀ currency, c.buyerCurrencies.lookup buyer = some currency → currency = "")
    (reply : BuyerReply) : expectedBids c buyer reply = reply := by
  have hall : ∀ currency, HasExpectedCurrency c buyer currency :=
    fun _ expected hexpected hne => absurd (hlookup expected hexpected) hne
  simp [expectedBids, hall]

theorem filterBuyer_perm (buyer : String) (reply : BuyerReply) :
    (filterBuyer c buyer reply).2.Perm (expectedBids c buyer reply) := by
  unfold filterBuyer
  cases hlookup : c.buyerCurrencies.lookup buyer with
  | none =>
    rw [expectedBids_of_unconfigured c (by simp [hlookup])]
    exact ⟨.refl _, .refl _, rfl⟩
  | some buyerCurrency =>
    by_cases hempty : buyerCurrency = ""
    · rw [expectedBids_of_unconfigured c (by simp [hlookup, hempty])]
      simp only [if_pos hempty]
      exact ⟨.refl _, .refl _, rfl⟩
    · simp only [if_neg hempty]
      have hleft : ∀ {Ad : Type} (bidCurrency : Ad → String) (ads : List Ad),
          (deleteMismatching bidCurrency buyerCurrency ads).Perm
            (ads.filter fun ad => HasExpectedCurrency c buyer (bidCurrency ad)) := by
        intro Ad bidCurrency ads
        refine (deleteMismatching_perm bidCurrency buyerCurrency ads).trans (.of_eq ?_)
        refine List.filter_congr fun ad _ => ?_
        rw [Bool.eq_iff_iff, decide_eq_true_iff, hasExpectedCurrency_of_lookup c hlookup hempty]
        simp only [Bool.or_eq_true, decide_eq_true_iff]
        exact or_congr_right eq_comm
      exact ⟨hleft _ _, hleft _ _, rfl⟩

theorem noBidsRemain_of_perm {reply other : BuyerReply} (h : reply.Perm other) :
    noBidsRemain c reply = noBidsRemain c other := by
  unfold noBidsRemain
  rw [h.bids.isEmpty_eq, h.protectedAppSignalsBids.isEmpty_eq]

theorem filterBuyer_valid {buyer : String} {reply : BuyerReply}
    (hbids : noBidsRemain c reply = false) :
    (filterBuyer c buyer reply).1 = !noBidsRemain c (filterBuyer c buyer reply).2 := by
  unfold filterBuyer
  cases c.buyerCurrencies.lookup buyer with
  | none => simp [hbids]
  | some buyerCurrency =>
    by_cases hempty : buyerCurrency = ""
    · simp [hempty, hbids]
    · simp only [if_neg hempty]

/-! ## All buyers -/

theorem lookup_filterBidsInPlace (bids : FlatHashMap String BuyerReply) (buyer : String) :
    (filterBidsInPlace c bids).2.lookup buyer =
      ((bids.lookup buyer).map fun reply => (filterBuyer c buyer reply).2).filter fun reply =>
        !noBidsRemain c reply := by
  unfold filterBidsInPlace
  rw [FlatHashMap.lookup_eraseIf, lookup_mapValues]

theorem anyValidBids_iff {bids : FlatHashMap String BuyerReply} (hbids : EachHasBids c bids) :
    (filterBidsInPlace c bids).1 = true ↔ (filterBidsInPlace c bids).2 ≠ ∅ := by
  have hentries : (filterBidsInPlace c bids).2 ≠ ∅ ↔
      ∃ e ∈ bids.entries, noBidsRemain c (filterBuyer c e.1 e.2).2 = false := by
    rw [ne_eq, AList.ext_iff]
    simp [filterBidsInPlace, FlatHashMap.eraseIf, mapValues]
  rw [hentries]
  simp only [filterBidsInPlace, List.any_eq_true]
  refine exists_congr fun e => and_congr_right fun he => ?_
  rw [filterBuyer_valid c (hbids e.1 e.2 (AList.mem_lookup_iff.mpr he))]
  simp

/-- The buyers without a bid of an enabled kind are removed, and no others. -/
theorem filtersByCurrency (bids : FlatHashMap String BuyerReply) :
    FiltersByCurrency c (noBidsRemain c) bids where
  other buyer hlookup := by
    rw [lookup_filterBidsInPlace, hlookup]
    rfl
  removed buyer reply hlookup hgone := by
    rw [← noBidsRemain_of_perm c (filterBuyer_perm c buyer reply)] at hgone
    rw [lookup_filterBidsInPlace, hlookup]
    simp [hgone]
  kept buyer reply hlookup hleft := by
    rw [← noBidsRemain_of_perm c (filterBuyer_perm c buyer reply)] at hleft
    refine ⟨(filterBuyer c buyer reply).2, ?_, filterBuyer_perm c buyer reply⟩
    rw [lookup_filterBidsInPlace, hlookup]
    simp [hleft]
  anyValidBids := anyValidBids_iff c

end Filter

/-- A buyer that bids for an app too, where such bids are not enabled. -/
def protectedAudienceOnly : SelectAdRpcSetup where
  buyerFactory := .ofList ["https://buyer.example"]
  buyerList := ["https://buyer.example"]
  buyerInputs := ∅
  rng := FetchBids.leastRng
  buyerCurrencies := AList.insert "https://buyer.example" "USD" ∅

def repliedWithBoth : BuyerReply where
  bids := [{ bid := 1, bidCurrency := "EUR" }]
  protectedAppSignalsBids := [{}]

theorem eachHasBids_repliedWithBoth :
    EachHasBids protectedAudienceOnly (AList.insert "https://buyer.example" repliedWithBoth ∅) := by
  intro buyer reply hlookup
  by_cases hbuyer : buyer = "https://buyer.example"
  · rw [hbuyer, AList.lookup_insert] at hlookup
    cases hlookup
    rfl
  · rw [AList.lookup_insert_ne hbuyer] at hlookup
    cases hlookup

/-- Its bid in euros is deleted; the other one, without a currency, goes with the buyer. -/
theorem disabledKind_removed :
    ¬ ∀ (c : SelectAdRpcSetup) (bids : FlatHashMap String BuyerReply), EachHasBids c bids →
      FiltersByCurrency c (fun reply =>
        reply.bids.isEmpty && reply.protectedAppSignalsBids.isEmpty) bids := by
  intro hfilters
  have hremain : noBidsRemain protectedAudienceOnly
      (filterBuyer protectedAudienceOnly "https://buyer.example" repliedWithBoth).2 = true := by
    rw [noBidsRemain_of_perm _ (filterBuyer_perm _ _ _)]
    decide +kernel
  obtain ⟨left, hleft, -⟩ := (hfilters _ _ eachHasBids_repliedWithBoth).kept
    "https://buyer.example" repliedWithBoth (AList.lookup_insert _) (by decide +kernel)
  rw [lookup_filterBidsInPlace, AList.lookup_insert, Option.map_some, Option.filter_some,
    hremain] at hleft
  cases hleft

end SelectAd

end BiddingAuction
