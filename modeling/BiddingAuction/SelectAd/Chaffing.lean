import BiddingAuction.SelectAd.Reactor
import Mathlib.Algebra.Order.Floor.Ring
import Mathlib.Data.Rat.Floor

/-!
# Which buyers are called

A buyer that is configured and named in the auction config is called for real when the
request has input for it, and may be called as chaff otherwise. A request that was served
before names the buyers called then instead. The number of calls is announced to the
tracker before they are made; the two agree unless a buyer called before has no input now.
-/

namespace BiddingAuction

/-- `RandomNumberGenerator`, seeded for one request. -/
structure RandomNumberGenerator where
  getUniformInt : ℤ → ℤ → ℤ
  getUniformInt_mem : ∀ lower upper, lower ≤ upper →
    lower ≤ getUniformInt lower upper ∧ getUniformInt lower upper ≤ upper
  getUniformDouble : ℚ → ℚ → ℚ
  getNormalDouble : ℚ → ℚ → ℚ
  shuffle : ∀ {α : Type}, List α → List α
  shuffle_perm : ∀ {α : Type} (l : List α), (shuffle l).Perm l

structure InvokedBuyers where
  chaffBuyerNames : List String
  nonChaffBuyerNames : List String
deriving DecidableEq, Repr

structure ChaffingConfig where
  chaffRequestCandidates : List String := []
  numChaffRequests : ℤ := 0
  numRealRequests : ℤ := 0
deriving DecidableEq, Repr

/-- The buyer of a `GetBidsRawRequest`, and whether it is chaff. -/
structure BuyerGetBidsRequest where
  buyerName : String
  isChaff : Bool
deriving DecidableEq, Repr

/-- What the reactor knows as it comes to `FetchBids`. -/
structure SelectAdSetup where
  /-- The keys of `clients_.buyer_factory`. -/
  buyerFactory : FlatHashSet String
  buyerList : List String
  buyerInputs : FlatHashMap String (List InterestGroupForBidding)
  chaffingEnabled : Bool := false
  chaffingV2Enabled : Bool := false
  buyerCachingEnabled : Bool := false
  previouslyInvokedBuyers : Option InvokedBuyers := none
  /-- The server's cap without chaffing. -/
  maxBuyersSolicited : ℤ := 2
  /-- The request may be sampled for debugging. -/
  isDebugEligible : Bool := false
  rng : RandomNumberGenerator
  enableCancellation : Bool := false
  isProtectedAudienceEnabled : Bool := true
  isPasEnabled : Bool := false

/-- `ShouldSkipChaffing`: 99% or 95% of the requests are without chaff. -/
def shouldSkipChaffing (numBuyers : ℕ) (rng : RandomNumberGenerator) : Bool :=
  if numBuyers ≤ 5 then rng.getUniformDouble 0 1 < 99 / 100
  else rng.getUniformDouble 0 1 < 95 / 100

/-- `kChaffingV2GaussianStandardDev`: the `float` closest to 0.3. -/
def chaffingV2GaussianStandardDev : ℚ := 5033165 / 2 ^ 24

namespace SelectAdSetup

variable (c : SelectAdSetup)

/-- A generator was made: `CreateRng`. -/
def hasRng : Bool := c.chaffingEnabled || c.isDebugEligible

def cachedBuyers : Option InvokedBuyers :=
  if c.buyerCachingEnabled then c.previouslyInvokedBuyers else none

/-- `max_buyers_solicited_`. -/
def cap : ℤ := if c.chaffingEnabled then 15 else c.maxBuyersSolicited

def drawNumChaffRequests (numCandidates numRealRequests : ℕ) : ℤ :=
  let lowerBound : ℤ := min (if numRealRequests = 0 then 2 else 1) numCandidates
  let numChaffRequests := if c.hasRng then c.rng.getUniformInt lowerBound numCandidates else 0
  if c.chaffingV2Enabled then
    let share := c.rng.getNormalDouble (numCandidates / 6) chaffingV2GaussianStandardDev
    ⌈(numChaffRequests : ℚ) * max 0 (min share 1)⌉
  else
    numChaffRequests

def auctionBuyers : List String := c.buyerFactory.elems.filter fun buyer => buyer ∈ c.buyerList

def getChaffingConfig : ChaffingConfig :=
  match c.cachedBuyers with
  | some invoked =>
    { chaffRequestCandidates := invoked.chaffBuyerNames
      numChaffRequests := invoked.chaffBuyerNames.length
      numRealRequests := invoked.nonChaffBuyerNames.length }
  | none =>
    let chaffRequestCandidates := c.auctionBuyers.filter fun buyer => buyer ∉ c.buyerInputs
    let numRealRequests := (c.auctionBuyers.filter fun buyer => buyer ∈ c.buyerInputs).length
    if !c.chaffingEnabled || shouldSkipChaffing c.buyerFactory.elems.length c.rng then
      { numRealRequests := numRealRequests }
    else
      { chaffRequestCandidates :=
          if c.hasRng then c.rng.shuffle chaffRequestCandidates else chaffRequestCandidates
        numChaffRequests := if chaffRequestCandidates.isEmpty then 0
          else c.drawNumChaffRequests chaffRequestCandidates.length numRealRequests
        numRealRequests := numRealRequests }

/-- `GetEffectiveNumberOfBuyers`: what the tracker is told. -/
def getEffectiveNumberOfBuyers : ℤ :=
  if c.chaffingEnabled then
    c.getChaffingConfig.numRealRequests + c.getChaffingConfig.numChaffRequests
  else
    c.getChaffingConfig.numRealRequests

def getNonChaffBuyerNames : List String :=
  c.buyerFactory.elems.filter fun buyer =>
    !(c.chaffingEnabled && buyer ∈ c.getChaffingConfig.chaffRequestCandidates) &&
      (buyer ∈ c.buyerList && buyer ∈ c.buyerInputs)

def buyerCandidates : List String × List String :=
  match c.cachedBuyers with
  | some invoked => (invoked.nonChaffBuyerNames, invoked.chaffBuyerNames)
  | none => (c.getNonChaffBuyerNames, c.getChaffingConfig.chaffRequestCandidates)

/-- `buyer_get_bids_requests`, as `FetchBids` builds it. -/
def buyerGetBidsRequests : List BuyerGetBidsRequest :=
  let real := c.buyerCandidates.1.filter fun buyer => buyer ∈ c.buyerInputs
  let chaff := c.buyerCandidates.2.take c.getChaffingConfig.numChaffRequests.toNat
  let requests := real.map (⟨·, false⟩) ++ chaff.map (⟨·, true⟩)
  if c.chaffingEnabled && c.hasRng then c.rng.shuffle requests else requests

/-- The requests that the loop of `FetchBids` goes through. -/
def requestsToMake : List BuyerGetBidsRequest :=
  if c.getEffectiveNumberOfBuyers = 0 then [] else c.buyerGetBidsRequests

/-- The buyers called when the request was served before all have their input now; without
chaffing no chaff was called then. Or nobody is counted at all. -/
def CallsMatch : Prop :=
  ∀ invoked, c.cachedBuyers = some invoked →
    (invoked.nonChaffBuyerNames = [] ∧ (c.chaffingEnabled = true → invoked.chaffBuyerNames = [])) ∨
    (invoked.nonChaffBuyerNames.filter fun buyer => buyer ∉ c.buyerInputs).length =
      if c.chaffingEnabled then 0 else invoked.chaffBuyerNames.length

/-! ## The count -/

section Count

variable {c}

theorem drawNumChaffRequests_mem (numRealRequests : ℕ) {numCandidates : ℕ}
    (hpos : 0 < numCandidates) :
    0 ≤ c.drawNumChaffRequests numCandidates numRealRequests ∧
      c.drawNumChaffRequests numCandidates numRealRequests ≤ numCandidates := by
  unfold drawNumChaffRequests
  dsimp only
  generalize hlower : (min (if numRealRequests = 0 then 2 else 1) (numCandidates : ℤ)) = lower
  have hle : 0 ≤ lower ∧ lower ≤ numCandidates := by
    rw [← hlower]
    split <;> omega
  generalize hdrawn :
    (if c.hasRng then c.rng.getUniformInt lower numCandidates else 0) = drawn
  have hmem : 0 ≤ drawn ∧ drawn ≤ numCandidates := by
    rw [← hdrawn]
    split
    · have := c.rng.getUniformInt_mem lower numCandidates hle.2
      omega
    · omega
  split
  · -- the share is between none and all of them
    generalize hshare : max (0 : ℚ) (min _ 1) = share
    have hzero : 0 ≤ share := hshare ▸ le_max_left _ _
    have hone : share ≤ 1 := hshare ▸ max_le zero_le_one (min_le_right _ _)
    have hdrawnQ : (0 : ℚ) ≤ drawn := Int.cast_nonneg hmem.1
    refine ⟨Int.ceil_nonneg (mul_nonneg hdrawnQ hzero), le_trans ?_ hmem.2⟩
    exact Int.ceil_le.mpr (mul_le_of_le_one_right hdrawnQ hone)
  · exact hmem

theorem length_buyerGetBidsRequests :
    c.buyerGetBidsRequests.length =
      (c.buyerCandidates.1.filter fun buyer => buyer ∈ c.buyerInputs).length +
        (c.buyerCandidates.2.take c.getChaffingConfig.numChaffRequests.toNat).length := by
  unfold buyerGetBidsRequests
  dsimp only
  split
  · rw [(c.rng.shuffle_perm _).length_eq, List.length_append, List.length_map, List.length_map]
  · rw [List.length_append, List.length_map, List.length_map]

theorem not_mem_buyerInputs_of_candidate (hfresh : c.cachedBuyers = none) {buyer : String}
    (h : buyer ∈ c.getChaffingConfig.chaffRequestCandidates) : buyer ∉ c.buyerInputs := by
  unfold getChaffingConfig at h
  rw [hfresh] at h
  dsimp only at h
  split at h
  · exact absurd h List.not_mem_nil
  · dsimp only at h
    have hmem : buyer ∈ c.auctionBuyers.filter fun buyer => buyer ∉ c.buyerInputs := by
      split at h
      · exact (c.rng.shuffle_perm _).mem_iff.mp h
      · exact h
    exact of_decide_eq_true (List.mem_filter.mp hmem).2

theorem numRealRequests_of_fresh (hfresh : c.cachedBuyers = none) :
    c.getChaffingConfig.numRealRequests =
      (c.auctionBuyers.filter fun buyer => buyer ∈ c.buyerInputs).length := by
  unfold getChaffingConfig
  rw [hfresh]
  dsimp only
  split <;> rfl

theorem numChaffRequests_of_fresh (hfresh : c.cachedBuyers = none) :
    0 ≤ c.getChaffingConfig.numChaffRequests ∧
      c.getChaffingConfig.numChaffRequests ≤ c.getChaffingConfig.chaffRequestCandidates.length ∧
      (c.chaffingEnabled = false → c.getChaffingConfig.numChaffRequests = 0) := by
  unfold getChaffingConfig
  rw [hfresh]
  dsimp only
  split
  · exact ⟨le_rfl, Int.natCast_nonneg _, fun _ => rfl⟩
  · rename_i hchaffing
    dsimp only
    generalize c.auctionBuyers.filter (fun buyer => decide (buyer ∉ c.buyerInputs)) = candidates
    have hlength : (if c.hasRng = true then c.rng.shuffle candidates else candidates).length =
        candidates.length := by
      split
      · exact (c.rng.shuffle_perm _).length_eq
      · rfl
    rw [hlength]
    split
    · exact ⟨le_rfl, Int.natCast_nonneg _, fun _ => rfl⟩
    · rename_i hsome
      have hpos : 0 < candidates.length := by
        rw [List.length_pos_iff]
        simpa using hsome
      obtain ⟨hnonneg, hle⟩ := drawNumChaffRequests_mem (c := c)
        (c.auctionBuyers.filter fun buyer => buyer ∈ c.buyerInputs).length hpos
      refine ⟨hnonneg, hle, fun hnot => ?_⟩
      simp [hnot] at hchaffing

theorem length_requests_of_fresh (hfresh : c.cachedBuyers = none) :
    (c.buyerGetBidsRequests.length : ℤ) = c.getEffectiveNumberOfBuyers := by
  obtain ⟨hnonneg, hle, hoff⟩ := numChaffRequests_of_fresh hfresh
  rw [length_buyerGetBidsRequests]
  have hcandidates : c.buyerCandidates =
      (c.getNonChaffBuyerNames, c.getChaffingConfig.chaffRequestCandidates) := by
    unfold buyerCandidates
    rw [hfresh]
  have hreal : (c.getNonChaffBuyerNames.filter fun buyer => buyer ∈ c.buyerInputs) =
      c.auctionBuyers.filter fun buyer => buyer ∈ c.buyerInputs := by
    unfold getNonChaffBuyerNames auctionBuyers
    rw [List.filter_filter, List.filter_filter]
    refine List.filter_congr fun buyer _ => ?_
    by_cases hinput : buyer ∈ c.buyerInputs
    · have hnot : buyer ∉ c.getChaffingConfig.chaffRequestCandidates := fun h =>
        not_mem_buyerInputs_of_candidate hfresh h hinput
      simp [hinput, hnot]
    · simp [hinput]
  rw [hcandidates]
  dsimp only
  rw [hreal, List.length_take]
  unfold getEffectiveNumberOfBuyers
  rw [numRealRequests_of_fresh hfresh]
  split
  · omega
  · rename_i hnot
    have := hoff (Bool.not_eq_true _ ▸ hnot)
    omega

theorem length_requests_of_cached {invoked : InvokedBuyers}
    (hcached : c.cachedBuyers = some invoked) :
    c.buyerGetBidsRequests.length +
        (invoked.nonChaffBuyerNames.filter fun buyer => buyer ∉ c.buyerInputs).length =
      invoked.nonChaffBuyerNames.length + invoked.chaffBuyerNames.length := by
  rw [length_buyerGetBidsRequests]
  have hcandidates : c.buyerCandidates = (invoked.nonChaffBuyerNames, invoked.chaffBuyerNames) := by
    unfold buyerCandidates
    rw [hcached]
  have hchaff : c.getChaffingConfig.numChaffRequests = invoked.chaffBuyerNames.length := by
    unfold getChaffingConfig
    rw [hcached]
  rw [hcandidates, hchaff]
  dsimp only
  rw [Int.toNat_natCast, List.take_length]
  have hsplit := List.length_eq_length_filter_add
    (l := invoked.nonChaffBuyerNames) fun buyer => decide (buyer ∈ c.buyerInputs)
  simp only [decide_not]
  omega

theorem effective_of_cached {invoked : InvokedBuyers} (hcached : c.cachedBuyers = some invoked) :
    c.getEffectiveNumberOfBuyers = invoked.nonChaffBuyerNames.length +
      if c.chaffingEnabled then (invoked.chaffBuyerNames.length : ℤ) else 0 := by
  unfold getEffectiveNumberOfBuyers getChaffingConfig
  rw [hcached]
  dsimp only
  split <;> omega

theorem effective_nonneg : 0 ≤ c.getEffectiveNumberOfBuyers := by
  cases hcached : c.cachedBuyers with
  | none =>
    rw [← length_requests_of_fresh hcached]
    exact Int.natCast_nonneg _
  | some invoked =>
    rw [effective_of_cached hcached]
    split <;> omega

theorem requestsToMake_iff :
    (c.requestsToMake.length : ℤ) = c.getEffectiveNumberOfBuyers ↔ c.CallsMatch := by
  unfold requestsToMake CallsMatch
  cases hcached : c.cachedBuyers with
  | none =>
    have hlength := length_requests_of_fresh hcached
    refine iff_of_true ?_ nofun
    split
    · rename_i hzero
      rw [hzero]
      rfl
    · exact hlength
  | some invoked =>
    have hlength := length_requests_of_cached hcached
    have heffective := effective_of_cached hcached
    have hall : ∀ P : InvokedBuyers → Prop, (∀ invoked', some invoked = some invoked' →
        P invoked') ↔ P invoked := by
      intro P
      constructor
      · intro h
        exact h invoked rfl
      · rintro h invoked' hinvoked
        obtain rfl := Option.some.inj hinvoked
        exact h
    rw [hall]
    have hnil : ∀ l : List String, l = [] ↔ l.length = 0 := fun l => List.length_eq_zero_iff.symm
    rw [hnil, hnil]
    cases hchaffing : c.chaffingEnabled with
    | true =>
      rw [hchaffing] at heffective
      simp only [if_true] at heffective
      simp only [if_true, true_implies]
      have hle := List.length_filter_le
        (fun buyer => decide (buyer ∉ c.buyerInputs)) invoked.nonChaffBuyerNames
      split
      · simp only [List.length_nil]
        omega
      · omega
    | false =>
      rw [hchaffing] at heffective
      simp only [Bool.false_eq_true, if_false] at heffective
      simp only [Bool.false_eq_true, if_false, false_implies, and_true]
      split
      · simp only [List.length_nil]
        omega
      · omega

/-- There is a reason to call the buyer: its input, or chaffing. -/
def HasReason (c : SelectAdSetup) (request : BuyerGetBidsRequest) : Prop :=
  if request.isChaff then c.chaffingEnabled = true else request.buyerName ∈ c.buyerInputs

theorem kinds_of_mem {request : BuyerGetBidsRequest} (h : request ∈ c.requestsToMake) :
    request.isChaff = false ∧ request.buyerName ∈ c.buyerCandidates.1 ∧
        request.buyerName ∈ c.buyerInputs ∨
      request.isChaff = true ∧ request.buyerName ∈
        c.buyerCandidates.2.take c.getChaffingConfig.numChaffRequests.toNat := by
  have hmem : request ∈ c.buyerGetBidsRequests := by
    unfold requestsToMake at h
    split at h
    · cases h
    · exact h
  have hkind : request ∈ (c.buyerCandidates.1.filter fun buyer => buyer ∈ c.buyerInputs).map
      (BuyerGetBidsRequest.mk · false) ++
        (c.buyerCandidates.2.take c.getChaffingConfig.numChaffRequests.toNat).map
          (BuyerGetBidsRequest.mk · true) := by
    unfold buyerGetBidsRequests at hmem
    dsimp only at hmem
    split at hmem
    · exact (c.rng.shuffle_perm _).mem_iff.mp hmem
    · exact hmem
  rcases List.mem_append.mp hkind with hreal | hchaff
  · obtain ⟨buyer, hbuyer, rfl⟩ := List.mem_map.mp hreal
    obtain ⟨hcandidate, hinput⟩ := List.mem_filter.mp hbuyer
    exact .inl ⟨rfl, hcandidate, of_decide_eq_true hinput⟩
  · obtain ⟨buyer, hbuyer, rfl⟩ := List.mem_map.mp hchaff
    exact .inr ⟨rfl, hbuyer⟩

theorem hasReason_of_fresh (hfresh : c.cachedBuyers = none) {request : BuyerGetBidsRequest}
    (h : request ∈ c.requestsToMake) : c.HasReason request := by
  unfold HasReason
  rcases kinds_of_mem h with ⟨hreal, -, hinput⟩ | ⟨hchaff, hdrawn⟩
  · rw [if_neg (by rw [hreal]; exact Bool.false_ne_true)]
    exact hinput
  · rw [if_pos hchaff]
    by_contra hoff
    -- without chaffing none is drawn
    rw [(numChaffRequests_of_fresh hfresh).2.2 (Bool.eq_false_of_not_eq_true hoff)] at hdrawn
    cases hdrawn

end Count

end SelectAdSetup

end BiddingAuction
