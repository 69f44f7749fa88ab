import BiddingAuction.SelectAd.FetchBids
import Mathlib.Tactic.NormNum

/-!
# What chaff hides

Who is called is to say nothing about whose groups the request carries: there is a least
number of chaff requests, larger when no request is real, and a request that comes again is
to call the same buyers in the same roles. The roles hold up over any two runs. The least
number does not with the second version of chaffing, which scales the number it has drawn
and then rounds, so that what is left may be below the bound it was drawn above.
-/

namespace BiddingAuction

open Foundation

/-! ## A share of a number, rounded up -/

/-- A share between none and all leaves the bound exactly if the share itself leaves more than
one less. -/
theorem le_ceil_mul_clamp_iff {lower drawn : ℤ} (hlower : 1 ≤ lower) (hdrawn : lower ≤ drawn)
    (share : ℚ) :
    lower ≤ ⌈(drawn : ℚ) * max 0 (min share 1)⌉ ↔ (lower : ℚ) - 1 < drawn * share := by
  have hceil : ∀ q : ℚ, lower ≤ ⌈q⌉ ↔ (lower : ℚ) - 1 < q := by
    intro q
    rw [Int.le_ceil_iff]
  rw [hceil]
  have hone : (1 : ℚ) ≤ lower := by exact_mod_cast hlower
  have hdrawnQ : (lower : ℚ) ≤ drawn := by exact_mod_cast hdrawn
  rcases le_total share 0 with hnone | hsome
  · -- nothing is left, which no bound admits
    rw [max_eq_left ((min_le_left _ _).trans hnone), mul_zero]
    have hshare : (drawn : ℚ) * share ≤ 0 :=
      mul_nonpos_of_nonneg_of_nonpos (by linarith) hnone
    exact iff_of_false (by linarith) (by linarith)
  · rcases le_total share 1 with hpart | hall
    · rw [min_eq_left hpart, max_eq_right hsome]
    · -- all is left, and the bound admits what was drawn
      rw [min_eq_right hall, max_eq_right zero_le_one, mul_one]
      have hshare : (drawn : ℚ) ≤ drawn * share :=
        le_mul_of_one_le_right (by linarith) hall
      exact iff_of_true (by linarith) (by linarith)

namespace SelectAdSetup

variable (c : SelectAdSetup)

def chaffCandidates : List String := c.auctionBuyers.filter fun buyer => buyer ∉ c.buyerInputs

def realBuyers : List String := c.auctionBuyers.filter fun buyer => buyer ∈ c.buyerInputs

/-- `num_chaff_requests_lower_bound`: at least two where no request is real. -/
def minChaffRequests : ℤ :=
  min (if c.realBuyers.length = 0 then 2 else 1) c.chaffCandidates.length

def drawnChaffRequests : ℤ :=
  c.rng.getUniformInt c.minChaffRequests c.chaffCandidates.length

def chaffShare : ℚ :=
  c.rng.getNormalDouble (c.chaffCandidates.length / 6) chaffingV2GaussianStandardDev

/-- What the second version leaves of the number drawn is above one less than the least. -/
def ShareSuffices : Prop :=
  c.chaffingEnabled = true → shouldSkipChaffing c.buyerFactory.elems.length c.rng = false →
    c.chaffingV2Enabled = true → c.chaffCandidates ≠ [] →
      (c.minChaffRequests : ℚ) - 1 < c.drawnChaffRequests * c.chaffShare

/-- The number of chaff requests is between the least number and all candidates. -/
def ChaffCountBounded : Prop :=
  c.chaffingEnabled = true → shouldSkipChaffing c.buyerFactory.elems.length c.rng = false →
    c.minChaffRequests ≤ c.getChaffingConfig.numChaffRequests ∧
      c.getChaffingConfig.numChaffRequests ≤ c.chaffCandidates.length

section Count

variable {c}

theorem numChaffRequests_of_not_skipped (hfresh : c.cachedBuyers = none)
    (henabled : c.chaffingEnabled = true)
    (hnot : shouldSkipChaffing c.buyerFactory.elems.length c.rng = false) :
    c.getChaffingConfig.numChaffRequests =
      if c.chaffCandidates.isEmpty then 0
      else if c.chaffingV2Enabled then
        ⌈(c.drawnChaffRequests : ℚ) * max 0 (min c.chaffShare 1)⌉
      else c.drawnChaffRequests := by
  have hrng : c.hasRng = true := by simp [hasRng, henabled]
  unfold getChaffingConfig drawNumChaffRequests
  rw [hfresh]
  dsimp only
  rw [if_neg (by simp [henabled, hnot])]
  dsimp only
  rw [if_pos hrng]
  rfl

theorem minChaffRequests_mem (hsome : c.chaffCandidates ≠ []) :
    1 ≤ c.minChaffRequests ∧ c.minChaffRequests ≤ c.chaffCandidates.length := by
  have hpos := List.length_pos_iff.mpr hsome
  unfold minChaffRequests
  split <;> omega

theorem drawnChaffRequests_mem (hsome : c.chaffCandidates ≠ []) :
    c.minChaffRequests ≤ c.drawnChaffRequests ∧
      c.drawnChaffRequests ≤ c.chaffCandidates.length :=
  c.rng.getUniformInt_mem _ _ (minChaffRequests_mem hsome).2

theorem chaffCountBounded_iff (hfresh : c.cachedBuyers = none) :
    c.ChaffCountBounded ↔ c.ShareSuffices := by
  unfold ChaffCountBounded ShareSuffices
  refine forall_congr' fun henabled => forall_congr' fun hnot => ?_
  rw [numChaffRequests_of_not_skipped hfresh henabled hnot]
  by_cases hsome : c.chaffCandidates = []
  · rw [if_pos (List.isEmpty_iff.mpr hsome)]
    refine iff_of_true ?_ fun _ hne => absurd hsome hne
    have hzero : c.chaffCandidates.length = 0 := List.length_eq_zero_iff.mpr hsome
    unfold minChaffRequests
    rw [hzero]
    split <;> decide
  rw [if_neg fun h => hsome (List.isEmpty_iff.mp h)]
  obtain ⟨hleast, hmost⟩ := drawnChaffRequests_mem hsome
  cases hv2 : c.chaffingV2Enabled with
  | false => exact iff_of_true ⟨hleast, hmost⟩ nofun
  | true =>
    -- what is left is at most what was drawn
    have hle : ⌈(c.drawnChaffRequests : ℚ) * max 0 (min c.chaffShare 1)⌉ ≤
        c.drawnChaffRequests := by
      refine Int.ceil_le.mpr (mul_le_of_le_one_right ?_ (max_le zero_le_one (min_le_right _ _)))
      have hone := (minChaffRequests_mem hsome).1
      exact Int.cast_nonneg (by omega)
    rw [if_pos rfl, le_ceil_mul_clamp_iff (minChaffRequests_mem hsome).1 hleast]
    constructor
    · rintro ⟨hshare, -⟩ - -
      exact hshare
    · intro hshare
      exact ⟨hshare rfl hsome, hle.trans hmost⟩

end Count

/-- The request as it comes again, with the buyers recorded and other draws. -/
def repeated (invoked : InvokedBuyers) (rng : RandomNumberGenerator) : SelectAdSetup :=
  { c with previouslyInvokedBuyers := some invoked, rng := rng }

end SelectAdSetup

/-! ## The roles of the buyers called -/

namespace InvokedBuyers

def ofRequests (requests : List BuyerGetBidsRequest) : InvokedBuyers where
  chaffBuyerNames := (requests.filter fun request => request.isChaff).map (·.buyerName)
  nonChaffBuyerNames := (requests.filter fun request => !request.isChaff).map (·.buyerName)

def SameRoles (invoked invoked' : InvokedBuyers) : Prop :=
  invoked.chaffBuyerNames.Perm invoked'.chaffBuyerNames ∧
    invoked.nonChaffBuyerNames.Perm invoked'.nonChaffBuyerNames

def Disjoint (invoked : InvokedBuyers) : Prop :=
  ∀ buyer ∈ invoked.chaffBuyerNames, buyer ∉ invoked.nonChaffBuyerNames

theorem sameRoles_of_perm {requests requests' : List BuyerGetBidsRequest}
    (h : requests.Perm requests') : (ofRequests requests).SameRoles (ofRequests requests') :=
  ⟨(h.filter _).map _, (h.filter _).map _⟩

theorem disjoint_of_sameRoles {invoked invoked' : InvokedBuyers} (h : invoked.Disjoint)
    (same : invoked'.SameRoles invoked) : invoked'.Disjoint := by
  intro buyer hchaff hreal
  exact h buyer (same.1.mem_iff.mp hchaff) (same.2.mem_iff.mp hreal)

theorem ofRequests_append (requests : List BuyerGetBidsRequest) (request : BuyerGetBidsRequest) :
    ofRequests (requests ++ [request]) =
      if request.isChaff then
        { ofRequests requests with
          chaffBuyerNames := (ofRequests requests).chaffBuyerNames ++ [request.buyerName] }
      else
        { ofRequests requests with
          nonChaffBuyerNames :=
            (ofRequests requests).nonChaffBuyerNames ++ [request.buyerName] } := by
  obtain ⟨buyer, isChaff⟩ := request
  unfold ofRequests
  cases isChaff <;> simp

theorem ofRequests_of_roles (nonChaff chaff : List String) :
    ofRequests (nonChaff.map (⟨·, false⟩) ++ chaff.map (⟨·, true⟩)) = ⟨chaff, nonChaff⟩ := by
  have hfalse : ∀ (p : BuyerGetBidsRequest → Bool) (isChaff : Bool) (l : List String),
      (∀ buyer, p ⟨buyer, isChaff⟩ = false) →
        (l.map (BuyerGetBidsRequest.mk · isChaff)).filter p = [] := by
    intro p isChaff l hp
    rw [List.filter_eq_nil_iff]
    intro request hmem
    obtain ⟨buyer, -, rfl⟩ := List.mem_map.mp hmem
    rw [hp buyer]
    exact Bool.false_ne_true
  have htrue : ∀ (p : BuyerGetBidsRequest → Bool) (isChaff : Bool) (l : List String),
      (∀ buyer, p ⟨buyer, isChaff⟩ = true) →
        ((l.map (BuyerGetBidsRequest.mk · isChaff)).filter p).map (·.buyerName) = l := by
    intro p isChaff l hp
    rw [List.filter_eq_self.mpr, List.map_map]
    · exact List.map_id l
    · intro request hmem
      obtain ⟨buyer, -, rfl⟩ := List.mem_map.mp hmem
      exact hp buyer
  unfold ofRequests
  rw [List.filter_append, List.filter_append,
    hfalse (fun request => request.isChaff) false nonChaff fun _ => rfl,
    hfalse (fun request => !request.isChaff) true chaff fun _ => rfl,
    List.nil_append, List.append_nil,
    htrue (fun request => request.isChaff) true chaff fun _ => rfl,
    htrue (fun request => !request.isChaff) false nonChaff fun _ => rfl]

end InvokedBuyers

namespace FetchBids

open SelectAdSetup

/-- The loop has gone through the first requests and called them up to the cap. -/
structure GoneThrough (c : SelectAdSetup) (s : FetchBids) (gone : List BuyerGetBidsRequest) :
    Prop where
  requests : gone ++ s.buyerGetBidsRequests = c.requestsToMake
  numBuyersSolicited : s.numBuyersSolicited = (gone.take c.cap.toNat).length
  invokedBuyers : s.invokedBuyers = .ofRequests (gone.take c.cap.toNat)

section Roles

variable {c : SelectAdSetup} {s s' : FetchBids} {done : Option Bool}

theorem fetchBid_requests (request : BuyerGetBidsRequest) (isCancelled executed : Bool) :
    (s.fetchBid c request isCancelled executed).1.buyerGetBidsRequests =
      s.buyerGetBidsRequests := by
  unfold fetchBid taskCompleted
  dsimp only
  split_ifs <;> rfl

theorem fetchBid_invoked (request : BuyerGetBidsRequest) (isCancelled executed : Bool) :
    let t := (s.fetchBid c request isCancelled executed).1
    t.numBuyersSolicited =
        (if s.numBuyersSolicited ≥ c.cap then s.numBuyersSolicited
          else s.numBuyersSolicited + 1) ∧
      t.invokedBuyers =
        if s.numBuyersSolicited ≥ c.cap then s.invokedBuyers
        else if request.isChaff then
          { s.invokedBuyers with
            chaffBuyerNames := s.invokedBuyers.chaffBuyerNames ++ [request.buyerName] }
        else
          { s.invokedBuyers with
            nonChaffBuyerNames := s.invokedBuyers.nonChaffBuyerNames ++ [request.buyerName] } := by
  dsimp only
  unfold fetchBid taskCompleted
  dsimp only
  split_ifs <;> exact ⟨rfl, rfl⟩

theorem fetchBid_goneThrough {gone rest : List BuyerGetBidsRequest}
    {request : BuyerGetBidsRequest} (h : GoneThrough c s gone)
    (hrequests : s.buyerGetBidsRequests = request :: rest) (isCancelled executed : Bool) :
    GoneThrough c
      (fetchBid c { s with buyerGetBidsRequests := rest } request isCancelled executed).1
      (gone ++ [request]) := by
  obtain ⟨hnum, hinvoked⟩ := fetchBid_invoked (c := c)
    (s := { s with buyerGetBidsRequests := rest }) request isCancelled executed
  have hlength := h.numBuyersSolicited
  rw [List.length_take] at hlength
  refine ⟨?_, ?_, ?_⟩
  · rw [fetchBid_requests, ← h.requests, hrequests, List.append_assoc, List.singleton_append]
  · rw [hnum, List.length_take, List.length_append, List.length_singleton]
    show (if s.numBuyersSolicited ≥ c.cap then s.numBuyersSolicited
      else s.numBuyersSolicited + 1) = _
    split <;> omega
  · rw [hinvoked]
    show (if s.numBuyersSolicited ≥ c.cap then s.invokedBuyers else _) = _
    split
    · -- the cap was reached before
      rename_i hcap
      rw [h.invokedBuyers, List.take_append_of_le_length (by omega)]
    · rename_i hcap
      have htake : (gone ++ [request]).take c.cap.toNat = gone ++ [request] := by
        refine List.take_of_length_le ?_
        rw [List.length_append, List.length_singleton]
        omega
      have hgone : gone.take c.cap.toNat = gone := List.take_of_length_le (by omega)
      rw [htake, InvokedBuyers.ofRequests_append, h.invokedBuyers, hgone]

theorem onFetchBidsDone_invoked (buyer : String) (isCancelled : Bool)
    (response : Option GetBidsRawResponse) :
    let t := (s.onFetchBidsDone c buyer isCancelled response).1
    t.buyerGetBidsRequests = s.buyerGetBidsRequests ∧
      t.numBuyersSolicited = s.numBuyersSolicited ∧ t.invokedBuyers = s.invokedBuyers := by
  dsimp only
  unfold onFetchBidsDone taskCompleted
  split
  · exact ⟨rfl, rfl, rfl⟩
  split
  · exact ⟨rfl, rfl, rfl⟩
  split
  · exact ⟨rfl, rfl, rfl⟩
  · exact ⟨rfl, rfl, rfl⟩

theorem GoneThrough.step {gone : List BuyerGetBidsRequest} (h : GoneThrough c s gone)
    {e : Event} (hstep : s.step c e = some (s', done)) :
    ∃ gone', GoneThrough c s' gone' := by
  unfold FetchBids.step at hstep
  cases e with
  | fetchBid isCancelled executed =>
    dsimp only at hstep
    split at hstep
    · cases hstep
    · rename_i request rest hrequests
      have hgone := fetchBid_goneThrough h hrequests isCancelled executed
      rw [Option.some.inj hstep] at hgone
      exact ⟨_, hgone⟩
  | onDone buyer isCancelled response =>
    dsimp only at hstep
    split at hstep
    · obtain ⟨hrequests, hnum, hinvoked⟩ := onFetchBidsDone_invoked (c := c)
        (s := { s with called := s.called.erase buyer }) buyer isCancelled response
      rw [Option.some.inj hstep] at hrequests hnum hinvoked
      refine ⟨gone, ?_, ?_, ?_⟩
      · rw [hrequests]
        exact h.requests
      · rw [hnum]
        exact h.numBuyersSolicited
      · rw [hinvoked]
        exact h.invokedBuyers
    · cases hstep

theorem goneThrough_of_run {trace : List Event} (run : (system c).Run trace s) :
    ∃ gone, GoneThrough c s gone := by
  refine run.invariant (I := fun _ s => ∃ gone, GoneThrough c s gone) ?_ ?_
  · rintro s rfl
    exact ⟨[], rfl, by rw [List.take_nil]; rfl, by rw [List.take_nil]; rfl⟩
  · rintro trace s e s' ⟨gone, h⟩ - ⟨done, hstep⟩
    exact h.step hstep

theorem invokedBuyers_of_done {trace : List Event} (run : (system c).Run trace s)
    (hdone : s.buyerGetBidsRequests = []) :
    s.invokedBuyers = .ofRequests (c.requestsToMake.take c.cap.toNat) := by
  obtain ⟨gone, h⟩ := goneThrough_of_run run
  have hall := h.requests
  rw [hdone, List.append_nil] at hall
  rw [h.invokedBuyers, hall]

theorem requested_of_run {trace : List Event} (run : (system c).Run trace s) {buyer : String} :
    (buyer ∈ s.invokedBuyers.chaffBuyerNames → ⟨buyer, true⟩ ∈ c.requestsToMake) ∧
      (buyer ∈ s.invokedBuyers.nonChaffBuyerNames → ⟨buyer, false⟩ ∈ c.requestsToMake) := by
  obtain ⟨gone, h⟩ := goneThrough_of_run run
  have hmem : ∀ request ∈ gone.take c.cap.toNat, request ∈ c.requestsToMake := by
    intro request hmem
    rw [← h.requests]
    exact List.mem_append_left _ (List.mem_of_mem_take hmem)
  rw [h.invokedBuyers]
  constructor
  · intro hbuyer
    obtain ⟨⟨name, isChaff⟩, hrequest, rfl⟩ := List.mem_map.mp hbuyer
    obtain ⟨hgone, hchaff⟩ := List.mem_filter.mp hrequest
    obtain rfl : isChaff = true := hchaff
    exact hmem _ hgone
  · intro hbuyer
    obtain ⟨⟨name, isChaff⟩, hrequest, rfl⟩ := List.mem_map.mp hbuyer
    obtain ⟨hgone, hreal⟩ := List.mem_filter.mp hrequest
    obtain rfl : isChaff = false := by simpa using hreal
    exact hmem _ hgone

theorem disjoint_of_fresh (hfresh : c.cachedBuyers = none) {trace : List Event}
    (run : (system c).Run trace s) : s.invokedBuyers.Disjoint := by
  intro buyer hchaff hreal
  rcases kinds_of_mem ((requested_of_run run).2 hreal) with ⟨-, -, hinput⟩ | ⟨hfalse, -⟩
  · rcases kinds_of_mem ((requested_of_run run).1 hchaff) with ⟨htrue, -⟩ | ⟨-, hcandidate⟩
    · cases htrue
    · refine not_mem_buyerInputs_of_candidate hfresh ?_ hinput
      unfold buyerCandidates at hcandidate
      rw [hfresh] at hcandidate
      exact List.mem_of_mem_take hcandidate
  · cases hfalse

end Roles

section Repeated

variable {c : SelectAdSetup} {s : FetchBids}

theorem cachedBuyers_repeated (hcaching : c.buyerCachingEnabled = true) (invoked : InvokedBuyers)
    (rng : RandomNumberGenerator) : (c.repeated invoked rng).cachedBuyers = some invoked := by
  unfold cachedBuyers
  exact if_pos hcaching

theorem requestsToMake_repeated (hfresh : c.cachedBuyers = none)
    (hcaching : c.buyerCachingEnabled = true) {trace : List Event}
    (run : (system c).Run trace s) (rng : RandomNumberGenerator) :
    ((c.repeated s.invokedBuyers rng).requestsToMake).Perm
      (s.invokedBuyers.nonChaffBuyerNames.map (⟨·, false⟩) ++
        s.invokedBuyers.chaffBuyerNames.map (⟨·, true⟩)) := by
  have hrecorded := recorded_of_run hfresh run
  generalize hretry : c.repeated s.invokedBuyers rng = retry
  have hcached : retry.cachedBuyers = some s.invokedBuyers := by
    rw [← hretry]
    exact cachedBuyers_repeated hcaching _ _
  have hinputs : retry.buyerInputs = c.buyerInputs := by rw [← hretry]; rfl
  have hchaffing : retry.chaffingEnabled = c.chaffingEnabled := by rw [← hretry]; rfl
  unfold requestsToMake
  split
  · -- nobody was recorded
    rename_i hzero
    rw [effective_of_cached hcached] at hzero
    have hreal : s.invokedBuyers.nonChaffBuyerNames = [] := by
      refine List.length_eq_zero_iff.mp ?_
      split at hzero <;> omega
    have hchaff : s.invokedBuyers.chaffBuyerNames = [] := by
      cases henabled : c.chaffingEnabled with
      | false => exact hrecorded.chaff henabled
      | true =>
        rw [hchaffing, henabled, if_pos rfl] at hzero
        exact List.length_eq_zero_iff.mp (by omega)
    rw [hreal, hchaff]
    exact .refl _
  · have hcandidates : retry.buyerCandidates =
        (s.invokedBuyers.nonChaffBuyerNames, s.invokedBuyers.chaffBuyerNames) := by
      unfold buyerCandidates
      rw [hcached]
    have hcount : retry.getChaffingConfig.numChaffRequests =
        s.invokedBuyers.chaffBuyerNames.length := by
      unfold getChaffingConfig
      rw [hcached]
    -- each buyer recorded as real still has its input
    have hreal : (s.invokedBuyers.nonChaffBuyerNames.filter fun buyer =>
        buyer ∈ retry.buyerInputs) = s.invokedBuyers.nonChaffBuyerNames := by
      rw [List.filter_eq_self]
      intro buyer hbuyer
      rw [hinputs]
      exact decide_eq_true (hrecorded.nonChaff buyer hbuyer)
    unfold SelectAdSetup.buyerGetBidsRequests
    dsimp only
    rw [hcandidates, hcount, hreal, Int.toNat_natCast, List.take_length]
    split
    · exact retry.rng.shuffle_perm _
    · exact .refl _

theorem sameRoles_of_repeated (hfresh : c.cachedBuyers = none)
    (hcaching : c.buyerCachingEnabled = true) {trace : List Event}
    (run : (system c).Run trace s) (hdone : s.buyerGetBidsRequests = [])
    {rng : RandomNumberGenerator} {trace' : List Event} {t : FetchBids}
    (run' : (system (c.repeated s.invokedBuyers rng)).Run trace' t)
    (hdone' : t.buyerGetBidsRequests = []) : t.invokedBuyers.SameRoles s.invokedBuyers := by
  have hperm := requestsToMake_repeated hfresh hcaching run rng
  have hsize : s.invokedBuyers.nonChaffBuyerNames.length +
      s.invokedBuyers.chaffBuyerNames.length ≤ c.cap.toNat := by
    have hall := List.length_eq_length_filter_add
      (l := c.requestsToMake.take c.cap.toNat) fun request => request.isChaff
    have hcap := List.length_take_le c.cap.toNat c.requestsToMake
    rw [invokedBuyers_of_done run hdone]
    unfold InvokedBuyers.ofRequests
    simp only [List.length_map]
    omega
  -- as many as were called before are within the cap
  have htake : (c.repeated s.invokedBuyers rng).requestsToMake.take
      (c.repeated s.invokedBuyers rng).cap.toNat =
        (c.repeated s.invokedBuyers rng).requestsToMake := by
    refine List.take_of_length_le ?_
    rw [hperm.length_eq, List.length_append, List.length_map, List.length_map]
    exact hsize
  rw [invokedBuyers_of_done run' hdone', htake]
  have hsame := InvokedBuyers.sameRoles_of_perm hperm
  rw [InvokedBuyers.ofRequests_of_roles] at hsame
  exact hsame

end Repeated

/-- What chaff hides: at least so many requests go to buyers without input, nobody is called
in two roles, and a request that comes again calls the same buyers in the same roles. -/
structure HidesRealRequests (c : SelectAdSetup) : Prop where
  count : c.ChaffCountBounded
  disjoint : ∀ (trace : List Event) (s : FetchBids), (system c).Run trace s →
    s.invokedBuyers.Disjoint
  repeated : c.buyerCachingEnabled = true → ∀ (trace : List Event) (s : FetchBids),
    (system c).Run trace s → s.buyerGetBidsRequests = [] →
      ∀ (rng : RandomNumberGenerator) (trace' : List Event) (t : FetchBids),
        (system (c.repeated s.invokedBuyers rng)).Run trace' t → t.buyerGetBidsRequests = [] →
          t.invokedBuyers.SameRoles s.invokedBuyers ∧ t.invokedBuyers.Disjoint

/-- A generator that keeps the chaff, with the mean of the second version. -/
def meanRng : RandomNumberGenerator :=
  { leastRng with getUniformDouble := fun _ _ => 199 / 200 }

/-- Two buyers of the auction, none with input, in the second version of chaffing. -/
def twoBuyersWithoutInput : SelectAdSetup where
  buyerFactory := .ofList ["https://a.example", "https://b.example"]
  buyerList := ["https://a.example", "https://b.example"]
  buyerInputs := ∅
  chaffingEnabled := true
  chaffingV2Enabled := true
  rng := meanRng

theorem one_chaff_request_without_real :
    twoBuyersWithoutInput.getChaffingConfig.numChaffRequests = 1 ∧
      twoBuyersWithoutInput.minChaffRequests = 2 := by
  decide +kernel

end FetchBids

end BiddingAuction
