import BiddingAuction.Chaffing.SellerTraffic

/-!
# Chaff is of the size of real requests

The window of a buyer is there to hold the sizes of requests that were sent to the buyer, so
that their median is a size that chaff can have. A call that ends with an error of the
transport has no size for its request, and offers zero.
-/

namespace BiddingAuction

open Foundation

namespace SellerTraffic

variable {c : Config} {s s' : State} {e : Event} {trace : List Event} {buyer : String}

/-! ## What is wanted -/

def State.SentFor (s : State) (buyer : String) (index : ℕ) (request : SentRequest) : Prop :=
  s.sent[index]? = some request ∧ request.call = ⟨buyer, false⟩

/-- What is offered is sizes of real requests, each of them once. -/
structure OffersSizes (s : State) : Prop where
  size : ∀ o ∈ s.offered, ∃ request, s.SentFor o.buyer o.index request ∧
    o.value = request.size.bytes
  once : (s.offered.map Offer.index).Nodup

def State.isFilled (s : State) (buyer : String) : Option Bool :=
  s.movingMedianManager.isWindowFilled buyer

def minimumRequestSize (c : Config) (s : State) (r : SelectAdRequest)
    (call : BuyerGetBidsRequest) : ℤ := (c.requestConfig s r call).minimumRequestSize

/-- The median of the sizes of as many real requests to the buyer as the window holds. -/
def IsMedianOfSizes (c : Config) (s : State) (buyer : String) (median : ℤ) : Prop :=
  ∃ requests : List (ℕ × SentRequest), (requests.map Prod.fst).Nodup ∧
    requests.length = c.windowSize ∧
    (∀ x ∈ requests, s.SentFor buyer x.1 x.2) ∧
    median = MovingMedian.medianOf (requests.map fun x => x.2.size.bytes)

/-- The sizes of chaff reflect the traffic to each buyer. -/
structure ReflectsTraffic (c : Config) (s : State) : Prop extends OffersSizes s where
  unfilled : ∀ buyer ∈ c.buyerFactory, s.isFilled buyer = some false →
    ∀ r ∈ s.requests, ∀ r' ∈ s.requests,
      minimumRequestSize c s r ⟨buyer, true⟩ = minimumRequestSize c s r' ⟨buyer, false⟩
  filled : ∀ buyer ∈ c.buyerFactory, s.isFilled buyer = some true →
    ∀ r ∈ s.requests, ⟨buyer, true⟩ ∈ (c.setup r).requestsToMake →
      IsMedianOfSizes c s buyer (minimumRequestSize c s r ⟨buyer, true⟩)

/-- No call of a real request ends with an error of the transport. -/
def Event.HasSize (s : State) : Event → Prop
  | .callback index .transportError _ =>
    ∀ request, s.sent[index]? = some request → request.call.isChaff = true
  | _ => True

/-! ## What is offered -/

theorem OffersSizes.of_prefix (hbooks : Books c s) (h : OffersSizes s') {new : List Offer}
    {more : List SentRequest} (hoffered : s'.offered = s.offered ++ new)
    (hsent : s'.sent = s.sent ++ more) : OffersSizes s where
  size o ho := by
    obtain ⟨-, request, hrequest, hcall⟩ := hbooks.offered o ho
    obtain ⟨request', ⟨hrequest', -⟩, hvalue⟩ := h.size o (by
      rw [hoffered]
      exact List.mem_append_left _ ho)
    rw [hsent, List.getElem?_append_left (List.getElem?_eq_some_iff.mp hrequest).1] at hrequest'
    cases hrequest.symm.trans hrequest'
    exact ⟨request, ⟨hrequest, hcall⟩, hvalue⟩
  once := hbooks.offeredOnce

theorem OffersSizes.sends (h : OffersSizes s) {more : List SentRequest}
    (hoffered : s'.offered = s.offered) (hsent : s'.sent = s.sent ++ more) : OffersSizes s' where
  size o ho := by
    rw [hoffered] at ho
    obtain ⟨request, ⟨hrequest, hcall⟩, hvalue⟩ := h.size o ho
    refine ⟨request, ⟨?_, hcall⟩, hvalue⟩
    rw [hsent, List.getElem?_append_left (List.getElem?_eq_some_iff.mp hrequest).1]
    exact hrequest
  once := by
    rw [hoffered]
    exact h.once

theorem requestSize_eq {callEnd : CallEnd} {size : MessageSize} {requestSize : ℕ}
    (hsize : callEnd.requestSize size = some requestSize) :
    toInt requestSize = size.bytes ↔ callEnd ≠ .transportError := by
  have hpos := size.pos
  cases callEnd with
  | transportError =>
    cases hsize
    refine iff_of_false ?_ (fun h => h rfl)
    rw [show toInt 0 = 0 from rfl]
    omega
  | undecryptable | undecodable | response =>
    cases hsize
    exact iff_of_true (toInt_bytes size) nofun
  | cancelled => cases hsize

theorem OffersSizes.step_iff (hbooks : Books c s) (hv2 : c.chaffingV2Enabled = true)
    (h : OffersSizes s) (hstep : Stepped c s e s') : OffersSizes s' ↔ e.HasSize s := by
  cases hstep with
  | execute r hcache => exact iff_of_true (h.sends rfl (List.append_nil _).symm) trivial
  | getChaffingConfig r => exact iff_of_true h trivial
  | fetchBid r call size hcall => exact iff_of_true (h.sends rfl rfl) trivial
  | unoffered index callEnd draw hindex hnot =>
    refine iff_of_true (h.sends rfl (List.append_nil _).symm) ?_
    cases callEnd with
    | transportError =>
      intro request hrequest
      rcases hnot request hrequest with hend | hoff | hchaff | hnone
      · cases hend
      · rw [hv2] at hoff
        cases hoff
      · exact hchaff
      · -- each buyer that something was sent to has a window
        have hbuyer := hbooks.sent request (List.mem_of_getElem? hrequest)
        obtain ⟨m, _, hm, -⟩ := hbooks.windows _ hbuyer
        rw [hnone] at hm
        cases hm
    | undecryptable | undecodable | response | cancelled => trivial
  | offered index callEnd draw hindex hrequest hsize hv2' hreal hm hm' =>
    rename_i request requestSize m m'
    have hbooks' := hbooks.step (.offered index callEnd draw hindex hrequest hsize hv2 hreal hm hm')
    have hends : (Event.callback index callEnd draw).HasSize s ↔ callEnd ≠ .transportError := by
      cases callEnd with
      | transportError =>
        refine iff_of_false (fun hsize => ?_) (fun h => h rfl)
        have hchaff := hsize request hrequest
        rw [hreal] at hchaff
        cases hchaff
      | undecryptable | undecodable | response | cancelled => exact iff_of_true trivial nofun
    rw [hends, ← requestSize_eq hsize]
    constructor
    · intro h'
      obtain ⟨request', ⟨hrequest', -⟩, hvalue⟩ := h'.size _ (List.mem_append_right _
        (List.mem_singleton_self _))
      cases hrequest.symm.trans hrequest'
      exact hvalue
    · intro hvalue
      refine ⟨fun o ho => ?_, hbooks'.offeredOnce⟩
      rcases List.mem_append.mp ho with hold | hnew
      · exact h.size o hold
      · rw [List.mem_singleton.mp hnew]
        refine ⟨request, ⟨hrequest, ?_⟩, hvalue⟩
        rw [← hreal]

theorem OffersSizes.of_step (hbooks : Books c s) (hstep : Stepped c s e s')
    (h : OffersSizes s') : OffersSizes s := by
  cases hstep with
  | execute r hcache => exact h.of_prefix hbooks (List.append_nil _).symm (List.append_nil _).symm
  | getChaffingConfig r => exact h
  | fetchBid r call size hcall => exact h.of_prefix hbooks (List.append_nil _).symm rfl
  | unoffered index callEnd draw hindex hnot =>
    exact h.of_prefix hbooks (List.append_nil _).symm (List.append_nil _).symm
  | offered index callEnd draw hindex hrequest hsize hv2 hreal hm hm' =>
    exact h.of_prefix hbooks rfl (List.append_nil _).symm

theorem offersSizes_iff (hv2 : c.chaffingV2Enabled = true) (run : c.system.Run trace s) :
    OffersSizes s ↔ c.system.RunWhere (fun s e => e.HasSize s) trace s := by
  constructor
  · intro hlast
    induction run with
    | start hinit => exact .start hinit
    | next run _ hstep ih =>
      have hbooks := books_of_run run
      have hstepped := stepped_of_step hstep
      have hbefore := OffersSizes.of_step hbooks hstepped hlast
      exact .next (ih hbefore) ((hbefore.step_iff hbooks hv2 hstepped).mp hlast) hstep
  · intro hadmitted
    refine (hadmitted.invariant (I := fun _ s => Books c s ∧ OffersSizes s) ?_ ?_).2
    · rintro s rfl
      exact ⟨books_initial, fun _ ho => absurd ho List.not_mem_nil, List.nodup_nil⟩
    · rintro _ s e s' ⟨hbooks, h⟩ he hstep
      have hstepped := stepped_of_step hstep
      exact ⟨hbooks.step hstepped, (h.step_iff hbooks hv2 hstepped).mpr he⟩

theorem runWhere_hasSize (run : c.system.Run trace s) (hends : ∀ e ∈ trace, ∀ s, e.HasSize s) :
    c.system.RunWhere (fun s e => e.HasSize s) trace s := by
  induction run with
  | start hinit => exact .start hinit
  | next run _ hstep ih =>
    exact .next (ih fun e he => hends e (List.mem_cons_of_mem _ he))
      (hends _ List.mem_cons_self _) hstep

/-! ## What chaff is made of -/

theorem minimumRequestSize_unfilled (hv2 : c.chaffingV2Enabled = true)
    (hfilled : s.isFilled buyer = some false) (r r' : SelectAdRequest) :
    minimumRequestSize c s r ⟨buyer, true⟩ = minimumRequestSize c s r' ⟨buyer, false⟩ := by
  unfold minimumRequestSize Config.requestConfig
  rw [hv2]
  cases c.chaffingEnabled with
  | false => rfl
  | true =>
    unfold SelectAd.getChaffingV2GetBidsRequestConfig
    dsimp only
    unfold State.isFilled at hfilled
    rw [hfilled]
    dsimp only
    cases s.movingMedianManager.getMedian buyer with
    | none => rfl
    | some median => rfl

theorem chaffingEnabled_of_chaff (hbooks : Books c s) {r : SelectAdRequest} (hr : r ∈ s.requests)
    (hchaff : ⟨buyer, true⟩ ∈ (c.setup r).requestsToMake) : c.chaffingEnabled = true := by
  by_contra hoff
  rw [Bool.not_eq_true] at hoff
  have hnone : (c.setup r).buyerCandidates.2 = [] := by
    unfold SelectAdSetup.buyerCandidates SelectAdSetup.getChaffingConfig
    cases hcached : (c.setup r).cachedBuyers with
    | some invoked =>
      unfold SelectAdSetup.cachedBuyers at hcached
      rw [Option.ite_none_right_eq_some] at hcached
      exact hbooks.cache hoff r hr invoked hcached.2
    | none =>
      dsimp only
      rw [if_pos]
      show (!c.chaffingEnabled || _) = true
      rw [hoff]
      rfl
  unfold SelectAdSetup.requestsToMake at hchaff
  split at hchaff
  · cases hchaff
  · unfold SelectAdSetup.buyerGetBidsRequests at hchaff
    have hoff' : (c.setup r).chaffingEnabled = false := hoff
    dsimp only at hchaff
    rw [hoff', hnone, List.take_nil, List.map_nil, List.append_nil] at hchaff
    simp at hchaff

theorem exists_requests {offers : List Offer}
    (hsize : ∀ o ∈ offers, ∃ request, s.SentFor buyer o.index request ∧
      o.value = request.size.bytes) :
    ∃ requests : List (ℕ × SentRequest), requests.map Prod.fst = offers.map Offer.index ∧
      (∀ x ∈ requests, s.SentFor buyer x.1 x.2) ∧
      offers.map Offer.value = requests.map fun x => (x.2.size.bytes : ℤ) := by
  induction offers with
  | nil => exact ⟨[], rfl, fun _ hx => absurd hx List.not_mem_nil, rfl⟩
  | cons o rest ih =>
    obtain ⟨request, hrequest, hvalue⟩ := hsize o List.mem_cons_self
    obtain ⟨requests, hplaces, hsent, hvalues⟩ :=
      ih fun o ho => hsize o (List.mem_cons_of_mem _ ho)
    refine ⟨(o.index, request) :: requests, ?_, ?_, ?_⟩
    · rw [List.map_cons, List.map_cons, hplaces]
    · intro x hx
      rcases List.mem_cons.mp hx with rfl | hrest
      · exact hrequest
      · exact hsent x hrest
    · rw [List.map_cons, List.map_cons, hvalues, hvalue]

theorem isMedianOfSizes_of_filled (hbooks : Books c s) (h : OffersSizes s)
    (hv2 : c.chaffingV2Enabled = true) (hbuyer : buyer ∈ c.buyerFactory)
    (hfilled : s.isFilled buyer = some true) {r : SelectAdRequest}
    (hchaffing : c.chaffingEnabled = true) :
    IsMedianOfSizes c s buyer (minimumRequestSize c s r ⟨buyer, true⟩) := by
  obtain ⟨m, accepted, hm, hholds, hsub⟩ := hbooks.windows buyer hbuyer
  have hfull : c.windowSize ≤ accepted.length := by
    unfold State.isFilled State.movingMedianManager MovingMedian.isWindowFilled at hfilled
    dsimp only at hfilled
    rw [hm, Option.map_some, Option.some_inj, decide_eq_true_eq, hholds.windowSize,
      hholds.length_windowData] at hfilled
    omega
  have hget : s.movingMedianManager.getMedian buyer =
      some (MovingMedian.medianOf (accepted.rtake c.windowSize)) := by
    unfold State.movingMedianManager MovingMedian.getMedian
    dsimp only
    rw [hm, Option.bind_some, hholds.full hfull]
    rfl
  have hmedian : minimumRequestSize c s r ⟨buyer, true⟩ =
      MovingMedian.medianOf (accepted.rtake c.windowSize) := by
    unfold minimumRequestSize Config.requestConfig SelectAd.getChaffingV2GetBidsRequestConfig
    rw [hv2, hchaffing]
    unfold State.isFilled at hfilled
    dsimp only
    rw [hfilled, hget]
    rfl
  -- the window has the last numbers it accepted of those that were offered
  have hlast : List.Sublist (accepted.rtake c.windowSize) (s.valuesFor buyer) :=
    (List.drop_sublist _ _).trans hsub
  obtain ⟨offers, hoffers, hvalues⟩ := List.sublist_map_iff.mp hlast
  have hreal : ∀ o ∈ offers, ∃ request, s.SentFor buyer o.index request ∧
      o.value = request.size.bytes := by
    intro o ho
    obtain ⟨hmem, hto⟩ := List.mem_filter.mp (hoffers.subset ho)
    obtain ⟨request, hrequest, hvalue⟩ := h.size o hmem
    exact ⟨request, of_decide_eq_true hto ▸ hrequest, hvalue⟩
  obtain ⟨requests, hplaces, hsent, hsizes⟩ := exists_requests hreal
  refine ⟨requests, ?_, ?_, hsent, ?_⟩
  · rw [hplaces]
    exact h.once.sublist ((hoffers.trans List.filter_sublist).map Offer.index)
  · have hlength := congrArg List.length hvalues
    have hlength' := congrArg List.length hsizes
    rw [List.length_map, length_rtake] at hlength
    rw [List.length_map, List.length_map] at hlength'
    omega
  · rw [hmedian, hvalues, hsizes]

/-- The sizes of chaff reflect the traffic exactly in the runs where no call of a real request
ends with an error of the transport. -/
theorem reflectsTraffic_iff (hv2 : c.chaffingV2Enabled = true) (run : c.system.Run trace s) :
    ReflectsTraffic c s ↔ c.system.RunWhere (fun s e => e.HasSize s) trace s := by
  rw [← offersSizes_iff hv2 run]
  constructor
  · exact ReflectsTraffic.toOffersSizes
  · intro h
    have hbooks := books_of_run run
    refine ⟨h, ?_, ?_⟩
    · intro buyer _ hfilled r _ r' _
      exact minimumRequestSize_unfilled hv2 hfilled r r'
    · intro buyer hbuyer hfilled r hr hchaff
      exact isMedianOfSizes_of_filled hbooks h hv2 hbuyer hfilled
        (chaffingEnabled_of_chaff hbooks hr hchaff)

/-! ## One call -/

/-- A front end with one buyer, and the windows of production. -/
def oneBuyer : Config where
  debugSampleRateMicro := 0
  chaffingEnabled := true
  chaffingV2Enabled := true
  buyerFactory := ⟨["https://buyer.example"], by decide⟩
  windowSize := 10000
  windowSize_pos := by decide
  samplingProbability := 1 / 10
  sfeBfeCompressionAlgo := .gzip

def requestForBuyer : SelectAdRequest where
  requestEligible := false
  generator := .lowest
  buyerList := ["https://buyer.example"]
  buyerInputs := FlatHashMap.emplace ∅ "https://buyer.example" []
  previouslyInvokedBuyers := none

def callOnce (callEnd : CallEnd) : List Event :=
  [.callback 0 callEnd 0,
    .fetchBid requestForBuyer ⟨"https://buyer.example", false⟩ firstSize,
    .execute requestForBuyer]

theorem exists_run_callOnce (callEnd : CallEnd) {requestSize : ℕ}
    (hsize : callEnd.requestSize firstSize = some requestSize) :
    ∃ s, oneBuyer.system.Run (callOnce callEnd) s ∧
      s.sent.map SentRequest.size = [firstSize] ∧
      s.offered = [⟨0, "https://buyer.example", toInt requestSize⟩] := by
  have hexecute := run_execute (c := oneBuyer) requestForBuyer nofun
  have hcall : ⟨"https://buyer.example", false⟩ ∈
      (oneBuyer.setup requestForBuyer).requestsToMake := by
    decide +kernel
  obtain ⟨s, run, -, -, hsent, hoffered⟩ := exists_run_call hexecute List.mem_cons_self hcall
    (by decide) rfl rfl hsize 0 rfl
  refine ⟨s, run, ?_, hoffered⟩
  rw [hsent]
  rfl

theorem reflectsTraffic_callOnce :
    ∃ s, oneBuyer.system.Run (callOnce .response) s ∧ ReflectsTraffic oneBuyer s := by
  obtain ⟨s, run, -, -⟩ := exists_run_callOnce .response rfl
  refine ⟨s, run, (reflectsTraffic_iff rfl run).mpr (runWhere_hasSize run ?_)⟩
  intro e he s
  unfold callOnce at he
  rw [List.mem_cons, List.mem_cons, List.mem_singleton] at he
  rcases he with rfl | rfl | rfl <;> trivial

/-- A call that ends with an error of the transport: zero is offered. -/
theorem not_reflectsTraffic :
    ∃ s, oneBuyer.system.Run (callOnce .transportError) s ∧
      s.offered = [⟨0, "https://buyer.example", 0⟩] ∧ ¬ ReflectsTraffic oneBuyer s := by
  obtain ⟨s, run, hsent, hoffered⟩ := exists_run_callOnce .transportError rfl
  refine ⟨s, run, hoffered, fun h => ?_⟩
  obtain ⟨request, -, hvalue⟩ := h.size _ (by rw [hoffered]; exact List.mem_singleton_self _)
  have hpos := request.size.pos
  rw [show toInt 0 = 0 from rfl] at hvalue
  dsimp only at hvalue
  omega

end SellerTraffic

end BiddingAuction
