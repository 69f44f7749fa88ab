import BiddingAuction.Chaffing.RequestGenerator
import BiddingAuction.Foundation.Runs
import BiddingAuction.SelectAd.ReactorOptions

/-!
# The requests a seller sends to buyers

A seller front end keeps a window of request sizes for each buyer. A request to a buyer is
sized by the window when it is sent, and offered to the window when its call is done. Requests
for ads are served side by side, and calls are done in any order.
-/

namespace BiddingAuction

open Foundation
open SelectAd (RequestConfig MovingMedianManager)

universe u v

namespace SellerTraffic

/-- `ByteSizeLong` of a message that is sent: it has a ciphertext, and is one that can be
serialized. -/
structure MessageSize where
  bytes : ℕ
  pos : 0 < bytes
  lt : bytes < 2 ^ 31
deriving DecidableEq

def firstSize : MessageSize := ⟨100100, by decide, by decide⟩

/-- How a seller front end is set up. `moving_median_manager` and `buyer_factory` are made
from the same map of buyers. -/
structure Config where
  debugSampleRateMicro : Int32
  chaffingEnabled : Bool
  chaffingV2Enabled : Bool
  buyerFactory : FlatHashSet String
  windowSize : ℕ
  windowSize_pos : 0 < windowSize
  samplingProbability : ℚ
  sfeBfeCompressionAlgo : Transcoding.CompressionType

/-- A request for ads, with what it brings of a `SelectAdSetup`. -/
structure SelectAdRequest where
  requestEligible : Bool
  generator : RequestGenerator
  buyerList : List String
  buyerInputs : FlatHashMap String (List InterestGroupForBidding)
  previouslyInvokedBuyers : Option InvokedBuyers

namespace Config

variable (c : Config)

/-- The pointer `rng_` of a request. -/
def rng (r : SelectAdRequest) : Option RequestGenerator :=
  createRng c.debugSampleRateMicro c.chaffingEnabled r.requestEligible r.generator

def setup (r : SelectAdRequest) : SelectAdSetup where
  buyerFactory := c.buyerFactory
  buyerList := r.buyerList
  buyerInputs := r.buyerInputs
  chaffingEnabled := c.chaffingEnabled
  chaffingV2Enabled := c.chaffingV2Enabled
  buyerCachingEnabled := r.previouslyInvokedBuyers.isSome
  previouslyInvokedBuyers := r.previouslyInvokedBuyers
  isDebugEligible := r.requestEligible && 0 < c.debugSampleRateMicro
  rng := r.generator.toRandomNumberGenerator

end Config

structure SentRequest where
  origin : SelectAdRequest
  call : BuyerGetBidsRequest
  minimumRequestSize : ℤ
  size : MessageSize

/-- How a call is done: `OnDone` of its parameters, or `OnCancel`. -/
inductive CallEnd where
  | transportError
  | undecryptable
  | undecodable
  | response
  | cancelled
deriving DecidableEq, Repr

/-- `request_size` of the `ResponseMetadata`, where the callback runs: the size is set once the
status is known to be good. -/
def CallEnd.requestSize (size : MessageSize) : CallEnd → Option ℕ
  | transportError => some 0
  | undecryptable | undecodable | response => some size.bytes
  | cancelled => none

/-- A number offered to the window of a buyer, for the request sent in that place. -/
structure Offer where
  index : ℕ
  buyer : String
  value : ℤ
deriving DecidableEq, Repr

/-- The state of a server. Beside the windows and the calls that are not done it has what was
sent and offered. -/
structure State where
  requests : List SelectAdRequest := []
  medians : String → Option MovingMedian
  sent : List SentRequest := []
  inFlight : List ℕ := []
  offered : List Offer := []

inductive Event where
  | execute (r : SelectAdRequest)
  | getChaffingConfig (r : SelectAdRequest)
  | fetchBid (r : SelectAdRequest) (call : BuyerGetBidsRequest) (size : MessageSize)
  | callback (index : ℕ) (callEnd : CallEnd) (draw : ℚ)

/-- `MovingMedianManager`, as it is asked. -/
def State.movingMedianManager (s : State) : MovingMedianManager where
  isWindowFilled buyer := (s.medians buyer).map MovingMedian.isWindowFilled
  getMedian buyer := (s.medians buyer).bind fun m => m.getMedian.toOption

variable (c : Config)

def Config.initial : State where
  medians buyer :=
    if buyer ∈ c.buyerFactory then
      some { windowSize := c.windowSize, samplingProbability := c.samplingProbability }
    else none

/-- `request_config` of `FetchBid`. -/
def Config.requestConfig (s : State) (r : SelectAdRequest) (call : BuyerGetBidsRequest) :
    RequestConfig :=
  match c.chaffingEnabled, c.chaffingV2Enabled, c.rng r with
  | true, false, some rng =>
    SelectAd.getChaffingV1GetBidsRequestConfig call.isChaff rng.toRandomNumberGenerator
      c.sfeBfeCompressionAlgo
  | true, true, _ =>
    SelectAd.getChaffingV2GetBidsRequestConfig call.buyerName call.isChaff s.movingMedianManager
      c.sfeBfeCompressionAlgo
  | _, _, _ => { compressionType := c.sfeBfeCompressionAlgo }

/-- An `int` that is made from a `size_t`. -/
def toInt (size : ℕ) : ℤ := (Int32.ofNat size).toInt

theorem toInt_bytes (size : MessageSize) : toInt size.bytes = size.bytes :=
  Int32.toInt_ofNat_of_lt size.lt

/-- `AddNumberToBuyerWindow`, for the request sent in that place. -/
def State.addNumberToBuyerWindow (s : State) (buyer : String) (rng : Option RequestGenerator)
    (draw : ℚ) (index : ℕ) (val : ℤ) : Except Undefined State :=
  match s.medians buyer with
  | none => .ok s
  | some m =>
    (m.addNumberFrom rng ⟨draw, val⟩).map fun m =>
      { s with
        medians := Function.update s.medians buyer (some m)
        offered := s.offered ++ [⟨index, buyer, val⟩] }

/-- The callback of `FetchBid`, for a call that is done. -/
def Config.onDone (s : State) (index : ℕ) (request : SentRequest) (callEnd : CallEnd)
    (draw : ℚ) : Except Undefined State :=
  match callEnd.requestSize request.size with
  | none => .ok s
  | some requestSize =>
    if c.chaffingV2Enabled && !request.call.isChaff then
      s.addNumberToBuyerWindow request.call.buyerName (c.rng request.origin) draw index
        (toInt requestSize)
    else .ok s

/-- What can happen in a state. The cache of the buyers called before has chaff only where
chaff was sent. -/
def Event.Enabled (s : State) : Event → Prop
  | execute r => c.chaffingEnabled = false →
      ∀ invoked, r.previouslyInvokedBuyers = some invoked → invoked.chaffBuyerNames = []
  | getChaffingConfig r => r ∈ s.requests
  | fetchBid r call _ => r ∈ s.requests ∧ call ∈ (c.setup r).requestsToMake ∧
      call.buyerName ∈ c.buyerFactory
  | callback index _ _ => index ∈ s.inFlight

def State.step (s : State) : Event → Except Undefined State
  | .execute r =>
    (shouldSample c.debugSampleRateMicro r.requestEligible (c.rng r)).map fun _ =>
      { s with requests := r :: s.requests }
  | .getChaffingConfig r => ((c.setup r).getChaffingConfigFrom (c.rng r)).map fun _ => s
  | .fetchBid r call size =>
    let config := c.requestConfig s r call
    .ok
      { s with
        sent := s.sent ++ [⟨r, call, config.minimumRequestSize, size⟩]
        inFlight := s.inFlight ++ [s.sent.length] }
  | .callback index callEnd draw =>
    let s := { s with inFlight := s.inFlight.erase index }
    match s.sent[index]? with
    | none => .ok s
    | some request => c.onDone s index request callEnd draw

/-- A seller front end, over the events that have a defined outcome. -/
def Config.system : LTS State Event where
  init s := s = c.initial
  step s e s' := e.Enabled c s ∧ s.step c e = .ok s'

/-! ## What a step does -/

section Step

variable {c} {s s' : State} {e : Event}

/-- The steps, each with what it was taken for. -/
inductive Stepped (c : Config) (s : State) : Event → State → Prop
  | execute (r : SelectAdRequest) (hcache : (Event.execute r).Enabled c s) :
      Stepped c s (.execute r) { s with requests := r :: s.requests }
  | getChaffingConfig (r : SelectAdRequest) : Stepped c s (.getChaffingConfig r) s
  | fetchBid (r : SelectAdRequest) (call : BuyerGetBidsRequest) (size : MessageSize)
      (hcall : (Event.fetchBid r call size).Enabled c s) :
      Stepped c s (.fetchBid r call size)
        { s with
          sent := s.sent ++ [⟨r, call, (c.requestConfig s r call).minimumRequestSize, size⟩]
          inFlight := s.inFlight ++ [s.sent.length] }
  | unoffered (index : ℕ) (callEnd : CallEnd) (draw : ℚ) (hindex : index ∈ s.inFlight)
      (hnot : ∀ request, s.sent[index]? = some request → callEnd = .cancelled ∨
        c.chaffingV2Enabled = false ∨ request.call.isChaff = true ∨
        s.medians request.call.buyerName = none) :
      Stepped c s (.callback index callEnd draw) { s with inFlight := s.inFlight.erase index }
  | offered (index : ℕ) (callEnd : CallEnd) (draw : ℚ) (hindex : index ∈ s.inFlight)
      {request : SentRequest} (hrequest : s.sent[index]? = some request) {size : ℕ}
      (hsize : callEnd.requestSize request.size = some size)
      (hv2 : c.chaffingV2Enabled = true) (hreal : request.call.isChaff = false)
      {m m' : MovingMedian} (hm : s.medians request.call.buyerName = some m)
      (hm' : m.addNumberFrom (c.rng request.origin) ⟨draw, toInt size⟩ = .ok m') :
      Stepped c s (.callback index callEnd draw)
        { s with
          inFlight := s.inFlight.erase index
          medians := Function.update s.medians request.call.buyerName (some m')
          offered := s.offered ++ [⟨index, request.call.buyerName, toInt size⟩] }

theorem map_eq_ok {α : Type u} {β : Type v} {x : Except Undefined α} {f : α → β} {b : β}
    (h : x.map f = .ok b) : ∃ a, x = .ok a ∧ f a = b := by
  cases x with
  | error u => cases h
  | ok a => exact ⟨a, rfl, Except.ok.inj h⟩

theorem stepped_of_onDone {index : ℕ} {callEnd : CallEnd} {draw : ℚ} {request : SentRequest}
    (hindex : index ∈ s.inFlight) (hrequest : s.sent[index]? = some request)
    (h : c.onDone { s with inFlight := s.inFlight.erase index } index request callEnd draw =
      .ok s') : Stepped c s (.callback index callEnd draw) s' := by
  have hunique {request' : SentRequest} (h : s.sent[index]? = some request') :
      request' = request := Option.some_inj.mp (h.symm.trans hrequest)
  unfold Config.onDone at h
  cases hsize : callEnd.requestSize request.size with
  | none =>
    rw [hsize] at h
    cases h
    refine .unoffered index callEnd draw hindex fun request' _ => .inl ?_
    cases callEnd <;> first | rfl | cases hsize
  | some size =>
    rw [hsize] at h
    dsimp only at h
    by_cases hoffer : (c.chaffingV2Enabled && !request.call.isChaff) = true
    · rw [if_pos hoffer] at h
      rw [Bool.and_eq_true, Bool.not_eq_true'] at hoffer
      unfold State.addNumberToBuyerWindow at h
      dsimp only at h
      cases hm : s.medians request.call.buyerName with
      | none =>
        rw [hm] at h
        cases h
        refine .unoffered index callEnd draw hindex fun request' h => ?_
        rw [hunique h]
        exact .inr (.inr (.inr hm))
      | some m =>
        rw [hm] at h
        obtain ⟨m', hm', rfl⟩ := map_eq_ok h
        exact .offered index callEnd draw hindex hrequest hsize hoffer.1 hoffer.2 hm hm'
    · rw [if_neg hoffer] at h
      cases h
      refine .unoffered index callEnd draw hindex fun request' h => ?_
      rw [hunique h]
      rw [Bool.and_eq_true, not_and_or, Bool.not_eq_true, Bool.not_eq_true'] at hoffer
      rcases hoffer with hoff | hchaff
      · exact .inr (.inl hoff)
      · exact .inr (.inr (.inl (by simpa using hchaff)))

theorem stepped_of_step (h : c.system.step s e s') : Stepped c s e s' := by
  obtain ⟨henabled, hstep⟩ := h
  cases e with
  | execute r =>
    obtain ⟨_, -, rfl⟩ := map_eq_ok hstep
    exact .execute r henabled
  | getChaffingConfig r =>
    obtain ⟨_, -, rfl⟩ := map_eq_ok hstep
    exact .getChaffingConfig r
  | fetchBid r call size =>
    cases hstep
    exact .fetchBid r call size henabled
  | callback index callEnd draw =>
    unfold State.step at hstep
    dsimp only at hstep
    cases hrequest : s.sent[index]? with
    | none =>
      rw [hrequest] at hstep
      cases hstep
      exact .unoffered index callEnd draw henabled fun request h => by rw [hrequest] at h; cases h
    | some request =>
      rw [hrequest] at hstep
      exact stepped_of_onDone henabled hrequest hstep

/-! ## The books -/

def State.valuesFor (s : State) (buyer : String) : List ℤ :=
  (s.offered.filter fun o => o.buyer = buyer).map Offer.value

/-- What holds in every state: each window has the last of some of the numbers offered to it,
and what was offered is for different requests, real ones, whose calls are done. -/
structure Books (c : Config) (s : State) : Prop where
  windows : ∀ buyer ∈ c.buyerFactory, ∃ m accepted, s.medians buyer = some m ∧
    MovingMedian.Holds c.windowSize c.samplingProbability accepted m ∧
    List.Sublist accepted (s.valuesFor buyer)
  cache : c.chaffingEnabled = false → ∀ r ∈ s.requests, ∀ invoked,
    r.previouslyInvokedBuyers = some invoked → invoked.chaffBuyerNames = []
  sent : ∀ request ∈ s.sent, request.call.buyerName ∈ c.buyerFactory
  inFlight : ∀ index ∈ s.inFlight, index < s.sent.length
  inFlightOnce : s.inFlight.Nodup
  offered : ∀ o ∈ s.offered, o.index ∉ s.inFlight ∧
    ∃ request, s.sent[o.index]? = some request ∧ request.call = ⟨o.buyer, false⟩
  offeredOnce : (s.offered.map Offer.index).Nodup

theorem books_initial : Books c c.initial where
  windows buyer hbuyer := by
    refine ⟨_, [], ?_, MovingMedian.holds_init c.windowSize_pos, List.nil_sublist _⟩
    exact if_pos hbuyer
  cache _ _ hr := absurd hr List.not_mem_nil
  sent _ h := absurd h List.not_mem_nil
  inFlight _ h := absurd h List.not_mem_nil
  inFlightOnce := List.nodup_nil
  offered _ h := absurd h List.not_mem_nil
  offeredOnce := List.nodup_nil

theorem getElem?_sent {request new : SentRequest} {index : ℕ}
    (h : s.sent[index]? = some request) : (s.sent ++ [new])[index]? = some request := by
  rw [List.getElem?_append_left (List.getElem?_eq_some_iff.mp h).1]
  exact h

theorem Books.sends (h : Books c s) {request : SentRequest}
    (hbuyer : request.call.buyerName ∈ c.buyerFactory) :
    Books c { s with
      sent := s.sent ++ [request]
      inFlight := s.inFlight ++ [s.sent.length] } where
  windows := h.windows
  cache := h.cache
  sent request' hrequest' := by
    rcases List.mem_append.mp hrequest' with hold | hnew
    · exact h.sent request' hold
    · rw [List.mem_singleton.mp hnew]
      exact hbuyer
  inFlight index hindex := by
    rw [List.length_append, List.length_singleton]
    rcases List.mem_append.mp hindex with hold | hnew
    · have := h.inFlight index hold
      omega
    · rw [List.mem_singleton.mp hnew]
      omega
  inFlightOnce := by
    refine List.Nodup.append h.inFlightOnce (List.nodup_singleton _) ?_
    intro index hold hnew
    have := h.inFlight index hold
    rw [List.mem_singleton.mp hnew] at this
    omega
  offered o ho := by
    obtain ⟨hdone, request', hrequest', hcall⟩ := h.offered o ho
    refine ⟨fun hin => ?_, request', getElem?_sent hrequest', hcall⟩
    rcases List.mem_append.mp hin with hold | hnew
    · exact hdone hold
    · have := (List.getElem?_eq_some_iff.mp hrequest').1
      rw [List.mem_singleton.mp hnew] at this
      omega
  offeredOnce := h.offeredOnce

theorem Books.closes (h : Books c s) (index : ℕ) :
    Books c { s with inFlight := s.inFlight.erase index } where
  windows := h.windows
  cache := h.cache
  sent := h.sent
  inFlight i hi := h.inFlight i (List.mem_of_mem_erase hi)
  inFlightOnce := h.inFlightOnce.erase index
  offered o ho :=
    ⟨fun hin => (h.offered o ho).1 (List.mem_of_mem_erase hin), (h.offered o ho).2⟩
  offeredOnce := h.offeredOnce

theorem valuesFor_offers {offered : List Offer} (o : Offer) (buyer : String)
    (hs : s'.offered = offered ++ [o]) (hs' : s.offered = offered) :
    s'.valuesFor buyer = s.valuesFor buyer ++ if o.buyer = buyer then [o.value] else [] := by
  unfold State.valuesFor
  rw [hs, hs', List.filter_append, List.map_append]
  congr 1
  by_cases hbuyer : o.buyer = buyer
  · simp [hbuyer]
  · simp [hbuyer]

theorem Books.offers (h : Books c s) {index : ℕ} {request : SentRequest} {m m' : MovingMedian}
    {rng : Option RequestGenerator} {draw : ℚ} {value : ℤ} (hindex : index ∈ s.inFlight)
    (hrequest : s.sent[index]? = some request) (hreal : request.call.isChaff = false)
    (hm : s.medians request.call.buyerName = some m)
    (hm' : m.addNumberFrom rng ⟨draw, value⟩ = .ok m') :
    Books c { s with
      inFlight := s.inFlight.erase index
      medians := Function.update s.medians request.call.buyerName (some m')
      offered := s.offered ++ [⟨index, request.call.buyerName, value⟩] } where
  windows buyer hbuyer := by
    obtain ⟨m₁, accepted, hm₁, hholds, hsub⟩ := h.windows buyer hbuyer
    rw [valuesFor_offers (s := s) ⟨index, request.call.buyerName, value⟩ buyer rfl rfl]
    by_cases hsame : request.call.buyerName = buyer
    · subst hsame
      cases hm₁.symm.trans hm
      refine ⟨m', _, Function.update_self .., hholds.addNumberFrom c.windowSize_pos hm', ?_⟩
      rw [if_pos rfl]
      split
      · exact hsub.append (List.Sublist.refl _)
      · exact hsub.trans (List.sublist_append_left _ _)
    · refine ⟨m₁, accepted, ?_, hholds, hsub.trans (List.sublist_append_left _ _)⟩
      show Function.update _ _ _ buyer = _
      rw [Function.update_of_ne (Ne.symm hsame)]
      exact hm₁
  cache := h.cache
  sent := h.sent
  inFlight i hi := h.inFlight i (List.mem_of_mem_erase hi)
  inFlightOnce := h.inFlightOnce.erase index
  offered o ho := by
    rcases List.mem_append.mp ho with hold | hnew
    · exact ⟨fun hin => (h.offered o hold).1 (List.mem_of_mem_erase hin), (h.offered o hold).2⟩
    · rw [List.mem_singleton.mp hnew]
      refine ⟨h.inFlightOnce.not_mem_erase, request, hrequest, ?_⟩
      rw [← hreal]
  offeredOnce := by
    rw [List.map_append]
    refine List.Nodup.append h.offeredOnce (List.nodup_singleton _) ?_
    intro i hold hnew
    obtain ⟨o, ho, rfl⟩ := List.mem_map.mp hold
    have hsame : o.index = index := List.mem_singleton.mp hnew
    exact (h.offered o ho).1 (hsame ▸ hindex)

theorem Books.step (h : Books c s) (hstep : Stepped c s e s') : Books c s' := by
  cases hstep with
  | execute r hcache =>
    refine ⟨h.windows, fun hoff r' hr' => ?_, h.sent, h.inFlight, h.inFlightOnce, h.offered,
      h.offeredOnce⟩
    rcases List.mem_cons.mp hr' with rfl | hold
    · exact hcache hoff
    · exact h.cache hoff r' hold
  | getChaffingConfig r => exact h
  | fetchBid r call size hcall => exact h.sends hcall.2.2
  | unoffered index callEnd draw hindex hnot => exact h.closes index
  | offered index callEnd draw hindex hrequest hsize hv2 hreal hm hm' =>
    exact h.offers hindex hrequest hreal hm hm'

theorem books_of_run {trace : List Event} (run : c.system.Run trace s) : Books c s := by
  refine run.invariant (I := fun _ s => Books c s) ?_ ?_
  · rintro s rfl
    exact books_initial
  · intro trace s e s' h _ hstep
    exact h.step (stepped_of_step hstep)

end Step

/-! ## A call -/

section Call

variable {c} {s : State} {trace : List Event} {r : SelectAdRequest} {buyer : String}

theorem run_execute (r : SelectAdRequest) (hcache : (Event.execute r).Enabled c c.initial) :
    c.system.Run [.execute r] { c.initial with requests := [r] } := by
  obtain ⟨isSampled, hsampled⟩ : ∃ isSampled,
      shouldSample c.debugSampleRateMicro r.requestEligible (c.rng r) = .ok isSampled :=
    shouldSample_createRng ..
  refine .next (.start rfl) trivial ⟨hcache, ?_⟩
  unfold State.step
  dsimp only
  rw [hsampled]
  rfl

def State.send (c : Config) (s : State) (r : SelectAdRequest) (call : BuyerGetBidsRequest)
    (size : MessageSize) : State :=
  { s with
    sent := s.sent ++ [⟨r, call, (c.requestConfig s r call).minimumRequestSize, size⟩]
    inFlight := s.inFlight ++ [s.sent.length] }

theorem run_send (run : c.system.Run trace s) (hr : r ∈ s.requests) {call : BuyerGetBidsRequest}
    (hcall : call ∈ (c.setup r).requestsToMake) (hbuyer : call.buyerName ∈ c.buyerFactory)
    (size : MessageSize) :
    c.system.Run (.fetchBid r call size :: trace) (s.send c r call size) :=
  .next run trivial ⟨⟨hr, hcall, hbuyer⟩, rfl⟩

theorem step_callback_send (hv2 : c.chaffingV2Enabled = true) {m : MovingMedian}
    (hm : s.medians buyer = some m) {callEnd : CallEnd} {size : MessageSize} {requestSize : ℕ}
    (hsize : callEnd.requestSize size = some requestSize) (draw : ℚ) :
    (s.send c r ⟨buyer, false⟩ size).step c (.callback s.sent.length callEnd draw) =
      (m.addNumberFrom (c.rng r) ⟨draw, toInt requestSize⟩).map fun m =>
        { s.send c r ⟨buyer, false⟩ size with
          inFlight := (s.inFlight ++ [s.sent.length]).erase s.sent.length
          medians := Function.update s.medians buyer (some m)
          offered := s.offered ++ [⟨s.sent.length, buyer, toInt requestSize⟩] } := by
  unfold State.step State.send
  dsimp only
  rw [List.getElem?_concat_length]
  dsimp only
  unfold Config.onDone
  rw [hsize, hv2]
  dsimp only
  rw [Bool.not_false, Bool.and_true, if_pos rfl]
  unfold State.addNumberToBuyerWindow
  dsimp only
  rw [hm]

theorem exists_run_call (run : c.system.Run trace s) (hr : r ∈ s.requests)
    (hcall : ⟨buyer, false⟩ ∈ (c.setup r).requestsToMake) (hbuyer : buyer ∈ c.buyerFactory)
    (hv2 : c.chaffingV2Enabled = true) {m m' : MovingMedian} (hm : s.medians buyer = some m)
    {callEnd : CallEnd} {size : MessageSize} {requestSize : ℕ}
    (hsize : callEnd.requestSize size = some requestSize) (draw : ℚ)
    (hm' : m.addNumberFrom (c.rng r) ⟨draw, toInt requestSize⟩ = .ok m') :
    ∃ s', c.system.Run (.callback s.sent.length callEnd draw ::
        .fetchBid r ⟨buyer, false⟩ size :: trace) s' ∧
      s'.requests = s.requests ∧ s'.medians buyer = some m' ∧
      s'.sent = (s.send c r ⟨buyer, false⟩ size).sent ∧
      s'.offered = s.offered ++ [⟨s.sent.length, buyer, toInt requestSize⟩] := by
  have hstep := step_callback_send (c := c) (r := r) hv2 hm hsize draw
  rw [hm'] at hstep
  refine ⟨_, .next (run_send run hr hcall hbuyer size) trivial ⟨?_, hstep⟩, rfl, ?_, rfl, rfl⟩
  · exact List.mem_append_right _ (List.mem_singleton_self _)
  · exact Function.update_self ..

end Call

end SellerTraffic

end BiddingAuction
