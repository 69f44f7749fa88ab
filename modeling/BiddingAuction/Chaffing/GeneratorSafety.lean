import BiddingAuction.Chaffing.SellerTraffic

/-!
# A generator for every draw

A front end creates a generator for some requests only, and has windows that draw from the
generator of a request once they are full. A seller without the first version of chaffing, and
a buyer whichever request is real, come to a full window without a generator.
-/

namespace BiddingAuction

open Foundation

universe u v

/-! ## The seller -/

namespace SellerTraffic

variable {c : Config} {s : State} {e : Event} {trace : List Event} {buyer : String}

/-- No request draws from a generator that it does not have. -/
def DrawsSafely (c : Config) : Prop :=
  ∀ trace s e, c.system.Run trace s → e.Enabled c s → s.step c e ≠ .error .nullGenerator

theorem map_ne_error {α : Type u} {β : Type v} {x : Except Undefined α} {f : α → β}
    {undefined : Undefined} (h : x ≠ .error undefined) : x.map f ≠ .error undefined := by
  cases x with
  | error other => exact fun heq => h (congrArg _ (Except.error.inj heq))
  | ok a => exact nofun

/-- The second version of chaffing comes with the first, or nothing is ever drawn for it. -/
def Config.IsGuarded (c : Config) : Prop :=
  c.chaffingV2Enabled = true →
    c.chaffingEnabled = true ∨ c.samplingProbability = 0 ∨ c.buyerFactory.elems = []

theorem onDone_ne_null (hbooks : Books c s) (hguard : c.IsGuarded)
    {index : ℕ} {request : SentRequest} (hrequest : s.sent[index]? = some request)
    (callEnd : CallEnd) (draw : ℚ) {inFlight : List ℕ} :
    c.onDone { s with inFlight } index request callEnd draw ≠ .error .nullGenerator := by
  unfold Config.onDone
  cases callEnd.requestSize request.size with
  | none => exact nofun
  | some requestSize =>
    dsimp only
    split
    · rename_i hoffer
      rw [Bool.and_eq_true] at hoffer
      have hbuyer := hbooks.sent request (List.mem_of_getElem? hrequest)
      obtain ⟨m, accepted, hm, hholds, -⟩ := hbooks.windows _ hbuyer
      unfold State.addNumberToBuyerWindow
      dsimp only
      rw [hm]
      refine map_ne_error fun hnull => ?_
      obtain ⟨-, hp, hrng⟩ := (MovingMedian.addNumberFrom_eq_null hholds c.windowSize_pos).mp hnull
      rcases hguard hoffer.1 with hon | hzero | hnone
      · unfold Config.rng createRng at hrng
        dsimp only at hrng
        rw [hon, Bool.true_or] at hrng
        cases hrng
      · exact hp hzero
      · have : request.call.buyerName ∈ c.buyerFactory.elems := hbuyer
        rw [hnone] at this
        cases this
    · exact nofun

theorem step_ne_null (hbooks : Books c s) (hguard : c.IsGuarded) (e : Event) :
    s.step c e ≠ .error .nullGenerator := by
  cases e with
  | execute r =>
    refine map_ne_error ?_
    obtain ⟨isSampled, h⟩ := shouldSample_createRng c.debugSampleRateMicro c.chaffingEnabled
      r.requestEligible r.generator
    unfold Config.rng
    rw [h]
    exact nofun
  | getChaffingConfig r =>
    refine map_ne_error ?_
    have h : (c.setup r).getChaffingConfigFrom (c.rng r) = _ :=
      SelectAdSetup.getChaffingConfigFrom_eq c.debugSampleRateMicro r.requestEligible rfl
    rw [h]
    exact nofun
  | fetchBid r call size => exact nofun
  | callback index callEnd draw =>
    unfold State.step
    dsimp only
    cases hrequest : s.sent[index]? with
    | none => exact nofun
    | some request => exact onDone_ne_null hbooks hguard hrequest callEnd draw

/-- A request that only the one buyer is called for, and that is not to be sampled. -/
def requestFor (buyer : String) : SelectAdRequest where
  requestEligible := false
  generator := .lowest
  buyerList := [buyer]
  buyerInputs := FlatHashMap.emplace ∅ buyer []
  previouslyInvokedBuyers := none

theorem mem_requestsToMake_requestFor (hoff : c.chaffingEnabled = false)
    (hbuyer : buyer ∈ c.buyerFactory) :
    ⟨buyer, false⟩ ∈ (c.setup (requestFor buyer)).requestsToMake := by
  have hinput : buyer ∈ (requestFor buyer).buyerInputs :=
    FlatHashMap.mem_emplace.mpr (.inl rfl)
  have hfresh : (c.setup (requestFor buyer)).cachedBuyers = none := rfl
  have hmem : ⟨buyer, false⟩ ∈ (c.setup (requestFor buyer)).buyerGetBidsRequests := by
    unfold SelectAdSetup.buyerGetBidsRequests SelectAdSetup.buyerCandidates
    rw [hfresh, if_neg]
    · refine List.mem_append_left _ (List.mem_map.mpr ⟨buyer, List.mem_filter.mpr ⟨?_, ?_⟩, rfl⟩)
      · refine List.mem_filter.mpr ⟨hbuyer, ?_⟩
        show (!(c.chaffingEnabled && _) && _) = true
        rw [hoff, Bool.false_and, Bool.not_false, Bool.true_and, Bool.and_eq_true]
        exact ⟨decide_eq_true (List.mem_singleton_self _), decide_eq_true hinput⟩
      · exact decide_eq_true hinput
    · show ¬ (c.chaffingEnabled && _) = true
      rw [hoff]
      exact nofun
  unfold SelectAdSetup.requestsToMake
  rw [if_neg]
  · exact hmem
  · rw [← SelectAdSetup.length_requests_of_fresh hfresh]
    have := List.length_pos_of_mem hmem
    omega

theorem requestSize_response :
    CallEnd.response.requestSize firstSize = some firstSize.bytes := rfl

theorem exists_run_calls (hv2 : c.chaffingV2Enabled = true) (hoff : c.chaffingEnabled = false)
    (hbuyer : buyer ∈ c.buyerFactory) {n : ℕ} (hn : n ≤ c.windowSize) :
    ∃ trace s, c.system.Run trace s ∧ requestFor buyer ∈ s.requests ∧
      ∃ m accepted, s.medians buyer = some m ∧ accepted.length = n ∧
        MovingMedian.Holds c.windowSize c.samplingProbability accepted m := by
  induction n with
  | zero =>
    have hexecute := run_execute (c := c) (requestFor buyer) fun _ _ h => nomatch h
    exact ⟨_, _, hexecute, List.mem_singleton_self _, _, [], if_pos hbuyer, rfl,
      MovingMedian.holds_init c.windowSize_pos⟩
  | succ n ih =>
    obtain ⟨trace, s, run, hr, m, accepted, hm, hlength, hholds⟩ := ih (by omega)
    obtain ⟨m', hm', hholds'⟩ := hholds.exists_addNumberFrom c.windowSize_pos (by omega)
      (c.rng (requestFor buyer)) ⟨0, toInt firstSize.bytes⟩
    obtain ⟨s', run', hsame, hmedian, -, -⟩ := exists_run_call run hr
      (mem_requestsToMake_requestFor hoff hbuyer) hbuyer hv2 hm requestSize_response 0 hm'
    refine ⟨_, s', run', hsame ▸ hr, m', _, hmedian, ?_, hholds'⟩
    rw [List.length_append, List.length_singleton, hlength]

theorem not_drawsSafely (hv2 : c.chaffingV2Enabled = true) (hoff : c.chaffingEnabled = false)
    (hp : c.samplingProbability ≠ 0) (hbuyer : buyer ∈ c.buyerFactory) : ¬ DrawsSafely c := by
  intro hsafe
  obtain ⟨trace, s, run, hr, m, accepted, hm, hlength, hholds⟩ :=
    exists_run_calls hv2 hoff hbuyer le_rfl
  have hnone : c.rng (requestFor buyer) = none := by
    unfold Config.rng createRng
    rw [hoff]
    rfl
  have hnull : m.addNumberFrom (c.rng (requestFor buyer)) ⟨0, toInt firstSize.bytes⟩ =
      .error .nullGenerator :=
    (MovingMedian.addNumberFrom_eq_null hholds c.windowSize_pos).mpr ⟨hlength.ge, hp, hnone⟩
  have hstep := step_callback_send (c := c) (s := s) (r := requestFor buyer) hv2 hm
    requestSize_response 0
  rw [hnull] at hstep
  exact hsafe _ _ _ (run_send run hr (mem_requestsToMake_requestFor hoff hbuyer) hbuyer firstSize)
    (List.mem_append_right _ (List.mem_singleton_self _)) hstep

theorem drawsSafely_iff : DrawsSafely c ↔ c.IsGuarded := by
  constructor
  · intro hsafe hv2
    by_contra hnone
    rw [not_or, not_or] at hnone
    obtain ⟨buyer, hbuyer⟩ := List.exists_mem_of_ne_nil _ hnone.2.2
    exact not_drawsSafely hv2 (Bool.not_eq_true _ ▸ hnone.1) hnone.2.1 hbuyer hsafe
  · intro hguard trace s e run _
    exact step_ne_null (books_of_run run) hguard e

end SellerTraffic

/-! ## The buyer -/

namespace BuyerTraffic

structure Config where
  debugSampleRateMicro : Int32
  chaffingV1Enabled : Bool
  chaffingV2Enabled : Bool
  windowSize : ℕ
  windowSize_pos : 0 < windowSize
  samplingProbability : ℚ

structure ReceivedRequest where
  isChaff : Bool
  isDebugEligible : Bool
  generator : RequestGenerator

inductive Phase where
  | executing
  | responded
  | finished
deriving DecidableEq, Repr

/-- `ChaffMedianTrackers`, and the reactors so far. -/
structure State where
  responseSize : MovingMedian
  requestDuration : MovingMedian
  requests : List (ReceivedRequest × Phase) := []

/-- What comes to a reactor: it is made, runs as chaff, encrypts its response, or finishes. -/
inductive Event where
  | execute (r : ReceivedRequest)
  | executeChaffRequest (index : ℕ)
  | encryptResponse (index : ℕ) (encodedPayloadLength : ℕ) (draw : ℚ)
  | finishWithStatus (index : ℕ) (ok : Bool) (requestDuration : ℤ) (draw : ℚ)

def kMinChaffRequestDurationMs : ℤ := 25
def kMaxChaffRequestDurationMs : ℤ := 380
def kMinChaffResponseSizeBytes : ℤ := 1000
def kMaxChaffResponseSizeBytes : ℤ := 10500
def kChaffingV2UnfilledWindowResponseDurationMs : ℤ := 500
def kChaffingV2UnfilledWindowResponseSizeBytes : ℤ := 100000

/-- `GetBuyerChaffingV2Values`. -/
def State.getBuyerChaffingV2Values (s : State) : Except String (ℤ × ℤ) :=
  if !s.requestDuration.isWindowFilled || !s.responseSize.isWindowFilled then
    .ok (kChaffingV2UnfilledWindowResponseDurationMs, kChaffingV2UnfilledWindowResponseSizeBytes)
  else do
    let requestDuration ← s.requestDuration.getMedian
    let responseSize ← s.responseSize.getMedian
    return (requestDuration, responseSize)

variable (c : Config)

/-- The pointer `rng_` of a reactor. -/
def Config.rng (r : ReceivedRequest) : Option RequestGenerator :=
  createRng c.debugSampleRateMicro (c.chaffingV1Enabled && r.isChaff) r.isDebugEligible
    r.generator

def Config.initial : State where
  responseSize := { windowSize := c.windowSize, samplingProbability := c.samplingProbability }
  requestDuration := { windowSize := c.windowSize, samplingProbability := c.samplingProbability }

/-- The duration and the size of the response of chaff: of real requests, or drawn if there is
a generator. -/
def Config.chaffValues (s : State) (r : ReceivedRequest) : Except String (ℤ × ℤ) :=
  if c.chaffingV2Enabled then s.getBuyerChaffingV2Values
  else
    match c.rng r with
    | none => .ok (0, 0)
    | some rng =>
      .ok (rng.getUniformInt kMinChaffRequestDurationMs kMaxChaffRequestDurationMs,
        rng.getUniformInt kMinChaffResponseSizeBytes kMaxChaffResponseSizeBytes)

def State.goOn (s : State) (index : ℕ) (r : ReceivedRequest) (phase : Phase) : State :=
  { s with requests := s.requests.set index (r, phase) }

/-- `EncryptResponse`, up to the encryption. -/
def Config.encryptResponse (s : State) (r : ReceivedRequest) (encodedPayloadLength : ℕ)
    (draw : ℚ) : Except Undefined State :=
  if c.chaffingV2Enabled then
    (s.responseSize.addNumberFrom (c.rng r) ⟨draw, SellerTraffic.toInt encodedPayloadLength⟩).map
      fun responseSize => { s with responseSize }
  else .ok s

def Config.finishWithStatus (s : State) (r : ReceivedRequest) (ok : Bool) (requestDuration : ℤ)
    (draw : ℚ) : Except Undefined State :=
  if ok && !r.isChaff && c.chaffingV2Enabled then
    (s.requestDuration.addNumberFrom (c.rng r) ⟨draw, requestDuration⟩).map
      fun requestDuration => { s with requestDuration }
  else .ok s

/-- What can happen in a state: a reactor finishes with an error at any time, and well only
after its response. -/
def Event.Enabled (s : State) : Event → Prop
  | execute _ => True
  | executeChaffRequest index => ∃ r, s.requests[index]? = some (r, .executing) ∧
      (c.chaffingV1Enabled && r.isChaff) = true ∧ ∃ values, c.chaffValues s r = .ok values
  | encryptResponse index _ _ => ∃ r, s.requests[index]? = some (r, .executing) ∧
      (c.chaffingV1Enabled && r.isChaff) = false
  | finishWithStatus index ok _ _ => ∃ r phase, s.requests[index]? = some (r, phase) ∧
      (phase = .responded ∨ phase = .executing ∧ ok = false)

def State.step (s : State) : Event → Except Undefined State
  | .execute r =>
    (shouldSample c.debugSampleRateMicro r.isDebugEligible (c.rng r)).map fun _ =>
      { s with requests := s.requests ++ [(r, .executing)] }
  | .executeChaffRequest index =>
    match s.requests[index]? with
    | none => .ok s
    | some (r, _) => .ok (s.goOn index r .responded)
  | .encryptResponse index encodedPayloadLength draw =>
    match s.requests[index]? with
    | none => .ok s
    | some (r, _) =>
      (c.encryptResponse s r encodedPayloadLength draw).map (·.goOn index r .responded)
  | .finishWithStatus index ok requestDuration draw =>
    match s.requests[index]? with
    | none => .ok s
    | some (r, _) =>
      (c.finishWithStatus s r ok requestDuration draw).map (·.goOn index r .finished)

/-- A buyer front end, over the events that have a defined outcome. -/
def Config.system : LTS State Event where
  init s := s = c.initial
  step s e s' := e.Enabled c s ∧ s.step c e = .ok s'

/-- No request draws from a generator that it does not have. -/
def DrawsSafely : Prop :=
  ∀ trace s e, c.system.Run trace s → e.Enabled c s → s.step c e ≠ .error .nullGenerator

variable {c} {s s' : State} {e : Event} {trace : List Event}

def State.Holds (c : Config) (s : State) : Prop :=
  (∃ accepted, MovingMedian.Holds c.windowSize c.samplingProbability accepted s.responseSize) ∧
    ∃ accepted, MovingMedian.Holds c.windowSize c.samplingProbability accepted s.requestDuration

theorem State.Holds.step (h : s.Holds c) (hstep : s.step c e = .ok s') : s'.Holds c := by
  obtain ⟨⟨sizes, hsizes⟩, durations, hdurations⟩ := h
  cases e with
  | execute r =>
    obtain ⟨_, -, rfl⟩ := SellerTraffic.map_eq_ok hstep
    exact ⟨⟨sizes, hsizes⟩, durations, hdurations⟩
  | executeChaffRequest index =>
    unfold State.step at hstep
    dsimp only at hstep
    split at hstep
    · cases hstep
      exact ⟨⟨sizes, hsizes⟩, durations, hdurations⟩
    · cases hstep
      exact ⟨⟨sizes, hsizes⟩, durations, hdurations⟩
  | encryptResponse index encodedPayloadLength draw =>
    unfold State.step at hstep
    dsimp only at hstep
    split at hstep
    · cases hstep
      exact ⟨⟨sizes, hsizes⟩, durations, hdurations⟩
    · obtain ⟨mid, hmid, rfl⟩ := SellerTraffic.map_eq_ok hstep
      unfold Config.encryptResponse at hmid
      split at hmid
      · obtain ⟨m, hm, rfl⟩ := SellerTraffic.map_eq_ok hmid
        exact ⟨⟨_, hsizes.addNumberFrom c.windowSize_pos hm⟩, durations, hdurations⟩
      · cases hmid
        exact ⟨⟨sizes, hsizes⟩, durations, hdurations⟩
  | finishWithStatus index ok requestDuration draw =>
    unfold State.step at hstep
    dsimp only at hstep
    split at hstep
    · cases hstep
      exact ⟨⟨sizes, hsizes⟩, durations, hdurations⟩
    · obtain ⟨mid, hmid, rfl⟩ := SellerTraffic.map_eq_ok hstep
      unfold Config.finishWithStatus at hmid
      split at hmid
      · obtain ⟨m, hm, rfl⟩ := SellerTraffic.map_eq_ok hmid
        exact ⟨⟨sizes, hsizes⟩, _, hdurations.addNumberFrom c.windowSize_pos hm⟩
      · cases hmid
        exact ⟨⟨sizes, hsizes⟩, durations, hdurations⟩

theorem holds_of_run (run : c.system.Run trace s) : s.Holds c := by
  refine run.invariant (I := fun _ s => s.Holds c) ?_ ?_
  · rintro s rfl
    have h := MovingMedian.holds_init (p := c.samplingProbability) c.windowSize_pos
    exact ⟨⟨[], h⟩, [], h⟩
  · intro trace s e s' h _ hstep
    exact h.step hstep.2

theorem addNumberFrom_ne_null {m : MovingMedian} (hzero : c.samplingProbability = 0)
    (h : ∃ accepted, MovingMedian.Holds c.windowSize c.samplingProbability accepted m)
    (rng : Option RequestGenerator) (number : AddedNumber) :
    m.addNumberFrom rng number ≠ .error .nullGenerator := by
  obtain ⟨accepted, h⟩ := h
  rw [Ne, MovingMedian.addNumberFrom_eq_null h c.windowSize_pos]
  exact fun hnull => hnull.2.1 hzero

theorem step_ne_null (h : s.Holds c)
    (hguard : c.chaffingV2Enabled = true → c.samplingProbability = 0) (e : Event) :
    s.step c e ≠ .error .nullGenerator := by
  cases e with
  | execute r =>
    refine SellerTraffic.map_ne_error ?_
    obtain ⟨isSampled, hsampled⟩ := shouldSample_createRng c.debugSampleRateMicro
      (c.chaffingV1Enabled && r.isChaff) r.isDebugEligible r.generator
    unfold Config.rng
    rw [hsampled]
    exact nofun
  | executeChaffRequest index =>
    unfold State.step
    dsimp only
    split <;> exact nofun
  | encryptResponse index encodedPayloadLength draw =>
    unfold State.step
    dsimp only
    split
    · exact nofun
    · refine SellerTraffic.map_ne_error ?_
      unfold Config.encryptResponse
      split
      · rename_i hv2
        exact SellerTraffic.map_ne_error (addNumberFrom_ne_null (hguard hv2) h.1 _ _)
      · exact nofun
  | finishWithStatus index ok requestDuration draw =>
    unfold State.step
    dsimp only
    split
    · exact nofun
    · refine SellerTraffic.map_ne_error ?_
      unfold Config.finishWithStatus
      split
      · rename_i hoffer
        rw [Bool.and_eq_true] at hoffer
        exact SellerTraffic.map_ne_error (addNumberFrom_ne_null (hguard hoffer.2) h.2 _ _)
      · exact nofun

def realRequest : ReceivedRequest := ⟨false, false, .lowest⟩

theorem rng_realRequest : c.rng realRequest = none := by
  unfold Config.rng createRng realRequest
  rw [Bool.and_false]
  rfl

def State.receive (s : State) : State :=
  { s with requests := s.requests ++ [(realRequest, .executing)] }

theorem run_receive (run : c.system.Run trace s) :
    c.system.Run (.execute realRequest :: trace) s.receive :=
  .next run trivial ⟨trivial, rfl⟩

theorem getElem?_receive (s : State) :
    s.receive.requests[s.requests.length]? = some (realRequest, .executing) :=
  List.getElem?_concat_length

theorem enabled_encryptResponse (s : State) (length : ℕ) (draw : ℚ) :
    (Event.encryptResponse s.requests.length length draw).Enabled c s.receive :=
  ⟨realRequest, getElem?_receive s, Bool.and_false _⟩

theorem step_encryptResponse (hv2 : c.chaffingV2Enabled = true) {index : ℕ}
    (hindex : s.requests[index]? = some (realRequest, .executing)) (length : ℕ) (draw : ℚ) :
    s.step c (.encryptResponse index length draw) =
      ((s.responseSize.addNumberFrom none ⟨draw, SellerTraffic.toInt length⟩).map
        fun responseSize => { s with responseSize }).map
          (·.goOn index realRequest .responded) := by
  unfold State.step
  dsimp only
  rw [hindex]
  dsimp only
  unfold Config.encryptResponse
  rw [if_pos hv2, rng_realRequest]

theorem step_finishWithStatus (hv2 : c.chaffingV2Enabled = true) {index : ℕ}
    (hindex : s.requests[index]? = some (realRequest, .responded)) (requestDuration : ℤ)
    (draw : ℚ) :
    s.step c (.finishWithStatus index true requestDuration draw) =
      ((s.requestDuration.addNumberFrom none ⟨draw, requestDuration⟩).map
        fun requestDuration => { s with requestDuration }).map
          (·.goOn index realRequest .finished) := by
  unfold State.step
  dsimp only
  rw [hindex]
  dsimp only
  unfold Config.finishWithStatus
  rw [hv2, rng_realRequest]
  rfl

theorem exists_run_request (hv2 : c.chaffingV2Enabled = true) (run : c.system.Run trace s)
    {responseSize requestDuration : MovingMedian}
    (hsize : s.responseSize.addNumberFrom none ⟨0, SellerTraffic.toInt 100000⟩ = .ok responseSize)
    (hduration : s.requestDuration.addNumberFrom none ⟨0, 500⟩ = .ok requestDuration) :
    ∃ trace' s', c.system.Run trace' s' ∧ s'.responseSize = responseSize ∧
      s'.requestDuration = requestDuration := by
  have hresponds := step_encryptResponse hv2 (getElem?_receive s) 100000 0
  rw [show s.receive.responseSize = s.responseSize from rfl, hsize] at hresponds
  have run' := LTS.RunWhere.next (run_receive run) trivial
    ⟨enabled_encryptResponse (c := c) s 100000 0, hresponds⟩
  have hlast : (s.receive.requests.set s.requests.length (realRequest, Phase.responded))[
      s.requests.length]? = some (realRequest, .responded) :=
    List.getElem?_set_self (List.getElem?_eq_some_iff.mp (getElem?_receive s)).1
  have hfinishes := step_finishWithStatus (c := c)
    (s := ({ s.receive with responseSize } : State).goOn s.requests.length realRequest .responded)
    hv2 hlast 500 0
  unfold State.goOn at hfinishes
  dsimp only at hfinishes
  rw [show s.receive.requestDuration = s.requestDuration from rfl, hduration] at hfinishes
  have henabled : (Event.finishWithStatus s.requests.length true 500 0).Enabled c
      (({ s.receive with responseSize } : State).goOn s.requests.length realRequest .responded) :=
    ⟨realRequest, .responded, hlast, .inl rfl⟩
  exact ⟨_, _, .next run' trivial ⟨henabled, hfinishes⟩, rfl, rfl⟩

theorem exists_run_requests (hv2 : c.chaffingV2Enabled = true) {n : ℕ} (hn : n ≤ c.windowSize) :
    ∃ trace s, c.system.Run trace s ∧
      (∃ sizes, sizes.length = n ∧
        MovingMedian.Holds c.windowSize c.samplingProbability sizes s.responseSize) ∧
      ∃ durations, durations.length = n ∧
        MovingMedian.Holds c.windowSize c.samplingProbability durations s.requestDuration := by
  induction n with
  | zero =>
    have h := MovingMedian.holds_init (p := c.samplingProbability) c.windowSize_pos
    exact ⟨[], c.initial, .start rfl, ⟨[], rfl, h⟩, [], rfl, h⟩
  | succ n ih =>
    obtain ⟨trace, s, run, ⟨sizes, hsizes, hholds⟩, durations, hdurations, hholds'⟩ :=
      ih (by omega)
    obtain ⟨m₁, hm₁, hnext⟩ := hholds.exists_addNumberFrom c.windowSize_pos (by omega) none
      ⟨0, SellerTraffic.toInt 100000⟩
    obtain ⟨m₂, hm₂, hnext'⟩ := hholds'.exists_addNumberFrom c.windowSize_pos (by omega) none
      ⟨0, 500⟩
    obtain ⟨trace', s', run', rfl, rfl⟩ := exists_run_request hv2 run hm₁ hm₂
    refine ⟨trace', s', run', ⟨_, ?_, hnext⟩, _, ?_, hnext'⟩
    · rw [List.length_append, List.length_singleton, hsizes]
    · rw [List.length_append, List.length_singleton, hdurations]

theorem not_drawsSafely (hv2 : c.chaffingV2Enabled = true) (hp : c.samplingProbability ≠ 0) :
    ¬ DrawsSafely c := by
  intro hsafe
  obtain ⟨trace, s, run, ⟨sizes, hsizes, hholds⟩, -⟩ := exists_run_requests hv2 le_rfl
  have hstep := step_encryptResponse hv2 (getElem?_receive s) 100000 0
  have hnull : s.responseSize.addNumberFrom none ⟨0, SellerTraffic.toInt 100000⟩ =
      .error .nullGenerator :=
    (MovingMedian.addNumberFrom_eq_null hholds c.windowSize_pos).mpr ⟨hsizes.ge, hp, rfl⟩
  rw [show s.receive.responseSize = s.responseSize from rfl, hnull] at hstep
  exact hsafe _ _ _ (run_receive run) (enabled_encryptResponse s 100000 0) hstep

theorem drawsSafely_iff :
    DrawsSafely c ↔ (c.chaffingV2Enabled = true → c.samplingProbability = 0) := by
  constructor
  · intro hsafe hv2
    by_contra hp
    exact not_drawsSafely hv2 hp hsafe
  · intro hguard trace s e run _
    exact step_ne_null (holds_of_run run) hguard e

end BuyerTraffic

/-! ## Both -/

/-- Both front ends draw from generators that are there, in every history, exactly if the second
version of chaffing is off or samples nothing, or for a seller comes with the first. -/
theorem generatorsDrawSafely_iff (seller : SellerTraffic.Config) (buyer : BuyerTraffic.Config) :
    (SellerTraffic.DrawsSafely seller ↔ seller.IsGuarded) ∧
      (BuyerTraffic.DrawsSafely buyer ↔
        (buyer.chaffingV2Enabled = true → buyer.samplingProbability = 0)) :=
  ⟨SellerTraffic.drawsSafely_iff, BuyerTraffic.drawsSafely_iff⟩

/-- Both with the second version only, and the windows of production. -/
theorem not_generatorsDrawSafely :
    ¬ SellerTraffic.DrawsSafely ⟨0, false, true, ⟨["https://buyer.example"], by decide⟩, 10000,
        by decide, 1 / 10, .gzip⟩ ∧
      ¬ BuyerTraffic.DrawsSafely ⟨0, false, true, 10000, by decide, 1 / 10⟩ := by
  have hp : (1 / 10 : ℚ) ≠ 0 := by norm_num
  refine ⟨?_, BuyerTraffic.not_drawsSafely rfl hp⟩
  exact SellerTraffic.not_drawsSafely rfl rfl hp (List.mem_singleton_self "https://buyer.example")

end BiddingAuction
