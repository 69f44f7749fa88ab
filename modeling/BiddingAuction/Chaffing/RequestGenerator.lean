import BiddingAuction.Chaffing.MovingMedian
import BiddingAuction.SelectAd.Chaffing

/-!
# The generator of a request

A request has a generator if chaffing asks for one or the request may be sampled for
debugging. It is reached through a pointer, so that a draw without a generator is undefined.
-/

namespace BiddingAuction

open Foundation

/-- What has no defined outcome: a draw through a null pointer, a read at the end of a window. -/
inductive Undefined where
  | nullGenerator
  | endOfWindow
deriving DecidableEq, Repr

/-- `RandomNumberGenerator`, with `ShouldSample`. -/
structure RequestGenerator extends RandomNumberGenerator where
  shouldSample : Int32 → Bool

theorem RequestGenerator.lower_mem (lower upper : ℤ) (h : lower ≤ upper) :
    lower ≤ lower ∧ lower ≤ upper := ⟨le_rfl, h⟩

def RequestGenerator.lowest : RequestGenerator where
  getUniformInt lower _ := lower
  getUniformInt_mem := lower_mem
  getUniformDouble lower _ := lower
  getNormalDouble mean _ := mean
  shuffle l := l
  shuffle_perm := .refl
  shouldSample _ := false

def createRng (debugSampleRateMicro : Int32) (chaffingEnabled requestEligible : Bool)
    (generator : RequestGenerator) : Option RequestGenerator :=
  let isDebugEligible := requestEligible && 0 < debugSampleRateMicro
  if chaffingEnabled || isDebugEligible then some generator else none

/-- Something is drawn from `*rng_`. -/
def drawFrom {α : Type} (rng : Option RequestGenerator) (draw : RequestGenerator → α) :
    Except Undefined α :=
  match rng with
  | none => .error .nullGenerator
  | some rng => .ok (draw rng)

def shouldSample (debugSampleRateMicro : Int32) (requestEligible : Bool)
    (rng : Option RequestGenerator) : Except Undefined Bool :=
  let isDebugEligible := requestEligible && 0 < debugSampleRateMicro
  if isDebugEligible then drawFrom rng (·.shouldSample debugSampleRateMicro)
  else .ok false

theorem shouldSample_createRng (debugSampleRateMicro : Int32)
    (chaffingEnabled requestEligible : Bool) (generator : RequestGenerator) :
    ∃ isSampled, shouldSample debugSampleRateMicro requestEligible
      (createRng debugSampleRateMicro chaffingEnabled requestEligible generator) =
        .ok isSampled := by
  unfold shouldSample createRng
  dsimp only
  split
  · rename_i heligible
    rw [heligible, Bool.or_true, if_pos rfl]
    exact ⟨_, rfl⟩
  · exact ⟨false, rfl⟩

/-! ## Chaffing -/

namespace SelectAdSetup

variable (c : SelectAdSetup)

/-- The number of chaff requests for candidates there are, as `GetChaffingConfig` draws it. -/
def drawNumChaffRequestsFrom (rng : Option RequestGenerator)
    (numCandidates numRealRequests : ℕ) : Except Undefined ℤ := do
  let lowerBound : ℤ := min (if numRealRequests = 0 then 2 else 1) numCandidates
  let numChaffRequests : ℤ := match rng with
    | none => 0
    | some rng => rng.getUniformInt lowerBound numCandidates
  if c.chaffingV2Enabled then
    let share ← drawFrom rng fun rng =>
      rng.getNormalDouble (numCandidates / 6) chaffingV2GaussianStandardDev
    return ⌈(numChaffRequests : ℚ) * max 0 (min share 1)⌉
  else
    return numChaffRequests

/-- `GetChaffingConfig`, with the generator it draws from. -/
def getChaffingConfigFrom (rng : Option RequestGenerator) : Except Undefined ChaffingConfig :=
  match c.cachedBuyers with
  | some invoked =>
    .ok
      { chaffRequestCandidates := invoked.chaffBuyerNames
        numChaffRequests := invoked.chaffBuyerNames.length
        numRealRequests := invoked.nonChaffBuyerNames.length }
  | none => do
    let chaffRequestCandidates := c.auctionBuyers.filter fun buyer => buyer ∉ c.buyerInputs
    let numRealRequests := (c.auctionBuyers.filter fun buyer => buyer ∈ c.buyerInputs).length
    let skips ←
      if !c.chaffingEnabled then .ok true
      else
        drawFrom rng fun rng =>
          shouldSkipChaffing c.buyerFactory.elems.length rng.toRandomNumberGenerator
    if skips then
      return { numRealRequests := numRealRequests }
    let numChaffRequests ←
      if chaffRequestCandidates.isEmpty then .ok 0
      else c.drawNumChaffRequestsFrom rng chaffRequestCandidates.length numRealRequests
    return {
      chaffRequestCandidates := match rng with
        | none => chaffRequestCandidates
        | some rng => rng.shuffle chaffRequestCandidates
      numChaffRequests := numChaffRequests
      numRealRequests := numRealRequests }

variable {c}

theorem getChaffingConfigFrom_eq (debugSampleRateMicro : Int32) (requestEligible : Bool)
    {generator : RequestGenerator} (hrng : c.rng = generator.toRandomNumberGenerator) :
    c.getChaffingConfigFrom
        (createRng debugSampleRateMicro c.chaffingEnabled requestEligible generator) =
      .ok c.getChaffingConfig := by
  unfold getChaffingConfigFrom getChaffingConfig
  cases hcached : c.cachedBuyers with
  | some invoked => rfl
  | none =>
    cases hchaffing : c.chaffingEnabled with
    | false => rfl
    | true =>
      have hhas : c.hasRng = true := by
        unfold hasRng
        rw [hchaffing, Bool.true_or]
      have hcreated : createRng debugSampleRateMicro true requestEligible generator =
          some generator := rfl
      have hdrawn (numCandidates numRealRequests : ℕ) :
          c.drawNumChaffRequestsFrom (some generator) numCandidates numRealRequests =
            .ok (c.drawNumChaffRequests numCandidates numRealRequests) := by
        unfold drawNumChaffRequestsFrom drawNumChaffRequests
        rw [hhas, hrng]
        dsimp only [drawFrom]
        split <;> rfl
      rw [hcreated, hrng, hhas]
      simp only [hdrawn]
      dsimp only [drawFrom]
      rw [Bool.not_true, if_neg Bool.false_ne_true, Bool.false_or]
      cases hskip : shouldSkipChaffing c.buyerFactory.elems.length
        generator.toRandomNumberGenerator with
      | true => rfl
      | false =>
        by_cases hempty : (c.auctionBuyers.filter fun buyer => buyer ∉ c.buyerInputs).isEmpty
        · simp only [hempty, if_true]
          rfl
        · simp only [hempty, Bool.false_eq_true, if_false]
          rfl

end SelectAdSetup

/-! ## The moving median -/

namespace MovingMedian

variable (m : MovingMedian)

/-- `AddNumber` draws: the window is full, and not everything is left out of it. -/
def draws : Bool := m.windowSize ≤ m.windowData.length && m.samplingProbability ≠ 0

/-- `AddNumber`, with the pointer it gets the generator from and what that draws. -/
def addNumberFrom (rng : Option RequestGenerator) (number : AddedNumber) :
    Except Undefined MovingMedian :=
  if m.draws && rng.isNone then .error .nullGenerator
  else
    match m.addNumber number with
    | none => .error .endOfWindow
    | some m => .ok m

variable {m}

theorem addNumberFrom_eq_null {rng : Option RequestGenerator} {number : AddedNumber} {w : ℕ}
    {p : ℚ} {accepted : List ℤ} (h : Holds w p accepted m) (hw : 0 < w) :
    m.addNumberFrom rng number = .error .nullGenerator ↔
      w ≤ accepted.length ∧ p ≠ 0 ∧ rng = none := by
  have hlength := h.length_windowData
  obtain ⟨m', hm', -⟩ := h.addNumber hw number
  have hdraws : m.draws = true ↔ w ≤ accepted.length ∧ p ≠ 0 := by
    unfold draws
    rw [h.windowSize, h.samplingProbability, Bool.and_eq_true, decide_eq_true_eq,
      decide_eq_true_eq, hlength]
    refine and_congr_left fun _ => ?_
    omega
  unfold addNumberFrom
  rw [hm']
  cases rng with
  | none =>
    rw [Option.isNone_none, Bool.and_true]
    by_cases h : m.draws = true
    · simp [h, hdraws.mp h]
    · rw [if_neg h]
      simp only [reduceCtorEq, false_iff]
      exact fun hall => h (hdraws.mpr ⟨hall.1, hall.2.1⟩)
  | some rng =>
    rw [Option.isNone_some, Bool.and_false, if_neg Bool.false_ne_true]
    simp

theorem Holds.addNumberFrom {rng : Option RequestGenerator} {number : AddedNumber} {w : ℕ}
    {p : ℚ} {accepted : List ℤ} {m' : MovingMedian} (h : Holds w p accepted m) (hw : 0 < w)
    (hadded : MovingMedian.addNumberFrom m rng number = .ok m') :
    Holds w p
      (if isAccepted w p accepted number then accepted ++ [number.value] else accepted) m' := by
  obtain ⟨m₁, hm₁, hholds⟩ := h.addNumber hw number
  unfold MovingMedian.addNumberFrom at hadded
  rw [hm₁] at hadded
  split at hadded
  · cases hadded
  · cases hadded
    exact hholds

theorem Holds.exists_addNumberFrom {w : ℕ} {p : ℚ} {accepted : List ℤ} (h : Holds w p accepted m)
    (hw : 0 < w) (hless : accepted.length < w) (rng : Option RequestGenerator)
    (number : AddedNumber) :
    ∃ m', m.addNumberFrom rng number = .ok m' ∧ Holds w p (accepted ++ [number.value]) m' := by
  obtain ⟨m₁, hm₁, hholds⟩ := h.addNumber hw number
  have haccepted : isAccepted w p accepted number = true := by
    unfold isAccepted
    rw [decide_eq_true hless, Bool.true_or]
  have hdraws : m.draws = false := by
    unfold draws
    rw [h.windowSize, h.length_windowData, Bool.and_eq_false_imp]
    intro hfull
    have := of_decide_eq_true hfull
    omega
  rw [haccepted, if_pos rfl] at hholds
  refine ⟨m₁, ?_, hholds⟩
  unfold MovingMedian.addNumberFrom
  rw [hdraws, Bool.false_and, if_neg Bool.false_ne_true, hm₁]

end MovingMedian

end BiddingAuction
