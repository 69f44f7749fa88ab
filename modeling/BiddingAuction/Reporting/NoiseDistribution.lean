import BiddingAuction.Foundation.RejectionSampling
import Mathlib.Data.Int.ConditionallyCompleteOrder
import Mathlib.Tactic.Common

/-!
# Random numbers and noise

A random number is made from draws of 64 bits, of which some are thrown away. What is left of
the draws goes on to the next number.
-/

namespace BiddingAuction

namespace RandomNumbers

/-- What `RAND_bytes` gives from now on, none where it fails. -/
abbrev Draws := List (Option UInt64)

/-- A result with the draws that are left; none as long as more draws are waited for. -/
abbrev Drawing (T : Type) := Draws → Option (Except String T × Draws)

/-- `RandUint64`. -/
def randUint64 (draw : Option UInt64) : Except String UInt64 :=
  match draw with
  | none => .error "Error generating number."
  | some rand64 => .ok rand64

def kInvalidRange := "Invalid range for random number generation."

def maxAcceptableValue (range : UInt64) : UInt64 := 0xFFFFFFFFFFFFFFFF / range * range - 1

/-- The loop of `RandGenerator`. -/
def drawAcceptable (range : UInt64) : Drawing UInt64
  | [] => none
  | draw :: draws =>
    match randUint64 draw with
    | .error status => some (.error status, draws)
    | .ok randUnit64 =>
      if maxAcceptableValue range < randUnit64 then drawAcceptable range draws
      else some (.ok (randUnit64 % range), draws)

def randGenerator (range : UInt64) : Drawing UInt64 := fun draws =>
  if range ≤ 0 then some (.error kInvalidRange, draws) else drawAcceptable range draws

/-- The number of integers from `min` to `max`. -/
def rangeOf (min max : Int32) : UInt64 := (max.toInt64 - min.toInt64 + 1).toUInt64

/-- The result of `RandGenerator` in an `int`. -/
def toInt (randUnit64 : UInt64) : Int32 := randUnit64.toUInt32.toInt32

def randInt (min max : Int32) : Drawing Int32 := fun draws =>
  if max < min then some (.error kInvalidRange, draws)
  else if min = max then some (.ok min, draws)
  else
    match randGenerator (rangeOf min max) draws with
    | none => none
    | some (.error status, draws) => some (.error status, draws)
    | some (.ok randUnit64, draws) => some (.ok (toInt randUnit64 + min), draws)

/-- The first draw of `Noise`. -/
def randOnePercentInt : Drawing Int32 := randInt 0 100

section Noise

variable {T : Type} (cast : Int32 → T) (input : T) (min max : Int32)

/-- The second one; the input is kept where it fails. -/
def replacement : Drawing T := fun draws =>
  match randInt min max draws with
  | none => none
  | some (.error _, draws) => some (.ok input, draws)
  | some (.ok randInt, draws) => some (.ok (cast randInt), draws)

def noise : Drawing T := fun draws =>
  match randOnePercentInt draws with
  | none => none
  | some (.error status, draws) => some (.error status, draws)
  | some (.ok randOnePercentInt, draws) =>
    if randOnePercentInt = 1 then replacement cast input min max draws
    else some (.ok input, draws)

end Noise

def bucketJoinCount (joinCount : Int32) : ℤ :=
  let joinCount := if joinCount < 1 then 1 else joinCount
  if joinCount ≤ 10 then joinCount.toInt
  else if joinCount ≤ 20 then 11
  else if joinCount ≤ 30 then 12
  else if joinCount ≤ 40 then 13
  else if joinCount ≤ 50 then 14
  else if joinCount ≤ 100 then 15
  else 16

def bucketRecency (recency : Int64) : ℤ :=
  let recency := if recency < 0 then 0 else recency
  if recency < 10 then recency.toInt
  else if recency < 15 then 10
  else if recency < 20 then 11
  else if recency < 30 then 12
  else if recency < 40 then 13
  else if recency < 50 then 14
  else if recency < 60 then 15
  else if recency < 75 then 16
  else if recency < 90 then 17
  else if recency < 105 then 18
  else if recency < 120 then 19
  else if recency < 240 then 20
  else if recency < 720 then 21
  else if recency < 1440 then 22
  else if recency < 2160 then 23
  else if recency < 2880 then 24
  else if recency < 4320 then 25
  else if recency < 5760 then 26
  else if recency < 10080 then 27
  else if recency < 20160 then 28
  else if recency < 30240 then 29
  else if recency < 40320 then 30
  else 31

def noiseAndMaskModelingSignals (modelingSignals : UInt16) : Drawing ℤ :=
  noise Int32.toInt (modelingSignals &&& 0x0FFF).toNat 0 0x0FFF

def noiseAndBucketJoinCount (joinCount : Int32) : Drawing ℤ :=
  noise Int32.toInt (bucketJoinCount joinCount) 1 16

def noiseAndBucketRecency (recency : Int64) : Drawing ℤ :=
  noise Int32.toInt (bucketRecency recency) 0 31

end RandomNumbers

/-!
# The distribution of noise

Of the draws that are accepted equally many give each integer. The remainder is kept in an
`int` before the lower end is added, so that with more than half of all integers in the range
it does not fit; and the first draw of noise has one outcome more than a hundred.
-/

open Foundation

namespace RandomNumbers

/-! ## What is wanted -/

def Rejects {T : Type} (drawing : Drawing T) (u : UInt64) : Prop :=
  ∀ draws, drawing (some u :: draws) = drawing draws

def Produces {T : Type} (drawing : Drawing T) (u : UInt64) (value : T) : Prop :=
  ∀ draws, drawing (some u :: draws) = some (.ok value, draws)

/-- Each of the values is given by equally many draws, and all draws that are not thrown away
give one of them. -/
structure EquallyMany {T : Type} (drawing : Drawing T) (values : Set T) : Prop where
  rejects_or_produces : ∀ u, Rejects drawing u ∨ ∃ value ∈ values, Produces drawing u value
  count : ∃ n, 0 < n ∧ ∀ value ∈ values, {u | Produces drawing u value}.ncard = n

/-- The integers from `min` to `max`. -/
structure Bounds where
  min : Int32
  max : Int32
  le : min.toInt ≤ max.toInt

namespace Bounds

variable (bounds : Bounds)

def integers : Set Int32 :=
  {k | bounds.min.toInt ≤ k.toInt ∧ k.toInt ≤ bounds.max.toInt}

def size : ℕ := (bounds.max.toInt - bounds.min.toInt + 1).toNat

end Bounds

/-- What `RandInt` computes of a draw are the numbers that are meant. -/
structure Fits (bounds : Bounds) (u : UInt64) : Prop where
  range : (rangeOf bounds.min bounds.max).toNat = bounds.size
  maxAcceptableValue : (maxAcceptableValue (rangeOf bounds.min bounds.max)).toNat =
    (2 ^ 64 - 1) / bounds.size * bounds.size - 1
  randUnit64 : (toInt (u % rangeOf bounds.min bounds.max)).toInt = u.toNat % bounds.size
  sum : (toInt (u % rangeOf bounds.min bounds.max) + bounds.min).toInt =
    (toInt (u % rangeOf bounds.min bounds.max)).toInt + bounds.min.toInt

/-- `RandInt` gives each integer for equally many draws, and nothing overflows. -/
structure RandIntUniform (bounds : Bounds) : Prop where
  same : bounds.min = bounds.max →
    ∀ draws, randInt bounds.min bounds.max draws = some (.ok bounds.min, draws)
  equally : bounds.min ≠ bounds.max →
    EquallyMany (randInt bounds.min bounds.max) bounds.integers
  fits : bounds.min ≠ bounds.max →
    ∀ u, ¬ Rejects (randInt bounds.min bounds.max) u → Fits bounds u

/-- `Noise` replaces its input for one of the `n` equally likely values of its first draw, by one
of the values of a range, each of which is given by equally many draws. -/
structure NoisesOneIn (n : ℕ) {T : Type} (drawing : Drawing T) (input : T) (range : Set T) :
    Prop where
  outcomes : {outcome | ∃ u, Produces randOnePercentInt u outcome}.ncard = n
  likely : EquallyMany randOnePercentInt {outcome | ∃ u, Produces randOnePercentInt u outcome}
  replaces : ∃ outcome replaced, (∃ u, Produces randOnePercentInt u outcome) ∧
    EquallyMany replaced range ∧
    ∀ draws value rest, randOnePercentInt draws = some (.ok value, rest) →
      drawing draws = if value = outcome then replaced rest else some (.ok input, rest)

/-! ## One draw -/

section Draw

variable {bounds : Bounds}

theorem Bounds.size_pos (bounds : Bounds) : 0 < bounds.size := by
  have := bounds.le
  unfold Bounds.size
  omega

theorem Bounds.size_eq (bounds : Bounds) :
    (bounds.size : ℤ) = bounds.max.toInt - bounds.min.toInt + 1 := by
  have := bounds.le
  unfold Bounds.size
  omega

theorem Bounds.size_le (bounds : Bounds) : bounds.size ≤ 2 ^ 32 := by
  have hmin := bounds.min.le_toInt
  have hmax := bounds.max.toInt_lt
  have hsize := bounds.size_eq
  omega

theorem toNat_rangeOf (bounds : Bounds) :
    (rangeOf bounds.min bounds.max).toNat = bounds.size := by
  have hmin := bounds.min.le_toInt
  have hmin' := bounds.min.toInt_lt
  have hmax := bounds.max.le_toInt
  have hmax' := bounds.max.toInt_lt
  have hle := bounds.le
  have hsub : (bounds.max.toInt64 - bounds.min.toInt64).toInt =
      bounds.max.toInt - bounds.min.toInt := by
    rw [Int64.toInt_sub, Int32.toInt_toInt64, Int32.toInt_toInt64]
    exact Int.bmod_eq_of_le (by omega) (by omega)
  have hadd : (bounds.max.toInt64 - bounds.min.toInt64 + 1).toInt =
      bounds.max.toInt - bounds.min.toInt + 1 := by
    rw [Int64.toInt_add, hsub, Int64.toInt_one]
    exact Int.bmod_eq_of_le (by omega) (by omega)
  have hpos : 0 ≤ bounds.max.toInt64 - bounds.min.toInt64 + 1 := by
    rw [Int64.le_iff_toInt_le, hadd, Int64.toInt_zero]
    omega
  unfold rangeOf Bounds.size
  rw [Int64.toNat_toUInt64_of_le hpos]
  unfold Int64.toNatClampNeg
  rw [hadd]

def Bounds.blocks (bounds : Bounds) : ℕ := (2 ^ 64 - 1) / bounds.size

theorem Bounds.blocks_pos (bounds : Bounds) : 0 < bounds.blocks := by
  have hle := bounds.size_le
  exact Nat.div_pos (by omega) bounds.size_pos

theorem Bounds.blocks_mul_size_le (bounds : Bounds) : bounds.blocks * bounds.size ≤ 2 ^ 64 - 1 :=
  Nat.div_mul_le_self _ _

theorem Bounds.blocks_mul_size_pos (bounds : Bounds) : 0 < bounds.blocks * bounds.size :=
  Nat.mul_pos bounds.blocks_pos bounds.size_pos

theorem toNat_maxAcceptableValue (bounds : Bounds) :
    (maxAcceptableValue (rangeOf bounds.min bounds.max)).toNat =
      bounds.blocks * bounds.size - 1 := by
  have hle := bounds.blocks_mul_size_le
  have hpos := bounds.blocks_mul_size_pos
  have hmul : (0xFFFFFFFFFFFFFFFF / rangeOf bounds.min bounds.max *
      rangeOf bounds.min bounds.max).toNat = bounds.blocks * bounds.size := by
    rw [UInt64.toNat_mul, UInt64.toNat_div, toNat_rangeOf]
    exact Nat.mod_eq_of_lt (by change bounds.blocks * bounds.size < _; omega)
  unfold maxAcceptableValue
  rw [UInt64.toNat_sub_of_le, hmul]
  · rfl
  · rw [UInt64.le_iff_toNat_le, hmul]
    exact hpos

/-- The draw is not beyond the whole blocks. -/
def Accepts (bounds : Bounds) (u : UInt64) : Prop := u.toNat < bounds.blocks * bounds.size

theorem accepts_iff {u : UInt64} :
    Accepts bounds u ↔ ¬ maxAcceptableValue (rangeOf bounds.min bounds.max) < u := by
  have hpos := bounds.blocks_mul_size_pos
  rw [UInt64.lt_iff_toNat_lt, toNat_maxAcceptableValue]
  unfold Accepts
  omega

/-- What `RandInt` returns for an accepted draw. -/
def resultOf (bounds : Bounds) (u : UInt64) : Int32 :=
  toInt (u % rangeOf bounds.min bounds.max) + bounds.min

theorem rangeOf_pos (bounds : Bounds) : ¬ rangeOf bounds.min bounds.max ≤ 0 := by
  rw [UInt64.le_iff_toNat_le, toNat_rangeOf]
  exact Nat.not_le_of_gt bounds.size_pos

theorem randInt_of_ne (hne : bounds.min ≠ bounds.max) (draws : Draws) :
    randInt bounds.min bounds.max draws =
      match drawAcceptable (rangeOf bounds.min bounds.max) draws with
      | none => none
      | some (.error status, draws) => some (.error status, draws)
      | some (.ok randUnit64, draws) => some (.ok (toInt randUnit64 + bounds.min), draws) := by
  have hle : ¬ bounds.max < bounds.min := by
    rw [Int32.lt_iff_toInt_lt]
    exact not_lt.mpr bounds.le
  unfold randInt randGenerator
  rw [if_neg hle, if_neg hne, if_neg (rangeOf_pos bounds)]

theorem produces_of_accepts (hne : bounds.min ≠ bounds.max) {u : UInt64}
    (hu : Accepts bounds u) :
    Produces (randInt bounds.min bounds.max) u (resultOf bounds u) := by
  intro draws
  rw [randInt_of_ne hne]
  simp only [drawAcceptable, randUint64, if_neg (accepts_iff.mp hu)]
  rfl

theorem rejects_of_not_accepts (hne : bounds.min ≠ bounds.max) {u : UInt64}
    (hu : ¬ Accepts bounds u) : Rejects (randInt bounds.min bounds.max) u := by
  intro draws
  have hbeyond := not_not.mp (mt accepts_iff.mpr hu)
  rw [randInt_of_ne hne, randInt_of_ne hne]
  simp only [drawAcceptable, randUint64, if_pos hbeyond]

theorem not_produces_of_rejects {T : Type} {drawing : Drawing T} (hnil : drawing [] = none)
    {u : UInt64} {value : T} (hreject : Rejects drawing u) : ¬ Produces drawing u value := by
  intro hproduce
  have hsome := hproduce []
  rw [hreject [], hnil] at hsome
  cases hsome

theorem randInt_nil (hne : bounds.min ≠ bounds.max) :
    randInt bounds.min bounds.max [] = none := by
  rw [randInt_of_ne hne]
  rfl

theorem produces_iff (hne : bounds.min ≠ bounds.max) {u : UInt64} {value : Int32} :
    Produces (randInt bounds.min bounds.max) u value ↔
      Accepts bounds u ∧ resultOf bounds u = value := by
  constructor
  · intro hproduce
    by_cases hu : Accepts bounds u
    · refine ⟨hu, ?_⟩
      have hsome := hproduce []
      rw [produces_of_accepts hne hu []] at hsome
      cases hsome
      rfl
    · exact absurd hproduce
        (not_produces_of_rejects (randInt_nil hne) (rejects_of_not_accepts hne hu))
  · rintro ⟨hu, rfl⟩
    exact produces_of_accepts hne hu

theorem rejects_iff (hne : bounds.min ≠ bounds.max) {u : UInt64} :
    Rejects (randInt bounds.min bounds.max) u ↔ ¬ Accepts bounds u := by
  constructor
  · intro hreject hu
    exact not_produces_of_rejects (randInt_nil hne) hreject (produces_of_accepts hne hu)
  · exact rejects_of_not_accepts hne

end Draw

/-! ## The value of a draw -/

section Value

variable (bounds : Bounds) (u : UInt64)

theorem toNat_mod_rangeOf :
    (u % rangeOf bounds.min bounds.max).toNat = u.toNat % bounds.size := by
  rw [UInt64.toNat_mod, toNat_rangeOf]

theorem toInt_toInt (v : UInt64) : (toInt v).toInt = (v.toNat : ℤ).bmod (2 ^ 32) := by
  unfold toInt Int32.toInt
  rw [UInt32.toBitVec_toInt32, BitVec.toInt_eq_toNat_bmod, UInt32.toNat_toBitVec,
    UInt64.toNat_toUInt32, Int.natCast_emod]
  exact Int.emod_bmod _ (2 ^ 32)

/-- What is lost in the `int` is lost again with the lower end, so that the result is right. -/
theorem toInt_resultOf :
    (resultOf bounds u).toInt = bounds.min.toInt + (u.toNat % bounds.size : ℕ) := by
  have hmin := bounds.min.le_toInt
  have hmax := bounds.max.toInt_lt
  have hsize := bounds.size_eq
  have hmod := Nat.mod_lt u.toNat bounds.size_pos
  unfold resultOf
  rw [Int32.toInt_add, toInt_toInt, toNat_mod_rangeOf, Int.bmod_add_bmod]
  rw [Int.bmod_eq_of_le (by omega) (by omega), add_comm]

theorem resultOf_mem : resultOf bounds u ∈ bounds.integers := by
  have hsize := bounds.size_eq
  have hmod := Nat.mod_lt u.toNat bounds.size_pos
  have hvalue := toInt_resultOf bounds u
  constructor
  · omega
  · omega

theorem resultOf_eq_iff {value : Int32} (hvalue : value ∈ bounds.integers) :
    resultOf bounds u = value ↔
      u.toNat % bounds.size = (value.toInt - bounds.min.toInt).toNat := by
  obtain ⟨hmin, -⟩ := hvalue
  rw [← Int32.toInt_inj, toInt_resultOf]
  omega

end Value

/-! ## The distribution of `RandInt` -/

section Distribution

variable {bounds : Bounds}

theorem exists_toNat (x : ℕ) (hx : x < 2 ^ 64) : ∃ u : UInt64, u.toNat = x :=
  ⟨.ofNat x, UInt64.toNat_ofNat_of_lt' hx⟩

theorem ncard_produces (hne : bounds.min ≠ bounds.max) {value : Int32}
    (hvalue : value ∈ bounds.integers) :
    {u | Produces (randInt bounds.min bounds.max) u value}.ncard = bounds.blocks := by
  have hsize := bounds.size_eq
  have hle := bounds.blocks_mul_size_le
  have hremainder : (value.toInt - bounds.min.toInt).toNat < bounds.size := by
    obtain ⟨hmin, hmax⟩ := hvalue
    omega
  have hcount := RejectionSampling.ncard_accepted_remainder
    (fun (_ _ : UInt64) => UInt64.toNat_inj.mp) exists_toNat bounds.size_pos hremainder
    (Nat.le_succ_of_le hle)
  rw [← hcount]
  congr 1
  ext u
  change Produces _ u value ↔ _ ∧ _
  rw [produces_iff hne, resultOf_eq_iff bounds u hvalue]
  rfl

theorem equallyMany_randInt (hne : bounds.min ≠ bounds.max) :
    EquallyMany (randInt bounds.min bounds.max) bounds.integers where
  rejects_or_produces u := by
    by_cases hu : Accepts bounds u
    · exact .inr ⟨_, resultOf_mem bounds u, produces_of_accepts hne hu⟩
    · exact .inl (rejects_of_not_accepts hne hu)
  count := ⟨bounds.blocks, bounds.blocks_pos, fun _ => ncard_produces hne⟩

/-- The range and the end of the blocks always fit; the remainder does where it is below half of
the integers. -/
theorem fits_iff {u : UInt64} : Fits bounds u ↔ u.toNat % bounds.size < 2 ^ 31 := by
  have hremainder : (toInt (u % rangeOf bounds.min bounds.max)).toInt =
      ((u.toNat % bounds.size : ℕ) : ℤ).bmod (2 ^ 32) := by
    rw [toInt_toInt, toNat_mod_rangeOf]
  have hmod := Nat.mod_lt u.toNat bounds.size_pos
  constructor
  · intro hfits
    have hkept := hfits.randUnit64
    have hlt := (toInt (u % rangeOf bounds.min bounds.max)).toInt_lt
    omega
  · intro hlt
    have hkept : (toInt (u % rangeOf bounds.min bounds.max)).toInt =
        (u.toNat % bounds.size : ℕ) := by
      rw [hremainder]
      exact Int.bmod_eq_of_le (by omega) (by omega)
    refine ⟨toNat_rangeOf bounds, toNat_maxAcceptableValue bounds, hkept, ?_⟩
    have hresult := toInt_resultOf bounds u
    unfold resultOf at hresult
    rw [hresult, hkept, add_comm]

theorem exists_not_fits (hwide : 2 ^ 31 ≤ bounds.max.toInt - bounds.min.toInt) :
    ∃ u, Accepts bounds u ∧ ¬ Fits bounds u := by
  have hsize := bounds.size_eq
  have hle := bounds.size_le
  have hwhole : 2 ^ 64 - 1 < bounds.blocks * bounds.size + bounds.size :=
    Nat.lt_div_mul_add bounds.size_pos
  obtain ⟨u, hu⟩ := exists_toNat (2 ^ 31) (by norm_num)
  refine ⟨u, ?_, ?_⟩
  · unfold Accepts
    omega
  · rw [fits_iff, hu, Nat.mod_eq_of_lt (by omega)]
    exact lt_irrefl _

/-- `RandInt` is right for ranges of up to half of the integers. -/
theorem randIntUniform_iff :
    RandIntUniform bounds ↔ bounds.max.toInt - bounds.min.toInt < 2 ^ 31 := by
  constructor
  · intro huniform
    by_contra hwide
    have hne : bounds.min ≠ bounds.max := by
      intro heq
      rw [heq] at hwide
      omega
    obtain ⟨u, hu, hnot⟩ := exists_not_fits (not_lt.mp hwide)
    exact hnot (huniform.fits hne u (mt (rejects_iff hne).mp (not_not.mpr hu)))
  · intro hnarrow
    refine ⟨?_, equallyMany_randInt, ?_⟩
    · intro heq draws
      unfold randInt
      rw [heq, if_neg Int32.lt_irrefl, if_pos rfl]
    · intro hne u _
      have hsize := bounds.size_eq
      have hmod := Nat.mod_lt u.toNat bounds.size_pos
      rw [fits_iff]
      omega

end Distribution

/-! ## The first draw of noise -/

section FirstDraw

def onePercent : Bounds where
  min := 0
  max := 100
  le := by decide

theorem onePercent_ne : onePercent.min ≠ onePercent.max := by decide

theorem exists_produces_iff {bounds : Bounds} (hne : bounds.min ≠ bounds.max) {value : Int32} :
    (∃ u, Produces (randInt bounds.min bounds.max) u value) ↔ value ∈ bounds.integers := by
  constructor
  · rintro ⟨u, hu⟩
    obtain ⟨-, rfl⟩ := (produces_iff hne).mp hu
    exact resultOf_mem bounds u
  · intro hvalue
    -- as many draws as there are blocks give the value, hence at least one
    have hcount := ncard_produces hne hvalue
    exact Set.nonempty_of_ncard_ne_zero (hcount.trans_ne bounds.blocks_pos.ne')

theorem injective_toInt : Function.Injective Int32.toInt := fun _ _ => Int32.toInt_inj.mp

theorem Bounds.image_integers (bounds : Bounds) :
    Int32.toInt '' bounds.integers = Set.Icc bounds.min.toInt bounds.max.toInt := by
  ext k
  constructor
  · rintro ⟨value, hvalue, rfl⟩
    exact hvalue
  · rintro ⟨hmin, hmax⟩
    have hlow := bounds.min.le_toInt
    have hhigh := bounds.max.toInt_lt
    have hk : (Int32.ofInt k).toInt = k :=
      Int32.toInt_ofInt_of_le (hlow.trans hmin) (hmax.trans_lt hhigh)
    refine ⟨.ofInt k, ⟨?_, ?_⟩, hk⟩
    · rw [hk]
      exact hmin
    · rw [hk]
      exact hmax

theorem ncard_integers (bounds : Bounds) : bounds.integers.ncard = bounds.size := by
  have hsize := bounds.size_eq
  rw [← Set.ncard_image_of_injective _ injective_toInt, bounds.image_integers,
    ← Finset.coe_Icc, Set.ncard_coe_finset, Int.card_Icc]
  omega

theorem outcomes_randOnePercentInt :
    {outcome | ∃ u, Produces randOnePercentInt u outcome} = onePercent.integers := by
  ext outcome
  exact exists_produces_iff onePercent_ne

theorem ncard_outcomes :
    {outcome | ∃ u, Produces randOnePercentInt u outcome}.ncard = 101 := by
  rw [outcomes_randOnePercentInt, ncard_integers]
  rfl

theorem not_noisesOneIn {n : ℕ} (hn : n ≠ 101) {T : Type} (drawing : Drawing T) (input : T)
    (range : Set T) : ¬ NoisesOneIn n drawing input range := by
  intro hnoises
  exact hn (hnoises.outcomes.symm.trans ncard_outcomes)

end FirstDraw

/-! ## The second draw -/

section SecondDraw

variable {T : Type} {cast : Int32 → T} {input : T} {bounds : Bounds}

theorem produces_replacement {u : UInt64} {value : Int32}
    (h : Produces (randInt bounds.min bounds.max) u value) :
    Produces (replacement cast input bounds.min bounds.max) u (cast value) := by
  intro draws
  unfold replacement
  rw [h draws]

theorem rejects_replacement {u : UInt64} (h : Rejects (randInt bounds.min bounds.max) u) :
    Rejects (replacement cast input bounds.min bounds.max) u := by
  intro draws
  unfold replacement
  rw [h draws]

theorem replacement_nil (hne : bounds.min ≠ bounds.max) :
    replacement cast input bounds.min bounds.max [] = none := by
  unfold replacement
  rw [randInt_nil hne]

theorem produces_replacement_iff (hcast : Function.Injective cast)
    (hne : bounds.min ≠ bounds.max) {u : UInt64} {value : Int32} :
    Produces (replacement cast input bounds.min bounds.max) u (cast value) ↔
      Produces (randInt bounds.min bounds.max) u value := by
  constructor
  · intro hproduce
    rcases (equallyMany_randInt hne).rejects_or_produces u with hreject | ⟨other, -, hother⟩
    · exact absurd hproduce
        (not_produces_of_rejects (replacement_nil hne) (rejects_replacement hreject))
    · have hsame := (hproduce []).symm.trans (produces_replacement hother [])
      simp only [Option.some.injEq, Prod.mk.injEq, Except.ok.injEq, and_true] at hsame
      rw [hcast hsame]
      exact hother
  · exact produces_replacement

theorem equallyMany_replacement (hcast : Function.Injective cast)
    (hne : bounds.min ≠ bounds.max) :
    EquallyMany (replacement cast input bounds.min bounds.max) (cast '' bounds.integers) where
  rejects_or_produces u := by
    rcases (equallyMany_randInt hne).rejects_or_produces u with hreject | ⟨value, hvalue, hu⟩
    · exact .inl (rejects_replacement hreject)
    · exact .inr ⟨cast value, Set.mem_image_of_mem cast hvalue, produces_replacement hu⟩
  count := by
    refine ⟨bounds.blocks, bounds.blocks_pos, ?_⟩
    rintro - ⟨value, hvalue, rfl⟩
    simp only [produces_replacement_iff hcast hne]
    exact ncard_produces hne hvalue

theorem noisesOneIn_noise (hcast : Function.Injective cast) (hne : bounds.min ≠ bounds.max) :
    NoisesOneIn 101 (noise cast input bounds.min bounds.max) input (cast '' bounds.integers) where
  outcomes := ncard_outcomes
  likely := by
    rw [outcomes_randOnePercentInt]
    exact equallyMany_randInt onePercent_ne
  replaces := by
    refine ⟨1, replacement cast input bounds.min bounds.max,
      (exists_produces_iff onePercent_ne).mpr ⟨by decide, by decide⟩,
      equallyMany_replacement hcast hne, ?_⟩
    intro draws value rest hdraw
    unfold noise
    rw [hdraw]

end SecondDraw

/-! ## The distribution -/

/-- The remainder of `RandInt` fits for ranges of up to half of all integers, and `Noise` never
replaces one in a hundred. -/
theorem noise_distribution (bounds : Bounds) {T : Type} (cast : Int32 → T) (input : T)
    (min max : Int32) (range : Set T) :
    (RandIntUniform bounds ↔ bounds.max.toInt - bounds.min.toInt < 2 ^ 31) ∧
      ¬ NoisesOneIn 100 (noise cast input min max) input range :=
  ⟨randIntUniform_iff, not_noisesOneIn (by decide) _ _ _⟩

/-- All integers, and the noise of a recency. -/
theorem not_noise_distribution :
    ¬ RandIntUniform ⟨Int32.minValue, Int32.maxValue, by decide⟩ ∧
      ¬ NoisesOneIn 100 (noiseAndBucketRecency 7) (bucketRecency 7)
        (Set.Icc 0 31) := by
  constructor
  · rw [randIntUniform_iff]
    decide
  · exact not_noisesOneIn (by decide) _ _ _

/-! ## What is reported -/

section Reported

/-- A signal is reported as it was bucketed, or as one of the integers of its range in place of
it, and whatever is drawn nothing else is reported. -/
structure IsReportedIn (drawing : Drawing ℤ) (bucketed : ℤ) (range : Set ℤ) : Prop where
  bucketed_mem : bucketed ∈ range
  noises : NoisesOneIn 101 drawing bucketed range
  reported_mem : ∀ draws value rest, drawing draws = some (.ok value, rest) → value ∈ range

theorem exists_of_drawAcceptable {range value : UInt64} {draws rest : Draws}
    (h : drawAcceptable range draws = some (.ok value, rest)) : ∃ u, value = u % range := by
  induction draws with
  | nil => cases h
  | cons draw draws ih =>
    unfold drawAcceptable at h
    split at h
    · cases h
    · rename_i u _
      split at h
      · exact ih h
      · cases h
        exact ⟨u, rfl⟩

theorem randInt_mem {bounds : Bounds} (hne : bounds.min ≠ bounds.max) {draws rest : Draws}
    {value : Int32} (h : randInt bounds.min bounds.max draws = some (.ok value, rest)) :
    value ∈ bounds.integers := by
  rw [randInt_of_ne hne] at h
  split at h
  · cases h
  · cases h
  · rename_i randUnit64 _ hdraw
    cases h
    obtain ⟨u, rfl⟩ := exists_of_drawAcceptable hdraw
    exact resultOf_mem bounds u

theorem isReportedIn_noise (bounds : Bounds) (hne : bounds.min ≠ bounds.max) {input : ℤ}
    (hinput : input ∈ Set.Icc bounds.min.toInt bounds.max.toInt) :
    IsReportedIn (noise Int32.toInt input bounds.min bounds.max) input
      (Set.Icc bounds.min.toInt bounds.max.toInt) where
  bucketed_mem := hinput
  noises := by
    rw [← bounds.image_integers]
    exact noisesOneIn_noise injective_toInt hne
  reported_mem := by
    intro draws value rest h
    unfold noise at h
    split at h
    · cases h
    · cases h
    · split at h
      · -- the second draw; the input is kept where it fails
        unfold replacement at h
        split at h
        · cases h
        · cases h
          exact hinput
        · rename_i hdraw
          cases h
          exact randInt_mem hne hdraw
      · cases h
        exact hinput

theorem bucketJoinCount_mem (joinCount : Int32) : bucketJoinCount joinCount ∈ Set.Icc 1 16 := by
  unfold bucketJoinCount
  extract_lets clamped
  have hlow : (1 : Int32).toInt ≤ clamped.toInt := by
    unfold clamped
    split
    · exact le_rfl
    · rename_i h
      exact not_lt.mp (mt Int32.lt_iff_toInt_lt.mpr h)
  refine ite_mem.mpr ⟨fun h => ?_, fun _ => ?_⟩
  · have hhigh := Int32.le_iff_toInt_le.mp h
    exact ⟨hlow, hhigh.trans (by decide)⟩
  · iterate 5 refine ite_mem.mpr ⟨fun _ => by simp, fun _ => ?_⟩
    simp

theorem bucketRecency_mem (recency : Int64) : bucketRecency recency ∈ Set.Icc 0 31 := by
  unfold bucketRecency
  extract_lets clamped
  have hlow : (0 : Int64).toInt ≤ clamped.toInt := by
    unfold clamped
    split
    · exact le_rfl
    · rename_i h
      exact not_lt.mp (mt Int64.lt_iff_toInt_lt.mpr h)
  refine ite_mem.mpr ⟨fun h => ?_, fun _ => ?_⟩
  · have hhigh := Int64.lt_iff_toInt_lt.mp h
    exact ⟨hlow, hhigh.le.trans (by decide)⟩
  · iterate 21 refine ite_mem.mpr ⟨fun _ => by simp, fun _ => ?_⟩
    simp

/-- Of the signals of a report, each is in the range of its buckets whatever is drawn, and noise
can make any value of that range of any other: one time in 101 it is drawn anew, every integer
of the range by equally many draws. -/
theorem signals_isReportedIn (modelingSignals : UInt16) (joinCount : Int32) (recency : Int64) :
    IsReportedIn (noiseAndMaskModelingSignals modelingSignals) (modelingSignals &&& 0x0FFF).toNat
        (Set.Icc 0 0x0FFF) ∧
      IsReportedIn (noiseAndBucketJoinCount joinCount) (bucketJoinCount joinCount)
        (Set.Icc 1 16) ∧
      IsReportedIn (noiseAndBucketRecency recency) (bucketRecency recency) (Set.Icc 0 31) := by
  refine ⟨?_, ?_, ?_⟩
  · refine isReportedIn_noise ⟨0, 0x0FFF, by decide⟩ (by decide) ⟨Int.natCast_nonneg _, ?_⟩
    have hmask : (modelingSignals &&& 0x0FFF).toNat ≤ 0x0FFF := by
      rw [UInt16.toNat_and]
      exact Nat.and_le_right
    exact Int.ofNat_le.mpr hmask
  · exact isReportedIn_noise ⟨1, 16, by decide⟩ (by decide) (bucketJoinCount_mem joinCount)
  · exact isReportedIn_noise ⟨0, 31, by decide⟩ (by decide) (bucketRecency_mem recency)

end Reported

end RandomNumbers

end BiddingAuction
