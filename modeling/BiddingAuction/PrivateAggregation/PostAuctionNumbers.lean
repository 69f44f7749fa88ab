import BiddingAuction.PrivateAggregation.Handlers
import BiddingAuction.ScoreAds.Candidates
import Mathlib.Algebra.Order.Floor.Ring
import Mathlib.Data.Rat.Floor
import Mathlib.Tactic.Linarith

/-!
# What a contribution comes to in numbers

The value and the bucket that a contribution is resolved to, against the numbers its
comment promises. The floating-point operations are exact wherever the language defines
them; a conversion of a number that the type cannot hold may come to anything.
-/

namespace BiddingAuction

/-! ## Conversions -/

def FitsInt32 (n : ℤ) : Prop := -2 ^ 31 ≤ n ∧ n < 2 ^ 31

instance (n : ℤ) : Decidable (FitsInt32 n) := instDecidableAnd

def FitsUInt64 (n : ℤ) : Prop := 0 ≤ n ∧ n < 2 ^ 64

instance (n : ℤ) : Decidable (FitsUInt64 n) := instDecidableAnd

theorem fitsInt32_toInt (n : Int32) : FitsInt32 n.toInt := ⟨n.le_toInt, n.toInt_lt⟩

theorem toInt_ofInt_of_fits {n : ℤ} (h : FitsInt32 n) : (Int32.ofInt n).toInt = n :=
  Int32.toInt_ofInt_of_le h.1 h.2

/-- The operations are exact on rationals, as far as their results are defined. -/
structure FloatOps.IsExact (ops : FloatOps ℚ) : Prop where
  ofInt_eq : ∀ n, ops.ofInt n = n.toInt
  toInt_eq : ∀ q, FitsInt32 (truncate q) → (ops.toInt q).toInt = truncate q
  mulToUInt64_eq : ∀ q scale, FitsUInt64 (truncate (q * scale)) →
    ((ops.mulToUInt64 q scale).toNat : ℤ) = truncate (q * scale)
  mulToInt_eq : ∀ n scale, FitsInt32 (truncate (n.toInt * scale)) →
    (ops.mulToInt n scale).toInt = truncate (n.toInt * scale)

/-- Exact operations that answer `other` where a product does not fit. -/
def machineNumbers (other : Int32) : FloatOps ℚ where
  zero := 0
  isPositive x := 0 < x
  ofInt n := n.toInt
  toInt q := if FitsInt32 (truncate q) then Int32.ofInt (truncate q) else 0
  mulToUInt64 q scale := UInt64.ofNat (truncate (q * scale)).toNat
  mulToInt n scale :=
    if FitsInt32 (truncate (n.toInt * scale)) then Int32.ofInt (truncate (n.toInt * scale))
    else other
  uninitialized := 0

theorem machineNumbers_isExact (other : Int32) : (machineNumbers other).IsExact where
  ofInt_eq n := rfl
  toInt_eq q h := by
    show (if _ then _ else _ : Int32).toInt = _
    rw [if_pos h, toInt_ofInt_of_fits h]
  mulToUInt64_eq q scale h := by
    obtain ⟨hlow, hhigh⟩ := h
    show ((UInt64.ofNat (truncate (q * scale)).toNat).toNat : ℤ) = _
    rw [UInt64.toNat_ofNat_of_lt' (by rw [UInt64.size]; omega)]
    omega
  mulToInt_eq n scale h := by
    show (if _ then _ else _ : Int32).toInt = _
    rw [if_pos h, toInt_ofInt_of_fits h]

/-! ## Truncation -/

theorem truncate_intCast (n : ℤ) : truncate n = n := by simp [truncate]

theorem truncate_neg (q : ℚ) : truncate (-q) = -truncate q := by simp [truncate]

theorem truncate_of_nonneg {q : ℚ} (h : 0 ≤ q) : truncate q = ⌊q⌋ := by
  rw [truncate, Int.tdiv_eq_ediv_of_nonneg (Rat.num_nonneg.mpr h)]
  exact Rat.floor_def'.symm

theorem truncate_of_nonpos {q : ℚ} (h : q ≤ 0) : truncate q = ⌈q⌉ := by
  have hneg := truncate_of_nonneg (Left.nonneg_neg_iff.mpr h)
  rw [truncate_neg, Int.floor_neg] at hneg
  omega

theorem truncate_mono {q r : ℚ} (h : q ≤ r) : truncate q ≤ truncate r := by
  rcases le_total 0 q with hq | hq
  · rw [truncate_of_nonneg hq, truncate_of_nonneg (hq.trans h)]
    exact Int.floor_mono h
  · rcases le_total r 0 with hr | hr
    · rw [truncate_of_nonpos hq, truncate_of_nonpos hr]
      exact Int.ceil_mono h
    · rw [truncate_of_nonpos hq, truncate_of_nonneg hr]
      exact (Int.ceil_le.mpr (by exact_mod_cast hq)).trans (Int.floor_nonneg.mpr hr)

@[simp] theorem truncate_zero : truncate 0 = 0 := rfl

theorem truncate_eq_zero_iff {q : ℚ} : truncate q = 0 ↔ -1 < q ∧ q < 1 := by
  rcases le_total 0 q with hq | hq
  · rw [truncate_of_nonneg hq, Int.floor_eq_zero_iff]
    exact ⟨fun h => ⟨by linarith, h.2⟩, fun h => ⟨hq, h.2⟩⟩
  · rw [truncate_of_nonpos hq, Int.ceil_eq_zero_iff]
    exact ⟨fun h => ⟨h.1, by linarith⟩, fun h => ⟨h.1, hq⟩⟩

theorem truncate_mul_between {n q : ℚ} (scale : ℚ) (h : 0 ≤ n ∧ n ≤ q ∨ q ≤ n ∧ n ≤ 0) :
    0 ≤ truncate (n * scale) ∧ truncate (n * scale) ≤ truncate (q * scale) ∨
      truncate (q * scale) ≤ truncate (n * scale) ∧ truncate (n * scale) ≤ 0 := by
  have hup : ∀ {r s : ℚ}, 0 ≤ r → r ≤ s → 0 ≤ truncate r ∧ truncate r ≤ truncate s :=
    fun hr hrs => ⟨truncate_mono hr, truncate_mono hrs⟩
  have hdown : ∀ {r s : ℚ}, s ≤ r → r ≤ 0 → truncate s ≤ truncate r ∧ truncate r ≤ 0 :=
    fun hsr hr => ⟨truncate_mono hsr, truncate_mono hr⟩
  rcases h with ⟨hn, hq⟩ | ⟨hq, hn⟩ <;> rcases le_total 0 scale with hscale | hscale
  · exact .inl (hup (mul_nonneg hn hscale) (mul_le_mul_of_nonneg_right hq hscale))
  · exact .inr (hdown (mul_le_mul_of_nonpos_right hq hscale)
      (mul_nonpos_of_nonneg_of_nonpos hn hscale))
  · exact .inr (hdown (mul_le_mul_of_nonneg_right hq hscale)
      (mul_nonpos_of_nonpos_of_nonneg hn hscale))
  · exact .inl (hup (mul_nonneg_of_nonpos_of_nonpos hn hscale)
      (mul_le_mul_of_nonpos_right hq hscale))

theorem truncate_between (q : ℚ) :
    0 ≤ (truncate q : ℚ) ∧ truncate q ≤ q ∨ q ≤ truncate q ∧ (truncate q : ℚ) ≤ 0 := by
  rcases le_total 0 q with hq | hq
  · rw [truncate_of_nonneg hq]
    exact .inl ⟨by exact_mod_cast Int.floor_nonneg.mpr hq, Int.floor_le q⟩
  · rw [truncate_of_nonpos hq]
    exact .inr ⟨Int.le_ceil q, by exact_mod_cast Int.ceil_le.mpr (by exact_mod_cast hq)⟩

/-! ## The value -/

def exactBaseValue (baseValues : BaseValues ℚ) (baseValue : BaseValue) : Except String ℚ :=
  baseValueNumber baseValues id (fun reason => (reason.toInt : ℚ)) baseValue

/-- Base value times scale without its fraction, plus the offset. -/
def exactValue (base : ℚ) (signalValue : SignalValue ℚ) : ℤ :=
  truncate (base * signalValue.scale) + signalValue.offset.toInt

/-- The value is the exact one, or an error where an `int` cannot hold that. -/
def ValueIsExact (ops : FloatOps ℚ) (baseValues : BaseValues ℚ) (signalValue : SignalValue ℚ) :
    Prop :=
  let result := getPrivateAggregationValuePostAuction ops baseValues
    (some (.extendedValue signalValue))
  match exactBaseValue baseValues signalValue.baseValue with
  | .error error => result = .error error
  | .ok base =>
    if FitsInt32 (exactValue base signalValue) then
      result = .ok (Int32.ofInt (exactValue base signalValue))
    else ∃ error, result = .error error

/-- Taking the fraction of the base value first makes no difference to the product. A
base value that an `int` cannot hold may become any, zero among them. -/
def ScalesTruncated (base scale : ℚ) : Prop :=
  truncate (base * scale) =
    if FitsInt32 (truncate base) then truncate (truncate base * scale) else 0

/-- The `int` that a base value is read into. -/
theorem baseValueNumber_toInt (ops : FloatOps ℚ) (baseValues : BaseValues ℚ)
    (baseValue : BaseValue) :
    match exactBaseValue baseValues baseValue with
    | .error error => baseValueNumber baseValues ops.toInt id baseValue = .error error
    | .ok base => ∃ n, baseValueNumber baseValues ops.toInt id baseValue = .ok n ∧
        (n = ops.toInt base ∨ base = n.toInt) := by
  cases baseValue with
  | winningBid => exact ⟨_, rfl, .inl rfl⟩
  | highestScoringOtherBid => exact ⟨_, rfl, .inl rfl⟩
  | bidRejectionReason =>
    unfold exactBaseValue
    simp only [baseValueNumber]
    cases baseValues.rejectReason with
    | none => rfl
    | some reason => exact ⟨_, rfl, .inr rfl⟩
  | _ => rfl

theorem valuePostAuction_eq {ops : FloatOps ℚ} {baseValues : BaseValues ℚ}
    (signalValue : SignalValue ℚ) {n : Int32}
    (hn : baseValueNumber baseValues ops.toInt id signalValue.baseValue = .ok n) :
    getPrivateAggregationValuePostAuction ops baseValues (some (.extendedValue signalValue)) =
      .ok (ops.mulToInt n signalValue.scale + signalValue.offset) := by
  simp only [getPrivateAggregationValuePostAuction, hn]
  rfl

theorem eq_ofInt_of_add_eq {m offset : Int32} {n : ℤ}
    (h : m + offset = Int32.ofInt (n + offset.toInt)) : m = Int32.ofInt n := by
  rw [Int32.ofInt_add, Int32.ofInt_toInt] at h
  exact (Int32.add_left_inj offset).mp h

section Value

variable {baseValues : BaseValues ℚ} {signalValue : SignalValue ℚ} {base : ℚ} {n : Int32}

theorem toInt_of_read {ops : FloatOps ℚ} (hops : ops.IsExact)
    (hn : n = ops.toInt base ∨ base = n.toInt) (hfits : FitsInt32 (truncate base)) :
    n.toInt = truncate base := by
  rcases hn with rfl | rfl
  · exact hops.toInt_eq base hfits
  · exact (truncate_intCast _).symm

theorem between_of_read (hn : FitsInt32 (truncate base) → n.toInt = truncate base)
    (hzero : ¬ FitsInt32 (truncate base) → n = 0) :
    0 ≤ (n.toInt : ℚ) ∧ n.toInt ≤ base ∨ base ≤ n.toInt ∧ (n.toInt : ℚ) ≤ 0 := by
  by_cases hfits : FitsInt32 (truncate base)
  · rw [hn hfits]
    exact truncate_between base
  · rw [hzero hfits]
    rcases le_total 0 base with h | h
    · exact .inl ⟨by simp, by simpa using h⟩
    · exact .inr ⟨by simpa using h, by simp⟩

theorem truncate_mul_of_scalesTruncated {scale : ℚ} (hscales : ScalesTruncated base scale)
    (hn : FitsInt32 (truncate base) → n.toInt = truncate base) :
    truncate (n.toInt * scale) = truncate (base * scale) := by
  unfold ScalesTruncated at hscales
  by_cases hfits : FitsInt32 (truncate base)
  · rw [if_pos hfits] at hscales
    rw [hscales, hn hfits]
  · rw [if_neg hfits] at hscales
    rw [hscales]
    obtain ⟨hlow, hhigh⟩ := fitsInt32_toInt n
    -- the base value is larger than any `int`, and still its product is below one
    have hbase : |(n.toInt : ℚ)| ≤ |base| := by
      have htruncate : 2 ^ 31 ≤ |truncate base| := by
        unfold FitsInt32 at hfits
        rcases abs_cases (truncate base) with h | h <;> omega
      have hint : |n.toInt| ≤ |truncate base| :=
        (abs_le.mpr ⟨hlow, by omega⟩).trans htruncate
      have hle : |(truncate base : ℚ)| ≤ |base| := by
        rcases truncate_between base with ⟨h, hle⟩ | ⟨hle, h⟩
        · exact abs_le_abs_of_nonneg h hle
        · exact abs_le_abs_of_nonpos h hle
      exact le_trans (by exact_mod_cast hint) hle
    have hproduct : |(n.toInt : ℚ) * scale| < 1 := by
      refine lt_of_le_of_lt ?_ (abs_lt.mpr (truncate_eq_zero_iff.mp hscales))
      rw [abs_mul, abs_mul]
      exact mul_le_mul_of_nonneg_right hbase (abs_nonneg scale)
    exact truncate_eq_zero_iff.mpr (abs_lt.mp hproduct)

/-- The `int` a base value is read into, whatever a product that does not fit comes to. -/
theorem exists_read {baseValue : BaseValue}
    (hbase : exactBaseValue baseValues baseValue = .ok base) :
    ∃ n : Int32, (FitsInt32 (truncate base) → n.toInt = truncate base) ∧
      (¬ FitsInt32 (truncate base) → n = 0) ∧
      ∀ other, baseValueNumber baseValues (machineNumbers other).toInt id baseValue = .ok n := by
  have h := baseValueNumber_toInt (machineNumbers 0) baseValues baseValue
  simp only [hbase] at h
  obtain ⟨n, hread, hn⟩ := h
  refine ⟨n, fun hfits => ?_, fun hfits => ?_, fun other => hread⟩
  · exact toInt_of_read (machineNumbers_isExact 0) hn hfits
  · rcases hn with rfl | rfl
    · exact if_neg hfits
    · rw [truncate_intCast] at hfits
      exact absurd (fitsInt32_toInt n) hfits

theorem fits_of_mulToInt_eq {scale : ℚ} {product : Int32}
    (h : ∀ other, (machineNumbers other).mulToInt n scale = product) :
    FitsInt32 (truncate (n.toInt * scale)) := by
  by_contra hproduct
  have hzero : (machineNumbers 0).mulToInt n scale = 0 := if_neg hproduct
  have hone : (machineNumbers 1).mulToInt n scale = 1 := if_neg hproduct
  exact absurd (hzero.symm.trans ((h 0).trans ((h 1).symm.trans hone))) (by decide)

/-- What is multiplied has the product of the base value, if the two agree as an `int`. -/
theorem truncate_mul_eq_of_mulToInt_eq
    (hbetween : 0 ≤ (n.toInt : ℚ) ∧ n.toInt ≤ base ∨ base ≤ n.toInt ∧ (n.toInt : ℚ) ≤ 0)
    (hfits : FitsInt32 (exactValue base signalValue))
    (h : ∀ other, (machineNumbers other).mulToInt n signalValue.scale =
      Int32.ofInt (truncate (base * signalValue.scale))) :
    truncate (n.toInt * signalValue.scale) = truncate (base * signalValue.scale) := by
  have hproduct := fits_of_mulToInt_eq h
  have hwraps := congrArg Int32.toInt (h 0)
  rw [(machineNumbers_isExact 0).mulToInt_eq n _ hproduct, Int32.toInt_ofInt,
    Int.bmod_eq_emod] at hwraps
  -- the two products have one sign, so they are not a multiple of `2 ^ 32` apart
  have hsign := truncate_mul_between signalValue.scale hbetween
  have hoffset := fitsInt32_toInt signalValue.offset
  simp only [FitsInt32, exactValue, Int32.size] at *
  split at hwraps <;> omega

/-- The value is the exact one where truncating the base value first makes no difference and
nothing leaves the range. -/
theorem valueIsExact_of_scalesTruncated {ops : FloatOps ℚ} (hops : ops.IsExact)
    (hcondition : ∀ base, exactBaseValue baseValues signalValue.baseValue = .ok base →
      ScalesTruncated base signalValue.scale ∧
      FitsInt32 (truncate (base * signalValue.scale)) ∧
      FitsInt32 (exactValue base signalValue)) :
    ValueIsExact ops baseValues signalValue := by
  have hread := baseValueNumber_toInt ops baseValues signalValue.baseValue
  unfold ValueIsExact
  cases hbase : exactBaseValue baseValues signalValue.baseValue with
  | error error =>
    simp only [hbase] at hread
    simp only [getPrivateAggregationValuePostAuction, hread]
    rfl
  | ok base =>
    simp only [hbase] at hread
    obtain ⟨n, hread, hn⟩ := hread
    obtain ⟨hscales, hproduct, hsum⟩ := hcondition base hbase
    have heq := truncate_mul_of_scalesTruncated hscales (toInt_of_read hops hn)
    simp only [if_pos hsum, valuePostAuction_eq signalValue hread]
    have hmul : ops.mulToInt n signalValue.scale =
        Int32.ofInt (truncate (base * signalValue.scale)) := by
      rw [← Int32.toInt_inj, hops.mulToInt_eq n _ (heq ▸ hproduct), heq,
        toInt_ofInt_of_fits hproduct]
    rw [hmul, exactValue, Int32.ofInt_add, Int32.ofInt_toInt]

end Value

def withOffset (n : ℤ) (offset : BucketOffset) : ℤ :=
  if offset.isNegative then n - offset.magnitude else n + offset.magnitude

/-- The number in two words, or an error where 128 bits cannot hold it. -/
def IsExactBucket (exact : ℤ) (result : Except String (List UInt64)) : Prop :=
  if 0 ≤ exact ∧ exact < 2 ^ 128 then result = .ok (uint128Words exact.toNat)
  else ∃ error, result = .error error

/-- The product is converted in range; the bucket is that number, rounded down, with the
offset. -/
def BucketIsExact (ops : FloatOps ℚ) (baseValues : BaseValues ℚ)
    (signalBucket : SignalBucket ℚ) : Prop :=
  let result := getPrivateAggregationBucketPostAuction ops baseValues
    (some (.signalBucket signalBucket))
  match exactBaseValue baseValues signalBucket.baseValue with
  | .error error => result = .error error
  | .ok base =>
    FitsUInt64 (truncate (base * signalBucket.scale)) ∧
      IsExactBucket (withOffset ⌊base * signalBucket.scale⌋ signalBucket.offset) result

/-- What the cast takes as it is, and a sum that 128 bits hold; or less than one below
zero, which leaves nothing to take the offset from. -/
def BucketInRange (product : ℚ) (offset : BucketOffset) : Prop :=
  0 ≤ product ∧ product < 2 ^ 64 ∧
      (offset.isNegative ∨ ⌊product⌋ + offset.magnitude < 2 ^ 128) ∨
    -1 < product ∧ product < 0 ∧ offset.isNegative ∧ 0 < offset.magnitude

theorem baseValueNumber_ofInt {ops : FloatOps ℚ} (hops : ops.IsExact)
    (baseValues : BaseValues ℚ) (baseValue : BaseValue) :
    baseValueNumber baseValues id ops.ofInt baseValue = exactBaseValue baseValues baseValue := by
  cases baseValue with
  | bidRejectionReason =>
    simp only [exactBaseValue, baseValueNumber]
    cases baseValues.rejectReason with
    | none => rfl
    | some reason => simp only [hops.ofInt_eq]
  | _ => rfl

/-- The end of the computation, from the converted product on. -/
def bucketOf (finalValue : ℕ) (offset : BucketOffset) : Except String (List UInt64) :=
  if offset.isNegative then
    if finalValue < offset.magnitude then .error kPrivateAggregationBucketNegativeFinalValue
    else .ok (uint128Words (finalValue - offset.magnitude))
  else .ok (uint128Words ((finalValue + offset.magnitude) % 2 ^ 128))

theorem bucketPostAuction_eq {ops : FloatOps ℚ} {baseValues : BaseValues ℚ}
    (signalBucket : SignalBucket ℚ) {base : ℚ}
    (hbase : baseValueNumber baseValues id ops.ofInt signalBucket.baseValue = .ok base) :
    getPrivateAggregationBucketPostAuction ops baseValues (some (.signalBucket signalBucket)) =
      bucketOf (ops.mulToUInt64 base signalBucket.scale).toNat signalBucket.offset := by
  simp only [getPrivateAggregationBucketPostAuction, hbase]
  rfl

theorem magnitude_lt (offset : BucketOffset) : offset.magnitude < 2 ^ 128 := by
  have hlow := (offset.value.getD 0 0).toNat_lt
  have hhigh := (offset.value.getD 1 0).toNat_lt
  unfold BucketOffset.magnitude
  omega

theorem uint128Words_inj {m n : ℕ} (hm : m < 2 ^ 128) (hn : n < 2 ^ 128)
    (h : uint128Words m = uint128Words n) : m = n := by
  simp only [uint128Words, List.cons.injEq, and_true, ← UInt64.toNat_inj,
    UInt64.toNat_ofNat'] at h
  omega

theorem isExactBucket_bucketOf {finalValue : ℕ} (hsmall : finalValue < 2 ^ 64)
    (offset : BucketOffset) :
    IsExactBucket (withOffset finalValue offset) (bucketOf finalValue offset) ↔
      offset.isNegative ∨ (finalValue + offset.magnitude : ℤ) < 2 ^ 128 := by
  unfold IsExactBucket withOffset bucketOf
  cases offset.isNegative with
  | true =>
    simp only [if_true, true_or, iff_true]
    by_cases hless : finalValue < offset.magnitude
    · rw [if_pos hless, if_neg (by omega)]
      exact ⟨_, rfl⟩
    · rw [if_neg hless, if_pos (by omega)]
      have hexact : ((finalValue : ℤ) - offset.magnitude).toNat =
          finalValue - offset.magnitude := by omega
      rw [hexact]
  | false =>
    simp only [Bool.false_eq_true, if_false, false_or]
    by_cases hfits : (finalValue + offset.magnitude : ℤ) < 2 ^ 128
    · have hexact : ((finalValue : ℤ) + offset.magnitude).toNat =
          finalValue + offset.magnitude := by omega
      rw [if_pos ⟨by omega, hfits⟩, Nat.mod_eq_of_lt (by omega), hexact]
      exact iff_of_true rfl hfits
    · rw [if_neg fun h => hfits h.2]
      exact iff_of_false (fun ⟨error, h⟩ => nomatch h) hfits

theorem isExactBucket_bucketOf_zero (offset : BucketOffset) :
    IsExactBucket (withOffset (-1) offset) (bucketOf 0 offset) ↔
      offset.isNegative ∧ 0 < offset.magnitude := by
  have hmagnitude := magnitude_lt offset
  unfold IsExactBucket withOffset bucketOf
  cases offset.isNegative with
  | true =>
    simp only [if_true, true_and]
    rw [if_neg (by omega)]
    by_cases hpos : 0 < offset.magnitude
    · rw [if_pos hpos]
      exact iff_of_true ⟨_, rfl⟩ hpos
    · rw [if_neg hpos]
      exact iff_of_false (fun ⟨error, h⟩ => nomatch h) hpos
  | false =>
    simp only [Bool.false_eq_true, if_false, false_and, iff_false]
    rw [Nat.mod_eq_of_lt (by omega)]
    split
    · intro hwords
      have := uint128Words_inj (by omega) (by omega) (Except.ok.inj hwords)
      omega
    · exact fun ⟨error, h⟩ => nomatch h

end BiddingAuction
