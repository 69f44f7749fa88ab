import BiddingAuction.Foundation.Binary64
import BiddingAuction.Foundation.RejectionSampling

/-!
# Stochastic rounding

A number is rounded to `k` bits of its mantissa: it is scaled to a whole number of `k` bits, the
rest is cut off, and the number further from zero is taken where a draw is below the rest.
-/

namespace BiddingAuction

open Foundation

/-! ## Rounding -/

/-- The `int` of what is computed as an `unsigned`. -/
def asInt (n : ℤ) : ℤ := n.bmod (2 ^ 32)

def bitsToOpenEndedUnitInterval (bits : UInt64) : Binary64 :=
  (Binary64.ofMagnitude false ((bits &&& (((1 : UInt64) <<< 53) - 1)).toNat : ℚ)).ldexp (-53)

def randDouble (randUint64 : Except String UInt64) : Except String Binary64 :=
  randUint64.map bitsToOpenEndedUnitInterval

def roundStochasticallyToKBits (value : Binary64) (k : UInt32)
    (randDouble : Except String Binary64) : Except String Binary64 :=
  if !value.isFinite then .ok value
  else
    let (normValue, valueExp) := value.frexp
    if valueExp < -128 then .ok ((Binary64.zero false).copysign value)
    else if valueExp > 127 then .ok ((Binary64.infinite false).copysign value)
    else
      let precisionScaledValue := normValue.ldexp (asInt k.toNat)
      let truncatedScaledValue := precisionScaledValue.trunc
      match randDouble with
      | .error status => .error status
      | .ok randDouble =>
        if randDouble.lt (precisionScaledValue.sub truncatedScaledValue).abs then
          let noisedTruncatedScaledValue :=
            truncatedScaledValue.add (Binary64.one.copysign precisionScaledValue)
          let carried := (noisedTruncatedScaledValue.ldexp (asInt (-k.toNat))).abs
          if valueExp = 127 ∧ Binary64.one.le carried = true then
            if carried.eq Binary64.one then .ok ((Binary64.infinite false).copysign value)
            else .error "Error generating truncated value"
          else .ok (noisedTruncatedScaledValue.ldexp (asInt (valueExp - k.toNat)))
        else .ok (truncatedScaledValue.ldexp (asInt (valueExp - k.toNat)))

/-- What is drawn is not below zero and below one. -/
structure InUnitInterval (draw : Binary64) : Prop where
  isFinite : draw.isFinite = true
  nonneg : 0 ≤ draw.toRat
  lt_one : draw.toRat < 1

theorem inUnitInterval_bits (bits : UInt64) :
    InUnitInterval (bitsToOpenEndedUnitInterval bits) := by
  have hmask : (bits &&& (((1 : UInt64) <<< 53) - 1)).toNat < 2 ^ 53 := by
    rw [UInt64.toNat_and]
    exact lt_of_le_of_lt Nat.and_le_right (by decide)
  generalize hmasked : (bits &&& (((1 : UInt64) <<< 53) - 1)).toNat = n at hmask
  have hrepresentable : Representable ((n : ℚ) * 2 ^ (-53 : ℤ)) :=
    representable_mantissa hmask (by norm_num) (by norm_num)
  have hdraw : bitsToOpenEndedUnitInterval bits = .finite false ⟨_, hrepresentable⟩ := by
    rw [bitsToOpenEndedUnitInterval, hmasked,
      Binary64.ofMagnitude_eq false (representable_natCast hmask)]
    exact Binary64.ofMagnitude_eq false hrepresentable
  rw [hdraw]
  refine ⟨rfl, hrepresentable.nonneg, ?_⟩
  show (n : ℚ) * 2 ^ (-53 : ℤ) < 1
  calc (n : ℚ) * 2 ^ (-53 : ℤ) < 2 ^ (53 : ℤ) * 2 ^ (-53 : ℤ) := by
        refine mul_lt_mul_of_pos_right ?_ (two_zpow_pos _)
        exact (Nat.cast_lt.mpr hmask).trans_eq (two_zpow_natCast 53).symm
    _ = 1 := by rw [← two_zpow_add]; rfl

/-! ## The grid -/

/-- A finite number is rounded within the grid of its `k` bits. -/
structure StaysWithinGrid (negative : Bool) (value : Magnitude) (k : ℕ) (draw : ℚ)
    (result : Except String Binary64) : Prop where
  underflow : binaryExponent value.value < -128 → result = .ok (.zero negative)
  overflow : 127 < binaryExponent value.value → result = .ok (.infinite negative)
  /-- The number is between two of the grid, and the one further from zero is taken if the draw
  is below what is cut off. -/
  within : -128 ≤ binaryExponent value.value → binaryExponent value.value ≤ 127 →
    ∃ n : ℕ, let unit : ℚ := 2 ^ (binaryExponent value.value - k)
      n * unit ≤ value.value ∧ value.value < (n + 1) * unit ∧
      let taken : ℕ := if draw < value.value / unit - n then n + 1 else n
      if 127 < binaryExponent (taken * unit) then result = .ok (.infinite negative)
      else ∃ h : Representable (taken * unit), result = .ok (.finite negative ⟨taken * unit, h⟩)
  /-- What has `k` bits is returned as it is. -/
  unchanged : -128 ≤ binaryExponent value.value → binaryExponent value.value ≤ 127 →
    ∀ n : ℕ, value.value = n * 2 ^ (binaryExponent value.value - k) →
      result = .ok (.finite negative value)

section Grid

variable (value : Magnitude) (k : ℕ)

/-- The mantissa, scaled to `k` bits before the point. -/
def scaledMantissa : ℚ := value.value / 2 ^ binaryExponent value.value * 2 ^ (k : ℤ)

theorem scaledMantissa_eq_div :
    scaledMantissa value k = value.value / 2 ^ (binaryExponent value.value - k) := by
  rw [scaledMantissa, zpow_sub₀ two_ne_zero]
  field_simp

theorem exists_scaledMantissa :
    ∃ mantissa : ℕ, mantissa < 2 ^ 53 ∧ scaledMantissa value k = mantissa * 2 ^ (k - 53 : ℤ) := by
  obtain ⟨mantissa, hmantissa, hvalue⟩ := value.representable.exists_mantissa
  refine ⟨mantissa, hmantissa, ?_⟩
  rw [scaledMantissa_eq_div, div_eq_iff (two_zpow_pos _).ne', mul_assoc, ← two_zpow_add]
  exact hvalue.trans (by congr 2; omega)

theorem scaledMantissa_nonneg : 0 ≤ scaledMantissa value k :=
  mul_nonneg (div_nonneg value.representable.nonneg (two_zpow_pos _).le) (two_zpow_pos _).le

theorem scaledMantissa_lt : scaledMantissa value k < 2 ^ (k : ℤ) := by
  obtain ⟨mantissa, hmantissa, hscaled⟩ := exists_scaledMantissa value k
  calc scaledMantissa value k = mantissa * 2 ^ (k - 53 : ℤ) := hscaled
    _ < 2 ^ (53 : ℤ) * 2 ^ (k - 53 : ℤ) := by
        refine mul_lt_mul_of_pos_right ?_ (two_zpow_pos _)
        exact (Nat.cast_lt.mpr hmantissa).trans_eq (two_zpow_natCast 53).symm
    _ = 2 ^ (k : ℤ) := by rw [← two_zpow_add]; congr 1; omega

theorem representable_scaledMantissa {k : ℕ} (hk : k ≤ 1024) :
    Representable (scaledMantissa value k) := by
  obtain ⟨mantissa, hmantissa, hscaled⟩ := exists_scaledMantissa value k
  exact hscaled ▸ representable_mantissa hmantissa (by omega) (by omega)

theorem scaledMantissa_eq_floor {k : ℕ} (hk : 53 ≤ k) :
    scaledMantissa value k = ⌊scaledMantissa value k⌋₊ := by
  obtain ⟨mantissa, -, hscaled⟩ := exists_scaledMantissa value k
  obtain ⟨shift, rfl⟩ := Nat.exists_eq_add_of_le hk
  have hwhole : scaledMantissa value (53 + shift) = (mantissa * 2 ^ shift : ℕ) := by
    rw [hscaled, Nat.cast_mul, ← two_zpow_natCast]
    congr 2
    omega
  rw [hwhole, Nat.floor_natCast]

theorem floor_scaledMantissa_lt : ⌊scaledMantissa value k⌋₊ < 2 ^ k := by
  refine (Nat.floor_lt (scaledMantissa_nonneg value k)).mpr ?_
  exact (scaledMantissa_lt value k).trans_eq (two_zpow_natCast k)

theorem representable_grid {n : ℕ} (hk : k ≤ 52) (hn : n ≤ 2 ^ k)
    (hlow : -128 ≤ binaryExponent value.value) (hhigh : binaryExponent value.value ≤ 127) :
    Representable (n * 2 ^ (binaryExponent value.value - k)) := by
  have hbits : n < 2 ^ 53 := lt_of_le_of_lt hn (Nat.pow_lt_pow_right (by norm_num) (by omega))
  exact representable_mantissa hbits (by omega) (by omega)

theorem scaledMantissa_mul_unit :
    scaledMantissa value k * 2 ^ (binaryExponent value.value - k) = value.value := by
  rw [scaledMantissa_eq_div, div_mul_cancel₀ _ (two_zpow_pos _).ne']

theorem representable_floor_grid (hlow : -128 ≤ binaryExponent value.value)
    (hhigh : binaryExponent value.value ≤ 127) :
    Representable (⌊scaledMantissa value k⌋₊ * 2 ^ (binaryExponent value.value - k)) := by
  -- from 53 bits on the floor is all of the value
  rcases Nat.lt_or_ge 52 k with hk | hk
  · rw [← scaledMantissa_eq_floor value hk, scaledMantissa_mul_unit]
    exact value.representable
  · exact representable_grid value k hk (floor_scaledMantissa_lt value k).le hlow hhigh

end Grid

/-! ## One rounding -/

theorem asInt_eq_self {n : ℤ} (hlow : -2 ^ 31 ≤ n) (hhigh : n < 2 ^ 31) : asInt n = n := by
  unfold asInt
  rw [Int.bmod_def]
  omega

section Rounding

variable {negative : Bool} {value : Magnitude} {k : ℕ} {draw : Binary64}

theorem lt_rest_iff (hdraw : InUnitInterval draw) (hk : k ≤ 1024) :
    draw.lt (((Binary64.finite negative ⟨_, representable_scaledMantissa value hk⟩).sub
      (Binary64.finite negative
        ⟨_, (representable_scaledMantissa value hk).floor⟩)).abs) = true ↔
      draw.toRat < scaledMantissa value k - ⌊scaledMantissa value k⌋₊ := by
  have hle : (⌊scaledMantissa value k⌋₊ : ℚ) ≤ scaledMantissa value k :=
    Nat.floor_le (scaledMantissa_nonneg value k)
  rw [Binary64.abs_sub_finite, abs_of_nonneg (sub_nonneg.mpr hle),
    Binary64.ofMagnitude_eq false (representable_scaledMantissa value hk).sub_floor,
    Binary64.lt_finite_iff _ hdraw.isFinite]

theorem le_of_lt_rest (hdraw : InUnitInterval draw)
    (h : draw.toRat < scaledMantissa value k - ⌊scaledMantissa value k⌋₊) : k ≤ 52 := by
  by_contra hk
  rw [← scaledMantissa_eq_floor value (by omega), sub_self] at h
  exact absurd h (not_lt.mpr hdraw.nonneg)

theorem add_one_floor (hk : k ≤ 52) :
    (Binary64.finite negative
        ⟨_, (representable_scaledMantissa value (by omega : k ≤ 1024)).floor⟩).add
      (Binary64.one.copysign (Binary64.finite negative
        ⟨_, representable_scaledMantissa value (by omega : k ≤ 1024)⟩)) =
      Binary64.ofMagnitude negative (⌊scaledMantissa value k⌋₊ + 1 : ℕ) := by
  show (Binary64.finite negative _).add (Binary64.finite negative ⟨(1 : ℕ), _⟩) = _
  rw [Binary64.add_finite, Nat.cast_add]

theorem carried_iff {n : ℕ} (hlow : -128 ≤ binaryExponent value.value)
    (hhigh : binaryExponent value.value ≤ 127) (hn : n ≤ 2 ^ k) :
    127 < binaryExponent (n * 2 ^ (binaryExponent value.value - k)) ↔
      binaryExponent value.value = 127 ∧ n = 2 ^ k := by
  rcases Nat.eq_zero_or_pos n with rfl | hpos
  · -- the exponent of zero is zero
    rw [Nat.cast_zero, zero_mul]
    refine iff_of_false (by decide) fun h => ?_
    exact absurd h.2 (Nat.two_pow_pos k).ne
  have hbound : (n : ℚ) * 2 ^ (binaryExponent value.value - k) ≤
      2 ^ binaryExponent value.value := by
    calc (n : ℚ) * 2 ^ (binaryExponent value.value - k)
        _ ≤ 2 ^ (k : ℤ) * 2 ^ (binaryExponent value.value - k) := by
            refine mul_le_mul_of_nonneg_right ?_ (two_zpow_pos _).le
            exact (Nat.cast_le.mpr hn).trans_eq (two_zpow_natCast k).symm
        _ = 2 ^ binaryExponent value.value := by rw [← two_zpow_add]; congr 1; omega
  rw [lt_binaryExponent_iff (mul_pos (Nat.cast_pos.mpr hpos) (two_zpow_pos _))]
  constructor
  · intro h
    have hexponent : binaryExponent value.value = 127 := by
      have hle := (zpow_le_zpow_iff_right₀ (by norm_num : (1 : ℚ) < 2)).mp (h.trans hbound)
      omega
    refine ⟨hexponent, le_antisymm hn ?_⟩
    have hpow : (2 : ℚ) ^ (k : ℤ) * 2 ^ (127 - k : ℤ) ≤ n * 2 ^ (127 - k : ℤ) := by
      rw [← two_zpow_add, ← hexponent]
      refine le_trans (le_of_eq ?_) h
      congr 1
      omega
    have hle := le_of_mul_le_mul_right hpow (two_zpow_pos _)
    exact Nat.cast_le.mp ((two_zpow_natCast k).symm.trans_le hle)
  · rintro ⟨hexponent, rfl⟩
    rw [hexponent, ← two_zpow_natCast, ← two_zpow_add]
    exact two_zpow_le (by omega)

variable (negative) in
theorem one_le_scaledBack_iff {n : ℕ} (hk : k ≤ 52) (hn : n ≤ 2 ^ k) :
    (Binary64.one.le ((Binary64.ofMagnitude negative n).ldexp (-k)).abs = true ↔ n = 2 ^ k) ∧
      (((Binary64.ofMagnitude negative n).ldexp (-k)).abs.eq Binary64.one = true ↔
        n = 2 ^ k) := by
  have hbits : n < 2 ^ 53 := lt_of_le_of_lt hn (Nat.pow_lt_pow_right (by norm_num) (by omega))
  have hback : Representable ((n : ℚ) * 2 ^ (-k : ℤ)) :=
    representable_mantissa hbits (by omega) (by omega)
  have hcarried : ((Binary64.ofMagnitude negative n).ldexp (-k)).abs =
      .finite false ⟨_, hback⟩ := by
    rw [Binary64.ofMagnitude_eq negative (representable_natCast hbits)]
    exact (Binary64.withSign_ofMagnitude false negative _).trans
      (Binary64.ofMagnitude_eq false hback)
  have hdiv : (n : ℚ) * 2 ^ (-k : ℤ) = n / (2 ^ k : ℕ) := by
    rw [zpow_neg, two_zpow_natCast, div_eq_mul_inv]
  have hpos : (0 : ℚ) < (2 ^ k : ℕ) := Nat.cast_pos.mpr (Nat.two_pow_pos k)
  have hone : 1 ≤ (n : ℚ) * 2 ^ (-k : ℤ) ↔ n = 2 ^ k := by
    rw [hdiv, one_le_div hpos, Nat.cast_le]
    exact ⟨fun h => le_antisymm hn h, fun h => h.ge⟩
  have heq : (n : ℚ) * 2 ^ (-k : ℤ) = 1 ↔ n = 2 ^ k := by
    rw [hdiv, div_eq_one_iff_eq hpos.ne', Nat.cast_inj]
  rw [hcarried]
  exact ⟨(Binary64.one_le_finite_iff _).trans hone, (Binary64.eq_one_iff _).trans heq⟩

variable (negative) in
theorem roundStochasticallyToKBits_eq {bits : UInt32} (hbits : bits.toNat ≤ 1024)
    (hdraw : InUnitInterval draw) (hlow : -128 ≤ binaryExponent value.value)
    (hhigh : binaryExponent value.value ≤ 127) :
    let scaled := scaledMantissa value bits.toNat
    let taken : ℕ := if draw.toRat < scaled - ⌊scaled⌋₊ then ⌊scaled⌋₊ + 1 else ⌊scaled⌋₊
    roundStochasticallyToKBits (.finite negative value) bits (.ok draw) =
      if binaryExponent value.value = 127 ∧ taken = 2 ^ bits.toNat then .ok (.infinite negative)
      else .ok (.ofMagnitude negative (taken * 2 ^ (binaryExponent value.value - bits.toNat))) := by
  generalize hk : bits.toNat = k at hbits
  intro scaled taken
  have hscale : (Binary64.finite negative ⟨_, value.representable.normalized⟩).ldexp (asInt k) =
      .finite negative ⟨_, representable_scaledMantissa value hbits⟩ := by
    rw [asInt_eq_self (by omega) (by omega)]
    exact Binary64.ofMagnitude_eq negative (representable_scaledMantissa value hbits)
  have hunit : asInt (binaryExponent value.value - k) = binaryExponent value.value - k :=
    asInt_eq_self (by omega) (by omega)
  have hback : asInt (-k) = -k := asInt_eq_self (by omega) (by omega)
  have hfloor : (Binary64.finite negative ⟨_, representable_scaledMantissa value hbits⟩).trunc =
      .finite negative ⟨_, (representable_scaledMantissa value hbits).floor⟩ := rfl
  unfold roundStochasticallyToKBits
  simp only [Binary64.isFinite, Binary64.frexp, Bool.not_true, Bool.false_eq_true, if_false,
    not_lt.mpr hlow, not_lt.mpr hhigh, hk, hscale, hunit, hback, hfloor]
  by_cases hrest : draw.toRat < scaled - ⌊scaled⌋₊
  · -- a step further from zero, which may carry into the next power of two
    have hfew : k ≤ 52 := le_of_lt_rest hdraw hrest
    have hle : ⌊scaledMantissa value k⌋₊ + 1 ≤ 2 ^ k := floor_scaledMantissa_lt value k
    obtain ⟨hone, heq⟩ := one_le_scaledBack_iff negative hfew hle
    have htaken : taken = ⌊scaled⌋₊ + 1 := if_pos hrest
    rw [if_pos ((lt_rest_iff hdraw hbits).mpr hrest), add_one_floor hfew, htaken]
    simp only [hone, heq]
    by_cases hcarry : binaryExponent value.value = 127 ∧ ⌊scaledMantissa value k⌋₊ + 1 = 2 ^ k
    · rw [if_pos hcarry, if_pos hcarry, if_pos hcarry.2]
      rfl
    · have hwhole : ⌊scaledMantissa value k⌋₊ + 1 < 2 ^ 53 :=
        lt_of_le_of_lt hle (Nat.pow_lt_pow_right (by norm_num) (by omega))
      rw [if_neg hcarry, if_neg hcarry,
        Binary64.ofMagnitude_eq negative (representable_natCast hwhole)]
      rfl
  · -- what is cut off carries nowhere
    have htaken : taken = ⌊scaled⌋₊ := if_neg hrest
    rw [if_neg (mt (lt_rest_iff hdraw hbits).mp hrest), htaken,
      if_neg fun h => (floor_scaledMantissa_lt value k).ne h.2]
    rfl

theorem roundStochasticallyToKBits_underflow (bits : UInt32)
    (h : binaryExponent value.value < -128) :
    roundStochasticallyToKBits (.finite negative value) bits (.ok draw) =
      .ok (.zero negative) := by
  unfold roundStochasticallyToKBits
  simp only [Binary64.isFinite, Binary64.frexp, Bool.not_true, Bool.false_eq_true, if_false, h,
    if_true]
  rfl

theorem roundStochasticallyToKBits_overflow (bits : UInt32)
    (h : 127 < binaryExponent value.value) :
    roundStochasticallyToKBits (.finite negative value) bits (.ok draw) =
      .ok (.infinite negative) := by
  have hlow : ¬binaryExponent value.value < -128 := by omega
  unfold roundStochasticallyToKBits
  simp only [Binary64.isFinite, Binary64.frexp, Bool.not_true, Bool.false_eq_true, if_false, h,
    hlow, if_true]
  rfl

variable (negative) in
theorem roundStochasticallyToKBits_zero (bits : UInt32) (hdraw : InUnitInterval draw)
    (h : value.value = 0) :
    roundStochasticallyToKBits (.finite negative value) bits (.ok draw) =
      .ok (.finite negative value) := by
  obtain ⟨q, hq⟩ := value
  obtain rfl : q = 0 := h
  have hzero (n : ℤ) : (Binary64.zero negative).ldexp n = .zero negative := by
    show Binary64.ofMagnitude negative ((0 : ℕ) * 2 ^ n) = _
    rw [Nat.cast_zero, zero_mul, Binary64.ofMagnitude_zero]
  have hscale (n : ℤ) : (Binary64.finite negative ⟨_, hq.normalized⟩).ldexp n =
      .zero negative := by
    show Binary64.ofMagnitude negative (0 / 2 ^ binaryExponent 0 * 2 ^ n) = _
    rw [zero_div, zero_mul, Binary64.ofMagnitude_zero]
  have htrunc : (Binary64.zero negative).trunc = .zero negative := by
    simp [Binary64.zero, Binary64.trunc]
  have hrest : draw.lt ((Binary64.zero negative).sub (Binary64.zero negative)).abs = false := by
    unfold Binary64.zero
    rw [Binary64.abs_sub_finite, sub_self, abs_zero, Binary64.ofMagnitude_zero]
    refine Bool.eq_false_iff.mpr fun hlt => ?_
    have hneg := (Binary64.lt_finite_iff _ hdraw.isFinite).mp hlt
    exact absurd (hneg.trans_eq Nat.cast_zero) (not_lt.mpr hdraw.nonneg)
  unfold roundStochasticallyToKBits
  simp only [Binary64.isFinite, Binary64.frexp, Bool.not_true, Bool.false_eq_true, if_false,
    hscale, htrunc, hrest, hzero]
  simp [Binary64.zero, binaryExponent]

theorem representable_taken (hdraw : InUnitInterval draw)
    (hlow : -128 ≤ binaryExponent value.value) (hhigh : binaryExponent value.value ≤ 127) :
    let scaled := scaledMantissa value k
    let taken : ℕ := if draw.toRat < scaled - ⌊scaled⌋₊ then ⌊scaled⌋₊ + 1 else ⌊scaled⌋₊
    taken ≤ 2 ^ k ∧ Representable (taken * 2 ^ (binaryExponent value.value - k)) := by
  dsimp only
  have hfloor := floor_scaledMantissa_lt value k
  split
  · rename_i hrest
    exact ⟨hfloor, representable_grid value k (le_of_lt_rest hdraw hrest) hfloor hlow hhigh⟩
  · exact ⟨hfloor.le, representable_floor_grid value k hlow hhigh⟩

theorem staysWithinGrid_of_le {bits : UInt32} (hbits : bits.toNat ≤ 1024)
    (hdraw : InUnitInterval draw) :
    StaysWithinGrid negative value bits.toNat draw.toRat
      (roundStochasticallyToKBits (.finite negative value) bits (.ok draw)) where
  underflow := roundStochasticallyToKBits_underflow bits
  overflow := roundStochasticallyToKBits_overflow bits
  within := by
    intro hlow hhigh
    have hresult := roundStochasticallyToKBits_eq negative hbits hdraw hlow hhigh
    generalize bits.toNat = k at hbits hresult
    have hunit := two_zpow_pos (binaryExponent value.value - k)
    have hmul := scaledMantissa_mul_unit value k
    refine ⟨⌊scaledMantissa value k⌋₊, ?_, ?_, ?_⟩
    · calc (⌊scaledMantissa value k⌋₊ : ℚ) * 2 ^ (binaryExponent value.value - k)
          _ ≤ scaledMantissa value k * 2 ^ (binaryExponent value.value - k) :=
              mul_le_mul_of_nonneg_right (Nat.floor_le (scaledMantissa_nonneg value k)) hunit.le
          _ = value.value := hmul
    · calc value.value = scaledMantissa value k * 2 ^ (binaryExponent value.value - k) := hmul.symm
        _ < (⌊scaledMantissa value k⌋₊ + 1) * 2 ^ (binaryExponent value.value - k) :=
            mul_lt_mul_of_pos_right (Nat.lt_floor_add_one _) hunit
    · rw [← scaledMantissa_eq_div]
      have hgrid := representable_taken hdraw (k := k) hlow hhigh
      dsimp only at hresult hgrid ⊢
      generalize (if draw.toRat < scaledMantissa value k - ⌊scaledMantissa value k⌋₊ then
        ⌊scaledMantissa value k⌋₊ + 1 else ⌊scaledMantissa value k⌋₊) = taken at hresult hgrid ⊢
      rw [hresult]
      have hcarried := carried_iff hlow hhigh hgrid.1
      by_cases hcarry : binaryExponent value.value = 127 ∧ taken = 2 ^ k
      · rw [if_pos (hcarried.mpr hcarry), if_pos hcarry]
      · rw [if_neg (mt hcarried.mp hcarry), if_neg hcarry]
        exact ⟨hgrid.2, congrArg _ (Binary64.ofMagnitude_eq negative hgrid.2)⟩
  unchanged := by
    intro hlow hhigh n hn
    have hresult := roundStochasticallyToKBits_eq negative hbits hdraw hlow hhigh
    generalize bits.toNat = k at hbits hresult hn
    have hscaled : scaledMantissa value k = n := by
      rw [scaledMantissa_eq_div, div_eq_iff (two_zpow_pos _).ne']
      exact hn
    have hlt : n < 2 ^ k := by
      have := floor_scaledMantissa_lt value k
      rwa [hscaled, Nat.floor_natCast] at this
    simp only [hscaled, Nat.floor_natCast, sub_self, not_lt.mpr hdraw.nonneg, if_false, hlt.ne,
      and_false] at hresult
    rw [hresult, ← hn, Binary64.ofMagnitude_eq negative value.representable]

theorem staysWithinGrid_zero (hdraw : InUnitInterval draw) (h : value.value = 0)
    {result : Except String Binary64} (hresult : result = .ok (.finite negative value)) :
    ∃ n : ℕ, let unit : ℚ := 2 ^ (binaryExponent value.value - k)
      n * unit ≤ value.value ∧ value.value < (n + 1) * unit ∧
      let taken : ℕ := if draw.toRat < value.value / unit - n then n + 1 else n
      if 127 < binaryExponent (taken * unit) then result = .ok (.infinite negative)
      else ∃ h : Representable (taken * unit),
        result = .ok (.finite negative ⟨taken * unit, h⟩) := by
  obtain ⟨q, hq⟩ := value
  obtain rfl : q = 0 := h
  have hunit := two_zpow_pos (binaryExponent 0 - k)
  have hdraw' : ¬draw.toRat < 0 := not_lt.mpr hdraw.nonneg
  refine ⟨0, by simp, by simpa using hunit, ?_⟩
  simp [hdraw', hresult, binaryExponent, hq]

/-! ## More bits than the format has -/

/-- The value of a scaled mantissa is below the power of two it is scaled by, and half of it at
least. -/
theorem scaled_bounds (hvalue : 0 < value.value) (n : ℤ) :
    2 ^ (n - 1) ≤ value.value / 2 ^ binaryExponent value.value * 2 ^ n ∧
      value.value / 2 ^ binaryExponent value.value * 2 ^ n < 2 ^ n := by
  have hmantissa : value.value / 2 ^ binaryExponent value.value < 1 := by
    rw [div_lt_one (two_zpow_pos _)]
    exact lt_zpow_binaryExponent hvalue
  have hhalf : 2 ^ (-1 : ℤ) ≤ value.value / 2 ^ binaryExponent value.value := by
    rw [le_div_iff₀ (two_zpow_pos _), ← two_zpow_add]
    refine le_trans (le_of_eq ?_) (zpow_binaryExponent_le hvalue)
    congr 1
    omega
  constructor
  · calc (2 : ℚ) ^ (n - 1) = 2 ^ (-1 : ℤ) * 2 ^ n := by rw [← two_zpow_add]; congr 1; omega
      _ ≤ value.value / 2 ^ binaryExponent value.value * 2 ^ n :=
          mul_le_mul_of_nonneg_right hhalf (two_zpow_pos _).le
  · calc value.value / 2 ^ binaryExponent value.value * 2 ^ n < 1 * 2 ^ n :=
          mul_lt_mul_of_pos_right hmantissa (two_zpow_pos _)
      _ = 2 ^ n := one_mul _

theorem roundStochasticallyToKBits_infinite {bits : UInt32} (hlarge : 1024 < bits.toNat)
    (hint : bits.toNat < 2 ^ 31) (hdraw : InUnitInterval draw) (hvalue : 0 < value.value)
    (hlow : -128 ≤ binaryExponent value.value) (hhigh : binaryExponent value.value ≤ 127) :
    roundStochasticallyToKBits (.finite negative value) bits (.ok draw) =
      .ok (.infinite negative) := by
  generalize hk : bits.toNat = k at hlarge hint
  have hscale : (Binary64.finite negative ⟨_, value.representable.normalized⟩).ldexp (asInt k) =
      .infinite negative := by
    rw [asInt_eq_self (by omega) (by omega)]
    refine Binary64.ofMagnitude_of_le negative ?_
    exact (two_zpow_le (by omega)).trans (scaled_bounds hvalue k).1
  have hrest : draw.lt ((Binary64.infinite negative).sub (Binary64.infinite negative)).abs =
      false := by
    cases draw <;> cases negative <;> rfl
  unfold roundStochasticallyToKBits
  simp only [Binary64.isFinite, Binary64.frexp, Bool.not_true, Bool.false_eq_true, if_false,
    not_lt.mpr hlow, not_lt.mpr hhigh, hk, hscale, Binary64.trunc, hrest]
  rfl

theorem ofMagnitude_two_zpow_ne {n : ℤ} (hvalue : 0 < value.value)
    (hlow : -128 ≤ binaryExponent value.value)
    (hn : binaryExponent value.value < n ∨ n < -1022) :
    Binary64.ofMagnitude negative (2 ^ n) ≠ .finite negative value := by
  intro h
  have hrounded := Binary64.rounded_of_ofMagnitude h
  have hlog : Int.log 2 ((2 : ℚ) ^ n) = n := Int.log_zpow (b := 2) (by norm_num) n
  rcases hn with habove | hbelow
  · have hle := zpow_log_le_rounded (two_zpow_pos n) (by omega)
    rw [hlog, ← hrounded] at hle
    have hlt := (two_zpow_lt_iff.mpr habove).trans_le hle
    exact absurd (lt_zpow_binaryExponent hvalue) (not_lt.mpr hlt.le)
  · have hle := rounded_le ((2 : ℚ) ^ n)
    rw [hlog, ← hrounded] at hle
    have hlt : (2 : ℚ) ^ (binaryExponent value.value - 1) ≤ 2 ^ max (n + 1) (-1021) :=
      (zpow_binaryExponent_le hvalue).trans hle
    have hexponents := (zpow_le_zpow_iff_right₀ (by norm_num : (1 : ℚ) < 2)).mp hlt
    omega

variable (negative) in
theorem exists_scaled_lt_one (n : ℤ) (hvalue : 0 < value.value) (hn : n ≤ -1) :
    ∃ scaled : Magnitude, (Binary64.finite negative ⟨_, value.representable.normalized⟩).ldexp n =
      .finite negative scaled ∧ scaled.value < 1 := by
  obtain ⟨hlow, hhigh⟩ := scaled_bounds hvalue n
  generalize hq : value.value / 2 ^ binaryExponent value.value * 2 ^ n = q at hlow hhigh
  have hpos : 0 < q := (two_zpow_pos _).trans_le hlow
  have hlog : Int.log 2 q < n := (Int.lt_zpow_iff_log_lt (by norm_num) hpos).mp hhigh
  have hrounded : rounded q ≤ 2 ^ (-1 : ℤ) := (rounded_le q).trans (two_zpow_le (by omega))
  have hone : rounded q < 1 := lt_of_le_of_lt hrounded (by norm_num)
  have hfinite : rounded q < 2 ^ (1024 : ℤ) :=
    hone.trans_le (one_le_zpow₀ (by norm_num) (by norm_num))
  refine ⟨⟨rounded q, representable_rounded hfinite⟩, ?_, hone⟩
  show Binary64.ofMagnitude negative (value.value / 2 ^ binaryExponent value.value * 2 ^ n) = _
  rw [hq]
  exact dif_pos hfinite

theorem roundStochasticallyToKBits_ne {bits : UInt32} (hlarge : 2 ^ 31 ≤ bits.toNat)
    (hvalue : 0 < value.value)
    (hlow : -128 ≤ binaryExponent value.value) (hhigh : binaryExponent value.value ≤ 127) :
    roundStochasticallyToKBits (.finite negative value) bits (.ok draw) ≠
      .ok (.finite negative value) := by
  have hlt := bits.toNat_lt
  generalize hk : bits.toNat = k at hlarge hlt
  have hint : asInt k = k - 2 ^ 32 := by
    unfold asInt
    rw [Int.bmod_def]
    omega
  obtain ⟨scaled, hscale, hbelow⟩ := exists_scaled_lt_one negative (asInt k) hvalue
    (by omega)
  have htrunc : (Binary64.finite negative scaled).trunc = .zero negative := by
    simp [Binary64.trunc, Binary64.zero, Nat.floor_eq_zero.mpr hbelow]
  have hnoised : (Binary64.zero negative).add
      (Binary64.one.copysign (Binary64.finite negative scaled)) =
        .ofMagnitude negative (1 : ℕ) := by
    have hsum : ((0 : ℕ) : ℚ) + (1 : ℕ) = (1 : ℕ) := by rw [Nat.cast_zero, zero_add]
    exact (Binary64.add_finite negative _ _).trans (congrArg _ hsum)
  have hzero (n : ℤ) : (Binary64.zero negative).ldexp n = .zero negative := by
    show Binary64.ofMagnitude negative ((0 : ℕ) * 2 ^ n) = _
    rw [Nat.cast_zero, zero_mul, Binary64.ofMagnitude_zero]
  have hpower : (Binary64.ofMagnitude negative (1 : ℕ)).ldexp
      (asInt (binaryExponent value.value - k)) ≠ .finite negative value := by
    rw [Binary64.ofMagnitude_eq negative (representable_natCast (by norm_num))]
    show Binary64.ofMagnitude negative ((1 : ℕ) * 2 ^ _) ≠ _
    rw [Nat.cast_one, one_mul]
    refine ofMagnitude_two_zpow_ne hvalue hlow ?_
    unfold asInt
    rw [Int.bmod_def]
    omega
  unfold roundStochasticallyToKBits
  simp only [Binary64.isFinite, Binary64.frexp, Bool.not_true, Bool.false_eq_true, if_false,
    not_lt.mpr hlow, not_lt.mpr hhigh, hk, hscale, htrunc, hnoised, hzero]
  -- a power of two if the step is taken, else zero
  split
  · split
    · split
      · intro h
        cases Except.ok.inj h
      · intro h
        cases h
    · exact fun h => hpower (Except.ok.inj h)
  · intro h
    have hvalue' := congrArg Magnitude.value (Binary64.finite.inj (Except.ok.inj h)).2
    exact hvalue.ne (Nat.cast_zero.symm.trans hvalue')

theorem not_staysWithinGrid {bits : UInt32} (hlarge : 1024 < bits.toNat)
    (hdraw : InUnitInterval draw) (hvalue : 0 < value.value)
    (hlow : -128 ≤ binaryExponent value.value) (hhigh : binaryExponent value.value ≤ 127) :
    ¬StaysWithinGrid negative value bits.toNat draw.toRat
      (roundStochasticallyToKBits (.finite negative value) bits (.ok draw)) := by
  intro h
  have hwhole : value.value = ⌊scaledMantissa value bits.toNat⌋₊ *
      2 ^ (binaryExponent value.value - bits.toNat) := by
    rw [← scaledMantissa_eq_floor value (by omega), scaledMantissa_mul_unit]
  have hkept := h.unchanged hlow hhigh _ hwhole
  -- from 2 ^ 31 on the number of bits is a negative `int`
  rcases Nat.lt_or_ge bits.toNat (2 ^ 31) with hint | hint
  · rw [roundStochasticallyToKBits_infinite hlarge hint hdraw hvalue hlow hhigh] at hkept
    exact nomatch Except.ok.inj hkept
  · exact roundStochasticallyToKBits_ne hint hvalue hlow hhigh hkept

/-- A finite number is rounded within its grid exactly where its scaled mantissa is finite too. -/
theorem staysWithinGrid_iff (negative : Bool) (value : Magnitude) (bits : UInt32)
    (draw : Binary64) (hdraw : InUnitInterval draw) :
    StaysWithinGrid negative value bits.toNat draw.toRat
      (roundStochasticallyToKBits (.finite negative value) bits (.ok draw)) ↔
      bits.toNat ≤ 1024 ∨ value.value = 0 ∨ binaryExponent value.value < -128 ∨
        127 < binaryExponent value.value := by
  constructor
  · intro h
    by_contra hcases
    push Not at hcases
    obtain ⟨hlarge, hzero, hlow, hhigh⟩ := hcases
    have hvalue := value.representable.nonneg.lt_of_ne' hzero
    exact not_staysWithinGrid hlarge hdraw hvalue hlow hhigh h
  · rintro (hbits | hzero | hunder | hover)
    · exact staysWithinGrid_of_le hbits hdraw
    · have hexponent : binaryExponent value.value = 0 := if_pos hzero
      have hresult := roundStochasticallyToKBits_zero negative bits hdraw hzero
      exact {
        underflow := fun hunder => absurd hunder (by omega)
        overflow := fun hover => absurd hover (by omega)
        within := fun _ _ => staysWithinGrid_zero hdraw hzero hresult
        unchanged := fun _ _ _ _ => hresult }
    · exact {
        underflow := roundStochasticallyToKBits_underflow bits
        overflow := fun hover => absurd hover (by omega)
        within := fun hlow => absurd hlow (by omega)
        unchanged := fun hlow => absurd hlow (by omega) }
    · exact {
        underflow := fun hunder => absurd hunder (by omega)
        overflow := roundStochasticallyToKBits_overflow bits
        within := fun _ hhigh => absurd hhigh (by omega)
        unchanged := fun _ hhigh => absurd hhigh (by omega) }

end Rounding

theorem inUnitInterval_zero : InUnitInterval (Binary64.zero false) where
  isFinite := rfl
  nonneg := by simp [Binary64.zero, Binary64.toRat]
  lt_one := by simp [Binary64.zero, Binary64.toRat]

/-- 257 is between 256 and 258, the numbers next to it of eight bits. -/
theorem eightBits_staysWithinGrid :
    StaysWithinGrid false ⟨(257 : ℕ), representable_natCast (by decide)⟩ 8
      (Binary64.zero false).toRat
      (roundStochasticallyToKBits
        (.finite false ⟨(257 : ℕ), representable_natCast (by decide)⟩) 8
        (.ok (Binary64.zero false))) :=
  (staysWithinGrid_iff false _ 8 _ inUnitInterval_zero).mpr (.inl (by decide))

/-- One, which has a single bit, becomes infinite. -/
theorem manyBits_not_staysWithinGrid :
    roundStochasticallyToKBits Binary64.one 1025 (.ok (Binary64.zero false)) =
      .ok (.infinite false) ∧
    ¬StaysWithinGrid false ⟨(1 : ℕ), representable_natCast (by decide)⟩ 1025
      (Binary64.zero false).toRat
      (roundStochasticallyToKBits
        (.finite false ⟨(1 : ℕ), representable_natCast (by decide)⟩) 1025
        (.ok (Binary64.zero false))) := by
  have hexponent : binaryExponent ((1 : ℕ) : ℚ) = 1 := by simp [binaryExponent]
  have hlarge : 1024 < (1025 : UInt32).toNat := by decide
  have hint : (1025 : UInt32).toNat < 2 ^ 31 := by decide
  refine ⟨roundStochasticallyToKBits_infinite hlarge hint inUnitInterval_zero ?_ ?_ ?_,
    not_staysWithinGrid hlarge inUnitInterval_zero ?_ ?_ ?_⟩
  · exact Nat.cast_pos.mpr one_pos
  · rw [hexponent]
    norm_num
  · rw [hexponent]
    norm_num
  · exact Nat.cast_pos.mpr one_pos
  · rw [hexponent]
    norm_num
  · rw [hexponent]
    norm_num

/-! ## All draws of one rounding -/

/-- The `n`-th number of the grid of a number, infinite from the end of its exponents on. -/
def gridNumber (negative : Bool) (value : Magnitude) (k n : ℕ) : Binary64 :=
  if 127 < binaryExponent (n * 2 ^ (binaryExponent value.value - k)) then .infinite negative
  else .ofMagnitude negative (n * 2 ^ (binaryExponent value.value - k))

/-- Of all draws of 64 bits as many go further from zero as the part that is cut off says, so
that the number itself is the mean of what is returned. -/
structure RoundsFairly (negative : Bool) (value : Magnitude) (k : ℕ)
    (round : UInt64 → Except String Binary64) : Prop where
  neighbours : ∃ n : ℕ, let unit : ℚ := 2 ^ (binaryExponent value.value - k)
    n * unit ≤ value.value ∧ value.value < (n + 1) * unit ∧
    (∀ u, round u = .ok (gridNumber negative value k n) ∨
      round u = .ok (gridNumber negative value k (n + 1))) ∧
    ({u | round u ≠ .ok (gridNumber negative value k n)}.ncard : ℚ) =
      2 ^ 64 * (value.value / unit - n)
  mean : (∀ u, round u ≠ .ok (.infinite negative)) →
    ∑ u ∈ Finset.range (2 ^ 64), ((round (.ofNat u)).toOption.getD .nan).toRat =
      2 ^ 64 * (Binary64.finite negative value).toRat

section Fair

variable {value : Magnitude} {k : ℕ}

theorem toRat_bitsToOpenEndedUnitInterval (u : UInt64) :
    (bitsToOpenEndedUnitInterval u).toRat = (u.toNat % 2 ^ 53 : ℕ) * 2 ^ (-53 : ℤ) := by
  have hmask : (u &&& (((1 : UInt64) <<< 53) - 1)).toNat = u.toNat % 2 ^ 53 := by
    rw [UInt64.toNat_and]
    exact Nat.and_two_pow_sub_one_eq_mod u.toNat 53
  have hlt : u.toNat % 2 ^ 53 < 2 ^ 53 := Nat.mod_lt _ (Nat.two_pow_pos 53)
  have hrepresentable : Representable ((u.toNat % 2 ^ 53 : ℕ) * 2 ^ (-53 : ℤ)) :=
    representable_mantissa hlt (by norm_num) (by norm_num)
  rw [bitsToOpenEndedUnitInterval, hmask,
    Binary64.ofMagnitude_eq false (representable_natCast hlt)]
  show (Binary64.ofMagnitude false ((u.toNat % 2 ^ 53 : ℕ) * 2 ^ (-53 : ℤ))).toRat = _
  rw [Binary64.ofMagnitude_eq false hrepresentable]
  rfl

/-- What is cut off is a whole number of the steps of a draw. -/
theorem exists_rest (value : Magnitude) (k : ℕ) :
    ∃ rest : ℕ, rest ≤ 2 ^ 53 ∧ scaledMantissa value k - ⌊scaledMantissa value k⌋₊ =
      rest * 2 ^ (-53 : ℤ) := by
  obtain ⟨mantissa, -, hscaled⟩ := exists_scaledMantissa value k
  have hsteps : scaledMantissa value k = (mantissa * 2 ^ k : ℕ) * 2 ^ (-53 : ℤ) := by
    rw [hscaled, sub_eq_add_neg, two_zpow_add, two_zpow_natCast]
    push_cast
    ring
  have hfloor : (⌊scaledMantissa value k⌋₊ : ℚ) =
      (⌊scaledMantissa value k⌋₊ * 2 ^ 53 : ℕ) * 2 ^ (-53 : ℤ) := by
    push_cast
    rw [mul_assoc]
    norm_num
  have hle : ⌊scaledMantissa value k⌋₊ * 2 ^ 53 ≤ mantissa * 2 ^ k := by
    have hfloor_le := Nat.floor_le (scaledMantissa_nonneg value k)
    have hsteps_le := hfloor.symm.trans_le (hfloor_le.trans_eq hsteps)
    exact Nat.cast_le.mp (le_of_mul_le_mul_right hsteps_le (two_zpow_pos _))
  have hrest : scaledMantissa value k - ⌊scaledMantissa value k⌋₊ =
      (mantissa * 2 ^ k - ⌊scaledMantissa value k⌋₊ * 2 ^ 53 : ℕ) * 2 ^ (-53 : ℤ) := by
    rw [Nat.cast_sub hle, sub_mul]
    exact congrArg₂ (· - ·) hsteps hfloor
  refine ⟨_, ?_, hrest⟩
  have hlt : scaledMantissa value k - ⌊scaledMantissa value k⌋₊ < (2 ^ 53 : ℕ) * 2 ^ (-53 : ℤ) := by
    rw [← two_zpow_natCast, ← two_zpow_add]
    exact sub_lt_iff_lt_add'.mpr (Nat.lt_floor_add_one _)
  exact (Nat.cast_lt.mp (lt_of_mul_lt_mul_right (hrest.symm.trans_lt hlt) (two_zpow_pos _).le)).le

/-- The number of the grid that is taken, the next one for the first `rest` steps of a draw. -/
def taken (value : Magnitude) (k rest : ℕ) (u : UInt64) : ℕ :=
  if u.toNat % 2 ^ 53 < rest then ⌊scaledMantissa value k⌋₊ + 1 else ⌊scaledMantissa value k⌋₊

/-- The part that is cut off is `rest` steps, and decides what is taken. -/
structure TakesRest (negative : Bool) (value : Magnitude) (k rest : ℕ)
    (round : UInt64 → Except String Binary64) : Prop where
  rest_le : rest ≤ 2 ^ 53
  part : scaledMantissa value k - ⌊scaledMantissa value k⌋₊ = rest * 2 ^ (-53 : ℤ)
  round_eq : ∀ u, round u = .ok (gridNumber negative value k (taken value k rest u))
  representable : ∀ u,
    Representable (taken value k rest u * 2 ^ (binaryExponent value.value - k))

theorem exists_takesRest (negative : Bool) {bits : UInt32} (hbits : bits.toNat ≤ 1024)
    (hlow : -128 ≤ binaryExponent value.value) (hhigh : binaryExponent value.value ≤ 127) :
    ∃ rest, TakesRest negative value bits.toNat rest fun u =>
      roundStochasticallyToKBits (.finite negative value) bits (randDouble (.ok u)) := by
  obtain ⟨rest, hle, hrest⟩ := exists_rest value bits.toNat
  have htaken (u : UInt64) : (if (bitsToOpenEndedUnitInterval u).toRat <
      scaledMantissa value bits.toNat - ⌊scaledMantissa value bits.toNat⌋₊
      then ⌊scaledMantissa value bits.toNat⌋₊ + 1 else ⌊scaledMantissa value bits.toNat⌋₊) =
        taken value bits.toNat rest u := by
    simp only [hrest, toRat_bitsToOpenEndedUnitInterval, mul_lt_mul_iff_left₀ (two_zpow_pos _),
      Nat.cast_lt, taken]
  refine ⟨rest, hle, hrest, fun u => ?_, fun u => ?_⟩
  · have hresult :=
      roundStochasticallyToKBits_eq negative hbits (inUnitInterval_bits u) hlow hhigh
    have hle_pow := (representable_taken (inUnitInterval_bits u) (k := bits.toNat) hlow hhigh).1
    simp only [htaken] at hresult hle_pow
    show roundStochasticallyToKBits _ _ (.ok (bitsToOpenEndedUnitInterval u)) = _
    rw [hresult]
    unfold gridNumber
    simp only [carried_iff hlow hhigh hle_pow]
    exact (apply_ite Except.ok _ _ _).symm
  · have hrepresentable :=
      (representable_taken (inUnitInterval_bits u) (k := bits.toNat) hlow hhigh).2
    rwa [htaken] at hrepresentable

/-- Of all draws `rest` steps of every whole round of them are below the rest. -/
theorem count_rest {rest : ℕ} (hrest : rest ≤ 2 ^ 53) :
    (2 ^ 64).count (fun u => u % 2 ^ 53 < rest) = 2 ^ 11 * rest := by
  rw [show 2 ^ 64 = 2 ^ 11 * 2 ^ 53 from rfl]
  exact RejectionSampling.count_mod_lt hrest _

theorem gridNumber_floor_ne (negative : Bool) (hk : k ≤ 52)
    (hlow : -128 ≤ binaryExponent value.value) (hhigh : binaryExponent value.value ≤ 127) :
    gridNumber negative value k (⌊scaledMantissa value k⌋₊ + 1) ≠
      gridNumber negative value k ⌊scaledMantissa value k⌋₊ := by
  have hlt := floor_scaledMantissa_lt value k
  have hbelow := representable_floor_grid value k hlow hhigh
  have habove := representable_grid value k hk (n := ⌊scaledMantissa value k⌋₊ + 1) hlt hlow hhigh
  have hinside : ¬127 < binaryExponent
      (⌊scaledMantissa value k⌋₊ * 2 ^ (binaryExponent value.value - k)) :=
    fun h => hlt.ne ((carried_iff hlow hhigh hlt.le).mp h).2
  unfold gridNumber
  rw [if_neg hinside, Binary64.ofMagnitude_eq negative hbelow]
  split
  · intro h
    cases h
  · rw [Binary64.ofMagnitude_eq negative habove]
    intro h
    have hequal := congrArg Magnitude.value (Binary64.finite.inj h).2
    have hsucc := mul_right_cancel₀ (two_zpow_pos _).ne' hequal
    exact absurd (Nat.cast_injective hsucc) (Nat.succ_ne_self _)

theorem toRat_gridNumber (negative : Bool) {n : ℕ}
    (hn : Representable (n * 2 ^ (binaryExponent value.value - k)))
    (hfinite : gridNumber negative value k n ≠ .infinite negative) :
    (gridNumber negative value k n).toRat =
      n * ((if negative then -1 else 1) * 2 ^ (binaryExponent value.value - k)) := by
  unfold gridNumber at hfinite ⊢
  split
  · rename_i hcarried
    exact absurd (if_pos hcarried) hfinite
  · rw [Binary64.ofMagnitude_eq negative hn]
    cases negative <;> simp [Binary64.toRat]

section TakesRest

variable {negative : Bool} {rest : ℕ} {round : UInt64 → Except String Binary64}

theorem TakesRest.parts (h : TakesRest negative value k rest round) :
    (2 : ℚ) ^ 64 * (scaledMantissa value k - ⌊scaledMantissa value k⌋₊) =
      (2 ^ 11 * rest : ℕ) := by
  rw [h.part]
  push_cast
  norm_num
  ring

theorem TakesRest.le_of_pos (h : TakesRest negative value k rest round) (hpos : 0 < rest) :
    k ≤ 52 := by
  by_contra hk
  have hpart := h.part
  rw [← scaledMantissa_eq_floor value (by omega), sub_self] at hpart
  exact (mul_pos (Nat.cast_pos.mpr hpos) (two_zpow_pos _)).ne hpart

theorem TakesRest.ncard (h : TakesRest negative value k rest round)
    (hlow : -128 ≤ binaryExponent value.value) (hhigh : binaryExponent value.value ≤ 127) :
    {u | round u ≠ .ok (gridNumber negative value k ⌊scaledMantissa value k⌋₊)}.ncard =
      2 ^ 11 * rest := by
  have hset : {u | round u ≠ .ok (gridNumber negative value k ⌊scaledMantissa value k⌋₊)} =
      {u : UInt64 | u.toNat < 2 ^ 64 ∧ u.toNat % 2 ^ 53 < rest} := by
    ext u
    simp only [Set.mem_ofPred_eq, h.round_eq, u.toNat_lt, true_and, ne_eq, Except.ok.injEq, taken]
    by_cases hu : u.toNat % 2 ^ 53 < rest
    · rw [if_pos hu]
      exact iff_of_true (gridNumber_floor_ne negative (h.le_of_pos (by omega)) hlow hhigh) hu
    · rw [if_neg hu]
      exact iff_of_false (not_not_intro rfl) hu
  have honto : ∀ x < 2 ^ 64, ∃ u : UInt64, u.toNat = x := fun x hx =>
    ⟨.ofNat x, UInt64.toNat_ofNat_of_lt hx⟩
  rw [hset, RejectionSampling.ncard_numbered (fun _ _ => UInt64.toNat_inj.mp) honto le_rfl
    fun x => x % 2 ^ 53 < rest, count_rest h.rest_le]

theorem TakesRest.mean (h : TakesRest negative value k rest round)
    (hfinite : ∀ u, round u ≠ .ok (.infinite negative)) :
    ∑ u ∈ Finset.range (2 ^ 64), ((round (.ofNat u)).toOption.getD .nan).toRat =
      2 ^ 64 * (Binary64.finite negative value).toRat := by
  let unit : ℚ := (if negative then -1 else 1) * 2 ^ (binaryExponent value.value - k)
  have hterm : ∀ u ∈ Finset.range (2 ^ 64), ((round (.ofNat u)).toOption.getD .nan).toRat =
      ⌊scaledMantissa value k⌋₊ * unit + if u % 2 ^ 53 < rest then unit else 0 := by
    intro u hu
    have hnumber : (UInt64.ofNat u).toNat = u :=
      UInt64.toNat_ofNat_of_lt (Finset.mem_range.mp hu)
    have hinside := hfinite (.ofNat u)
    rw [h.round_eq] at hinside ⊢
    show (gridNumber _ _ _ _).toRat = _
    rw [toRat_gridNumber negative (h.representable _) fun h => hinside (congrArg _ h), taken,
      hnumber]
    split
    · push_cast
      ring
    · ring
  have hvalue : scaledMantissa value k * unit = (Binary64.finite negative value).toRat := by
    have hmul := scaledMantissa_mul_unit value k
    cases negative <;> simp [unit, Binary64.toRat, hmul]
  calc ∑ u ∈ Finset.range (2 ^ 64), ((round (.ofNat u)).toOption.getD .nan).toRat
      _ = 2 ^ 64 * (⌊scaledMantissa value k⌋₊ * unit) + (2 ^ 11 * rest : ℕ) * unit := by
          rw [Finset.sum_congr rfl hterm, Finset.sum_add_distrib, Finset.sum_const,
            Finset.card_range, ← Finset.sum_filter, Finset.sum_const,
            ← Nat.count_eq_card_filter_range, count_rest h.rest_le, nsmul_eq_mul, nsmul_eq_mul]
          push_cast
          rfl
      _ = 2 ^ 64 * (scaledMantissa value k * unit) := by rw [← h.parts]; ring
      _ = 2 ^ 64 * (Binary64.finite negative value).toRat := by rw [hvalue]

end TakesRest

/-- Rounding to `k` bits takes each of the neighbours for as many draws as makes it fair. -/
theorem roundStochasticallyToKBits_fair (negative : Bool) (value : Magnitude) (bits : UInt32)
    (hbits : bits.toNat ≤ 1024) (hlow : -128 ≤ binaryExponent value.value)
    (hhigh : binaryExponent value.value ≤ 127) :
    RoundsFairly negative value bits.toNat fun u =>
      roundStochasticallyToKBits (.finite negative value) bits (randDouble (.ok u)) := by
  obtain ⟨rest, h⟩ := exists_takesRest negative hbits hlow hhigh
  generalize bits.toNat = k at h ⊢
  have hunit := two_zpow_pos (binaryExponent value.value - k)
  have hmul := scaledMantissa_mul_unit value k
  refine ⟨⟨⌊scaledMantissa value k⌋₊, ?_, ?_, fun u => ?_, ?_⟩, h.mean⟩
  · refine le_trans ?_ hmul.le
    exact mul_le_mul_of_nonneg_right (Nat.floor_le (scaledMantissa_nonneg value k)) hunit.le
  · refine hmul.symm.trans_lt ?_
    exact mul_lt_mul_of_pos_right (Nat.lt_floor_add_one _) hunit
  · have hround := h.round_eq u
    unfold taken at hround
    split at hround
    · exact .inr hround
    · exact .inl hround
  · rw [h.ncard hlow hhigh, ← h.parts, scaledMantissa_eq_div]

end Fair

theorem roundStochasticallyToKBits_fair_eight :
    RoundsFairly false ⟨(257 : ℕ), representable_natCast (by decide)⟩ 8 fun u =>
      roundStochasticallyToKBits (.finite false ⟨(257 : ℕ), representable_natCast (by decide)⟩) 8
        (randDouble (.ok u)) := by
  have hexponent : binaryExponent ((257 : ℕ) : ℚ) = 9 := by
    have hlog : Nat.log 2 257 = 8 := by decide +kernel
    rw [binaryExponent, if_neg (by norm_num), Int.log_natCast, hlog]
    rfl
  refine roundStochasticallyToKBits_fair false _ 8 (by decide) ?_ ?_
  · rw [hexponent]
    norm_num
  · rw [hexponent]
    norm_num

end BiddingAuction
