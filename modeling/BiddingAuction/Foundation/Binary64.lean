import Mathlib.Data.Int.Log
import Mathlib.Data.Rat.Floor
import Mathlib.Tactic.FieldSimp
import Mathlib.Tactic.Linarith
import Mathlib.Tactic.NormNum
import Mathlib.Tactic.Positivity
import Mathlib.Tactic.Ring

/-!
# Binary floating-point numbers of 64 bits

A finite number has a sign and a magnitude, which is an exact rational of the format, so a zero
has a sign too. An operation is exact where its result is of the format, and rounds to nearest,
the even one of two, where it is not.
-/

namespace Foundation

/-! ## Magnitudes -/

/-- The magnitudes of the format: 53 bits, none below the smallest one. -/
def Representable (q : ℚ) : Prop :=
  q < 2 ^ (1024 : ℤ) ∧ ∃ (mantissa : ℕ) (exponent : ℤ), mantissa < 2 ^ 53 ∧ -1074 ≤ exponent ∧
    q = mantissa * 2 ^ exponent

structure Magnitude where
  value : ℚ
  representable : Representable value
deriving DecidableEq

inductive Binary64 where
  | finite (negative : Bool) (magnitude : Magnitude)
  | infinite (negative : Bool)
  | nan
deriving DecidableEq

theorem two_zpow_pos (x : ℤ) : (0 : ℚ) < 2 ^ x := zpow_pos rfl x

theorem two_zpow_le {x y : ℤ} (h : x ≤ y) : (2 : ℚ) ^ x ≤ 2 ^ y :=
  zpow_le_zpow_right₀ (by norm_num) h

theorem two_zpow_lt_iff {x y : ℤ} : (2 : ℚ) ^ x < 2 ^ y ↔ x < y :=
  zpow_lt_zpow_iff_right₀ (by norm_num)

theorem two_zpow_add (x y : ℤ) : (2 : ℚ) ^ (x + y) = 2 ^ x * 2 ^ y := zpow_add₀ two_ne_zero x y

theorem two_zpow_natCast (n : ℕ) : (2 : ℚ) ^ (n : ℤ) = (2 ^ n : ℕ) := by
  rw [zpow_natCast, Nat.cast_pow, Nat.cast_ofNat]

theorem Representable.nonneg {q : ℚ} (h : Representable q) : 0 ≤ q := by
  obtain ⟨-, mantissa, exponent, -, -, rfl⟩ := h
  exact mul_nonneg (Nat.cast_nonneg _) (two_zpow_pos _).le

theorem representable_natCast {n : ℕ} (hn : n < 2 ^ 53) : Representable n := by
  refine ⟨?_, n, 0, hn, by norm_num, by rw [zpow_zero, mul_one]⟩
  calc (n : ℚ) < (2 ^ 53 : ℕ) := Nat.cast_lt.mpr hn
    _ = 2 ^ (53 : ℤ) := (two_zpow_natCast 53).symm
    _ ≤ 2 ^ (1024 : ℤ) := two_zpow_le (by norm_num)

/-! ## Rounding -/

def lastPlace (q : ℚ) : ℤ := max (Int.log 2 q - 52) (-1074)

def nearestEven (q : ℚ) : ℕ :=
  let rest := q - ⌊q⌋₊
  if rest < 1 / 2 then ⌊q⌋₊
  else if 1 / 2 < rest then ⌊q⌋₊ + 1
  else ⌊q⌋₊ + ⌊q⌋₊ % 2

/-- The nearest magnitude, if the format went on above the largest one. -/
def rounded (q : ℚ) : ℚ := nearestEven (q / 2 ^ lastPlace q) * 2 ^ lastPlace q

theorem nearestEven_natCast (n : ℕ) : nearestEven n = n := by
  simp [nearestEven]

theorem floor_le_nearestEven (q : ℚ) : ⌊q⌋₊ ≤ nearestEven q := by
  unfold nearestEven
  dsimp only
  split
  · exact le_rfl
  · split <;> omega

theorem nearestEven_le (q : ℚ) : nearestEven q ≤ ⌊q⌋₊ + 1 := by
  unfold nearestEven
  dsimp only
  split
  · omega
  · split <;> omega

theorem div_lastPlace_lt (q : ℚ) : q / 2 ^ lastPlace q < 2 ^ (53 : ℤ) := by
  rw [div_lt_iff₀ (two_zpow_pos _), ← two_zpow_add]
  calc q < 2 ^ (Int.log 2 q + 1) := Int.lt_zpow_succ_log_self (by norm_num) q
    _ ≤ 2 ^ (53 + lastPlace q) := two_zpow_le (by unfold lastPlace; omega)

theorem nearestEven_div_le (q : ℚ) : nearestEven (q / 2 ^ lastPlace q) ≤ 2 ^ 53 := by
  have hfloor : ⌊q / 2 ^ lastPlace q⌋₊ < 2 ^ 53 :=
    Nat.floor_lt' (by norm_num) |>.mpr ((div_lastPlace_lt q).trans_eq (two_zpow_natCast 53))
  exact (nearestEven_le _).trans hfloor

theorem representable_rounded {q : ℚ} (h : rounded q < 2 ^ (1024 : ℤ)) :
    Representable (rounded q) := by
  refine ⟨h, ?_⟩
  rcases (nearestEven_div_le q).lt_or_eq with hlt | heq
  · exact ⟨_, _, hlt, le_max_right _ _, rfl⟩
  · -- a carry out of the mantissa
    refine ⟨2 ^ 52, lastPlace q + 1, by norm_num, ?_, ?_⟩
    · exact (le_max_right _ _).trans (Int.le_add_one le_rfl)
    · rw [rounded, heq, two_zpow_add]
      push_cast
      ring

theorem Representable.exists_eq_mul {q : ℚ} (h : Representable q) :
    ∃ n : ℕ, q = n * 2 ^ lastPlace q := by
  obtain ⟨-, mantissa, exponent, hmantissa, hexponent, hq⟩ := h
  rcases Nat.eq_zero_or_pos mantissa with rfl | hpos
  · exact ⟨0, by rw [hq, Nat.cast_zero, zero_mul, zero_mul]⟩
  have hplace : lastPlace q ≤ exponent := by
    refine max_le ?_ hexponent
    have hlog : (2 : ℚ) ^ Int.log 2 q < 2 ^ (53 + exponent) := by
      calc (2 : ℚ) ^ Int.log 2 q ≤ q :=
            Int.zpow_log_le_self (by norm_num)
              (hq ▸ mul_pos (Nat.cast_pos.mpr hpos) (two_zpow_pos _))
        _ = mantissa * 2 ^ exponent := hq
        _ < 2 ^ (53 : ℤ) * 2 ^ exponent := by
            refine mul_lt_mul_of_pos_right ?_ (two_zpow_pos _)
            exact (Nat.cast_lt.mpr hmantissa).trans_eq (two_zpow_natCast 53).symm
        _ = 2 ^ (53 + exponent) := (two_zpow_add _ _).symm
    have := two_zpow_lt_iff.mp hlog
    omega
  obtain ⟨shift, hshift⟩ := Int.le.dest hplace
  refine ⟨mantissa * 2 ^ shift, ?_⟩
  calc q = mantissa * 2 ^ (lastPlace q + shift) := by rw [hshift]; exact hq
    _ = (mantissa * 2 ^ shift : ℕ) * 2 ^ lastPlace q := by
        rw [two_zpow_add, two_zpow_natCast]
        push_cast
        ring

theorem rounded_eq_self {q : ℚ} (h : Representable q) : rounded q = q := by
  obtain ⟨n, hn⟩ := h.exists_eq_mul
  have hdiv : q / 2 ^ lastPlace q = n := by
    rw [div_eq_iff (two_zpow_pos _).ne']
    exact hn
  rw [rounded, hdiv, nearestEven_natCast]
  exact hn.symm

def Binary64.ofMagnitude (negative : Bool) (q : ℚ) : Binary64 :=
  if h : rounded q < 2 ^ (1024 : ℤ) then
    .finite negative ⟨rounded q, representable_rounded h⟩
  else .infinite negative

theorem Binary64.ofMagnitude_eq (negative : Bool) {q : ℚ} (h : Representable q) :
    ofMagnitude negative q = .finite negative ⟨q, h⟩ := by
  have hself := rounded_eq_self h
  rw [ofMagnitude, dif_pos (hself.symm ▸ h.1)]
  congr 2

/-! ## Bounds of what is rounded -/

theorem zpow_log_le_rounded {q : ℚ} (hq : 0 < q) (hnormal : -1022 ≤ Int.log 2 q) :
    2 ^ Int.log 2 q ≤ rounded q := by
  have hplace : lastPlace q = Int.log 2 q - 52 := max_eq_left (by omega)
  have hfloor : 2 ^ 52 ≤ ⌊q / 2 ^ lastPlace q⌋₊ := by
    refine Nat.le_floor ?_
    rw [le_div_iff₀ (two_zpow_pos _), ← two_zpow_natCast, ← two_zpow_add, hplace]
    calc (2 : ℚ) ^ ((52 : ℕ) + (Int.log 2 q - 52)) = 2 ^ Int.log 2 q := by congr 1; omega
      _ ≤ q := Int.zpow_log_le_self (by norm_num) hq
  have hnearest := hfloor.trans (floor_le_nearestEven _)
  calc (2 : ℚ) ^ Int.log 2 q = 2 ^ ((52 : ℕ) + lastPlace q) := by rw [hplace]; congr 1; omega
    _ = (2 ^ 52 : ℕ) * 2 ^ lastPlace q := by rw [two_zpow_add, two_zpow_natCast]
    _ ≤ rounded q := mul_le_mul_of_nonneg_right (Nat.cast_le.mpr hnearest) (two_zpow_pos _).le

theorem rounded_le (q : ℚ) : rounded q ≤ 2 ^ max (Int.log 2 q + 1) (-1021) := by
  calc rounded q ≤ (2 ^ 53 : ℕ) * 2 ^ lastPlace q :=
        mul_le_mul_of_nonneg_right (Nat.cast_le.mpr (nearestEven_div_le q)) (two_zpow_pos _).le
    _ = 2 ^ ((53 : ℕ) + lastPlace q) := by rw [two_zpow_add, two_zpow_natCast]
    _ = 2 ^ max (Int.log 2 q + 1) (-1021) := by unfold lastPlace; congr 1; omega

theorem Binary64.ofMagnitude_of_le (negative : Bool) {q : ℚ} (h : 2 ^ (1024 : ℤ) ≤ q) :
    ofMagnitude negative q = .infinite negative := by
  have hq : 0 < q := (two_zpow_pos _).trans_le h
  have hlog : 1024 ≤ Int.log 2 q := (Int.zpow_le_iff_le_log (by norm_num) hq).mp h
  refine dif_neg (not_lt.mpr ?_)
  exact (two_zpow_le hlog).trans (zpow_log_le_rounded hq (by omega))

theorem Binary64.rounded_of_ofMagnitude {negative : Bool} {q : ℚ} {magnitude : Magnitude}
    (h : ofMagnitude negative q = .finite negative magnitude) : magnitude.value = rounded q := by
  unfold ofMagnitude at h
  split at h
  · exact congrArg Magnitude.value (Binary64.finite.inj h).2.symm
  · cases h

/-! ## The exponent -/

/-- The exponent of a magnitude whose mantissa is below one. -/
def binaryExponent (q : ℚ) : ℤ := if q = 0 then 0 else Int.log 2 q + 1

theorem lt_zpow_binaryExponent {q : ℚ} (hq : 0 < q) : q < 2 ^ binaryExponent q := by
  rw [binaryExponent, if_neg hq.ne']
  exact Int.lt_zpow_succ_log_self (by norm_num) q

theorem zpow_binaryExponent_le {q : ℚ} (hq : 0 < q) : 2 ^ (binaryExponent q - 1) ≤ q := by
  rw [binaryExponent, if_neg hq.ne', add_sub_cancel_right]
  exact Int.zpow_log_le_self (by norm_num) hq

theorem lt_binaryExponent_iff {q : ℚ} (hq : 0 < q) {x : ℤ} : x < binaryExponent q ↔ 2 ^ x ≤ q := by
  rw [binaryExponent, if_neg hq.ne', Int.lt_add_one_iff]
  exact (Int.zpow_le_iff_le_log (by norm_num) hq).symm

theorem Representable.exists_mantissa {q : ℚ} (h : Representable q) :
    ∃ mantissa : ℕ, mantissa < 2 ^ 53 ∧ q = mantissa * 2 ^ (binaryExponent q - 53) := by
  rcases h.nonneg.eq_or_lt with rfl | hq
  · exact ⟨0, by norm_num, by rw [Nat.cast_zero, zero_mul]⟩
  obtain ⟨-, mantissa, exponent, hmantissa, -, hvalue⟩ := h
  have hexponent : binaryExponent q - 53 ≤ exponent := by
    have hlt : (2 : ℚ) ^ (binaryExponent q - 1) < 2 ^ (53 + exponent) := by
      calc (2 : ℚ) ^ (binaryExponent q - 1) ≤ q := zpow_binaryExponent_le hq
        _ = mantissa * 2 ^ exponent := hvalue
        _ < 2 ^ (53 : ℤ) * 2 ^ exponent := by
            refine mul_lt_mul_of_pos_right ?_ (two_zpow_pos _)
            exact (Nat.cast_lt.mpr hmantissa).trans_eq (two_zpow_natCast 53).symm
        _ = 2 ^ (53 + exponent) := (two_zpow_add _ _).symm
    have := two_zpow_lt_iff.mp hlt
    omega
  -- the mantissa is shifted until its exponent is the least one
  obtain ⟨shift, hshift⟩ := Int.le.dest hexponent
  have hshifted : q = (mantissa * 2 ^ shift : ℕ) * 2 ^ (binaryExponent q - 53) := by
    calc q = mantissa * 2 ^ (binaryExponent q - 53 + shift) := by rw [hshift]; exact hvalue
      _ = (mantissa * 2 ^ shift : ℕ) * 2 ^ (binaryExponent q - 53) := by
          rw [two_zpow_add, two_zpow_natCast]
          push_cast
          ring
  refine ⟨mantissa * 2 ^ shift, ?_, hshifted⟩
  have hlt : ((mantissa * 2 ^ shift : ℕ) : ℚ) * 2 ^ (binaryExponent q - 53) <
      2 ^ (53 : ℤ) * 2 ^ (binaryExponent q - 53) := by
    calc ((mantissa * 2 ^ shift : ℕ) : ℚ) * 2 ^ (binaryExponent q - 53) = q := hshifted.symm
      _ < 2 ^ binaryExponent q := lt_zpow_binaryExponent hq
      _ = 2 ^ (53 : ℤ) * 2 ^ (binaryExponent q - 53) := by rw [← two_zpow_add]; congr 1; omega
  have hmul := lt_of_mul_lt_mul_right hlt (two_zpow_pos _).le
  exact Nat.cast_lt.mp (hmul.trans_eq (two_zpow_natCast 53))

theorem representable_mantissa {mantissa : ℕ} (hmantissa : mantissa < 2 ^ 53) {x : ℤ}
    (hx : -1074 ≤ x) (hlt : x ≤ 971) : Representable (mantissa * 2 ^ x) := by
  refine ⟨?_, mantissa, x, hmantissa, hx, rfl⟩
  calc (mantissa : ℚ) * 2 ^ x < 2 ^ (53 : ℤ) * 2 ^ x := by
        refine mul_lt_mul_of_pos_right ?_ (two_zpow_pos _)
        exact (Nat.cast_lt.mpr hmantissa).trans_eq (two_zpow_natCast 53).symm
    _ = 2 ^ (53 + x) := (two_zpow_add _ _).symm
    _ ≤ 2 ^ (1024 : ℤ) := two_zpow_le (by omega)

theorem Representable.normalized {q : ℚ} (h : Representable q) :
    Representable (q / 2 ^ binaryExponent q) := by
  obtain ⟨mantissa, hmantissa, hvalue⟩ := h.exists_mantissa
  have hdiv : q / 2 ^ binaryExponent q = mantissa * 2 ^ (-53 : ℤ) := by
    rw [div_eq_iff (two_zpow_pos _).ne', mul_assoc, ← two_zpow_add]
    exact hvalue.trans (by congr 2; omega)
  exact hdiv ▸ representable_mantissa hmantissa (by norm_num) (by norm_num)

theorem Representable.floor {q : ℚ} (h : Representable q) : Representable ⌊q⌋₊ := by
  have h' := h
  obtain ⟨-, mantissa, exponent, hmantissa, -, hq⟩ := h'
  -- a whole magnitude, or one that is below its mantissa
  rcases le_or_gt 0 exponent with hexponent | hexponent
  · obtain ⟨n, rfl⟩ := Int.eq_ofNat_of_zero_le hexponent
    have hwhole : q = (mantissa * 2 ^ n : ℕ) := by rw [hq, two_zpow_natCast, Nat.cast_mul]
    have hfloor : (⌊q⌋₊ : ℚ) = q := by rw [hwhole, Nat.floor_natCast]
    exact hfloor.symm ▸ h
  · refine representable_natCast (lt_of_le_of_lt (Nat.floor_le_of_le ?_) hmantissa)
    calc q = mantissa * 2 ^ exponent := hq
      _ ≤ mantissa * 1 := mul_le_mul_of_nonneg_left
            (zpow_le_one_of_nonpos₀ (by norm_num) hexponent.le) (Nat.cast_nonneg _)
      _ = mantissa := mul_one _

theorem Representable.sub_floor {q : ℚ} (h : Representable q) : Representable (q - ⌊q⌋₊) := by
  obtain ⟨hlt, mantissa, exponent, hmantissa, hexponent, hq⟩ := h
  have hfloor : (⌊q⌋₊ : ℚ) ≤ q :=
    Nat.floor_le (hq ▸ mul_nonneg (Nat.cast_nonneg _) (two_zpow_pos _).le)
  refine ⟨lt_of_le_of_lt (sub_le_self _ (Nat.cast_nonneg _)) hlt, ?_⟩
  rcases le_or_gt 0 exponent with hwhole | hfraction
  · obtain ⟨n, rfl⟩ := Int.eq_ofNat_of_zero_le hwhole
    have hq' : q = (mantissa * 2 ^ n : ℕ) := by rw [hq, two_zpow_natCast, Nat.cast_mul]
    exact ⟨0, 0, by norm_num, by norm_num, by rw [hq', Nat.floor_natCast]; simp⟩
  · obtain ⟨places, hplaces⟩ := Int.eq_ofNat_of_zero_le (neg_nonneg.mpr hfraction.le)
    have hunit : ((2 ^ places : ℕ) : ℚ) * 2 ^ exponent = 1 := by
      rw [← two_zpow_natCast, ← two_zpow_add, ← hplaces, neg_add_cancel, zpow_zero]
    have hmul : ((⌊q⌋₊ * 2 ^ places : ℕ) : ℚ) * 2 ^ exponent = ⌊q⌋₊ := by
      rw [Nat.cast_mul, mul_assoc, hunit, mul_one]
    have hle : ⌊q⌋₊ * 2 ^ places ≤ mantissa := by
      have hle' : ((⌊q⌋₊ * 2 ^ places : ℕ) : ℚ) * 2 ^ exponent ≤ mantissa * 2 ^ exponent :=
        hmul.trans_le (hfloor.trans_eq hq)
      exact Nat.cast_le.mp (le_of_mul_le_mul_right hle' (two_zpow_pos _))
    refine ⟨mantissa - ⌊q⌋₊ * 2 ^ places, exponent, lt_of_le_of_lt (Nat.sub_le _ _) hmantissa,
      hexponent, ?_⟩
    rw [Nat.cast_sub hle, sub_mul, hmul, ← hq]

/-! ## Operations -/

namespace Binary64

def zero (negative : Bool) : Binary64 :=
  .finite negative ⟨(0 : ℕ), representable_natCast (by norm_num)⟩

def one : Binary64 := .finite false ⟨(1 : ℕ), representable_natCast (by norm_num)⟩

def isFinite : Binary64 → Bool
  | finite _ _ => true
  | _ => false

def isNegative : Binary64 → Bool
  | finite negative _ => negative
  | infinite negative => negative
  | nan => false

def toRat : Binary64 → ℚ
  | finite negative magnitude => if negative then -magnitude.value else magnitude.value
  | _ => 0

def withSign (negative : Bool) : Binary64 → Binary64
  | finite _ magnitude => finite negative magnitude
  | infinite _ => infinite negative
  | nan => nan

def abs (x : Binary64) : Binary64 := x.withSign false

def copysign (x y : Binary64) : Binary64 := x.withSign y.isNegative

def neg (x : Binary64) : Binary64 := x.withSign !x.isNegative

def trunc : Binary64 → Binary64
  | finite negative magnitude =>
    finite negative ⟨⌊magnitude.value⌋₊, magnitude.representable.floor⟩
  | x => x

/-- A mantissa from a half to one, and the exponent; the exponent of zero is zero. -/
def frexp : Binary64 → Binary64 × ℤ
  | finite negative magnitude =>
    (finite negative ⟨magnitude.value / 2 ^ binaryExponent magnitude.value,
      magnitude.representable.normalized⟩, binaryExponent magnitude.value)
  | x => (x, 0)

def ldexp : Binary64 → ℤ → Binary64
  | finite negative magnitude, n => ofMagnitude negative (magnitude.value * 2 ^ n)
  | x, _ => x

def add : Binary64 → Binary64 → Binary64
  | nan, _ => nan
  | _, nan => nan
  | infinite negative, infinite negative' =>
    if negative = negative' then infinite negative else nan
  | infinite negative, finite _ _ => infinite negative
  | finite _ _, infinite negative => infinite negative
  | finite negative magnitude, finite negative' magnitude' =>
    let sum := (finite negative magnitude).toRat + (finite negative' magnitude').toRat
    if sum = 0 then zero (negative && negative') else ofMagnitude (sum < 0) |sum|

def sub (x y : Binary64) : Binary64 := x.add y.neg

def lt : Binary64 → Binary64 → Bool
  | nan, _ => false
  | _, nan => false
  | infinite negative, infinite negative' => negative && !negative'
  | infinite negative, finite _ _ => negative
  | finite _ _, infinite negative => !negative
  | finite negative magnitude, finite negative' magnitude' =>
    (finite negative magnitude).toRat < (finite negative' magnitude').toRat

def eq : Binary64 → Binary64 → Bool
  | infinite negative, infinite negative' => negative = negative'
  | finite negative magnitude, finite negative' magnitude' =>
    (finite negative magnitude).toRat = (finite negative' magnitude').toRat
  | _, _ => false

def le (x y : Binary64) : Bool := x.lt y || x.eq y

/-! ## Operations on finite numbers -/

section Finite

variable (negative : Bool) (a b : Magnitude)

@[simp] theorem withSign_ofMagnitude (negative' : Bool) (q : ℚ) :
    (ofMagnitude negative' q).withSign negative = ofMagnitude negative q := by
  unfold ofMagnitude
  split <;> rfl

theorem ofMagnitude_zero : ofMagnitude negative 0 = zero negative :=
  ofMagnitude_eq negative (representable_natCast (n := 0) (by norm_num))

theorem add_finite :
    (finite negative a).add (finite negative b) = ofMagnitude negative (a.value + b.value) := by
  have hsum : (finite negative a).toRat + (finite negative b).toRat =
      if negative then -(a.value + b.value) else a.value + b.value := by
    cases negative <;> simp [toRat]
    ring
  have hnonneg : 0 ≤ a.value + b.value :=
    add_nonneg a.representable.nonneg b.representable.nonneg
  unfold add
  simp only [hsum]
  rcases hnonneg.eq_or_lt with hzero | hpos
  · rw [← hzero, ofMagnitude_zero]
    cases negative <;> simp
  · cases negative with
    | false => simp [hpos.ne', abs_of_pos hpos, hpos.not_gt]
    | true => simp only [if_true, neg_eq_zero, hpos.ne', if_false, abs_neg, abs_of_pos hpos,
        Left.neg_neg_iff, hpos, decide_true]

theorem abs_sub_finite :
    ((finite negative a).sub (finite negative b)).abs = ofMagnitude false |a.value - b.value| := by
  have hsum : (finite negative a).toRat + (finite (!negative) b).toRat =
      if negative then -(a.value - b.value) else a.value - b.value := by
    cases negative <;> simp [toRat] <;> ring
  generalize hdiff : (if negative then -(a.value - b.value) else a.value - b.value) = diff at hsum
  have habs : |a.value - b.value| = |diff| := by
    cases negative <;> simp [← hdiff, abs_sub_comm]
  rw [habs]
  unfold sub
  show ((finite negative a).add (finite (!negative) b)).abs = _
  unfold add abs
  simp only [hsum]
  by_cases hzero : diff = 0
  · rw [if_pos hzero, hzero, abs_zero, ofMagnitude_zero]
    rfl
  · rw [if_neg hzero, withSign_ofMagnitude]

theorem lt_finite_iff {x : Binary64} (hx : x.isFinite = true) :
    x.lt (finite false a) = true ↔ x.toRat < a.value := by
  cases x with
  | finite negative' magnitude => simp [lt, toRat]
  | infinite _ => exact absurd hx Bool.false_ne_true
  | nan => exact absurd hx Bool.false_ne_true

theorem one_le_finite_iff : one.le (finite false a) = true ↔ 1 ≤ a.value := by
  simp [le, lt, eq, one, toRat, le_iff_lt_or_eq]

theorem eq_one_iff : (finite false a).eq one = true ↔ a.value = 1 := by
  simp [eq, one, toRat]

end Finite

end Binary64

end Foundation
