import Mathlib.Algebra.Ring.Nat
import Mathlib.Data.Int.Notation
import Mathlib.Data.Nat.Notation
import Mathlib.Tactic.Common

/-!
# Whole numbers as `double`s

A `double` keeps 53 bits of a whole number. A number is printed with the fewest digits
that read back as the same `double`, filled up with zeros, so what is printed is a whole
number that rounds to the one printed, though not always the same. Bitwise operators
work on the low 32 bits.
-/

namespace Foundation

namespace Number

/-- The `double` nearest to a whole number, the even one of two. -/
def ofNat (n : ℕ) : ℕ :=
  if n < 2 ^ 53 then n
  else
    let unit := 2 ^ (n.log2 - 52)
    let q := n / unit
    let r := n % unit
    (if 2 * r < unit then q else if unit < 2 * r then q + 1 else q + q % 2) * unit

theorem ofNat_of_lt {n : ℕ} (h : n < 2 ^ 53) : ofNat n = n := if_pos h

/-- A multiple of the unit in its last place is a `double`. -/
theorem ofNat_of_dvd {n : ℕ} (h : 2 ^ (n.log2 - 52) ∣ n) : ofNat n = n := by
  unfold ofNat
  split
  · rfl
  · have hpos : 0 < 2 ^ (n.log2 - 52) := Nat.two_pow_pos _
    simp only [Nat.mod_eq_zero_of_dvd h, Nat.mul_zero, hpos, if_true]
    exact Nat.div_mul_cancel h

/-- Whole numbers of 53 bits, shifted, are `double`s. -/
theorem ofNat_mul_two_pow {q e : ℕ} (hq : q ≤ 2 ^ 53) : ofNat (q * 2 ^ e) = q * 2 ^ e := by
  by_cases hsmall : q * 2 ^ e < 2 ^ 53
  · exact ofNat_of_lt hsmall
  · have hne : q * 2 ^ e ≠ 0 := by omega
    refine ofNat_of_dvd ?_
    rcases Nat.lt_or_eq_of_le hq with hlt | rfl
    · -- the unit in the last place divides the shift
      have hlog : (q * 2 ^ e).log2 < 53 + e := by
        rw [Nat.log2_lt hne, Nat.pow_add]
        exact Nat.mul_lt_mul_of_pos_right hlt (Nat.two_pow_pos e)
      exact Nat.dvd_trans (Nat.pow_dvd_pow 2 (by omega)) (Nat.dvd_mul_left _ q)
    · rw [← Nat.pow_add, Nat.log2_two_pow]
      exact Nat.pow_dvd_pow 2 (by omega)

theorem ofNat_eq_mul (n : ℕ) : ∃ q e, q ≤ 2 ^ 53 ∧ ofNat n = q * 2 ^ e := by
  unfold ofNat
  split
  · rename_i hlt
    exact ⟨n, 0, Nat.le_of_lt hlt, by simp⟩
  · rename_i hge
    have hne : n ≠ 0 := by omega
    have hq : n / 2 ^ (n.log2 - 52) < 2 ^ 53 := by
      rw [Nat.div_lt_iff_lt_mul (Nat.two_pow_pos _), ← Nat.pow_add, ← Nat.log2_lt hne]
      omega
    refine ⟨_, n.log2 - 52, ?_, rfl⟩
    split
    · exact Nat.le_of_lt hq
    · split
      · exact hq
      · have := Nat.mod_lt (n / 2 ^ (n.log2 - 52)) Nat.two_pos
        omega

theorem ofNat_ofNat (n : ℕ) : ofNat (ofNat n) = ofNat n := by
  obtain ⟨q, e, hq, heq⟩ := ofNat_eq_mul n
  rw [heq]
  exact ofNat_mul_two_pow hq

theorem le_ofNat {n : ℕ} (h : 2 ^ 53 ≤ n) : 2 ^ 53 ≤ ofNat n := by
  have hne : n ≠ 0 := by omega
  have hlog : 53 ≤ n.log2 := by
    rw [Nat.le_log2 hne]
    exact h
  have hq : 2 ^ 52 ≤ n / 2 ^ (n.log2 - 52) := by
    rw [Nat.le_div_iff_mul_le (Nat.two_pow_pos _), ← Nat.pow_add, ← Nat.le_log2 hne]
    omega
  unfold ofNat
  rw [if_neg (by omega)]
  have hunit : 2 ≤ 2 ^ (n.log2 - 52) := by
    calc 2 = 2 ^ 1 := rfl
      _ ≤ 2 ^ (n.log2 - 52) := Nat.pow_le_pow_right Nat.two_pos (by omega)
  calc 2 ^ 53 = 2 ^ 52 * 2 := rfl
    _ ≤ _ := by
      refine Nat.mul_le_mul ?_ hunit
      split
      · exact hq
      · split <;> omega

/-! ## Printing -/

/-- The multiple of `unit` that reads back as `n`: the nearer one of two, and of two that
are as near the one with the even digits. -/
def multiple? (n unit : ℕ) : Option ℕ :=
  let lower := n / unit * unit
  let upper := lower + unit
  if ofNat lower = n then
    if ofNat upper = n ∧ (unit < 2 * (n % unit) ∨ unit = 2 * (n % unit) ∧ n / unit % 2 = 1) then
      some upper
    else some lower
  else if ofNat upper = n then some upper
  else none

/-- The digits a `double` is printed with, read as a whole number. It is for numbers below
`10 ^ 21`, which are printed without an exponent. -/
def print (n : ℕ) : ℕ :=
  ((List.range (n.log2 + 1)).reverse.findSome? fun zeros => multiple? n (10 ^ zeros)).getD n

theorem ofNat_of_multiple? {n unit m : ℕ} (h : multiple? n unit = some m) : ofNat m = n := by
  unfold multiple? at h
  dsimp only at h
  split at h
  · rename_i hlower
    split at h
    · rename_i hupper
      cases h
      exact hupper.1
    · cases h
      exact hlower
  · split at h
    · rename_i hupper
      cases h
      exact hupper
    · cases h

/-- What is printed reads back as the `double` that was printed. -/
theorem ofNat_print {n : ℕ} (h : ofNat n = n) : ofNat (print n) = n := by
  unfold print
  cases hfound : (List.range (n.log2 + 1)).reverse.findSome?
      fun zeros => multiple? n (10 ^ zeros) with
  | none => exact h
  | some m =>
    obtain ⟨zeros, -, hm⟩ := List.exists_of_findSome?_eq_some hfound
    exact ofNat_of_multiple? hm

/-- Below `2 ^ 53` every digit is printed. -/
theorem print_of_lt {n : ℕ} (h : n < 2 ^ 53) : print n = n := by
  have hback := ofNat_print (ofNat_of_lt h)
  by_cases hsmall : print n < 2 ^ 53
  · rwa [ofNat_of_lt hsmall] at hback
  · have := le_ofNat (Nat.le_of_not_lt hsmall)
    omega

/-- A whole number, as a `double` and in print. -/
def printed (n : ℕ) : ℕ := print (ofNat n)

theorem printed_of_lt {n : ℕ} (h : n < 2 ^ 53) : printed n = n := by
  rw [printed, ofNat_of_lt h, print_of_lt h]

theorem ofNat_printed (n : ℕ) : ofNat (printed n) = ofNat n := ofNat_print (ofNat_ofNat n)

theorem printed_printed (n : ℕ) : printed (printed n) = printed n := by
  rw [printed, ofNat_printed]
  rfl

/-! ## Bitwise operators -/

/-- `x >>> count`: of the low 32 bits, by the low five bits of the count. -/
def shiftRightZeroFill (x : ℤ) (count : ℕ) : ℕ :=
  (BitVec.ofInt 32 x >>> (count % 32)).toNat

/-- `x & y`: of the low 32 bits, read with their sign. -/
def and (x y : ℤ) : ℤ := (BitVec.ofInt 32 x &&& BitVec.ofInt 32 y).toInt

theorem shiftRightZeroFill_64 (n : ℕ) : shiftRightZeroFill n 64 = n % 2 ^ 32 := by
  simp [shiftRightZeroFill]

/-- The low 32 bits of a mask of 64 ones are none: as a `double` it is `2 ^ 64`. -/
theorem and_ones (n : ℤ) : and n (ofNat (2 ^ 64 - 1) : ℕ) = 0 := by
  have hmask : ofNat (2 ^ 64 - 1) = 2 ^ 64 := by decide
  rw [hmask]
  simp [and]

end Number

end Foundation
