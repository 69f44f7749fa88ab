import BiddingAuction.Egress.Features
import BiddingAuction.Foundation.BitPacking
import Mathlib.Tactic.NormNum
import Mathlib.Tactic.Positivity
import Mathlib.Tactic.Zify

/-!
# What a number is serialized to

Whether the value of a feature is taken, refused, or beyond what the code has defined, told
from the value and the declared size; and the bits of a number that is taken.
-/

namespace BiddingAuction

open Foundation

namespace Egress

/-! ## Verdicts -/

inductive Verdict where
  | accepted
  | rejected
  | undefined
deriving DecidableEq, Repr

def Verdict.andThen : Verdict → Verdict → Verdict
  | accepted, v => v
  | v, _ => v

@[simp] theorem Verdict.accepted_andThen (v : Verdict) : accepted.andThen v = v := rfl

@[simp] theorem Verdict.rejected_andThen (v : Verdict) : rejected.andThen v = rejected := rfl

@[simp] theorem Verdict.undefined_andThen (v : Verdict) : undefined.andThen v = undefined := rfl

@[simp] theorem Verdict.andThen_accepted (v : Verdict) : v.andThen accepted = v := by
  cases v <;> rfl

theorem Verdict.andThen_eq_accepted {v w : Verdict} :
    v.andThen w = accepted ↔ v = accepted ∧ w = accepted := by
  cases v <;> simp

namespace Outcome

variable {α β : Type}

def verdict : Outcome α → Verdict
  | ok _ => .accepted
  | error _ _ => .rejected
  | undefined => .undefined

@[simp] theorem verdict_ok (a : α) : (ok a).verdict = .accepted := rfl

@[simp] theorem verdict_error (code : GrpcStatusCode) (message : String) :
    (error code message : Outcome α).verdict = .rejected := rfl

@[simp] theorem verdict_invalidArgument (message : String) :
    (invalidArgument message : Outcome α).verdict = .rejected := rfl

@[simp] theorem verdict_undefined : (undefined : Outcome α).verdict = .undefined := rfl

theorem verdict_eq_accepted {o : Outcome α} : o.verdict = .accepted ↔ ∃ a, o = ok a := by
  cases o <;> simp

theorem verdict_bind {o : Outcome α} {f : α → Outcome β} {v : Verdict}
    (h : ∀ a, o = ok a → (f a).verdict = v) : (o >>= f).verdict = o.verdict.andThen v := by
  cases o with
  | ok a => exact h a rfl
  | error code message => rfl
  | undefined => rfl

theorem bind_ok_eq_undefined {o : Outcome α} {f : α → β} :
    (o >>= fun a => ok (f a)) = undefined ↔ o.verdict = .undefined := by
  cases o with
  | ok a => exact iff_of_false nofun nofun
  | error code message => exact iff_of_false nofun nofun
  | undefined => exact iff_of_true rfl rfl

end Outcome

/-! ## Numbers -/

theorem pow2_le {e : ℕ} {n : ℤ} (h : n < 2 ^ 32) : pow2 e ≤ (n : WithTop ℤ) ↔ 2 ^ e ≤ n := by
  unfold pow2
  split
  · exact WithTop.coe_le_coe
  · rename_i hlarge
    have hpow : (2 : ℤ) ^ 32 ≤ 2 ^ e := pow_le_pow_right₀ (by norm_num) (by omega)
    exact iff_of_false (by simp) (by omega)

theorem pow2_lt {e : ℕ} {n : ℤ} (h : n ≤ 2 ^ 32) : pow2 e < (n : WithTop ℤ) ↔ 2 ^ e < n := by
  unfold pow2
  split
  · exact WithTop.coe_lt_coe
  · rename_i hlarge
    have hpow : (2 : ℤ) ^ 32 ≤ 2 ^ e := pow_le_pow_right₀ (by norm_num) (by omega)
    exact iff_of_false (by simp) (by omega)

theorem setBitsFrom_replicate {w num : ℕ} (h : num < 2 ^ w) (tail : List Bool) :
    setBitsFrom num (w - 1) (List.replicate w false ++ tail) =
      .ok ((lowBits w num).reverse ++ tail) := by
  -- `tail` holds the bits that are set already
  induction w generalizing num tail with
  | zero =>
    have hzero : num = 0 := Nat.lt_one_iff.mp h
    rw [hzero]
    unfold setBitsFrom
    rfl
  | succ w ih =>
    have hhalf : num / 2 < 2 ^ w := by
      rw [pow_succ] at h
      omega
    unfold setBitsFrom
    by_cases hzero : num = 0
    · rw [if_pos hzero, hzero, lowBits_zero, List.reverse_replicate]
    · have hset : (if num % 2 > 0 then
          setBit (List.replicate (w + 1) false ++ tail) ((w + 1 : ℕ) - 1)
          else .ok (List.replicate (w + 1) false ++ tail)) =
          .ok (List.replicate w false ++ (num.testBit 0 :: tail)) := by
        rw [Nat.testBit_zero, List.replicate_succ', List.append_assoc]
        rcases Nat.mod_two_eq_zero_or_one num with hmod | hmod
        · simp [hmod]
        · unfold setBit
          rw [if_pos (by omega), if_pos (by simp), hmod]
          simp [List.set_append_right]
      rw [if_neg hzero, hset, Outcome.ok_bind]
      have hindex : ((w + 1 : ℕ) : ℤ) - 1 - 1 = w - 1 := by omega
      rw [hindex, ih hhalf, lowBits_succ, List.reverse_cons, List.append_assoc]
      rfl

theorem setBitsFrom_of_neg {num : ℕ} {i : ℤ} (hnum : num ≠ 0) (hi : i < 0) (bitRep : List Bool) :
    setBitsFrom num i bitRep = .undefined := by
  induction num using Nat.strongRecOn generalizing i with
  | ind num ih =>
    unfold setBitsFrom
    rw [if_neg hnum]
    by_cases hodd : num % 2 > 0
    · have hout : setBit bitRep i = .undefined := by
        unfold setBit
        rw [if_neg (by omega)]
      rw [if_pos hodd, hout]
      rfl
    · -- an even number moves on to an index that is negative as well
      rw [if_neg hodd, Outcome.ok_bind]
      apply ih (num / 2) <;> omega

theorem unsignedIntToBits_replicate {w num : ℕ} (h : num < 2 ^ w) (hw : w ≤ 2 ^ 31) :
    unsignedIntToBits num (List.replicate w false) = .ok (lowBits w num).reverse := by
  have hindex : Int.bmod ((w : ℤ) - 1) (2 ^ 32) = w - 1 :=
    Int.bmod_eq_of_le (by omega) (by omega)
  unfold unsignedIntToBits
  rw [List.length_replicate, hindex]
  have hset := setBitsFrom_replicate h []
  rwa [List.append_nil, List.append_nil] at hset

theorem unsignedIntToBits_zero (w : ℕ) :
    unsignedIntToBits 0 (List.replicate w false) = .ok (lowBits w 0).reverse := by
  unfold unsignedIntToBits setBitsFrom
  rw [lowBits_zero, List.reverse_replicate]
  rfl

theorem unsignedIntToBits_undefined {w num : ℕ} (hnum : num ≠ 0)
    (hw : w = 0 ∨ 2 ^ 31 < w ∧ w < 2 ^ 32) :
    unsignedIntToBits num (List.replicate w false) = .undefined := by
  unfold unsignedIntToBits
  rw [List.length_replicate]
  apply setBitsFrom_of_neg hnum
  rcases hw with rfl | ⟨hlarge, hlt⟩
  · decide
  · have hmod : Int.bmod ((w : ℤ) - 1) (2 ^ 32) = w - 1 - 2 ^ 32 := by
      rw [Int.bmod_def, Int.emod_eq_of_lt (by omega) (by omega), if_neg (by omega)]
      omega
    omega

/-- What becomes of an unsigned number in a field of `size` bits. -/
def unsignedVerdict (size num : ℕ) : Verdict :=
  if 2 ^ size ≤ num then .rejected
  else if num ≠ 0 ∧ 2 ^ 31 < size then .undefined
  else .accepted

theorem unsignedVerdict_zero (size : ℕ) : unsignedVerdict size 0 = .accepted := by
  unfold unsignedVerdict
  rw [if_neg (Nat.not_le.mpr (Nat.two_pow_pos _)), if_neg (by simp)]

theorem verdict_unsignedIntToBits {size num : ℕ} (hsize : size < 2 ^ 32) (h : num < 2 ^ size) :
    (unsignedIntToBits num (List.replicate size false)).verdict = unsignedVerdict size num := by
  unfold unsignedVerdict
  rw [if_neg (by omega)]
  by_cases hlarge : num ≠ 0 ∧ 2 ^ 31 < size
  · rw [if_pos hlarge, unsignedIntToBits_undefined hlarge.1 (.inr ⟨hlarge.2, hsize⟩)]
    rfl
  · rw [if_neg hlarge]
    by_cases hzero : num = 0
    · rw [hzero, unsignedIntToBits_zero]
      rfl
    · rw [unsignedIntToBits_replicate h (by omega)]
      rfl

theorem unsignedIntToBits_eq_ok {size num : ℕ} {bits : List Bool} (hsize : size < 2 ^ 32)
    (h : num < 2 ^ size) (hok : unsignedIntToBits num (List.replicate size false) = .ok bits) :
    bits.reverse = lowBits size num := by
  by_cases hzero : num = 0
  · rw [hzero, unsignedIntToBits_zero] at hok
    cases hok
    rw [List.reverse_reverse, hzero]
  · by_cases hlarge : 2 ^ 31 < size
    · rw [unsignedIntToBits_undefined hzero (.inr ⟨hlarge, hsize⟩)] at hok
      cases hok
    · rw [unsignedIntToBits_replicate h (by omega)] at hok
      cases hok
      rw [List.reverse_reverse]

/-- What becomes of a signed number in a field of `size` bits: where the size is 0 or above
32, the bias of a negative number has no `int`. -/
def signedVerdict (size : ℕ) (n : ℤ) : Verdict :=
  if size = 0 then if n = 0 then .accepted else .undefined
  else if 2 ^ (size - 1) ≤ n ∨ n < -2 ^ (size - 1) then .rejected
  else if n < 0 ∧ 32 < size ∨ 0 < n ∧ 2 ^ 31 < size then .undefined
  else .accepted

/-! ## The features that are numbers -/

def unsignedIntVerdict (size : ℕ) (feat : Value) : Verdict :=
  match feat.ifPresent Value.uint? "value" with
  | some n => unsignedVerdict size n.toNat
  | none => .rejected

def signedIntVerdict (size : ℕ) (feat : Value) : Verdict :=
  match feat.ifPresent Value.int? "value" with
  | some n => signedVerdict size n
  | none => .rejected

theorem int?_eq_some {value : Value} {n : ℤ} (h : value.int? = some n) :
    value = .int n ∧ -2 ^ 31 ≤ n ∧ n < 2 ^ 31 := by
  cases value with
  | int m =>
    simp only [Value.int?, Option.ite_none_right_eq_some, Option.some.injEq] at h
    obtain ⟨hbounds, rfl⟩ := h
    exact ⟨rfl, hbounds⟩
  | _ => cases h

theorem uint?_eq_some {value : Value} {n : UInt32} (h : value.uint? = some n) :
    value = .int n.toNat := by
  cases value with
  | int m =>
    simp only [Value.uint?, Option.ite_none_right_eq_some, Option.some.injEq] at h
    obtain ⟨⟨hnonneg, hlt⟩, rfl⟩ := h
    have hsize : m.toNat < UInt32.size := by
      unfold UInt32.size
      omega
    rw [UInt32.toNat_ofNat_of_lt' hsize, Int.toNat_of_nonneg hnonneg]
  | _ => cases h

theorem serializeUnsignedInt_of_none {feat : Value} (size : UInt32)
    (h : feat.ifPresent Value.uint? "value" = none) : serializeUnsignedInt size (some feat) =
      .invalidArgument "Int feature not found in the egress payload" := by
  simp only [serializeUnsignedInt, h]

theorem serializeUnsignedInt_of_some {feat : Value} {n : UInt32} (size : UInt32)
    (h : feat.ifPresent Value.uint? "value" = some n) : serializeUnsignedInt size (some feat) =
      if 2 ^ size.toNat ≤ n.toNat then
        .invalidArgument (outOfBound "Uint" (toString n.toNat) size)
      else unsignedIntToBits n.toNat (List.replicate size.toNat false) := by
  have hn := n.toNat_lt
  have hover : (2 : ℤ) ^ size.toNat < n.toNat + 1 ↔ 2 ^ size.toNat ≤ n.toNat := by
    rw [Int.lt_add_one_iff]
    exact_mod_cast Iff.rfl
  simp only [serializeUnsignedInt, h, pow2_lt (n := n.toNat + 1) (by omega), hover]

theorem verdict_serializeUnsignedInt (size : UInt32) (feat : Value) :
    (serializeUnsignedInt size (some feat)).verdict = unsignedIntVerdict size.toNat feat := by
  unfold unsignedIntVerdict
  cases hvalue : feat.ifPresent Value.uint? "value" with
  | none =>
    rw [serializeUnsignedInt_of_none size hvalue]
    rfl
  | some n =>
    rw [serializeUnsignedInt_of_some size hvalue]
    show _ = unsignedVerdict size.toNat n.toNat
    split
    · rename_i hover
      unfold unsignedVerdict
      rw [if_pos hover]
      rfl
    · exact verdict_unsignedIntToBits size.toNat_lt (by omega)

theorem serializeUnsignedInt_eq_ok {size : UInt32} {feat : Value} {bits : List Bool}
    (h : serializeUnsignedInt size (some feat) = .ok bits) :
    ∃ n : ℕ, feat.findMember "value" = some (.int n) ∧ n < 2 ^ size.toNat ∧
      bits.reverse = lowBits size.toNat n := by
  cases hvalue : feat.ifPresent Value.uint? "value" with
  | none =>
    rw [serializeUnsignedInt_of_none size hvalue] at h
    cases h
  | some n =>
    rw [serializeUnsignedInt_of_some size hvalue] at h
    obtain ⟨member, hmember, hread⟩ := Option.bind_eq_some_iff.mp hvalue
    rw [uint?_eq_some hread] at hmember
    split at h
    · cases h
    · have hfits : n.toNat < 2 ^ size.toNat := by omega
      exact ⟨n.toNat, hmember, hfits, unsignedIntToBits_eq_ok size.toNat_lt hfits h⟩

theorem serializeSignedInt_of_none {feat : Value} (size : UInt32)
    (h : feat.ifPresent Value.int? "value" = none) : serializeSignedInt size (some feat) =
      .invalidArgument "Int feature not found in the egress payload" := by
  simp only [serializeSignedInt, h]

theorem serializeSignedInt_zero {feat : Value} {n : ℤ}
    (h : feat.ifPresent Value.int? "value" = some n) :
    serializeSignedInt 0 (some feat) = if n = 0 then .ok [] else .undefined := by
  have hbound : pow2 ((0 : UInt32) - 1).toNat = ⊤ := by decide
  simp only [serializeSignedInt, h, hbound]
  rw [if_neg (by simp)]
  by_cases hneg : n < 0
  · rw [if_pos hneg, if_neg (by omega)]
    rfl
  · rw [if_neg hneg]
    by_cases hzero : n = 0
    · rw [if_pos hzero, hzero]
      exact unsignedIntToBits_zero 0
    · rw [if_neg hzero]
      exact unsignedIntToBits_undefined (by omega) (.inl rfl)

/-- The bias of a negative number, where it has an `int`. -/
theorem toInt_add_pow2 {n : ℤ} {w : ℕ} (hlow : -2 ^ 31 ≤ n) (hneg : n < 0) :
    toInt ((n : WithTop ℤ) + pow2 w) = if w < 32 then .ok (n + 2 ^ w) else .undefined := by
  unfold pow2
  by_cases hw : w < 32
  · have hpow : (2 : ℤ) ^ w ≤ 2 ^ 31 := pow_le_pow_right₀ (by norm_num) (by omega)
    have hpos : (0 : ℤ) < 2 ^ w := by positivity
    rw [if_pos (by omega), if_pos hw, ← WithTop.coe_add]
    exact if_pos (by omega)
  · rw [if_neg hw]
    split
    · have hpow : (2 : ℤ) ^ 32 ≤ 2 ^ w := pow_le_pow_right₀ (by norm_num) (by omega)
      rw [← WithTop.coe_add]
      exact if_neg (by omega)
    · rfl

theorem serializeSignedInt_of_some {feat : Value} {n : ℤ} {size : UInt32} {w : ℕ}
    (hsize : size.toNat = w + 1) (h : feat.ifPresent Value.int? "value" = some n) :
    serializeSignedInt size (some feat) =
      if 2 ^ w ≤ n ∨ n < -2 ^ w then .invalidArgument (outOfBound "Int" (toString n) size)
      else if n < 0 then
        if w < 32 then .ok (lowBits w (n + 2 ^ w).toNat ++ [true]).reverse else .undefined
      else unsignedIntToBits n.toNat (List.replicate size.toNat false) := by
  obtain ⟨member, -, hread⟩ := Option.bind_eq_some_iff.mp h
  obtain ⟨-, hlow, hhigh⟩ := int?_eq_some hread
  have hwidth : (size - 1).toNat = w := by
    rw [UInt32.toNat_sub_of_le _ _ (by rw [UInt32.le_iff_toNat_le, hsize]; simp), hsize]
    simp
  have hbounds : 2 ^ w < -n ↔ n < -2 ^ w := by omega
  simp only [serializeSignedInt, h, hwidth, pow2_le (n := n) (by omega),
    pow2_lt (n := -n) (by omega), hbounds]
  by_cases hover : 2 ^ w ≤ n ∨ n < -2 ^ w
  · rw [if_pos hover, if_pos hover]
  · rw [if_neg hover, if_neg hover]
    by_cases hneg : n < 0
    · rw [if_pos hneg, if_pos hneg, toInt_add_pow2 hlow hneg]
      by_cases hw : w < 32
      · -- the sign bit is set apart: the bias leaves one bit less than the field has
        have hbias : (n + 2 ^ w).toNat < 2 ^ w := by
          zify
          omega
        have hpow : (2 : ℕ) ^ w < 2 ^ (w + 1) := Nat.pow_lt_pow_right (by omega) (by omega)
        rw [if_pos hw, if_pos hw, Outcome.ok_bind, hsize,
          unsignedIntToBits_replicate (by omega) (by omega), Outcome.ok_bind, lowBits_succ_last,
          List.reverse_append, List.reverse_append]
        exact if_pos (by simp)
      · rw [if_neg hw, if_neg hw]
        rfl
    · rw [if_neg hneg, if_neg hneg]

theorem verdict_serializeSignedInt (size : UInt32) (feat : Value) :
    (serializeSignedInt size (some feat)).verdict = signedIntVerdict size.toNat feat := by
  unfold signedIntVerdict
  cases hvalue : feat.ifPresent Value.int? "value" with
  | none =>
    rw [serializeSignedInt_of_none size hvalue]
    rfl
  | some n =>
    show _ = signedVerdict size.toNat n
    unfold signedVerdict
    cases hsize : size.toNat with
    | zero =>
      have hzero : size = 0 := UInt32.toNat_inj.mp hsize
      rw [hzero, serializeSignedInt_zero hvalue, if_pos rfl]
      split <;> rfl
    | succ w =>
      rw [serializeSignedInt_of_some hsize hvalue, if_neg (Nat.succ_ne_zero w), Nat.add_sub_cancel]
      by_cases hover : 2 ^ w ≤ n ∨ n < -2 ^ w
      · rw [if_pos hover, if_pos hover]
        rfl
      · rw [if_neg hover, if_neg hover]
        by_cases hneg : n < 0
        · rw [if_pos hneg]
          by_cases hw : w < 32
          · rw [if_pos hw, if_neg (by omega)]
            rfl
          · rw [if_neg hw, if_pos (.inl ⟨hneg, by omega⟩)]
            rfl
        · -- what is not negative is written as an unsigned number
          have hfits : n.toNat < 2 ^ (w + 1) := by
            rw [pow_succ]
            zify
            omega
          rw [if_neg hneg, hsize, verdict_unsignedIntToBits (hsize ▸ size.toNat_lt) hfits]
          unfold unsignedVerdict
          rw [if_neg (by omega)]
          apply if_congr _ rfl rfl
          omega

theorem serializeSignedInt_eq_ok {size : UInt32} {feat : Value} {bits : List Bool}
    (h : serializeSignedInt size (some feat) = .ok bits) :
    ∃ n : ℤ, feat.findMember "value" = some (.int n) ∧ bits.length = size.toNat ∧
      ofTwosComplement bits.reverse = n := by
  cases hvalue : feat.ifPresent Value.int? "value" with
  | none =>
    rw [serializeSignedInt_of_none size hvalue] at h
    cases h
  | some n =>
    obtain ⟨member, hmember, hread⟩ := Option.bind_eq_some_iff.mp hvalue
    rw [(int?_eq_some hread).1] at hmember
    refine ⟨n, hmember, ?_⟩
    cases hsize : size.toNat with
    | zero =>
      have hzero : size = 0 := UInt32.toNat_inj.mp hsize
      rw [hzero, serializeSignedInt_zero hvalue] at h
      split at h
      · rename_i hn
        cases h
        rw [hn]
        exact ⟨rfl, rfl⟩
      · cases h
    | succ w =>
      rw [serializeSignedInt_of_some hsize hvalue] at h
      split at h
      · cases h
      · rename_i hbounds
        split at h
        · split at h
          · have hbias : (n + 2 ^ w).toNat < 2 ^ w := by
              zify
              omega
            cases h
            refine ⟨by simp, ?_⟩
            rw [List.reverse_reverse, ofTwosComplement_sign hbias,
              Int.toNat_of_nonneg (by omega)]
            omega
          · cases h
        · have hfits : n.toNat < 2 ^ w := by
            zify
            omega
          have hwide : n.toNat < 2 ^ size.toNat := by
            rw [hsize, pow_succ]
            omega
          have hbits := unsignedIntToBits_eq_ok size.toNat_lt hwide h
          rw [hsize] at hbits
          refine ⟨?_, ?_⟩
          · rw [← List.length_reverse, hbits, length_lowBits]
          · rw [hbits, ofTwosComplement_lowBits hfits, Int.toNat_of_nonneg (by omega)]

end Egress

end BiddingAuction
