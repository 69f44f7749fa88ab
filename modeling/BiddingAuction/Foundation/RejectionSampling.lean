import Mathlib.Data.Int.CardIntervalMod
import Mathlib.Data.Set.Card

/-!
# Uniform draws by rejection

Draws are numbered from zero. Those in the last block, which is not a whole range, are
rejected; of the others each remainder comes from one draw in each block.
-/

namespace Foundation

namespace RejectionSampling

theorem count_remainder {q r j : ℕ} (hr : 0 < r) (hj : j < r) :
    (q * r).count (fun x => x % r = j) = q := by
  have hmod : ∀ x, x % r = j ↔ x ≡ j [MOD r] := by
    intro x
    unfold Nat.ModEq
    rw [Nat.mod_eq_of_lt hj]
  have hcount := Nat.count_modEq_card (q * r) hr j
  simp only [hmod]
  rw [hcount, Nat.mul_div_cancel q hr, Nat.mul_mod_left, if_neg (Nat.not_lt_zero _),
    Nat.add_zero]

theorem count_mod_lt {r c : ℕ} (hc : c ≤ r) (q : ℕ) :
    (q * r).count (fun x => x % r < c) = q * c := by
  have hblock : r.count (fun x => x % r < c) = c := by
    have hfilter : (Finset.range r).filter (fun x => x % r < c) = Finset.range c := by
      ext x
      simp only [Finset.mem_filter, Finset.mem_range]
      constructor
      · rintro ⟨hx, hlt⟩
        rwa [Nat.mod_eq_of_lt hx] at hlt
      · intro hx
        exact ⟨hx.trans_le hc, lt_of_le_of_lt (Nat.mod_le _ _) hx⟩
    rw [Nat.count_eq_card_filter_range, hfilter, Finset.card_range]
  induction q with
  | zero => rw [Nat.zero_mul, Nat.zero_mul, Nat.count_zero]
  | succ q ih =>
    rw [Nat.succ_mul, Nat.count_add, ih, Nat.succ_mul]
    simp only [Nat.mul_add_mod_self_right, hblock]

section Numbered

variable {α : Type*} {number : α → ℕ} {total : ℕ}

theorem ncard_numbered (hinj : Function.Injective number)
    (honto : ∀ x < total, ∃ a, number a = x) {limit : ℕ} (hlimit : limit ≤ total)
    (p : ℕ → Prop) [DecidablePred p] :
    {a | number a < limit ∧ p (number a)}.ncard = limit.count p := by
  rw [← Set.ncard_image_of_injective _ hinj, Nat.count_eq_card_filter_range,
    ← Set.ncard_coe_finset]
  congr 1
  ext x
  simp only [Set.mem_image, Set.mem_ofPred_eq, Finset.coe_filter, Finset.mem_range]
  constructor
  · rintro ⟨a, ha, rfl⟩
    exact ha
  · rintro ⟨hlt, hx⟩
    obtain ⟨a, rfl⟩ := honto x (hlt.trans_le hlimit)
    exact ⟨a, ⟨hlt, hx⟩, rfl⟩

theorem ncard_accepted_remainder (hinj : Function.Injective number)
    (honto : ∀ x < total, ∃ a, number a = x) {q r j : ℕ} (hr : 0 < r) (hj : j < r)
    (hlimit : q * r ≤ total) :
    {a | number a < q * r ∧ number a % r = j}.ncard = q := by
  rw [ncard_numbered hinj honto hlimit fun x => x % r = j, count_remainder hr hj]

end Numbered

end RejectionSampling

end Foundation
