import Mathlib.Data.List.Perm.Basic

/-!
# Filtering by swapping to the end

What is rejected is swapped with the last element that has not been looked at, which is
looked at next; at the end everything from there on is cut off. The elements that are left
are those of a filter, in another order.
-/

namespace Foundation

variable {α : Type} (reject : α → Bool)

/-- The loop, from position `i` on; what is rejected starts at `removeStartingAt`. -/
def swapToEnd (xs : Array α) (i removeStartingAt : ℕ) : Array α × ℕ :=
  if i < removeStartingAt then
    if xs[i]?.any reject then
      swapToEnd (xs.swapIfInBounds i (removeStartingAt - 1)) i (removeStartingAt - 1)
    else swapToEnd xs (i + 1) removeStartingAt
  else (xs, removeStartingAt)
termination_by removeStartingAt - i

/-- The loop over all elements, and what it leaves in front. -/
def removeRejected (xs : Array α) : Array α :=
  let result := swapToEnd reject xs 0 xs.size
  result.1.take result.2

/-- What the loop has looked at: what it keeps is below `i`, what it rejects from
`removeStartingAt` on. -/
structure Swapped (xs : Array α) (i removeStartingAt : ℕ) : Prop where
  le : removeStartingAt ≤ xs.size
  kept : ∀ k x, k < i → xs[k]? = some x → reject x = false
  rejected : ∀ k x, removeStartingAt ≤ k → xs[k]? = some x → reject x = true

variable {reject} {xs : Array α} {i removeStartingAt : ℕ}

theorem swapIfInBounds_perm (xs : Array α) (i j : ℕ) :
    (xs.swapIfInBounds i j).toList.Perm xs.toList := by
  rw [Array.swapIfInBounds_def]
  split
  · split
    · exact (Array.swap_perm _ _).toList
    · exact .refl _
  · exact .refl _

theorem Swapped.start (reject : α → Bool) (xs : Array α) : Swapped reject xs 0 xs.size where
  le := Nat.le_refl _
  kept _ _ hk := absurd hk (by omega)
  rejected k x hk hx := by
    rw [Array.getElem?_eq_none hk] at hx
    cases hx

theorem Swapped.keep (h : Swapped reject xs i removeStartingAt)
    (hkeep : ¬ xs[i]?.any reject = true) : Swapped reject xs (i + 1) removeStartingAt where
  le := h.le
  kept k x hk hx := by
    rcases Nat.lt_succ_iff_lt_or_eq.mp hk with hlt | rfl
    · exact h.kept k x hlt hx
    · rw [hx] at hkeep
      exact Bool.eq_false_iff.mpr hkeep
  rejected := h.rejected

theorem Swapped.swap (h : Swapped reject xs i removeStartingAt) (hi : i < removeStartingAt)
    (hreject : xs[i]?.any reject = true) :
    Swapped reject (xs.swapIfInBounds i (removeStartingAt - 1)) i (removeStartingAt - 1) := by
  have hle := h.le
  have hsize : i < xs.size := by omega
  have hlast : removeStartingAt - 1 < xs.size := by omega
  have hswap : xs.swapIfInBounds i (removeStartingAt - 1) =
      xs.swap i (removeStartingAt - 1) := by
    rw [Array.swapIfInBounds_def, dif_pos hsize, dif_pos hlast]
  rw [hswap]
  refine ⟨by rw [Array.size_swap]; omega, fun k x hk hx => ?_, fun k x hk hx => ?_⟩
  · rw [Array.getElem?_swap, if_neg (by omega), if_neg (by omega)] at hx
    exact h.kept k x hk hx
  · rw [Array.getElem?_swap] at hx
    split at hx
    · -- the new place at the end holds what was rejected
      cases hx
      rw [Array.getElem?_eq_getElem hsize] at hreject
      exact hreject
    · rename_i hne
      rw [if_neg (by omega)] at hx
      exact h.rejected k x (by omega) hx

theorem swapToEnd_spec (h : Swapped reject xs i removeStartingAt) (hi : i ≤ removeStartingAt) :
    let result := swapToEnd reject xs i removeStartingAt
    result.1.toList.Perm xs.toList ∧ Swapped reject result.1 result.2 result.2 := by
  fun_induction swapToEnd reject xs i removeStartingAt with
  | case1 xs i removeStartingAt hlt hreject ih =>
    obtain ⟨hperm, hend⟩ := ih (h.swap hlt hreject) (by omega)
    exact ⟨hperm.trans (swapIfInBounds_perm xs i _), hend⟩
  | case2 xs i removeStartingAt hlt hkeep ih => exact ih (h.keep hkeep) hlt
  | case3 xs i removeStartingAt hlt =>
    obtain rfl : i = removeStartingAt := by omega
    exact ⟨.refl _, h⟩

theorem removeRejected_perm (reject : α → Bool) (xs : Array α) :
    (removeRejected reject xs).toList.Perm (xs.toList.filter fun x => !reject x) := by
  obtain ⟨hperm, hend⟩ := swapToEnd_spec (Swapped.start reject xs) (Nat.zero_le _)
  unfold removeRejected
  generalize swapToEnd reject xs 0 xs.size = result at hperm hend
  have hfront : (result.1.toList.take result.2).filter (fun x => !reject x) =
      result.1.toList.take result.2 := by
    refine List.filter_eq_self.mpr fun x hx => ?_
    obtain ⟨k, hk, rfl⟩ := List.mem_take_iff_getElem.mp hx
    rw [hend.kept k _ (by omega) (by simp)]
    rfl
  have hback : (result.1.toList.drop result.2).filter (fun x => !reject x) = [] := by
    refine List.filter_eq_nil_iff.mpr fun x hx => ?_
    obtain ⟨k, hk, rfl⟩ := List.mem_drop_iff_getElem.mp hx
    rw [hend.rejected (result.2 + k) _ (by omega) (by simp)]
    decide
  have hfilter := hperm.filter fun x => !reject x
  rw [← List.take_append_drop result.2 result.1.toList, List.filter_append, hfront, hback,
    List.append_nil] at hfilter
  simpa using hfilter

end Foundation
