import Mathlib.Algebra.Ring.Nat
import Mathlib.Order.Basic
import Mathlib.Order.MinMax

/-!
# Admission under a budget

Items are taken one after another; each is admitted if its size still fits under
the limit, and takes up room if it is. Items without a size change nothing for
the others, and of equal items as many are admitted as there is room for.
-/

namespace Foundation

universe u

namespace Budget

variable {α : Type u} (size : α → ℕ) (limit : ℕ)

def accept : ℕ → List α → List α
  | _, [] => []
  | used, a :: l =>
    if size a + used ≤ limit then a :: accept (used + size a) l else accept used l

def total (l : List α) : ℕ := (l.map size).sum

variable {size limit} {used : ℕ} {l l' : List α}

@[simp] theorem total_nil : total size [] = 0 := rfl

@[simp] theorem total_cons (a : α) : total size (a :: l) = size a + total size l :=
  List.sum_cons

@[simp] theorem total_append : total size (l ++ l') = total size l + total size l' := by
  simp [total]

@[simp] theorem total_replicate (n : ℕ) (a : α) :
    total size (List.replicate n a) = n * size a := by
  rw [total, List.map_replicate, List.sum_replicate_nat]

theorem accept_sublist : (accept size limit used l).Sublist l := by
  induction l generalizing used with
  | nil => exact .slnil
  | cons a l ih =>
    rw [accept]
    split
    · exact (ih).cons_cons a
    · exact (ih).cons a

theorem used_add_total_accept_le (h : used ≤ limit) :
    used + total size (accept size limit used l) ≤ limit := by
  induction l generalizing used with
  | nil => exact h
  | cons a l ih =>
    rw [accept]
    split
    · rename_i hfits
      rw [total_cons, ← Nat.add_assoc]
      exact ih (by omega)
    · exact ih h

theorem accept_append :
    accept size limit used (l ++ l') = accept size limit used l ++
      accept size limit (used + total size (accept size limit used l)) l' := by
  induction l generalizing used with
  | nil => rfl
  | cons a l ih =>
    rw [List.cons_append, accept, accept]
    split
    · rw [ih, List.cons_append, total_cons, Nat.add_assoc]
    · exact ih

theorem filter_accept {p : α → Bool} (hp : ∀ a ∈ l, p a = false → size a = 0)
    (h : used ≤ limit) :
    (accept size limit used l).filter p = accept size limit used (l.filter p) := by
  induction l generalizing used with
  | nil => rfl
  | cons a l ih =>
    have hrest : ∀ b ∈ l, p b = false → size b = 0 := fun b hb => hp b (List.mem_cons_of_mem a hb)
    cases ha : p a with
    | false =>
      have hzero := hp a List.mem_cons_self ha
      rw [accept, if_pos (by omega), hzero, Nat.add_zero, List.filter_cons_of_neg (by simp [ha]),
        List.filter_cons_of_neg (by simp [ha]), ih hrest h]
    | true =>
      rw [List.filter_cons_of_pos ha, accept, accept]
      split
      · rename_i hfits
        rw [List.filter_cons_of_pos ha, ih hrest (by omega)]
      · exact ih hrest h

theorem accept_replicate {a : α} (ha : 0 < size a) (h : used ≤ limit) (n : ℕ) :
    accept size limit used (List.replicate n a) =
      List.replicate (min n ((limit - used) / size a)) a := by
  induction n generalizing used with
  | zero => simp [accept]
  | succ n ih =>
    rw [List.replicate_succ, accept]
    split
    · rename_i hfits
      have hroom : (limit - used) / size a = (limit - (used + size a)) / size a + 1 := by
        rw [← Nat.add_div_right _ ha]
        congr 1
        omega
      rw [ih (by omega), hroom, Nat.add_min_add_right, List.replicate_succ]
    · rename_i hfull
      have hroom : (limit - used) / size a = 0 := Nat.div_eq_of_lt (by omega)
      rw [ih h, hroom, Nat.min_zero, Nat.min_zero]

end Budget

end Foundation
