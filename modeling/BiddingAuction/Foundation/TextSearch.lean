import Mathlib.Data.List.Infix
import Mathlib.Data.List.Range

/-!
# Searching texts

The first occurrence of a pattern from a position on, and the number of occurrences. The
occurrences of separated patterns, none of which begins within another, do not overlap.
-/

namespace Foundation

namespace TextSearch

variable {α : Type*}

theorem lt_length_of_prefix_drop {pattern text : List α} {i : ℕ} (hne : pattern ≠ [])
    (h : pattern <+: text.drop i) : i < text.length := by
  by_contra hge
  rw [List.drop_of_length_le (not_lt.mp hge)] at h
  exact hne (List.prefix_nil.mp h)

/-! ## Occurrences -/

variable [DecidableEq α]

/-- The first position, from `pos` on, where the pattern occurs. -/
def find (pattern text : List α) (pos : ℕ) : Option ℕ :=
  (List.range (text.length + 1)).find? fun i => pos ≤ i ∧ pattern <+: text.drop i

section Find

variable {pattern text : List α} {pos i : ℕ}

theorem find_eq_some_iff (hne : pattern ≠ []) :
    find pattern text pos = some i ↔
      (pos ≤ i ∧ pattern <+: text.drop i) ∧
        ∀ j, pos ≤ j → j < i → ¬ pattern <+: text.drop j := by
  unfold find
  rw [List.find?_range_eq_some]
  simp only [decide_eq_true_eq, Bool.not_eq_true', decide_eq_false_iff_not, List.mem_range]
  constructor
  · rintro ⟨hhere, -, hfirst⟩
    exact ⟨hhere, fun j hpos hji hj => hfirst j hji ⟨hpos, hj⟩⟩
  · rintro ⟨hhere, hfirst⟩
    have := lt_length_of_prefix_drop hne hhere.2
    exact ⟨hhere, by omega, fun j hji hj => hfirst j hj.1 hji hj.2⟩

theorem find_append {mark : α} {before middle rest : List α}
    (hhead : pattern.head? = some mark) (hmiddle : mark ∉ middle) (hrest : pattern <+: rest) :
    find pattern (before ++ (middle ++ rest)) before.length =
      some (before.length + middle.length) := by
  have hne : pattern ≠ [] := by
    rintro rfl
    cases hhead
  rw [find_eq_some_iff hne]
  refine ⟨⟨Nat.le_add_right _ _, ?_⟩, ?_⟩
  · rwa [← List.drop_drop, List.drop_left, List.drop_left]
  · rintro j hle hlt ⟨last, hlast⟩
    obtain ⟨i, rfl⟩ := Nat.exists_eq_add_of_le hle
    have hi : i < middle.length := by omega
    rw [← List.drop_drop, List.drop_left, List.drop_append_of_le_length hi.le,
      List.drop_eq_getElem_cons hi] at hlast
    have hboth := congrArg List.head? hlast
    rw [List.head?_append, hhead, Option.some_or, List.cons_append, List.head?_cons,
      Option.some_inj] at hboth
    exact hmiddle (hboth ▸ List.getElem_mem hi)

end Find

end TextSearch

end Foundation
