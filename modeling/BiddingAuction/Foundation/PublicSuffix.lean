import Mathlib.Data.List.DropRight
import Mathlib.Data.Nat.Find

/-!
# Registrable domains

A name is a list of labels, and some of its last labels are its public suffix. With one label
more the suffix is the registrable domain, under which all names with the same one are
administered.
-/

namespace Foundation

/-- How many labels the public suffix of a name has. A name has more; and its registrable
domain has the same suffix. -/
structure PublicSuffixes (L : Type*) where
  count : List L → Option ℕ
  count_pos : ∀ {labels n}, count labels = some n → 0 < n
  count_lt : ∀ {labels n}, count labels = some n → n < labels.length
  count_registrable : ∀ {labels n}, count labels = some n →
    count (labels.drop (labels.length - (n + 1))) = some n

namespace PublicSuffixes

variable {L : Type*} (suffixes : PublicSuffixes L) {labels domain : List L} {n : ℕ}

def registrableDomain (labels : List L) : Option (List L) :=
  (suffixes.count labels).map fun n => labels.drop (labels.length - (n + 1))

variable {suffixes}

theorem registrableDomain_of_count (h : suffixes.count labels = some n) :
    suffixes.registrableDomain labels = some (labels.drop (labels.length - (n + 1))) := by
  unfold registrableDomain
  rw [h, Option.map_some]

theorem exists_count_of_registrableDomain (h : suffixes.registrableDomain labels = some domain) :
    ∃ n, suffixes.count labels = some n ∧ domain = labels.drop (labels.length - (n + 1)) ∧
      domain.length = n + 1 := by
  obtain ⟨n, hcount, rfl⟩ := Option.map_eq_some_iff.mp h
  have hlt := suffixes.count_lt hcount
  exact ⟨n, hcount, rfl, by rw [List.length_drop]; omega⟩

theorem count_registrableDomain (h : suffixes.registrableDomain labels = some domain) :
    suffixes.count domain = some (domain.length - 1) := by
  obtain ⟨n, hcount, rfl, hlength⟩ := exists_count_of_registrableDomain h
  rw [hlength]
  exact suffixes.count_registrable hcount

/-! ## From rules -/

section Rules

variable [DecidableEq L] (rules : List (List L))

/-- The longest end of the name that is a rule, with a label in front of it. -/
def longestRule (labels : List L) : ℕ :=
  Nat.findGreatest (fun n => labels.drop (labels.length - n) ∈ rules) (labels.length - 1)

theorem longestRule_registrable {labels : List L} (hpos : 0 < longestRule rules labels) :
    longestRule rules (labels.drop (labels.length - (longestRule rules labels + 1))) =
      longestRule rules labels := by
  have hle : longestRule rules labels ≤ labels.length - 1 := Nat.findGreatest_le _
  have hrule : labels.drop (labels.length - longestRule rules labels) ∈ rules :=
    Nat.findGreatest_of_ne_zero rfl hpos.ne'
  generalize longestRule rules labels = n at hpos hle hrule
  have hlength : (labels.drop (labels.length - (n + 1))).length = n + 1 := by
    rw [List.length_drop]
    omega
  refine le_antisymm ?_ ?_
  · unfold longestRule
    rw [hlength]
    exact Nat.findGreatest_le _
  · unfold longestRule
    rw [hlength]
    refine Nat.le_findGreatest (by omega) ?_
    rw [List.drop_drop, show labels.length - (n + 1) + (n + 1 - n) = labels.length - n by omega]
    exact hrule

def ofRules : PublicSuffixes L where
  count labels := if 0 < longestRule rules labels then some (longestRule rules labels) else none
  count_pos := by
    intro labels n h
    split at h
    · rename_i hpos
      cases h
      exact hpos
    · cases h
  count_lt := by
    intro labels n h
    split at h
    · rename_i hpos
      cases h
      have hle : longestRule rules labels ≤ labels.length - 1 := Nat.findGreatest_le _
      omega
    · cases h
  count_registrable := by
    intro labels n h
    split at h
    · rename_i hpos
      cases h
      rw [longestRule_registrable rules hpos, if_pos hpos]
    · cases h

end Rules

end PublicSuffixes

end Foundation
