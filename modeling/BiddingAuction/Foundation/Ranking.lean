import Mathlib.Data.List.Basic
import Mathlib.Data.List.Sort
import Mathlib.Order.Defs.Unbundled

/-!
# Sorting and sampling, up to what they promise

A sort by a strict order returns some arrangement of its input in which nothing
stands behind something smaller; where equivalent elements end up is its own
affair. A sample of a list is a sublist of it. Both are structures over the
promise, so a statement about every `Sorting` and every `Sampling` covers every
tie break and every draw.

For the elements of a sorted list the section on ranks says which positions are
open to an element: as many as there are elements equivalent to it, after all
those greater than it.
-/

namespace Foundation

/-- `std::sort` by the strict order `gt`, greatest first. -/
structure Sorting {α : Type} (gt : α → α → Prop) where
  sort : List α → List α
  perm : ∀ l, (sort l).Perm l
  sorted : ∀ l, (sort l).Pairwise fun a b => ¬ gt b a

/-- `std::sample`: a sublist, of the size asked for where there are that many. -/
structure Sampling (α : Type) where
  sample : List α → ℕ → List α
  sublist : ∀ l n, (sample l n).Sublist l
  length : ∀ l n, (sample l n).length = min n l.length

namespace Sampling

variable {α : Type} (s : Sampling α)

theorem length_le (l : List α) (n : ℕ) : (s.sample l n).length ≤ n := by
  rw [s.length]
  exact Nat.min_le_left n l.length

theorem mem_of_mem {l : List α} {n : ℕ} {a : α} (ha : a ∈ s.sample l n) : a ∈ l :=
  (s.sublist l n).subset ha

def first (α : Type) : Sampling α where
  sample l n := l.take n
  sublist _ _ := List.take_sublist ..
  length _ _ := List.length_take

/-- The draw that takes `a` when it is to take one element of a list with `a`. -/
def preferring [DecidableEq α] (a : α) : Sampling α where
  sample l n := if n = 1 ∧ a ∈ l then [a] else l.take n
  sublist l n := by
    split
    · rename_i h
      exact List.singleton_sublist.mpr h.2
    · exact l.take_sublist n
  length l n := by
    split
    · rename_i h
      have hlen := List.length_pos_of_mem h.2
      rw [h.1, List.length_singleton]
      omega
    · exact List.length_take

end Sampling

namespace Sorting

variable {α : Type} {gt : α → α → Prop} (s : Sorting gt)

theorem mem_sort {l : List α} {a : α} : a ∈ s.sort l ↔ a ∈ l :=
  (s.perm l).mem_iff

def insertion {β : Type} [LinearOrder β] [DecidableRel gt] (key : α → β)
    (hkey : ∀ a b, gt a b ↔ key b < key a) : Sorting gt where
  sort l := l.insertionSort fun a b => ¬ gt b a
  perm l := l.perm_insertionSort _
  sorted l := by
    have htotal : Std.Total fun a b : α => ¬ gt b a :=
      ⟨fun a b => by simpa only [hkey, not_lt] using le_total (key b) (key a)⟩
    have htrans : IsTrans α fun a b => ¬ gt b a :=
      ⟨fun a b c => by simpa only [hkey, not_lt] using fun h h' => h'.trans h⟩
    exact l.pairwise_insertionSort _

open Classical in
/-- The same sort, but `l` is arranged as `target`. -/
noncomputable def arranging {l target : List α} (hperm : target.Perm l)
    (hsorted : target.Pairwise fun a b => ¬ gt b a) : Sorting gt where
  sort m := if m = l then target else s.sort m
  perm m := by
    split
    · rename_i h
      exact h ▸ hperm
    · exact s.perm m
  sorted m := by
    split
    · exact hsorted
    · exact s.sorted m

theorem arranging_sort {l target : List α} (hperm : target.Perm l)
    (hsorted : target.Pairwise fun a b => ¬ gt b a) :
    (s.arranging hperm hsorted).sort l = target :=
  if_pos rfl

end Sorting

/-! ## Ranks -/

section Ranks

variable {α β : Type} [LinearOrder β] {key : α → β} {gt : α → α → Prop} [DecidableRel gt]

/-- How many elements are greater than `a`. -/
def above (gt : α → α → Prop) [DecidableRel gt] (l : List α) (a : α) : ℕ :=
  l.countP fun b => gt b a

/-- How many elements are equivalent to `a`, itself included. -/
def tied (gt : α → α → Prop) [DecidableRel gt] (l : List α) (a : α) : ℕ :=
  l.countP fun b => ¬ gt a b ∧ ¬ gt b a

theorem eq_append_of_getElem? {l : List α} {p : ℕ} {a : α} (hp : l[p]? = some a) :
    ∃ front back, l = front ++ a :: back ∧ front.length = p := by
  obtain ⟨hlt, rfl⟩ := List.getElem?_eq_some_iff.mp hp
  refine ⟨l.take p, l.drop (p + 1), ?_, List.length_take_of_le hlt.le⟩
  rw [List.getElem_cons_drop hlt, List.take_append_drop]

variable (hkey : ∀ a b, gt a b ↔ key b < key a)
include hkey

/-- In front of `a` there are only elements greater than it or equivalent to it,
behind it none that is greater. -/
theorem sorted_around {front back : List α} {a : α}
    (hsorted : (front ++ a :: back).Pairwise fun a b => ¬ gt b a) :
    above gt (front ++ a :: back) a = above gt front a ∧
      tied gt (front ++ a :: back) a = tied gt front a + 1 + tied gt back a ∧
      front.length = above gt front a + tied gt front a := by
  obtain ⟨-, hback, hfront⟩ := List.pairwise_append.mp hsorted
  have hself : ¬ gt a a := fun h => lt_irrefl _ ((hkey a a).mp h)
  refine ⟨?_, ?_, ?_⟩
  · have hnone : above gt back a = 0 :=
      List.countP_eq_zero.mpr fun b hb => by simpa using (List.pairwise_cons.mp hback).1 b hb
    unfold above at hnone ⊢
    rw [List.countP_append, List.countP_cons, hnone]
    simp [hself]
  · unfold tied
    rw [List.countP_append, List.countP_cons]
    simp only [hself, not_false_eq_true, and_self, decide_true, if_true]
    omega
  · unfold above tied
    rw [List.length_eq_countP_add_countP fun b => gt b a]
    congr 1
    refine List.countP_congr fun b hb => ?_
    have hle : ¬ gt a b := hfront b hb a List.mem_cons_self
    simp [hle]

theorem tied_pos {l : List α} {a : α} (ha : a ∈ l) : 0 < tied gt l a := by
  refine List.countP_pos_iff.mpr ⟨a, ha, ?_⟩
  simp [hkey]

theorem position_mem_rank {l : List α} (hsorted : l.Pairwise fun a b => ¬ gt b a) {p : ℕ} {a : α}
    (hp : l[p]? = some a) : above gt l a ≤ p ∧ p < above gt l a + tied gt l a := by
  obtain ⟨front, back, rfl, rfl⟩ := eq_append_of_getElem? hp
  obtain ⟨habove, htied, hlen⟩ := sorted_around hkey hsorted
  omega

theorem position_of_first {l : List α} (hsorted : l.Pairwise fun a b => ¬ gt b a) {p : ℕ} {a : α}
    (hp : l[p]? = some a) (hfirst : ∀ b ∈ l.take p, gt a b ∨ gt b a) : p = above gt l a := by
  obtain ⟨front, back, rfl, rfl⟩ := eq_append_of_getElem? hp
  obtain ⟨habove, -, hlen⟩ := sorted_around hkey hsorted
  have hnone : tied gt front a = 0 := by
    refine List.countP_eq_zero.mpr fun b hb => ?_
    have := hfirst b (by rwa [List.take_left])
    simp only [decide_eq_true_eq, not_and_or, not_not]
    exact this
  omega

theorem greater_of_position {l : List α} (hsorted : l.Pairwise fun a b => ¬ gt b a) {p : ℕ} {a : α}
    (hp : l[p]? = some a) (habove : p = above gt l a) : ∀ b ∈ l.take p, gt b a := by
  obtain ⟨front, back, rfl, rfl⟩ := eq_append_of_getElem? hp
  obtain ⟨habove', -, hlen⟩ := sorted_around hkey hsorted
  have hall : front.countP (fun b => gt b a) = front.length := by
    unfold above at habove habove' hlen
    omega
  intro b hb
  rw [List.take_left] at hb
  exact of_decide_eq_true (List.countP_eq_length.mp hall b hb)

omit [DecidableRel gt] in
/-- Greater elements sorted, equals of `a` in any order, smaller elements sorted. -/
theorem sorted_between {high equals low : List α} {a : α}
    (hhigh : high.Pairwise fun a b => ¬ gt b a) (hlow : low.Pairwise fun a b => ¬ gt b a)
    (habove : ∀ b ∈ high, gt b a) (hequal : ∀ b ∈ equals, key b = key a)
    (hbelow : ∀ b ∈ low, gt a b) :
    (high ++ equals ++ low).Pairwise fun a b => ¬ gt b a := by
  simp only [hkey] at habove hbelow
  have hequals : equals.Pairwise fun a b => ¬ gt b a := by
    refine List.pairwise_of_forall_mem_list fun x hx y hy h => ?_
    exact absurd ((hkey y x).mp h) (by rw [hequal x hx, hequal y hy]; exact lt_irrefl _)
  refine List.pairwise_append.mpr ⟨List.pairwise_append.mpr ⟨hhigh, hequals, ?_⟩, hlow, ?_⟩
  · intro x hx y hy h
    have hlt := (hkey y x).mp h
    rw [hequal y hy] at hlt
    exact lt_asymm hlt (habove x hx)
  · intro x hx y hy h
    have hlt := (hkey y x).mp h
    rcases List.mem_append.mp hx with hx | hx
    · exact lt_asymm (hlt.trans (hbelow y hy)) (habove x hx)
    · rw [hequal x hx] at hlt
      exact lt_asymm hlt (hbelow y hy)

theorem exists_arrangement (s : Sorting gt) {l : List α} {p : ℕ} {a : α} (ha : a ∈ l)
    (hlow : above gt l a ≤ p) (hhigh : p < above gt l a + tied gt l a) :
    ∃ target : List α, target.Perm l ∧ (target.Pairwise fun a b => ¬ gt b a) ∧
      target[p]? = some a := by
  have hself : ¬ gt a a := fun h => lt_irrefl _ ((hkey a a).mp h)
  have hperm := s.perm l
  have hsorted := s.sorted l
  generalize s.sort l = m at hperm hsorted
  -- the sorted list falls into the greater, the equivalent and the smaller elements
  let high := m.filter fun b => gt b a
  let rest := m.filter fun b => ¬ gt b a
  let equals := rest.filter fun b => ¬ gt a b
  let low := rest.filter fun b => ¬ ¬ gt a b
  have hparts : (high ++ (equals ++ low)).Perm m := by
    have hrest : (equals ++ low).Perm rest := by
      simpa [equals, low] using rest.filter_append_perm fun b => ¬ gt a b
    have hall : (high ++ rest).Perm m := by
      simpa [high, rest] using m.filter_append_perm fun b => gt b a
    exact (hrest.append_left high).trans hall
  have hhighlen : high.length = above gt l a := by
    rw [above, ← hperm.countP_eq, List.countP_eq_length_filter]
  have hequalslen : equals.length = tied gt l a := by
    rw [tied, ← hperm.countP_eq, List.countP_eq_length_filter]
    simp only [equals, rest, List.filter_filter]
    congr 2
    funext b
    simp
  obtain ⟨u, v, huv⟩ : ∃ u v, equals = u ++ a :: v := by
    refine List.append_of_mem ?_
    simp [equals, rest, hself, hperm.mem_iff, ha]
  have hlen : u.length + v.length + 1 = tied gt l a := by
    rw [← hequalslen, huv]
    simp only [List.length_append, List.length_cons]
    omega
  -- put `a` at its place among its equals
  let others := u ++ v
  let k := p - above gt l a
  have hmid : (others.take k ++ a :: others.drop k).Perm equals := by
    rw [huv]
    refine List.perm_middle.trans (.trans (.cons a ?_) List.perm_middle.symm)
    rw [List.take_append_drop]
  refine ⟨high ++ (others.take k ++ a :: others.drop k) ++ low, ?_, ?_, ?_⟩
  · rw [List.append_assoc]
    exact (((hmid.append_right low).append_left high).trans hparts).trans hperm
  · refine sorted_between (a := a) hkey (hsorted.filter _) ((hsorted.filter _).filter _) ?_ ?_ ?_
    · intro b hb
      simpa using (List.mem_filter.mp hb).2
    · intro b hb
      have hb := hmid.mem_iff.mp hb
      simp only [equals, rest, List.mem_filter, decide_eq_true_eq, hkey, not_lt] at hb
      exact le_antisymm hb.1.2 hb.2
    · intro b hb
      simpa using (List.mem_filter.mp hb).2
  · have hk : (others.take k).length = k := by
      refine List.length_take_of_le ?_
      rw [List.length_append]
      omega
    rw [List.append_assoc, List.getElem?_append_right (by omega), List.append_assoc,
      List.getElem?_append_right (by omega), hk, hhighlen]
    have hzero : p - above gt l a - k = 0 := Nat.sub_self _
    rw [hzero]
    rfl

end Ranks

end Foundation
