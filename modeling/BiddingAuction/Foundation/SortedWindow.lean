import Mathlib.Data.List.DropRight
import Mathlib.Data.List.Sort

/-!
# Sorted windows

The last elements of a list that grows at its end, and a sorted copy of them. As the window
moves, the copy gains one element and loses another; which of two equal elements it loses
makes no difference.
-/

namespace Foundation

section Sorted

variable {α : Type} [LinearOrder α]

theorem insertionSort_eq_of_perm {l l' : List α} (h : l.Perm l') (hsorted : l'.Pairwise (· ≤ ·)) :
    l.insertionSort (· ≤ ·) = l' := by
  have hperm : (l.insertionSort (· ≤ ·)).Perm l' := (List.perm_insertionSort _ l).trans h
  exact hperm.eq_of_pairwise' (List.pairwise_insertionSort _ l) hsorted

theorem insertionSort_concat (l : List α) (a : α) :
    (l ++ [a]).insertionSort (· ≤ ·) =
      (l.insertionSort (· ≤ ·)).orderedInsert (· ≤ ·) a := by
  apply insertionSort_eq_of_perm
  · have hinsert := List.perm_orderedInsert (· ≤ ·) a (l.insertionSort (· ≤ ·))
    have hsorted := (List.perm_insertionSort (· ≤ ·) l).cons a
    exact (List.perm_append_singleton a l).trans (hinsert.trans hsorted).symm
  · exact (List.pairwise_insertionSort _ l).orderedInsert a _

theorem erase_insertionSort (a : α) (l : List α) :
    ((a :: l).insertionSort (· ≤ ·)).erase a = l.insertionSort (· ≤ ·) := by
  symm
  apply insertionSort_eq_of_perm
  · have hsorted := (List.perm_insertionSort (· ≤ ·) (a :: l)).erase a
    rw [List.erase_cons_head] at hsorted
    exact hsorted.symm
  · exact (List.pairwise_insertionSort _ _).sublist List.erase_sublist

end Sorted

section Window

variable {α : Type} {l : List α} {w : ℕ}

theorem length_rtake : (l.rtake w).length = min w l.length := by
  rw [List.rtake, List.length_drop]
  omega

theorem rtake_concat_of_lt (h : l.length < w) (a : α) :
    (l ++ [a]).rtake w = l.rtake w ++ [a] := by
  unfold List.rtake
  rw [List.length_append, List.length_singleton]
  have hnew : l.length + 1 - w = 0 := by omega
  have hold : l.length - w = 0 := by omega
  rw [hnew, hold, List.drop_zero, List.drop_zero]

theorem rtake_concat_of_le (hpos : 0 < w) (h : w ≤ l.length) (a : α) :
    (l ++ [a]).rtake w = (l.rtake w ++ [a]).tail := by
  unfold List.rtake
  rw [List.length_append, List.length_singleton, ← List.drop_one,
    List.drop_append_of_le_length (by omega), List.drop_append_of_le_length, List.drop_drop]
  · congr 2
    omega
  · rw [List.length_drop]
    omega

end Window

end Foundation
