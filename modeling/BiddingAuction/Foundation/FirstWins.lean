import Mathlib.Data.List.Nodup
import Mathlib.Tactic.Common

/-!
# Association lists where the first wins

Pairs are added one after another, each at the end unless its key is there. What is looked
up afterwards is what was added first.
-/

namespace Foundation

variable {K V : Type} [DecidableEq K]

def addFirst (acc : List (K × V)) (pair : K × V) : List (K × V) :=
  if acc.any (·.1 = pair.1) then acc else acc ++ [pair]

theorem any_key {acc : List (K × V)} {k : K} :
    acc.any (·.1 = k) = true ↔ k ∈ acc.map Prod.fst := by
  simp only [List.any_eq_true, decide_eq_true_eq, List.mem_map]

theorem find?_addFirst (acc : List (K × V)) (pair : K × V) (k : K) :
    (addFirst acc pair).find? (·.1 = k) =
      (acc.find? (·.1 = k)).or ([pair].find? (·.1 = k)) := by
  unfold addFirst
  split
  · rename_i hkey
    by_cases hk : pair.1 = k
    · obtain ⟨first, hfirst, hsame⟩ := List.mem_map.mp (any_key.mp hkey)
      have hfound : (acc.find? (·.1 = k)).isSome = true := by
        rw [List.find?_isSome]
        exact ⟨first, hfirst, by simp [hsame, hk]⟩
      obtain ⟨found, hfound⟩ := Option.isSome_iff_exists.mp hfound
      rw [hfound, Option.some_or]
    · rw [List.find?_cons_of_neg (by simpa using hk), List.find?_nil, Option.or_none]
  · rw [List.find?_append]

theorem mem_addFirst {acc : List (K × V)} {pair p : K × V} (h : p ∈ addFirst acc pair) :
    p ∈ acc ∨ p = pair := by
  unfold addFirst at h
  split at h
  · exact .inl h
  · simpa using h

theorem nodup_addFirst {acc : List (K × V)} (h : (acc.map Prod.fst).Nodup) (pair : K × V) :
    ((addFirst acc pair).map Prod.fst).Nodup := by
  unfold addFirst
  split
  · exact h
  · rename_i hkey
    rw [any_key] at hkey
    rw [List.map_append, List.nodup_append]
    refine ⟨h, by simp, ?_⟩
    rintro k hk k' hk' rfl
    simp only [List.map_cons, List.map_nil, List.mem_singleton] at hk'
    exact hkey (hk' ▸ hk)

theorem find?_foldl_addFirst (pairs acc : List (K × V)) (k : K) :
    (pairs.foldl addFirst acc).find? (·.1 = k) =
      (acc.find? (·.1 = k)).or (pairs.find? (·.1 = k)) := by
  induction pairs generalizing acc with
  | nil => simp
  | cons pair rest ih =>
    rw [List.foldl_cons, ih, find?_addFirst, Option.or_assoc, ← List.find?_append]
    rfl

theorem mem_foldl_addFirst {pairs acc : List (K × V)} {p : K × V}
    (h : p ∈ pairs.foldl addFirst acc) : p ∈ acc ∨ p ∈ pairs := by
  induction pairs generalizing acc with
  | nil => exact .inl h
  | cons pair rest ih =>
    rcases ih h with hacc | hrest
    · rcases mem_addFirst hacc with hold | rfl
      · exact .inl hold
      · exact .inr List.mem_cons_self
    · exact .inr (List.mem_cons_of_mem _ hrest)

theorem nodup_foldl_addFirst {pairs acc : List (K × V)} (h : (acc.map Prod.fst).Nodup) :
    ((pairs.foldl addFirst acc).map Prod.fst).Nodup := by
  induction pairs generalizing acc with
  | nil => exact h
  | cons pair rest ih => exact ih (nodup_addFirst h pair)

theorem foldl_addFirst_eq_nil {pairs : List (K × V)} :
    pairs.foldl addFirst [] = [] ↔ pairs = [] := by
  constructor
  · intro h
    cases pairs with
    | nil => rfl
    | cons pair rest =>
      have hfound := find?_foldl_addFirst (pair :: rest) [] pair.1
      rw [h] at hfound
      simp at hfound
  · rintro rfl
    rfl

theorem find?_of_mem {acc : List (K × V)} (h : (acc.map Prod.fst).Nodup) {p : K × V}
    (hp : p ∈ acc) : acc.find? (·.1 = p.1) = some p := by
  induction acc with
  | nil => cases hp
  | cons first rest ih =>
    obtain ⟨hnot, hrest⟩ := List.nodup_cons.mp h
    rcases List.mem_cons.mp hp with rfl | hmem
    · exact List.find?_cons_of_pos (by simp)
    · have hne : first.1 ≠ p.1 := fun heq => hnot (heq ▸ List.mem_map_of_mem hmem)
      rw [List.find?_cons_of_neg (by simpa using hne)]
      exact ih hrest hmem

/-! ## Loops within loops -/

theorem foldlM_eq_flatMap {α β γ : Type} {m : Type → Type} [Monad m] [LawfulMonad m]
    {l : List α} {step : β → α → m β} {f : α → List γ} {g : β → γ → m β}
    (h : ∀ a ∈ l, ∀ b, step b a = (f a).foldlM g b) (b : β) :
    l.foldlM step b = (l.flatMap f).foldlM g b := by
  induction l generalizing b with
  | nil => rfl
  | cons a rest ih =>
    rw [List.foldlM_cons, List.flatMap_cons, List.foldlM_append, h a List.mem_cons_self]
    exact bind_congr fun b => ih (fun a ha => h a (List.mem_cons_of_mem _ ha)) b

/-- What is gathered from elements under their indices has distinct keys if the keys tell
the index, and what comes from one element has. -/
theorem nodup_flatMap_zipIdx {α γ δ : Type} {l : List α} {f : α × ℕ → List γ} {key : γ → δ}
    (index : δ → ℕ) (hindex : ∀ a, ∀ c ∈ f a, index (key c) = a.2)
    (h : ∀ a ∈ l.zipIdx, ((f a).map key).Nodup) : ((l.zipIdx.flatMap f).map key).Nodup := by
  rw [List.map_flatMap, List.nodup_flatMap]
  refine ⟨h, ?_⟩
  have hdistinct : (l.zipIdx.map Prod.snd).Nodup := by
    rw [List.zipIdx_map_snd]
    exact List.nodup_range'
  refine (List.pairwise_map.mp hdistinct).imp fun {a a'} hne d hd hd' => ?_
  obtain ⟨c, hc, rfl⟩ := List.mem_map.mp hd
  obtain ⟨c', hc', heq⟩ := List.mem_map.mp hd'
  exact hne ((hindex a c hc).symm.trans ((congrArg index heq).symm.trans (hindex a' c' hc')))

end Foundation
