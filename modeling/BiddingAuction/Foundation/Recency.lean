import Mathlib.Data.List.Induction
import Mathlib.Data.List.Nodup
import Mathlib.Data.List.Perm.Basic

/-!
# Keyed lists kept in order of use

A list of entries with distinct keys, most recently used first. `promote`
moves the entry of a key to the front, `upsert` does so or puts a new entry
there; both may rewrite the entry they move. A batch of either has a closed
form: the named entries in reverse order of naming, then the untouched rest.
`RecencyOrdered log keys` says that `keys` are in order of their last mention
in `log`, a history of key uses with the latest first.
-/

namespace Foundation

universe u v

variable {κ : Type u} [DecidableEq κ]

/-! ## Order of last use -/

/-- The keys were all used, and a key used later stands earlier. -/
structure RecencyOrdered (log keys : List κ) : Prop where
  used : ∀ k ∈ keys, k ∈ log
  sorted : keys.Pairwise fun a b => log.idxOf a < log.idxOf b

private theorem pairwise_idxOf_of_nodup {keys : List κ} (hnodup : keys.Nodup) :
    keys.Pairwise fun a b => keys.idxOf a < keys.idxOf b := by
  rw [List.pairwise_iff_getElem]
  intro i j hi hj hij
  rw [hnodup.idxOf_getElem i hi, hnodup.idxOf_getElem j hj]
  exact hij

theorem RecencyOrdered.nil (log : List κ) : RecencyOrdered log [] :=
  ⟨by simp, List.Pairwise.nil⟩

theorem RecencyOrdered.sublist {log keys keys' : List κ} (ordered : RecencyOrdered log keys)
    (hsub : keys'.Sublist keys) : RecencyOrdered log keys' :=
  ⟨fun k hk => ordered.used k (hsub.subset hk), ordered.sorted.sublist hsub⟩

/-- Using the keys of a batch in turn, some of them (`touched`) kept: they move
to the front in reverse order of use, ahead of the keys outside the batch. -/
theorem RecencyOrdered.batch {log keys batch touched : List κ}
    (ordered : RecencyOrdered log keys) (hbatch : batch.Nodup) (hsub : touched.Sublist batch) :
    RecencyOrdered (batch.reverse ++ log)
      (touched.reverse ++ keys.filter fun k => k ∉ batch) := by
  have hfront : ∀ k ∈ touched.reverse, k ∈ batch.reverse := by
    intro k hk
    exact List.mem_reverse.mpr (hsub.subset (List.mem_reverse.mp hk))
  refine ⟨?_, List.pairwise_append.mpr ⟨?_, ?_, ?_⟩⟩
  · intro k hk
    rcases List.mem_append.mp hk with hk | hk
    · exact List.mem_append_left _ (hfront k hk)
    · exact List.mem_append_right _ (ordered.used k (List.mem_of_mem_filter hk))
  · have hrev : batch.reverse.Nodup := List.nodup_reverse.mpr hbatch
    refine ((pairwise_idxOf_of_nodup hrev).sublist hsub.reverse).imp_of_mem ?_
    intro a b ha hb hlt
    rwa [List.idxOf_append_of_mem (hfront a ha), List.idxOf_append_of_mem (hfront b hb)]
  · refine (ordered.sorted.filter _).imp_of_mem ?_
    intro a b ha hb hlt
    have haout : a ∉ batch.reverse := by simpa using List.of_mem_filter ha
    have hbout : b ∉ batch.reverse := by simpa using List.of_mem_filter hb
    rw [List.idxOf_append_of_notMem haout, List.idxOf_append_of_notMem hbout]
    omega
  · -- a key of the batch is found before the old log begins
    intro a ha b hb
    have hbout : b ∉ batch.reverse := by simpa using List.of_mem_filter hb
    rw [List.idxOf_append_of_mem (hfront a ha), List.idxOf_append_of_notMem hbout]
    have hlt := List.idxOf_lt_length_of_mem (hfront a ha)
    omega

/-! ## Moving entries to the front -/

section Entries

variable {α : Type v} (key : α → κ)

def entryAt (k : κ) (xs : List α) : Option α := xs.find? fun e => key e = k

/-- The entries whose key is not `k`. -/
def withoutKey (k : κ) (xs : List α) : List α := xs.filter fun e => key e ≠ k

/-- Move the entry of `k`, rewritten by `f`, to the front; nothing happens when
there is none. -/
def promote (f : α → α) (k : κ) (xs : List α) : List α :=
  match entryAt key k xs with
  | some e => f e :: withoutKey key k xs
  | none => xs

/-- The entry that stands for `e` after an upsert: the present one rewritten by
`f`, or `e` itself. -/
def settled (f : α → α) (xs : List α) (e : α) : α :=
  ((entryAt key (key e) xs).map f).getD e

/-- Put the entry of `e`'s key, rewritten by `f`, or `e` if there is none, at the front. -/
def upsert (f : α → α) (e : α) (xs : List α) : List α :=
  settled key f xs e :: withoutKey key (key e) xs

variable {key}

theorem key_of_entryAt {k : κ} {xs : List α} {e : α} (h : entryAt key k xs = some e) :
    key e = k := by
  simpa using List.find?_some h

theorem mem_of_entryAt {k : κ} {xs : List α} {e : α} (h : entryAt key k xs = some e) : e ∈ xs :=
  List.mem_of_find?_eq_some h

theorem entryAt_cons (k : κ) (e : α) (xs : List α) :
    entryAt key k (e :: xs) = if key e = k then some e else entryAt key k xs := by
  by_cases h : key e = k
  · simp [entryAt, h]
  · simp [entryAt, h]

theorem entryAt_eq_none {k : κ} {xs : List α} : entryAt key k xs = none ↔ k ∉ xs.map key := by
  simp only [entryAt, List.find?_eq_none, List.mem_map, decide_eq_true_eq]
  grind

theorem entryAt_of_mem {xs : List α} (hnodup : (xs.map key).Nodup) {e : α} (he : e ∈ xs) :
    entryAt key (key e) xs = some e := by
  induction xs with
  | nil => exact absurd he List.not_mem_nil
  | cons x xs ih =>
    simp only [List.map_cons, List.nodup_cons] at hnodup
    rcases List.mem_cons.mp he with rfl | he
    · simp [entryAt]
    · have hne : key x ≠ key e := by
        intro h
        exact hnodup.1 (h ▸ List.mem_map_of_mem he)
      simpa [entryAt, List.find?_cons, hne] using ih hnodup.2 he

/-- With distinct keys the entry of `k` is the member with that key. -/
theorem entryAt_eq_some {xs : List α} (hnodup : (xs.map key).Nodup) {k : κ} {e : α} :
    entryAt key k xs = some e ↔ e ∈ xs ∧ key e = k := by
  constructor
  · intro h
    exact ⟨mem_of_entryAt h, key_of_entryAt h⟩
  · rintro ⟨he, rfl⟩
    exact entryAt_of_mem hnodup he

theorem entryAt_filter {p : κ → Bool} {k : κ} {xs : List α} (hk : p k = true) :
    entryAt key k (xs.filter fun e => p (key e)) = entryAt key k xs := by
  induction xs with
  | nil => rfl
  | cons x xs ih =>
    by_cases hx : key x = k
    · simp [entryAt, hx, hk]
    · by_cases hp : p (key x) = true
      · simpa [entryAt, List.filter_cons, List.find?_cons, hx, hp] using ih
      · simpa [entryAt, List.filter_cons, List.find?_cons, hx, hp] using ih

theorem entryAt_append {k : κ} {xs ys : List α} (hxs : k ∉ xs.map key) :
    entryAt key k (xs ++ ys) = entryAt key k ys := by
  have hnone := entryAt_eq_none.mpr hxs
  simp only [entryAt] at hnone ⊢
  rw [List.find?_append, hnone, Option.none_or]

theorem map_withoutKey (k : κ) (xs : List α) :
    (withoutKey key k xs).map key = (xs.map key).filter fun k' => k' ≠ k := by
  simp [withoutKey, List.filter_map, Function.comp_def]

theorem withoutKey_of_notMem {k : κ} {xs : List α} (hk : k ∉ xs.map key) :
    withoutKey key k xs = xs := by
  refine List.filter_eq_self.mpr ?_
  intro e he
  simp only [decide_eq_true_eq]
  intro h
  exact hk (h ▸ List.mem_map_of_mem he)

theorem length_withoutKey_lt {k : κ} {xs : List α} (hk : k ∈ xs.map key) :
    (withoutKey key k xs).length < xs.length := by
  obtain ⟨e, he, rfl⟩ := List.mem_map.mp hk
  exact List.length_filter_lt_length_iff_exists.mpr ⟨e, he, by simp⟩

theorem withoutKey_append_cons {pre post : List α} {e : α}
    (hnodup : ((pre ++ e :: post).map key).Nodup) :
    withoutKey key (key e) (pre ++ e :: post) = pre ++ post := by
  simp only [List.map_append, List.map_cons, List.nodup_append, List.nodup_cons] at hnodup
  obtain ⟨-, ⟨hpost, -⟩, hdisjoint⟩ := hnodup
  have hpre : key e ∉ pre.map key := fun h => hdisjoint _ h _ List.mem_cons_self rfl
  have hkept := withoutKey_of_notMem hpre
  have hkept' := withoutKey_of_notMem hpost
  unfold withoutKey at hkept hkept' ⊢
  rw [List.filter_append, List.filter_cons_of_neg (by simp), hkept, hkept']

private theorem withoutKey_behind {k : κ} {keys : List κ} {front xs : List α}
    (hfront : k ∉ front.map key) :
    withoutKey key k (front ++ xs.filter fun e => key e ∉ keys) =
      front ++ xs.filter fun e => key e ∉ keys ++ [k] := by
  have hkept := withoutKey_of_notMem hfront
  unfold withoutKey at hkept ⊢
  rw [List.filter_append, hkept, List.filter_filter]
  congr 2
  funext e
  simp [Bool.and_comm]

/-! ## Batches in closed form -/

section Batches

variable {f : α → α} (hf : ∀ e, key (f e) = key e)
include hf

theorem key_settled (xs : List α) (e : α) : key (settled key f xs e) = key e := by
  unfold settled
  cases h : entryAt key (key e) xs with
  | none => rfl
  | some e' => exact (hf e').trans (key_of_entryAt h)

/-- Upserting a batch with distinct keys: the settled entries in reverse order,
then the entries of other keys. -/
theorem foldl_upsert {batch : List α} (hbatch : (batch.map key).Nodup) (xs : List α) :
    batch.foldl (fun xs e => upsert key f e xs) xs =
      (batch.map (settled key f xs)).reverse ++ xs.filter fun e => key e ∉ batch.map key := by
  induction batch using List.reverseRecOn with
  | nil => simp
  | append_singleton batch e ih =>
    simp only [List.map_append, List.map_cons, List.map_nil, List.nodup_append] at hbatch
    have hnew : key e ∉ batch.map key := fun h => hbatch.2.2 _ h _ (by simp) rfl
    have hkeys : (batch.map (settled key f xs)).reverse.map key = (batch.map key).reverse := by
      rw [List.map_reverse, List.map_map]
      congr 1
      exact List.map_congr_left fun e _ => key_settled hf xs e
    have hfront : key e ∉ (batch.map (settled key f xs)).reverse.map key := by
      rw [hkeys]
      simpa using hnew
    have hentry : entryAt key (key e) ((batch.map (settled key f xs)).reverse ++
        xs.filter fun e => key e ∉ batch.map key) = entryAt key (key e) xs := by
      rw [entryAt_append hfront]
      exact entryAt_filter (p := fun k => k ∉ batch.map key) (by simpa using hnew)
    rw [List.foldl_append, List.foldl_cons, List.foldl_nil, ih hbatch.1]
    rw [upsert, settled, hentry, withoutKey_behind hfront]
    simp only [List.map_append, List.map_cons, List.map_nil, List.reverse_append,
      List.reverse_cons, List.reverse_nil, List.nil_append, List.cons_append]
    rfl

theorem map_key_promoted (keys : List κ) (xs : List α) :
    (keys.filterMap fun k => (entryAt key k xs).map f).map key =
      keys.filter fun k => k ∈ xs.map key := by
  induction keys with
  | nil => rfl
  | cons k keys ih =>
    cases h : entryAt key k xs with
    | none =>
      have habsent := entryAt_eq_none.mp h
      rw [List.filterMap_cons_none (by rw [h]; rfl),
        List.filter_cons_of_neg (by simpa using habsent), ih]
    | some e =>
      have hpresent : k ∈ xs.map key :=
        key_of_entryAt h ▸ List.mem_map_of_mem (mem_of_entryAt h)
      rw [List.filterMap_cons_some (by rw [h]; rfl), List.map_cons, ih,
        List.filter_cons_of_pos (by simpa using hpresent), hf, key_of_entryAt h]

/-- Promoting a batch of distinct keys: the present ones in reverse order, then
the entries of other keys. -/
theorem foldl_promote {keys : List κ} (hkeys : keys.Nodup) (xs : List α) :
    keys.foldl (fun xs k => promote key f k xs) xs =
      (keys.filterMap fun k => (entryAt key k xs).map f).reverse ++
        xs.filter fun e => key e ∉ keys := by
  induction keys using List.reverseRecOn with
  | nil => simp
  | append_singleton keys k ih =>
    simp only [List.nodup_append] at hkeys
    have hnew : k ∉ keys := fun h => hkeys.2.2 _ h _ (by simp) rfl
    have hfront : k ∉ (keys.filterMap fun k => (entryAt key k xs).map f).reverse.map key := by
      rw [List.map_reverse, map_key_promoted hf]
      simp [hnew]
    have hentry : entryAt key k ((keys.filterMap fun k => (entryAt key k xs).map f).reverse ++
        xs.filter fun e => key e ∉ keys) = entryAt key k xs := by
      rw [entryAt_append hfront]
      exact entryAt_filter (p := fun k => k ∉ keys) (by simpa using hnew)
    rw [List.foldl_append, List.foldl_cons, List.foldl_nil, ih hkeys.1, promote, hentry]
    cases h : entryAt key k xs with
    | none =>
      -- no member has key `k`, so excluding it changes nothing
      have habsent := entryAt_eq_none.mp h
      simp only [List.filterMap_append, List.filterMap_cons, h, Option.map_none,
        List.filterMap_nil, List.append_nil]
      congr 1
      refine List.filter_congr ?_
      intro e he
      have hne : key e ≠ k := fun heq => habsent (heq ▸ List.mem_map_of_mem he)
      simp [hne]
    | some e =>
      show f e :: withoutKey key k _ = _
      rw [withoutKey_behind hfront]
      simp only [List.filterMap_append, List.filterMap_cons, h, Option.map_some,
        List.filterMap_nil, List.reverse_append, List.reverse_cons, List.reverse_nil,
        List.nil_append, List.cons_append]

end Batches

end Entries

/-! ## Changing the entry type -/

section Map

variable {α β : Type*} (key : β → κ) (g : α → β)

theorem entryAt_map (k : κ) (xs : List α) :
    entryAt key k (xs.map g) = (entryAt (fun a => key (g a)) k xs).map g := by
  rw [entryAt, List.find?_map]
  rfl

theorem withoutKey_map (k : κ) (xs : List α) :
    withoutKey key k (xs.map g) = (withoutKey (fun a => key (g a)) k xs).map g := by
  simp [withoutKey, List.filter_map, Function.comp_def]

end Map

end Foundation
