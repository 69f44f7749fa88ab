import Mathlib.Data.List.AList
import Mathlib.Data.List.Dedup
import Mathlib.Data.List.Induction

/-!
# Hash containers

`absl::flat_hash_set` and `absl::flat_hash_map`. Both carry the order in which
they are iterated, which the code never fixes.
-/

namespace BiddingAuction

/-- `absl::flat_hash_set`, in the order it is iterated. -/
structure FlatHashSet (K : Type) where
  elems : List K
  nodup : elems.Nodup

namespace FlatHashSet

variable {K : Type}

instance : Membership K (FlatHashSet K) := ⟨fun s k => k ∈ s.elems⟩

instance [DecidableEq K] (k : K) (s : FlatHashSet K) : Decidable (k ∈ s) :=
  inferInstanceAs (Decidable (k ∈ s.elems))

def ofList [DecidableEq K] (l : List K) : FlatHashSet K := ⟨l.dedup, l.nodup_dedup⟩

def filter (p : K → Bool) (s : FlatHashSet K) : FlatHashSet K :=
  ⟨s.elems.filter p, s.nodup.filter p⟩

@[simp] theorem mem_ofList [DecidableEq K] {k : K} {l : List K} : k ∈ ofList l ↔ k ∈ l :=
  List.mem_dedup

@[simp] theorem mem_filter {p : K → Bool} {k : K} {s : FlatHashSet K} :
    k ∈ s.filter p ↔ k ∈ s ∧ p k = true :=
  List.mem_filter

end FlatHashSet

/-- `absl::flat_hash_map`, in the order it is iterated. -/
abbrev FlatHashMap (K V : Type) := AList fun _ : K => V

/-- Elements gathered key by key, for distinct keys, are the elements with one of
the keys. -/
theorem flatMap_filter_perm {α κ : Type} [DecidableEq κ] {keys : List κ} (hnodup : keys.Nodup)
    (l : List α) (f : α → κ) :
    (keys.flatMap fun k => l.filter fun a => f a = k).Perm (l.filter fun a => f a ∈ keys) := by
  induction keys with
  | nil => simp
  | cons k keys ih =>
    obtain ⟨hnot, hnodup⟩ := List.nodup_cons.mp hnodup
    have hsplit := (l.filter fun a => f a ∈ k :: keys).filter_append_perm fun a => f a = k
    simp only [List.filter_filter] at hsplit
    have hself : (l.filter fun a => decide (f a = k) && decide (f a ∈ k :: keys)) =
        l.filter fun a => f a = k := by
      refine List.filter_congr fun a _ => ?_
      by_cases h : f a = k <;> simp [h]
    have hothers : (l.filter fun a => !decide (f a = k) && decide (f a ∈ k :: keys)) =
        l.filter fun a => f a ∈ keys := by
      refine List.filter_congr fun a _ => ?_
      by_cases h : f a = k
      · simp [h, hnot]
      · simp [h]
    rw [hself, hothers] at hsplit
    rw [List.flatMap_cons]
    exact ((ih hnodup).append_left _).trans hsplit

theorem count_flatMap_of_nodup {α β κ : Type} [DecidableEq β] [DecidableEq κ] (key : α → κ)
    (keyOf : β → κ) {f : α → List β} {l : List α} (hnodup : (l.map key).Nodup)
    (hkey : ∀ a ∈ l, ∀ b ∈ f a, keyOf b = key a) (b : β) :
    (l.flatMap f).count b =
      ((l.find? fun a => key a = keyOf b).map fun a => (f a).count b).getD 0 := by
  induction l with
  | nil => rfl
  | cons a l ih =>
    obtain ⟨hnot, hnodup⟩ := List.nodup_cons.mp hnodup
    have hrest := ih hnodup fun a' ha' => hkey a' (List.mem_cons_of_mem a ha')
    rw [List.flatMap_cons, List.count_append, hrest]
    by_cases ha : key a = keyOf b
    · have hnone : (l.find? fun a' => key a' = keyOf b) = none :=
        List.find?_eq_none.mpr fun a' ha' heq =>
          hnot (List.mem_map.mpr ⟨a', ha', (of_decide_eq_true heq).trans ha.symm⟩)
      rw [hnone, List.find?_cons_of_pos (by simp [ha])]
      rfl
    · have hzero : (f a).count b = 0 := List.count_eq_zero.mpr fun hb =>
        ha (hkey a List.mem_cons_self b hb).symm
      rw [hzero, List.find?_cons_of_neg (by simp [ha]), Nat.zero_add]

namespace FlatHashMap

variable {K V : Type} [DecidableEq K]

/-- `emplace`: a key that is there keeps its value. -/
def emplace (m : FlatHashMap K V) (k : K) (v : V) : FlatHashMap K V :=
  if k ∈ m then m else m.insert k v

theorem lookup_emplace_self {m : FlatHashMap K V} {k : K} {v : V} :
    (emplace m k v).lookup k = some ((m.lookup k).getD v) := by
  unfold emplace
  split
  · rename_i hk
    obtain ⟨w, hw⟩ := Option.isSome_iff_exists.mp (AList.lookup_isSome.mpr hk)
    simp [hw]
  · rename_i hk
    rw [AList.lookup_insert, AList.lookup_eq_none.mpr hk]
    rfl

theorem lookup_emplace_of_notMem {m : FlatHashMap K V} {k : K} {v : V} (h : k ∉ m) :
    (emplace m k v).lookup k = some v := by
  rw [lookup_emplace_self, AList.lookup_eq_none.mpr h]
  rfl

theorem lookup_emplace_ne {m : FlatHashMap K V} {k k' : K} {v : V} (hne : k' ≠ k) :
    (emplace m k v).lookup k' = m.lookup k' := by
  unfold emplace
  split
  · rfl
  · exact AList.lookup_insert_ne hne

theorem mem_emplace {m : FlatHashMap K V} {k k' : K} {v : V} :
    k' ∈ emplace m k v ↔ k' = k ∨ k' ∈ m := by
  unfold emplace
  split
  · rename_i hk
    refine ⟨.inr, ?_⟩
    rintro (rfl | hk')
    · exact hk
    · exact hk'
  · exact AList.mem_insert _

theorem lookup_foldl_insert {W : Type} (f : K → V → W) {entries : List (Sigma fun _ : K => V)}
    (hnodup : entries.NodupKeys) (m : FlatHashMap K W) (k : K) :
    (entries.foldl (fun m e => m.insert e.1 (f e.1 e.2)) m).lookup k =
      ((entries.dlookup k).map (f k)).or (m.lookup k) := by
  induction entries generalizing m with
  | nil => simp
  | cons e entries ih =>
    obtain ⟨key, value⟩ := e
    obtain ⟨hnot, hnodup⟩ := List.nodupKeys_cons.mp hnodup
    rw [List.foldl_cons, ih hnodup]
    by_cases hk : k = key
    · subst hk
      rw [List.dlookup_eq_none.mpr hnot, List.dlookup_cons_eq, AList.lookup_insert]
      rfl
    · rw [List.dlookup_cons_ne _ _ hk, AList.lookup_insert_ne hk]

theorem lookup_foldl_emplace {entries : List (Sigma fun _ : K => V)}
    (hnodup : entries.NodupKeys) (m : FlatHashMap K V) (k : K) :
    (entries.foldl (fun m e => emplace m e.1 e.2) m).lookup k =
      (m.lookup k).or (entries.dlookup k) := by
  induction entries generalizing m with
  | nil => simp
  | cons e entries ih =>
    obtain ⟨key, value⟩ := e
    obtain ⟨hnot, hnodup⟩ := List.nodupKeys_cons.mp hnodup
    rw [List.foldl_cons, ih hnodup]
    by_cases hk : k = key
    · subst hk
      rw [lookup_emplace_self, List.dlookup_cons_eq]
      cases m.lookup k <;> rfl
    · rw [lookup_emplace_ne hk, List.dlookup_cons_ne _ _ hk]

theorem lookup_foldl_emplace_first {α : Type} (key : α → K) (value : α → V) (l : List α) (k : K) :
    (l.foldl (fun m a => emplace m (key a) (value a)) (∅ : FlatHashMap K V)).lookup k =
      (l.find? fun a => key a = k).map value := by
  induction l using List.reverseRecOn with
  | nil => rfl
  | append_singleton l a ih =>
    rw [List.foldl_append, List.foldl_cons, List.foldl_nil, List.find?_append]
    by_cases hk : k = key a
    · subst hk
      rw [lookup_emplace_self, ih]
      cases l.find? fun b => key b = key a <;> simp
    · rw [lookup_emplace_ne hk, ih]
      simp [Ne.symm hk]

theorem lookup_foldl_insert_last {α : Type} (key : α → K) (value : α → V) (l : List α) (k : K) :
    (l.foldl (fun m a => m.insert (key a) (value a)) (∅ : FlatHashMap K V)).lookup k =
      (l.reverse.find? fun a => key a = k).map value := by
  induction l using List.reverseRecOn with
  | nil => rfl
  | append_singleton l a ih =>
    rw [List.foldl_append, List.foldl_cons, List.foldl_nil, List.reverse_append,
      List.reverse_singleton, List.singleton_append]
    by_cases hk : k = key a
    · subst hk
      rw [AList.lookup_insert, List.find?_cons_of_pos (by simp)]
      rfl
    · rw [AList.lookup_insert_ne hk, ih, List.find?_cons_of_neg (by simpa using Ne.symm hk)]

/-- `m[k].push_back(v)`. -/
def push (m : FlatHashMap K (List V)) (k : K) (v : V) : FlatHashMap K (List V) :=
  m.insert k ((m.lookup k).getD [] ++ [v])

variable {α : Type}

/-- Elements grouped by a key, each group in the order of arrival. -/
def groupBy (key : α → K) (value : α → V) (l : List α) : FlatHashMap K (List V) :=
  l.foldl (fun m a => push m (key a) (value a)) ∅

theorem groupBy_concat {key : α → K} {value : α → V} (l : List α) (a : α) :
    groupBy key value (l ++ [a]) = push (groupBy key value l) (key a) (value a) := by
  unfold groupBy
  rw [List.foldl_append]
  rfl

theorem lookup_groupBy {key : α → K} {value : α → V} (l : List α) (k : K) :
    ((groupBy key value l).lookup k).getD [] = (l.filter fun a => key a = k).map value := by
  induction l using List.reverseRecOn with
  | nil => rfl
  | append_singleton l a ih =>
    rw [groupBy_concat, push, List.filter_append, List.map_append, ← ih]
    by_cases hk : key a = k
    · subst hk
      simp [AList.lookup_insert]
    · rw [AList.lookup_insert_ne (Ne.symm hk)]
      simp [hk]

theorem mem_groupBy {key : α → K} {value : α → V} {l : List α} {k : K} :
    k ∈ groupBy key value l ↔ ∃ a ∈ l, key a = k := by
  induction l using List.reverseRecOn with
  | nil => simp [groupBy, AList.notMem_empty]
  | append_singleton l a ih =>
    rw [groupBy_concat, push, AList.mem_insert, ih]
    simp [or_comm, or_and_right, exists_or, eq_comm]

theorem flatMap_groupBy_perm {key : α → K} {value : α → V} (l : List α) :
    ((groupBy key value l).entries.flatMap fun e => e.2).Perm (l.map value) := by
  have hgroup : ((groupBy key value l).entries.flatMap fun e => e.2) =
      ((groupBy key value l).keys.flatMap fun k => l.filter fun a => key a = k).map value := by
    rw [List.map_flatMap]
    show _ = ((groupBy key value l).entries.map Sigma.fst).flatMap _
    rw [List.flatMap_map]
    refine List.flatMap_congr fun e he => ?_
    rw [← lookup_groupBy, AList.mem_lookup_iff.mpr he]
    rfl
  have hall : (l.filter fun a => key a ∈ (groupBy key value l).keys) = l := by
    refine List.filter_eq_self.mpr fun a ha => decide_eq_true ?_
    exact AList.mem_keys.mp (mem_groupBy.mpr ⟨a, ha, rfl⟩)
  rw [hgroup]
  refine ((flatMap_filter_perm (AList.keys_nodup _) l key).map value).trans ?_
  rw [hall]

end FlatHashMap

/-- The order in which hash maps that the code builds are iterated. -/
structure HashOrder where
  entries : {K V : Type} → FlatHashMap K V → List (K × V)
  perm : ∀ {K V : Type} (m : FlatHashMap K V),
    (entries m).Perm (m.entries.map fun e => (e.1, e.2))

namespace HashOrder

def stored : HashOrder := ⟨fun m => m.entries.map fun e => (e.1, e.2), fun _ => .refl _⟩

variable {K V : Type} {ord : HashOrder} {m : FlatHashMap K V}

theorem mem_entries [DecidableEq K] {k : K} {v : V} :
    (k, v) ∈ ord.entries m ↔ m.lookup k = some v := by
  rw [(ord.perm m).mem_iff, ← Option.mem_def, AList.mem_lookup_iff]
  constructor
  · intro h
    obtain ⟨e, he, heq⟩ := List.mem_map.mp h
    cases heq
    exact he
  · intro h
    exact List.mem_map.mpr ⟨⟨k, v⟩, h, rfl⟩

theorem keys_nodup : ((ord.entries m).map Prod.fst).Nodup := by
  rw [((ord.perm m).map Prod.fst).nodup_iff, List.map_map]
  exact m.keys_nodup

theorem flatMap_groupBy_perm [DecidableEq K] {α : Type} {key : α → K} {value : α → V}
    (ord : HashOrder) (l : List α) :
    ((ord.entries (FlatHashMap.groupBy key value l)).flatMap Prod.snd).Perm (l.map value) := by
  refine ((ord.perm (FlatHashMap.groupBy key value l)).flatMap_right Prod.snd).trans ?_
  rw [List.flatMap_map]
  exact FlatHashMap.flatMap_groupBy_perm l

theorem group_of_mem_groupBy [DecidableEq K] {α : Type} {key : α → K} {value : α → V}
    {l : List α} {group : K × List V}
    (h : group ∈ ord.entries (FlatHashMap.groupBy key value l)) :
    group.2 = (l.filter fun a => key a = group.1).map value := by
  rw [← FlatHashMap.lookup_groupBy, mem_entries.mp h]
  rfl

end HashOrder

end BiddingAuction
