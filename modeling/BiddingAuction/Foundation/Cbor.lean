import Mathlib.Data.List.Sort
import Mathlib.Data.Option.NAry
import Mathlib.Data.Rat.Defs
import Mathlib.Data.String.Basic

/-!
# CBOR items and the containers they are built in

The data items of CBOR, the canonical order of map keys, and definite-length
maps and arrays under construction. A definite container has a capacity and
turns away what it has no room for; `Emit` counts how often that happens.
`Appends` is the rule a builder is verified by: what it adds to a container that
has room, or that it gives up without having been turned away.
-/

namespace Foundation.Cbor

inductive Precision where
  | half
  | single
  | double
deriving DecidableEq, Repr

/-- The value of a binary floating-point number. -/
inductive FloatVal where
  | fin (q : ℚ)
  | inf (negative : Bool)
  | nan
deriving DecidableEq, Repr

namespace FloatVal

instance : Zero FloatVal := ⟨.fin 0⟩

/-- The order of the machine: no number is neither less nor greater. -/
def lt : FloatVal → FloatVal → Bool
  | fin a, fin b => a < b
  | fin _, inf negative => !negative
  | inf negative, fin _ => negative
  | inf negative, inf negative' => negative && !negative'
  | nan, _ => false
  | _, nan => false

instance : LT FloatVal := ⟨fun v w => v.lt w = true⟩

instance : DecidableLT FloatVal := fun v w => inferInstanceAs (Decidable (v.lt w = true))

end FloatVal

/-- A data item. The width of an integer is the least one that holds it. -/
inductive Item where
  | uint (n : ℕ)
  /-- The integer `-1 - n`. -/
  | negint (n : ℕ)
  | bytes (b : List UInt8)
  | text (s : String)
  | array (items : List Item)
  | map (pairs : List (Item × Item))
  | bool (b : Bool)
  | float (precision : Precision) (value : FloatVal)

abbrev Fields := List (String × Item)

namespace Item

def record (fs : Fields) : Item := .map (fs.map fun f => (.text f.1, f.2))

/-! ## Equality is decidable -/

mutual

def beq : Item → Item → Bool
  | uint m, uint n => m = n
  | negint m, negint n => m = n
  | bytes a, bytes b => a = b
  | text s, text t => s = t
  | array xs, array ys => beqItems xs ys
  | map ps, map qs => beqPairs ps qs
  | bool a, bool b => a = b
  | float p v, float q w => p = q && v = w
  | _, _ => false

def beqItems : List Item → List Item → Bool
  | [], [] => true
  | x :: xs, y :: ys => x.beq y && beqItems xs ys
  | _, _ => false

def beqPairs : List (Item × Item) → List (Item × Item) → Bool
  | [], [] => true
  | (k, v) :: ps, (l, w) :: qs => k.beq l && v.beq w && beqPairs ps qs
  | _, _ => false

end

mutual

theorem beq_iff : (a b : Item) → (a.beq b = true ↔ a = b)
  | uint _, b => by cases b <;> simp [beq]
  | negint _, b => by cases b <;> simp [beq]
  | bytes _, b => by cases b <;> simp [beq]
  | text _, b => by cases b <;> simp [beq]
  | array xs, b => by cases b <;> simp [beq, beqItems_iff xs]
  | map ps, b => by cases b <;> simp [beq, beqPairs_iff ps]
  | bool _, b => by cases b <;> simp [beq]
  | float _ _, b => by cases b <;> simp [beq]

theorem beqItems_iff : (xs ys : List Item) → (beqItems xs ys = true ↔ xs = ys)
  | [], ys => by cases ys <;> simp [beqItems]
  | x :: xs, ys => by
    cases ys with
    | nil => simp [beqItems]
    | cons y ys => simp [beqItems, beq_iff x y, beqItems_iff xs ys]

theorem beqPairs_iff : (ps qs : List (Item × Item)) → (beqPairs ps qs = true ↔ ps = qs)
  | [], qs => by cases qs <;> simp [beqPairs]
  | (k, v) :: ps, qs => by
    cases qs with
    | nil => simp [beqPairs]
    | cons q qs =>
      obtain ⟨l, w⟩ := q
      simp [beqPairs, beq_iff k l, beq_iff v w, beqPairs_iff ps qs]

end

instance : DecidableEq Item := fun a b => decidable_of_iff (a.beq b = true) (beq_iff a b)

end Item

/-! ## Canonical order -/

/-- The shorter key first, keys of one length in lexicographic order. -/
def KeyLt (a b : String) : Prop :=
  if a.utf8ByteSize = b.utf8ByteSize then a < b else a.utf8ByteSize < b.utf8ByteSize

instance : DecidableRel KeyLt := fun a b =>
  inferInstanceAs (Decidable (if a.utf8ByteSize = b.utf8ByteSize then a < b
    else a.utf8ByteSize < b.utf8ByteSize))

theorem KeyLt.irrefl (a : String) : ¬ KeyLt a a := by
  unfold KeyLt
  rw [if_pos rfl]
  exact lt_irrefl a

theorem KeyLt.trans {a b c : String} (hab : KeyLt a b) (hbc : KeyLt b c) : KeyLt a c := by
  unfold KeyLt at hab hbc ⊢
  split at hab <;> split at hbc <;> split
  · exact lt_trans hab hbc
  all_goals omega

theorem KeyLt.connected {a b : String} (hne : a ≠ b) : KeyLt a b ∨ KeyLt b a := by
  unfold KeyLt
  by_cases hsize : a.utf8ByteSize = b.utf8ByteSize
  · rw [if_pos hsize, if_pos hsize.symm]
    exact lt_or_gt_of_ne hne
  · rw [if_neg hsize, if_neg (Ne.symm hsize)]
    omega

/-- Not after: the order a sorted container keeps its keys in. -/
def KeyLe (a b : String) : Prop := ¬ KeyLt b a

instance : DecidableRel KeyLe := fun a b => inferInstanceAs (Decidable (¬ KeyLt b a))

instance : Std.Total KeyLe where
  total a b := by
    by_cases hba : KeyLt b a
    · refine .inr fun hab => KeyLt.irrefl a (hab.trans hba)
    · exact .inl hba

instance : IsTrans String KeyLe where
  trans a b c hab hbc hca := by
    by_cases h : a = b
    · subst h
      exact hbc hca
    · rcases KeyLt.connected h with hlt | hlt
      · exact hbc (hca.trans hlt)
      · exact hab hlt

def sortKeys (keys : List String) : List String := keys.insertionSort KeyLe

theorem sortKeys_perm (keys : List String) : (sortKeys keys).Perm keys :=
  List.perm_insertionSort KeyLe keys

theorem sortKeys_strict {keys : List String} (hnodup : keys.Nodup) :
    (sortKeys keys).Pairwise KeyLt := by
  have hsorted : (sortKeys keys).Pairwise KeyLe := List.pairwise_insertionSort KeyLe keys
  have hdistinct : (sortKeys keys).Pairwise (· ≠ ·) := (sortKeys_perm keys).nodup_iff.mpr hnodup
  refine (hsorted.and hdistinct).imp fun {a b} h => ?_
  exact (KeyLt.connected h.2).resolve_right h.1

/-- Every map in the item has text keys in strictly increasing canonical order. -/
inductive Item.Canonical : Item → Prop
  | uint (n : ℕ) : Canonical (.uint n)
  | negint (n : ℕ) : Canonical (.negint n)
  | bytes (b : List UInt8) : Canonical (.bytes b)
  | text (s : String) : Canonical (.text s)
  | bool (b : Bool) : Canonical (.bool b)
  | float (p : Precision) (v : FloatVal) : Canonical (.float p v)
  | array {items : List Item} : (∀ item ∈ items, Canonical item) → Canonical (.array items)
  | record {fs : Fields} : (fs.map Prod.fst).Pairwise KeyLt → (∀ f ∈ fs, Canonical f.2) →
      Canonical (.record fs)

theorem Item.record_injective : Function.Injective Item.record := by
  intro fs gs h
  unfold Item.record at h
  have hmap := Item.map.inj h
  refine (List.map_injective_iff.mpr ?_) hmap
  intro f g hfg
  obtain ⟨hkey, hvalue⟩ := Prod.mk.inj hfg
  exact Prod.ext (Item.text.inj hkey) hvalue

theorem Item.Canonical.keys {fs : Fields} (h : (Item.record fs).Canonical) :
    (fs.map Prod.fst).Pairwise KeyLt := by
  generalize hitem : Item.record fs = item at h
  cases h with
  | record hkeys _ => rwa [Item.record_injective hitem]
  | _ => cases hitem

theorem Item.Canonical.of_sublist {fs : Fields} {keys : List String}
    (hsub : (fs.map Prod.fst).Sublist keys) (hkeys : keys.Pairwise KeyLt)
    (hvalues : ∀ f ∈ fs, f.2.Canonical) : (Item.record fs).Canonical :=
  .record (hkeys.sublist hsub) hvalues

/-! ## Containers under construction -/

structure Definite (α : Type) where
  capacity : ℕ
  entries : List α

abbrev DefiniteMap := Definite (Item × Item)

abbrev DefiniteArray := Definite Item

/-- What building has left behind besides its result: how many entries were
turned away, and the messages reported on the way. -/
structure Trace where
  refused : ℕ := 0
  reported : List String := []

abbrev Emit (ε α : Type) := ExceptT ε (StateM Trace) α

variable {ε α β : Type}

@[simp] theorem ok_bind (a : α) (f : α → Except ε β) : (Except.ok a >>= f) = f a := rfl

@[simp] theorem pure_eq_ok (a : α) : (pure a : Except ε α) = .ok a := rfl

namespace Emit

def result (act : Emit ε α) : Except ε α := (act.run.run {}).1

def refused (act : Emit ε α) : ℕ := (act.run.run {}).2.refused

def reported (act : Emit ε α) : List String := (act.run.run {}).2.reported

def report (message : String) : Emit ε Unit :=
  modify fun t => { t with reported := t.reported ++ [message] }

def ofExcept (x : Except ε α) : Emit ε α := ExceptT.mk (pure x)

def attempt (act : Emit ε α) : Emit ε (Option α) :=
  tryCatch (some <$> act) fun _ => pure none

def giveUp (messages : List String) (e : ε) : Emit ε α :=
  ExceptT.mk fun t => (.error e, { t with reported := t.reported ++ messages })

def Fails (act : Emit ε α) : Prop := ∃ messages e, act = giveUp messages e

theorem ofExcept_error (e : ε) : (ofExcept (.error e) : Emit ε α) = throw e := rfl

theorem giveUp_bind (messages : List String) (e : ε) (k : α → Emit ε β) :
    (giveUp messages e >>= k) = giveUp messages e := rfl

theorem throw_eq (e : ε) : (throw e : Emit ε α) = giveUp [] e := by
  funext t
  show (Except.error e, t) = (Except.error e, { t with reported := t.reported ++ [] })
  rw [List.append_nil]

theorem report_giveUp (message : String) (messages : List String) (e : ε) :
    (report message >>= fun _ => (giveUp messages e : Emit ε α)) =
      giveUp (message :: messages) e := by
  funext t
  show (Except.error e, { t with reported := t.reported ++ [message] ++ messages }) =
    (Except.error e, { t with reported := t.reported ++ message :: messages })
  rw [List.append_assoc]
  rfl

theorem attempt_pure (a : α) : attempt (pure a : Emit ε α) = pure (some a) := rfl

theorem tryCatch_giveUp (messages : List String) (e : ε) (handler : ε → Emit ε α) (e' : ε)
    (messages' : List String) (h : handler e = giveUp messages' e') :
    tryCatch (giveUp messages e : Emit ε α) handler = giveUp (messages ++ messages') e' := by
  funext t
  show (handler e).run { t with reported := t.reported ++ messages } =
    (Except.error e', { t with reported := t.reported ++ (messages ++ messages') })
  rw [h, ← List.append_assoc]
  rfl

theorem result_pure (a : α) : (pure a : Emit ε α).result = .ok a := rfl

theorem Fails.bind {act : Emit ε α} (h : act.Fails) (k : α → Emit ε β) : (act >>= k).Fails := by
  obtain ⟨messages, e, rfl⟩ := h
  exact ⟨messages, e, giveUp_bind messages e k⟩

theorem Fails.result_ne {act : Emit ε α} (h : act.Fails) (a : α) : act.result ≠ .ok a := by
  obtain ⟨messages, e, rfl⟩ := h
  intro heq
  cases heq

theorem Fails.refused_eq {act : Emit ε α} (h : act.Fails) : act.refused = 0 := by
  obtain ⟨messages, e, rfl⟩ := h
  rfl

end Emit

namespace Definite

/-- `cbor_new_definite_map`, `cbor_new_definite_array`. -/
def new (capacity : ℕ) : Definite α := ⟨capacity, []⟩

def append (c : Definite α) (l : List α) : Definite α := { c with entries := c.entries ++ l }

/-- `cbor_map_add`, `cbor_array_push`: a container that is full turns the entry
away. -/
def add (c : Definite α) (a : α) : Emit ε (Option (Definite α)) :=
  if c.entries.length < c.capacity then
    pure (some (c.append [a]))
  else do
    modify fun t => { t with refused := t.refused + 1 }
    return none

/-- An entry added; if it is turned away, that is reported and building fails. -/
def addOr (message : String) (e : ε) (a : α) (c : Definite α) : Emit ε (Definite α) := do
  match ← c.add a with
  | some c => return c
  | none =>
    Emit.report message
    throw e

def addOrSkip (a : α) (c : Definite α) : Emit ε (Definite α) := do
  return (← c.add a).getD c

theorem append_nil (c : Definite α) : c.append [] = c := by
  unfold append
  rw [List.append_nil]

theorem append_append (c : Definite α) (l l' : List α) :
    (c.append l).append l' = c.append (l ++ l') := by
  unfold append
  rw [List.append_assoc]

theorem add_of_room {c : Definite α} (h : c.entries.length < c.capacity) (a : α) :
    (c.add a : Emit ε (Option (Definite α))) = pure (some (c.append [a])) := if_pos h

end Definite

/-! ## What a builder appends -/

/-- In a container with room for `n` more entries, `act` appends `out`, at most
`n` of them; where `out` is `none`, it fails. No entry is turned away. -/
structure Appends (n : ℕ) (act : Definite α → Emit ε (Definite α)) (out : Option (List α)) :
    Prop where
  length_le : ∀ l, out = some l → l.length ≤ n
  appends : ∀ c : Definite α, c.entries.length + n ≤ c.capacity →
    ∀ l, out = some l → act c = pure (c.append l)
  fails : ∀ c : Definite α, c.entries.length + n ≤ c.capacity → out = none → (act c).Fails

namespace Appends

variable {n k : ℕ} {act act' : Definite α → Emit ε (Definite α)} {out out' : Option (List α)}

theorem nothing : Appends (ε := ε) 0 (fun c : Definite α => pure c) (some []) where
  length_le l hl := by
    cases hl
    exact Nat.le_refl 0
  appends c _ l hl := by
    cases hl
    rw [c.append_nil]
  fails c _ h := by cases h

theorem addOr (message : String) (e : ε) (a : α) :
    Appends 1 (Definite.addOr message e a) (some [a]) where
  length_le l hl := by
    cases hl
    exact Nat.le_refl 1
  appends c hroom l hl := by
    cases hl
    unfold Definite.addOr
    rw [Definite.add_of_room (by omega)]
    rfl
  fails c _ h := by cases h

theorem ofExcept {x : Except ε β} {add : β → Definite α → Emit ε (Definite α)} {entry : β → α}
    (hadd : ∀ b, Appends 1 (add b) (some [entry b])) :
    Appends 1 (fun c => Emit.ofExcept x >>= fun b => add b c)
      (x.toOption.map fun b => [entry b]) := by
  cases x with
  | ok b => exact hadd b
  | error e =>
    refine ⟨fun l hl => ?_, fun c _ l hl => ?_, fun c _ _ => ⟨[], e, ?_⟩⟩
    · cases hl
    · cases hl
    · rw [Emit.ofExcept_error, Emit.throw_eq, Emit.giveUp_bind]

theorem addOrSkip (a : α) : Appends (ε := ε) 1 (Definite.addOrSkip a) (some [a]) where
  length_le l hl := by
    cases hl
    exact Nat.le_refl 1
  appends c hroom l hl := by
    cases hl
    unfold Definite.addOrSkip
    rw [Definite.add_of_room (by omega)]
    rfl
  fails c _ h := by cases h

theorem mono (h : Appends n act out) (hle : n ≤ k) : Appends k act out where
  length_le l hl := (h.length_le l hl).trans hle
  appends c hroom := h.appends c (by omega)
  fails c hroom := h.fails c (by omega)

theorem throws (e : ε) :
    Appends n (fun _ : Definite α => (throw e : Emit ε (Definite α))) none where
  length_le l hl := by cases hl
  appends c _ l hl := by cases hl
  fails c _ _ := ⟨[], e, Emit.throw_eq e⟩

theorem seq (h : Appends n act out) (h' : Appends k act' out') :
    Appends (n + k) (fun c => act c >>= act') (Option.map₂ (· ++ ·) out out') where
  length_le l hl := by
    obtain ⟨a, b, ha, hb, rfl⟩ := Option.mem_map₂_iff.mp hl
    have := h.length_le a ha
    have := h'.length_le b hb
    rw [List.length_append]
    omega
  appends c hroom l hl := by
    obtain ⟨a, b, ha, hb, rfl⟩ := Option.mem_map₂_iff.mp hl
    have hlen := h.length_le a ha
    rw [h.appends c (by omega) a ha, pure_bind]
    have hroom' : (c.append a).entries.length + k ≤ (c.append a).capacity := by
      show (c.entries ++ a).length + k ≤ c.capacity
      rw [List.length_append]
      omega
    rw [h'.appends _ hroom' b hb, c.append_append]
  fails c hroom hnone := by
    cases ha : out with
    | none => exact (h.fails c (by omega) ha).bind act'
    | some a =>
      have hb : out' = none := by
        subst ha
        cases out' with
        | none => rfl
        | some b => cases hnone
      have hlen := h.length_le a ha
      rw [h.appends c (by omega) a ha, pure_bind]
      refine h'.fails _ ?_ hb
      show (c.entries ++ a).length + k ≤ c.capacity
      rw [List.length_append]
      omega

theorem ite {p : Prop} [Decidable p] (h : Appends n act out) :
    Appends n (fun c => if p then act c else pure c) (if p then out else some []) := by
  by_cases hp : p
  · simpa only [if_pos hp] using h
  · simpa only [if_neg hp] using nothing.mono (Nat.zero_le n)

theorem each {l : List β} {f : β → Definite α → Emit ε (Definite α)} {g : β → Option α}
    (h : ∀ b ∈ l, Appends 1 (f b) ((g b).map fun a => [a])) :
    Appends l.length (fun c => l.foldlM (fun c b => f b c) c) (l.mapM g) := by
  induction l with
  | nil => exact nothing
  | cons b l ih =>
    have hseq := (h b List.mem_cons_self).seq (ih fun b' hb' => h b' (List.mem_cons_of_mem b hb'))
    have hout : Option.map₂ (· ++ ·) ((g b).map fun a => [a]) (l.mapM g) =
        (b :: l).mapM g := by
      rw [List.mapM_cons]
      cases g b with
      | none => rfl
      | some a => cases l.mapM g <;> rfl
    rw [hout] at hseq
    simpa only [List.foldlM_cons, List.length_cons, Nat.add_comm] using hseq

theorem eachSome {l : List β} {f : β → Definite α → Emit ε (Definite α)}
    {g : β → Option α} (h : ∀ b ∈ l, Appends 1 (f b) (some (g b).toList)) :
    Appends l.length (fun c => l.foldlM (fun c b => f b c) c) (some (l.filterMap g)) := by
  induction l with
  | nil => exact nothing
  | cons b l ih =>
    have hseq := (h b List.mem_cons_self).seq (ih fun b' hb' => h b' (List.mem_cons_of_mem b hb'))
    have hout : Option.map₂ (· ++ ·) (some (g b).toList) (some (l.filterMap g)) =
        some ((b :: l).filterMap g) := by
      rw [List.filterMap_cons]
      cases g b <;> rfl
    rw [hout] at hseq
    simpa only [List.foldlM_cons, List.length_cons, Nat.add_comm] using hseq

theorem eachOne {l : List β} {f : β → Definite α → Emit ε (Definite α)} {g : β → α}
    (h : ∀ b ∈ l, Appends 1 (f b) (some [g b])) :
    Appends l.length (fun c => l.foldlM (fun c b => f b c) c) (some (l.map g)) := by
  have hsome := eachSome (g := fun b => some (g b)) h
  rwa [List.filterMap_eq_map'] at hsome

theorem nested {act : Definite β → Emit ε (Definite β)} {out : Option (List β)}
    {add : List β → Definite α → Emit ε (Definite α)} {entry : List β → α} {capacity : ℕ}
    (h : Appends n act out) (hcap : n ≤ capacity) (hadd : ∀ l, Appends 1 (add l) (some [entry l])) :
    Appends 1 (fun c => act (.new capacity) >>= fun inner => add inner.entries c)
      (out.map fun l => [entry l]) where
  length_le l hl := by
    obtain ⟨l', _, rfl⟩ := Option.map_eq_some_iff.mp hl
    exact Nat.le_refl 1
  appends c hroom l hl := by
    obtain ⟨l', hl', rfl⟩ := Option.map_eq_some_iff.mp hl
    have hnew : (Definite.new capacity : Definite β).entries.length + n ≤
        (Definite.new capacity : Definite β).capacity := by
      show 0 + n ≤ capacity
      omega
    rw [h.appends _ hnew l' hl', pure_bind]
    exact (hadd l').appends c hroom _ rfl
  fails c hroom hnone := by
    refine (h.fails _ ?_ (Option.map_eq_none_iff.mp hnone)).bind _
    show 0 + n ≤ capacity
    omega

theorem built {l : List α} (h : Appends n act (some l)) {capacity : ℕ} (hcap : n ≤ capacity) :
    act (.new capacity) = pure ⟨capacity, l⟩ := by
  refine h.appends _ ?_ l rfl
  show 0 + n ≤ capacity
  omega

theorem orReport (h : Appends n act out) (message : String) (e : ε) :
    Appends n (fun c => tryCatch (act c) fun _ => do Emit.report message; throw e) out where
  length_le := h.length_le
  appends c hroom l hl := by
    rw [h.appends c hroom l hl]
    rfl
  fails c hroom hnone := by
    obtain ⟨messages, e', heq⟩ := h.fails c hroom hnone
    refine ⟨messages ++ [message], e, ?_⟩
    rw [heq]
    refine Emit.tryCatch_giveUp messages e' _ e [message] ?_
    rw [Emit.throw_eq]
    exact Emit.report_giveUp message [] e

end Appends

/-! ## What a builder writes into a map -/

def Fields.entries (fs : Fields) : List (Item × Item) := fs.map fun f => (.text f.1, f.2)

/-- `Appends` for maps with text keys. -/
def Writes (n : ℕ) (act : DefiniteMap → Emit ε DefiniteMap) (out : Option Fields) : Prop :=
  Appends n act (out.map Fields.entries)

namespace Writes

variable {n k : ℕ} {act act' : DefiniteMap → Emit ε DefiniteMap} {out out' : Option Fields}

theorem addOr (message : String) (e : ε) (key : String) (value : Item) :
    Writes 1 (Definite.addOr message e (.text key, value)) (some [(key, value)]) :=
  Appends.addOr message e _

theorem ofExcept {x : Except ε β} {add : β → DefiniteMap → Emit ε DefiniteMap} {key : String}
    {value : β → Item} (hadd : ∀ b, Writes 1 (add b) (some [(key, value b)])) :
    Writes 1 (fun c => Emit.ofExcept x >>= fun b => add b c)
      (x.toOption.map fun b => [(key, value b)]) := by
  have h := Appends.ofExcept hadd (x := x)
  cases x <;> exact h

theorem mono (h : Writes n act out) (hle : n ≤ k) : Writes k act out := Appends.mono h hle

theorem seq (h : Writes n act out) (h' : Writes k act' out') :
    Writes (n + k) (fun c => act c >>= act') (Option.map₂ (· ++ ·) out out') := by
  have hseq := Appends.seq h h'
  have hout : (Option.map₂ (· ++ ·) out out').map Fields.entries =
      Option.map₂ (· ++ ·) (out.map Fields.entries) (out'.map Fields.entries) := by
    cases out <;> cases out' <;> simp [Fields.entries]
  unfold Writes
  rw [hout]
  exact hseq

theorem ite {p : Prop} [Decidable p] (h : Writes n act out) :
    Writes n (fun c => if p then act c else pure c) (if p then out else some []) := by
  have hite := Appends.ite (p := p) h
  by_cases hp : p
  · simpa only [Writes, if_pos hp] using hite
  · simp only [if_neg hp] at hite ⊢
    exact hite

theorem optional {b : Option β} {act : β → DefiniteMap → Emit ε DefiniteMap}
    {out : β → Option Fields} (h : ∀ x, Writes n (act x) (out x)) :
    Writes n (fun c => b.elim (pure c) fun x => act x c) (b.elim (some []) out) := by
  cases b with
  | none => exact Appends.mono Appends.nothing (Nat.zero_le n)
  | some x => exact h x

theorem record {add : List (Item × Item) → DefiniteMap → Emit ε DefiniteMap} {key : String}
    {capacity : ℕ} (h : Writes n act out) (hcap : n ≤ capacity)
    (hadd : ∀ l, Appends 1 (add l) (some [(.text key, .map l)])) :
    Writes 1 (fun c => act (.new capacity) >>= fun inner => add inner.entries c)
      (out.map fun fs => [(key, .record fs)]) := by
  have hnest := Appends.nested h hcap hadd
  cases out <;> exact hnest

theorem array {act : DefiniteArray → Emit ε DefiniteArray} {items : Option (List Item)}
    {add : List Item → DefiniteMap → Emit ε DefiniteMap} {key : String}
    {capacity : ℕ} (h : Appends n act items) (hcap : n ≤ capacity)
    (hadd : ∀ l, Appends 1 (add l) (some [(.text key, .array l)])) :
    Writes 1 (fun c => act (.new capacity) >>= fun inner => add inner.entries c)
      (items.map fun l => [(key, .array l)]) := by
  have hnest := Appends.nested h hcap hadd
  cases items <;> exact hnest

theorem pushed {add : List (Item × Item) → DefiniteArray → Emit ε DefiniteArray}
    {capacity : ℕ} (h : Writes n act out) (hcap : n ≤ capacity)
    (hadd : ∀ l, Appends 1 (add l) (some [.map l])) :
    Appends 1 (fun c => act (.new capacity) >>= fun inner => add inner.entries c)
      (out.map fun fs => [.record fs]) := by
  have hnest := Appends.nested h hcap hadd
  cases out <;> exact hnest

theorem built {fs : Fields} (h : Writes n act (some fs)) {capacity : ℕ} (hcap : n ≤ capacity) :
    act (.new capacity) = pure ⟨capacity, fs.entries⟩ := Appends.built h hcap

theorem result_bind (h : Writes n act out) {capacity : ℕ} (hcap : n ≤ capacity)
    {k : DefiniteMap → Emit ε β} {b : β} (hok : (act (.new capacity) >>= k).result = .ok b) :
    ∃ fs, out = some fs ∧ (k ⟨capacity, fs.entries⟩).result = .ok b := by
  cases out with
  | none =>
    have hfails := h.fails (.new capacity) (by show 0 + n ≤ capacity; omega) rfl
    exact absurd hok ((hfails.bind k).result_ne b)
  | some fs =>
    rw [h.built hcap, pure_bind] at hok
    exact ⟨fs, rfl, hok⟩

theorem builtAfter {fs : Fields} (h : Writes n act (some fs)) (gs : Fields) {capacity : ℕ}
    (hcap : gs.length + n ≤ capacity) :
    act ⟨capacity, gs.entries⟩ = pure ⟨capacity, Fields.entries (gs ++ fs)⟩ := by
  have hroom : gs.entries.length + n ≤ capacity := by
    unfold Fields.entries
    rwa [List.length_map]
  rw [h.appends ⟨capacity, gs.entries⟩ hroom fs.entries rfl]
  unfold Fields.entries
  rw [List.map_append]
  rfl

theorem eachOne {l : List β} {f : β → DefiniteMap → Emit ε DefiniteMap} {g : β → String × Item}
    (h : ∀ b ∈ l, Writes 1 (f b) (some [g b])) :
    Writes l.length (fun c => l.foldlM (fun c b => f b c) c) (some (l.map g)) := by
  have hall := Appends.eachOne (g := fun b => ((.text (g b).1, (g b).2) : Item × Item)) h
  unfold Writes Fields.entries
  rw [Option.map_some, List.map_map]
  exact hall

/-- `ite` for a builder that cannot fail. -/
theorem when {p : Prop} [Decidable p] {fs : Fields} (h : Writes n act (some fs)) :
    Writes n (fun c => if p then act c else pure c) (some (if p then fs else [])) := by
  have hite := h.ite (p := p)
  by_cases hp : p
  · rw [if_pos hp] at hite ⊢
    exact hite
  · rw [if_neg hp] at hite ⊢
    exact hite

end Writes

/-! ## Maps written in pieces -/

/-- The pieces of a map, one after another, unless one of them failed. -/
def Fields.join : List (Option Fields) → Option Fields
  | [] => some []
  | out :: outs => Option.map₂ (· ++ ·) out (join outs)

theorem Fields.join_eq_some {outs : List (Option Fields)} {fs : Fields} :
    Fields.join outs = some fs ↔ ∃ pieces : List Fields,
      outs = pieces.map some ∧ fs = pieces.flatten := by
  induction outs generalizing fs with
  | nil =>
    constructor
    · intro h
      cases h
      exact ⟨[], rfl, rfl⟩
    · rintro ⟨pieces, hpieces, rfl⟩
      rw [List.map_eq_nil_iff.mp hpieces.symm]
      rfl
  | cons out outs ih =>
    unfold Fields.join
    rw [Option.map₂_eq_some_iff]
    constructor
    · rintro ⟨piece, rest, hpiece, hrest, rfl⟩
      obtain ⟨pieces, rfl, rfl⟩ := ih.mp hrest
      obtain rfl := hpiece
      exact ⟨piece :: pieces, rfl, rfl⟩
    · rintro ⟨pieces, hpieces, rfl⟩
      cases pieces with
      | nil => cases hpieces
      | cons piece pieces =>
        obtain ⟨rfl, rfl⟩ := List.cons.inj hpieces
        exact ⟨piece, pieces.flatten, rfl, ih.mpr ⟨pieces, rfl, rfl⟩, rfl⟩

theorem Fields.mem_join {outs : List (Option Fields)} {fs piece : Fields} {f : String × Item}
    (hfs : Fields.join outs = some fs) (hpiece : some piece ∈ outs) (hf : f ∈ piece) : f ∈ fs := by
  obtain ⟨pieces, rfl, rfl⟩ := Fields.join_eq_some.mp hfs
  obtain ⟨piece', hmem, heq⟩ := List.mem_map.mp hpiece
  rw [Option.some.inj heq] at hmem
  exact List.mem_flatten.mpr ⟨piece, hmem, hf⟩

theorem Writes.last {n : ℕ} {act : DefiniteMap → Emit ε DefiniteMap} {out : Option Fields}
    (h : Writes n act out) : Writes n act (Fields.join [out]) := by
  cases out with
  | none => exact h
  | some fs =>
    unfold Fields.join Fields.join
    rw [Option.map₂_some_some, List.append_nil]
    exact h

theorem Writes.cons {n k : ℕ} {act act' : DefiniteMap → Emit ε DefiniteMap}
    {out : Option Fields} {outs : List (Option Fields)} (h : Writes n act out)
    (h' : Writes k act' (Fields.join outs)) :
    Writes (n + k) (fun c => act c >>= act') (Fields.join (out :: outs)) := h.seq h'

theorem Fields.join_isSome {outs : List (Option Fields)} :
    (Fields.join outs).isSome ↔ ∀ out ∈ outs, out.isSome := by
  induction outs with
  | nil => simp [Fields.join]
  | cons out outs ih =>
    rw [List.forall_mem_cons, ← ih]
    show (Option.map₂ (· ++ ·) out (Fields.join outs)).isSome = true ↔ _
    cases out with
    | none => simp
    | some piece => cases Fields.join outs <;> simp

theorem mapM_isSome {l : List α} {f : α → Option β} :
    (l.mapM f).isSome ↔ ∀ a ∈ l, (f a).isSome := by
  induction l with
  | nil => simp
  | cons a l ih =>
    rw [List.forall_mem_cons, ← ih, List.mapM_cons]
    cases f a with
    | none => simp
    | some b => cases l.mapM f <;> simp

theorem mem_of_mapM {l : List α} {f : α → Option β} {results : List β} (h : l.mapM f = some results)
    {b : β} (hb : b ∈ results) : ∃ a ∈ l, f a = some b := by
  induction l generalizing results with
  | nil =>
    cases h
    cases hb
  | cons a l ih =>
    rw [List.mapM_cons] at h
    obtain ⟨head, hhead, h⟩ := Option.bind_eq_some_iff.mp h
    obtain ⟨tail, htail, h⟩ := Option.bind_eq_some_iff.mp h
    cases h
    rcases List.mem_cons.mp hb with rfl | hb
    · exact ⟨a, List.mem_cons_self, hhead⟩
    · obtain ⟨a', ha', hfa⟩ := ih htail hb
      exact ⟨a', List.mem_cons_of_mem _ ha', hfa⟩

/-! ### Canonical maps -/

/-- The fields are canonical, and under some of the keys, in their order. -/
def FieldsUnder (keys : List String) (fs : Fields) : Prop :=
  (fs.map Prod.fst).Sublist keys ∧ ∀ f ∈ fs, f.2.Canonical

namespace FieldsUnder

theorem nothing (keys : List String) : FieldsUnder keys [] := by
  refine ⟨List.nil_sublist keys, ?_⟩
  intro f hf
  cases hf

theorem field {key : String} {value : Item} (h : value.Canonical) :
    FieldsUnder [key] [(key, value)] := by
  refine ⟨List.Sublist.refl _, ?_⟩
  intro f hf
  rw [List.mem_singleton.mp hf]
  exact h

theorem append {keys keys' : List String} {fs fs' : Fields} (h : FieldsUnder keys fs)
    (h' : FieldsUnder keys' fs') : FieldsUnder (keys ++ keys') (fs ++ fs') := by
  refine ⟨?_, List.forall_mem_append.mpr ⟨h.2, h'.2⟩⟩
  rw [List.map_append]
  exact h.1.append h'.1

theorem cons {key : String} {keys : List String} {value : Item} {fs : Fields}
    (h : value.Canonical) (h' : FieldsUnder keys fs) :
    FieldsUnder (key :: keys) ((key, value) :: fs) := (field h).append h'

theorem when {p : Prop} [Decidable p] {keys : List String} {fs : Fields}
    (h : FieldsUnder keys fs) : FieldsUnder keys (if p then fs else []) := by
  split
  · exact h
  · exact nothing keys

theorem record (keys : List String) {fs : Fields} (h : FieldsUnder keys fs)
    (hkeys : keys.Pairwise KeyLt) : (Item.record fs).Canonical :=
  .of_sublist h.1 hkeys h.2

theorem flatten {keys : List (List String)} {pieces : List Fields}
    (h : List.Forall₂ FieldsUnder keys pieces) : FieldsUnder keys.flatten pieces.flatten := by
  induction h with
  | nil => exact nothing []
  | cons hpiece _ ih => exact hpiece.append ih

end FieldsUnder

theorem Item.Canonical.sorted {entries : List (String × β)} {value : String × β → Item}
    (hkeys : (entries.map Prod.fst).Pairwise KeyLt) (hvalues : ∀ e ∈ entries, (value e).Canonical) :
    (Item.record (entries.map fun e => (e.1, value e))).Canonical := by
  refine .record ?_ ?_
  · rw [List.map_map]
    exact hkeys
  · intro f hf
    obtain ⟨e, he, rfl⟩ := List.mem_map.mp hf
    exact hvalues e he

theorem Item.Canonical.arrayMap {l : List β} {item : β → Item} (h : ∀ b ∈ l, (item b).Canonical) :
    (Item.array (l.map item)).Canonical := by
  refine .array ?_
  intro entry hentry
  obtain ⟨b, hb, rfl⟩ := List.mem_map.mp hentry
  exact h b hb

def PieceUnder (keys : List String) (out : Option Fields) : Prop :=
  ∀ fs, out = some fs → FieldsUnder keys fs

theorem PieceUnder.some {keys : List String} {fs : Fields} (h : FieldsUnder keys fs) :
    PieceUnder keys (some fs) := by
  intro fs' heq
  rw [← Option.some.inj heq]
  exact h

theorem canonical_join (keys : List (List String)) {outs : List (Option Fields)} {fs : Fields}
    (h : List.Forall₂ PieceUnder keys outs) (hkeys : keys.flatten.Pairwise KeyLt)
    (hfs : Fields.join outs = some fs) : (Item.record fs).Canonical := by
  obtain ⟨pieces, rfl, rfl⟩ := Fields.join_eq_some.mp hfs
  have hpieces : List.Forall₂ FieldsUnder keys pieces :=
    (List.forall₂_map_right_iff.mp h).imp fun _ piece hpiece => hpiece piece rfl
  exact (FieldsUnder.flatten hpieces).record _ hkeys

theorem keyLt_of_canonical (front : List (Option Fields)) {back : List (Option Fields)}
    {piece next fs : Fields}
    (hfs : Fields.join (front ++ some piece :: some next :: back) = some fs)
    (hcanonical : (Item.record fs).Canonical) {f g : String × Item} (hf : f ∈ piece)
    (hg : g ∈ next) : KeyLt f.1 g.1 := by
  obtain ⟨pieces, houts, rfl⟩ := Fields.join_eq_some.mp hfs
  obtain ⟨before, rest, rfl, -, hrest⟩ := List.map_eq_append_iff.mp houts.symm
  obtain ⟨piece', rest, rfl, hpiece, hrest⟩ := List.map_eq_cons_iff.mp hrest
  obtain ⟨next', after, rfl, hnext, -⟩ := List.map_eq_cons_iff.mp hrest
  rw [Option.some.inj hpiece, Option.some.inj hnext] at hcanonical
  have hkeys := hcanonical.keys
  rw [List.flatten_append, List.flatten_cons, List.flatten_cons, List.map_append,
    List.map_append] at hkeys
  have hafter := (List.pairwise_append.mp hkeys).2.1
  refine (List.pairwise_append.mp hafter).2.2 _ (List.mem_map_of_mem hf) _ ?_
  rw [List.map_append]
  exact List.mem_append_left _ (List.mem_map_of_mem hg)

/-- What is built is canonical, and no container on the way was too small. -/
structure BuildsCanonical (act : Emit ε DefiniteMap) : Prop where
  canonical : ∀ m, act.result = .ok m → (Item.map m.entries).Canonical
  refused_eq : act.refused = 0

theorem Writes.buildsCanonical_iff {n : ℕ} {act : DefiniteMap → Emit ε DefiniteMap}
    {out : Option Fields} (h : Writes n act out) {capacity : ℕ} (hcap : n ≤ capacity) :
    BuildsCanonical (act (.new capacity)) ↔ ∀ fs, out = some fs → (Item.record fs).Canonical := by
  cases out with
  | none =>
    have hroom : (Definite.new capacity : DefiniteMap).entries.length + n ≤ capacity := by
      show 0 + n ≤ capacity
      omega
    have hfails := h.fails (.new capacity) hroom rfl
    refine iff_of_true ⟨fun m hm => absurd hm (hfails.result_ne m), hfails.refused_eq⟩ ?_
    intro fs hfs
    cases hfs
  | some fs =>
    rw [h.built hcap]
    constructor
    · intro hbuilds fs' hfs'
      rw [← Option.some.inj hfs']
      exact hbuilds.canonical _ rfl
    · intro hcanonical
      refine ⟨?_, rfl⟩
      intro m hm
      rw [← Except.ok.inj (show Except.ok _ = Except.ok m from hm)]
      exact hcanonical fs rfl

end Foundation.Cbor
