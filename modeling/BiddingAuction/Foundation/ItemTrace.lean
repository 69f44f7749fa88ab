import Mathlib.Data.List.Basic

/-!
# Runs over items

Nested loops that fail at what they come upon go through a sequence of items. A run over the
items ends at the first that it stops at, if there is one; else with a state that fits them.
-/

namespace Foundation

section ItemTrace

variable {α ι ε σ τ : Type}

/-- After the items `before`, the run over `items` has this result. -/
inductive ItemTrace (stops : List ι → ι → ε → Prop) (inv : List ι → σ → Prop) :
    List ι → List ι → Except ε σ → Prop where
  | done {before : List ι} {s : σ} : inv before s → ItemTrace stops inv before [] (.ok s)
  | stop {before rest : List ι} {item : ι} {e : ε} :
    stops before item e → ItemTrace stops inv before (item :: rest) (.error e)
  | next {before rest : List ι} {item : ι} {m : Except ε σ} :
    (∀ e, ¬ stops before item e) → ItemTrace stops inv (before ++ [item]) rest m →
      ItemTrace stops inv before (item :: rest) m

variable {stops : List ι → ι → ε → Prop} {inv : List ι → σ → Prop} {inv' : List ι → τ → Prop}

theorem ItemTrace.bind {before items rest : List ι} {m : Except ε σ} {f : σ → Except ε τ}
    (h : ItemTrace stops inv before items m)
    (hf : ∀ s, inv (before ++ items) s → ItemTrace stops inv' (before ++ items) rest (f s)) :
    ItemTrace stops inv' before (items ++ rest) (m >>= f) := by
  induction h with
  | @done before s hinv =>
    rw [List.append_nil] at hf
    exact hf s hinv
  | stop hstop => exact .stop hstop
  | @next before rest' item m hpass _ ih =>
    refine .next hpass (ih ?_)
    rw [List.append_assoc]
    exact hf

theorem ItemTrace.read {before rest : List ι} {item : ι} {m : Except ε σ} {f : σ → Except ε τ}
    (herror : ∀ e, m = .error e → stops before item e)
    (hok : ∀ s, m = .ok s → (∀ e, ¬ stops before item e) ∧
      ItemTrace stops inv' (before ++ [item]) rest (f s)) :
    ItemTrace stops inv' before (item :: rest) (m >>= f) := by
  cases m with
  | error e => exact .stop (herror e rfl)
  | ok s => exact .next (hok s rfl).1 (hok s rfl).2

/-- A loop, over items that altogether are as `fits` says. -/
theorem ItemTrace.foldlM {fits : List ι → Prop} (hfirst : ∀ l l', fits (l ++ l') → fits l)
    {f : σ → α → Except ε σ} {itemsOf : α → List ι} {xs : List α}
    (hstep : ∀ x ∈ xs, ∀ before s, fits (before ++ itemsOf x) → inv before s →
      ItemTrace stops inv before (itemsOf x) (f s x))
    {before : List ι} {s : σ} (hfits : fits (before ++ xs.flatMap itemsOf)) (hinv : inv before s) :
    ItemTrace stops inv before (xs.flatMap itemsOf) (xs.foldlM f s) := by
  induction xs generalizing before s with
  | nil => exact .done hinv
  | cons x xs ih =>
    rw [List.flatMap_cons, ← List.append_assoc] at hfits
    rw [List.flatMap_cons, List.foldlM_cons]
    refine (hstep x List.mem_cons_self before s (hfirst _ _ hfits) hinv).bind fun s' hinv' => ?_
    exact ih (fun y hy => hstep y (List.mem_cons_of_mem _ hy)) hfits hinv'

/-- A run fails with one error if it stops there at an item before which it stops at none with
another error. -/
theorem ItemTrace.eq_error_iff (e₀ : ε) (reported : ι → Prop)
    (hreported : ∀ before item, reported item ↔ ∃ e, e ≠ e₀ ∧ stops before item e)
    (hunique : ∀ before item e, reported item → stops before item e → e ≠ e₀)
    {before items : List ι} {m : Except ε σ} (h : ItemTrace stops inv before items m) :
    m = .error e₀ ↔ ∃ earlier item later, items = earlier ++ item :: later ∧
      (∀ y ∈ earlier, ¬ reported y) ∧ stops (before ++ earlier) item e₀ := by
  induction h with
  | done hinv =>
    refine iff_of_false (fun h => nomatch h) ?_
    rintro ⟨earlier, item, later, hsplit, -⟩
    cases earlier <;> cases hsplit
  | @stop before rest item e hstop =>
    by_cases he : e = e₀
    · subst he
      refine iff_of_true rfl ⟨[], item, rest, rfl, fun y hy => (nomatch hy), ?_⟩
      rw [List.append_nil]
      exact hstop
    · have hitem : reported item := (hreported before item).mpr ⟨e, he, hstop⟩
      refine iff_of_false (fun h => he (Except.error.inj h)) ?_
      rintro ⟨earlier, item', later, hsplit, hearlier, hstop'⟩
      cases earlier with
      | nil =>
        cases hsplit
        exact hunique _ _ _ hitem hstop' rfl
      | cons first earlier =>
        cases hsplit
        exact hearlier _ List.mem_cons_self hitem
  | @next before rest item m hpass _ ih =>
    have hitem : ¬ reported item := by
      intro hitem
      obtain ⟨e, -, hstop⟩ := (hreported before item).mp hitem
      exact hpass e hstop
    rw [ih]
    constructor
    · rintro ⟨earlier, item', later, rfl, hearlier, hstop⟩
      refine ⟨item :: earlier, item', later, rfl, ?_, ?_⟩
      · intro y hy
        rcases List.mem_cons.mp hy with rfl | hy
        · exact hitem
        · exact hearlier y hy
      · rw [List.append_cons]
        exact hstop
    · rintro ⟨earlier, item', later, hsplit, hearlier, hstop⟩
      cases earlier with
      | nil =>
        cases hsplit
        rw [List.append_nil] at hstop
        exact absurd hstop (hpass e₀)
      | cons first earlier =>
        cases hsplit
        refine ⟨earlier, item', later, rfl, fun y hy => hearlier y (List.mem_cons_of_mem _ hy), ?_⟩
        rw [List.append_cons] at hstop
        exact hstop

end ItemTrace

end Foundation
