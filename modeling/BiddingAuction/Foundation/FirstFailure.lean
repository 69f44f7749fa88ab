import Mathlib.Data.List.Forall2

/-!
# Sequences of reads

Elements are read one after another, up to the first that fails. An element is reached if
those before it are read.
-/

namespace Foundation

variable {α β ε : Type}

def Reached (p : α → Prop) (l : List α) (x : α) : Prop :=
  ∃ earlier later, l = earlier ++ x :: later ∧ ∀ y ∈ earlier, p y

theorem Reached.mem {p : α → Prop} {l : List α} {x : α} (h : Reached p l x) : x ∈ l := by
  obtain ⟨earlier, later, rfl, -⟩ := h
  exact List.mem_append_right earlier List.mem_cons_self

theorem reached_cons {p : α → Prop} {a : α} {l : List α} {x : α} :
    Reached p (a :: l) x ↔ x = a ∨ p a ∧ Reached p l x := by
  constructor
  · rintro ⟨earlier, later, hsplit, hearlier⟩
    cases earlier with
    | nil =>
      cases hsplit
      exact .inl rfl
    | cons first earlier =>
      cases hsplit
      exact .inr ⟨hearlier _ List.mem_cons_self, earlier, later, rfl,
        fun y hy => hearlier y (List.mem_cons_of_mem _ hy)⟩
  · rintro (rfl | ⟨ha, earlier, later, rfl, hearlier⟩)
    · exact ⟨[], l, rfl, fun y hy => nomatch hy⟩
    · refine ⟨a :: earlier, later, rfl, fun y hy => ?_⟩
      rcases List.mem_cons.mp hy with rfl | hy
      · exact ha
      · exact hearlier y hy

theorem except_bind_eq_ok {x : Except ε α} {f : α → Except ε β} {b : β} :
    x >>= f = .ok b ↔ ∃ a, x = .ok a ∧ f a = .ok b := by
  cases x with
  | error e => exact iff_of_false (fun h => nomatch h) fun ⟨a, ha, _⟩ => nomatch ha
  | ok a =>
    constructor
    · intro h
      exact ⟨a, rfl, h⟩
    · rintro ⟨a, ha, h⟩
      cases ha
      exact h

theorem except_bind_eq_error {x : Except ε α} {f : α → Except ε β} {e : ε} :
    x >>= f = .error e ↔ x = .error e ∨ ∃ a, x = .ok a ∧ f a = .error e := by
  cases x with
  | error e' =>
    constructor
    · intro h
      cases h
      exact .inl rfl
    · rintro (h | ⟨a, ha, -⟩)
      · cases h
        rfl
      · cases ha
  | ok a =>
    constructor
    · intro h
      exact .inr ⟨a, rfl, h⟩
    · rintro (h | ⟨a, ha, h⟩)
      · cases h
      · cases ha
        exact h

theorem except_mapM_eq_ok {l : List α} {f : α → Except ε β} {results : List β} :
    l.mapM f = .ok results ↔ List.Forall₂ (fun a b => f a = .ok b) l results := by
  induction l generalizing results with
  | nil =>
    constructor
    · intro h
      cases h
      exact .nil
    · intro h
      cases h
      rfl
  | cons a l ih =>
    rw [List.mapM_cons, except_bind_eq_ok]
    constructor
    · rintro ⟨b, hb, h⟩
      obtain ⟨bs, hbs, h⟩ := except_bind_eq_ok.mp h
      cases h
      exact .cons hb (ih.mp hbs)
    · intro h
      cases h with
      | cons hb hrest => exact ⟨_, hb, except_bind_eq_ok.mpr ⟨_, ih.mpr hrest, rfl⟩⟩

theorem exists_mem_of_forall₂ {R : α → β → Prop} {l : List α} {l' : List β}
    (h : List.Forall₂ R l l') {a : α} (ha : a ∈ l) : ∃ b ∈ l', R a b := by
  induction h with
  | nil => cases ha
  | cons hfirst _ ih =>
    rcases List.mem_cons.mp ha with rfl | ha
    · exact ⟨_, List.mem_cons_self, hfirst⟩
    · obtain ⟨b, hb, hR⟩ := ih ha
      exact ⟨b, List.mem_cons_of_mem _ hb, hR⟩

theorem exists_forall₂_iff {R : α → β → Prop} {l : List α} :
    (∃ l', List.Forall₂ R l l') ↔ ∀ a ∈ l, ∃ b, R a b := by
  induction l with
  | nil => exact iff_of_true ⟨[], .nil⟩ fun a ha => nomatch ha
  | cons a l ih =>
    rw [List.forall_mem_cons, ← ih]
    constructor
    · rintro ⟨results, h⟩
      cases h with
      | cons ha hrest => exact ⟨⟨_, ha⟩, _, hrest⟩
    · rintro ⟨⟨b, ha⟩, results, hrest⟩
      exact ⟨b :: results, .cons ha hrest⟩

theorem except_mapM_isOk_iff {l : List α} {f : α → Except ε β} :
    (∃ results, l.mapM f = .ok results) ↔ ∀ a ∈ l, ∃ b, f a = .ok b := by
  simp only [except_mapM_eq_ok]
  exact exists_forall₂_iff

theorem except_mapM_eq_error {l : List α} {f : α → Except ε β} {e : ε} :
    l.mapM f = .error e ↔ ∃ x, Reached (fun y => ∃ b, f y = .ok b) l x ∧ f x = .error e := by
  induction l with
  | nil =>
    refine iff_of_false (fun h => nomatch h) ?_
    rintro ⟨x, hreached, -⟩
    cases hreached.mem
  | cons a l ih =>
    rw [List.mapM_cons, except_bind_eq_error]
    simp only [reached_cons]
    constructor
    · rintro (ha | ⟨b, hb, h⟩)
      · exact ⟨a, .inl rfl, ha⟩
      · rcases except_bind_eq_error.mp h with hrest | ⟨bs, -, hpure⟩
        · obtain ⟨x, hreached, hx⟩ := ih.mp hrest
          exact ⟨x, .inr ⟨⟨b, hb⟩, hreached⟩, hx⟩
        · cases hpure
    · rintro ⟨x, rfl | ⟨⟨b, hb⟩, hreached⟩, hx⟩
      · exact .inl hx
      · exact .inr ⟨b, hb, except_bind_eq_error.mpr (.inl (ih.mpr ⟨x, hreached, hx⟩))⟩

end Foundation
