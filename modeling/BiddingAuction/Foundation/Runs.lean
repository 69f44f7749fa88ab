import Mathlib.Algebra.BigOperators.Group.List.Basic
import Mathlib.Algebra.Ring.Nat
import Mathlib.Order.Basic

/-!
# Labelled transition systems and their runs

A system is a set of initial states and a labelled step relation. A run is
recorded with its actions, latest first, so that properties may speak of the
whole history. `RunWhere C` is the same notion restricted to runs whose every
action was admitted by `C` in the state it was taken in. The single induction
on runs is `RunWhere.invariant`; every safety theorem goes through it.
-/

namespace Foundation

universe u v

/-- Initial states and a labelled step relation. -/
structure LTS (σ : Type u) (α : Type v) where
  init : σ → Prop
  step : σ → α → σ → Prop

namespace LTS

variable {σ : Type u} {α : Type v} {T : LTS σ α}

/-- `T.RunWhere C trace s`: the actions of `trace` (latest first) lead from an
initial state to `s`, and `C` admitted each action in the state it was taken in. -/
inductive RunWhere (T : LTS σ α) (C : σ → α → Prop) : List α → σ → Prop
  | start {s : σ} : T.init s → RunWhere T C [] s
  | next {trace : List α} {s s' : σ} {a : α} :
      RunWhere T C trace s → C s a → T.step s a s' → RunWhere T C (a :: trace) s'

abbrev Run (T : LTS σ α) : List α → σ → Prop := T.RunWhere fun _ _ => True

/-- Some run ends in `s`. -/
def Reachable (T : LTS σ α) (s : σ) : Prop := ∃ trace, T.Run trace s

/-- The invariant rule: what holds initially and is preserved by every
admitted step holds at the end of every run. -/
theorem RunWhere.invariant {C : σ → α → Prop} {I : List α → σ → Prop}
    (start : ∀ s, T.init s → I [] s)
    (next : ∀ trace s a s', I trace s → C s a → T.step s a s' → I (a :: trace) s')
    {trace : List α} {s : σ} (run : T.RunWhere C trace s) : I trace s := by
  induction run with
  | start hinit => exact start _ hinit
  | next _ hadmitted hstep ih => exact next _ _ _ _ ih hadmitted hstep

theorem RunWhere.mono {C D : σ → α → Prop} (weaker : ∀ s a, C s a → D s a)
    {trace : List α} {s : σ} (run : T.RunWhere C trace s) : T.RunWhere D trace s := by
  induction run with
  | start hinit => exact .start hinit
  | next _ hadmitted hstep ih => exact .next ih (weaker _ _ hadmitted) hstep

theorem RunWhere.run {C : σ → α → Prop} {trace : List α} {s : σ}
    (run : T.RunWhere C trace s) : T.Run trace s :=
  run.mono fun _ _ _ => trivial

/-- The simulation rule: where each step is answered by a step of the same action that keeps a
relation, so is each run by a run of the same actions. -/
theorem RunWhere.simulated {τ : Type*} {S : LTS τ α} {R : σ → τ → Prop}
    (start : ∀ s, T.init s → ∃ t, S.init t ∧ R s t)
    (next : ∀ s t a s', R s t → T.step s a s' → ∃ t', S.step t a t' ∧ R s' t')
    {trace : List α} {s : σ} (run : T.Run trace s) : ∃ t, S.Run trace t ∧ R s t := by
  induction run with
  | start hinit =>
    obtain ⟨t, hinit', hrelated⟩ := start _ hinit
    exact ⟨t, .start hinit', hrelated⟩
  | next _ _ hstep ih =>
    obtain ⟨t, run', hrelated⟩ := ih
    obtain ⟨t', hstep', hrelated'⟩ := next _ _ _ _ hrelated hstep
    exact ⟨t', .next run' trivial hstep', hrelated'⟩

/-- A property that a step keeps exactly if the step is admitted, and that no
step restores, holds at the end of the runs whose every step is admitted. -/
theorem holds_iff_runWhere {P : σ → Prop} {C : σ → α → Prop} (start : ∀ s, T.init s → P s)
    (keeps : ∀ s a s', T.step s a s' → P s → (P s' ↔ C s a))
    (restores : ∀ s a s', T.step s a s' → P s' → P s)
    {trace : List α} {s : σ} (run : T.Run trace s) : P s ↔ T.RunWhere C trace s := by
  constructor
  · intro hlast
    induction run with
    | start hinit => exact .start hinit
    | next _ _ hstep ih =>
      have hbefore := restores _ _ _ hstep hlast
      exact .next (ih hbefore) ((keeps _ _ _ hstep hbefore).mp hlast) hstep
  · intro hadmitted
    exact hadmitted.invariant (I := fun _ s => P s) start fun _ s a s' hs ha hstep =>
      (keeps s a s' hstep hs).mpr ha

/-- Two conditions that an invariant makes the same admit the same runs. -/
theorem runWhere_congr {C D : σ → α → Prop} {I : σ → Prop} (start : ∀ s, T.init s → I s)
    (keeps : ∀ s a s', I s → C s a → T.step s a s' → I s')
    (same : ∀ s a, I s → (C s a ↔ D s a)) {trace : List α} {s : σ} :
    T.RunWhere C trace s ↔ T.RunWhere D trace s := by
  constructor
  · intro run
    refine (run.invariant (I := fun trace s => I s ∧ T.RunWhere D trace s) ?_ ?_).2
    · exact fun s hinit => ⟨start s hinit, .start hinit⟩
    · rintro trace s a s' ⟨hs, run⟩ ha hstep
      exact ⟨keeps s a s' hs ha hstep, .next run ((same s a hs).mp ha) hstep⟩
  · intro run
    refine (run.invariant (I := fun trace s => I s ∧ T.RunWhere C trace s) ?_ ?_).2
    · exact fun s hinit => ⟨start s hinit, .start hinit⟩
    · rintro trace s a s' ⟨hs, run⟩ ha hstep
      have ha := (same s a hs).mpr ha
      exact ⟨keeps s a s' hs ha hstep, .next run ha hstep⟩

theorem RunWhere.length_add_rank_le {C : σ → α → Prop} {rank : σ → ℕ} {bound : ℕ}
    (start : ∀ s, T.init s → rank s ≤ bound) (falls : ∀ s a s', T.step s a s' → rank s' < rank s)
    {trace : List α} {s : σ} (run : T.RunWhere C trace s) : trace.length + rank s ≤ bound := by
  refine run.invariant (I := fun trace s => trace.length + rank s ≤ bound) ?_ ?_
  · intro s hinit
    show 0 + rank s ≤ bound
    rw [Nat.zero_add]
    exact start s hinit
  · intro trace s a s' hbound _ hstep
    have := falls s a s' hstep
    show trace.length + 1 + rank s' ≤ bound
    omega

/-- As long as the steps from `s` are admitted they come to a state with `P`, and there
is none on the way that cannot step. -/
inductive Inevitable (T : LTS σ α) (C : σ → α → Prop) (P : σ → Prop) : σ → Prop
  | now {s : σ} : P s → Inevitable T C P s
  | later {s : σ} : (∃ a s', T.step s a s') →
      (∀ a s', C s a → T.step s a s' → Inevitable T C P s') → Inevitable T C P s

/-- What an invariant that can always step leads to while the admitted steps lower a
rank. -/
theorem inevitable_of_admitted_rank {C : σ → α → Prop} {I P : σ → Prop} {μ : σ → ℕ}
    (keeps : ∀ s a s', I s → C s a → T.step s a s' → I s')
    (progress : ∀ s, I s → P s ∨ ∃ a s', T.step s a s')
    (falls : ∀ s a s', I s → C s a → T.step s a s' → μ s' < μ s) {s : σ} (h : I s) :
    T.Inevitable C P s := by
  induction hn : μ s using Nat.strongRecOn generalizing s with
  | ind n ih =>
    rcases progress s h with hP | hstep
    · exact .now hP
    · refine .later hstep fun a s' ha has => ?_
      exact ih (μ s') (hn ▸ falls s a s' h ha has) (keeps s a s' h ha has) rfl

theorem inevitable_of_rank {C : σ → α → Prop} {I P : σ → Prop} {μ : σ → ℕ}
    (keeps : ∀ s a s', I s → C s a → T.step s a s' → I s')
    (progress : ∀ s, I s → P s ∨ ∃ a s', T.step s a s')
    (falls : ∀ s a s', T.step s a s' → μ s' < μ s) {s : σ} (h : I s) :
    T.Inevitable C P s :=
  inevitable_of_admitted_rank keeps progress (fun s a s' _ _ => falls s a s') h

theorem Inevitable.imp {C : σ → α → Prop} {P Q : σ → Prop} {s : σ} (h : T.Inevitable C P s)
    (weaker : ∀ s, P s → Q s) : T.Inevitable C Q s := by
  induction h with
  | now hP => exact .now (weaker _ hP)
  | later hstep _ ih => exact .later hstep ih

def restrict (T : LTS σ α) (C : σ → α → Prop) : LTS σ α where
  init := T.init
  step s a s' := C s a ∧ T.step s a s'

/-- Every way on from `s` comes to a state with `P`. -/
abbrev Leads (T : LTS σ α) (P : σ → Prop) : σ → Prop := T.Inevitable (fun _ _ => True) P

/-- What an invariant that can always step leads to while the admitted steps lower a
rank. -/
theorem leads_of_rank {C : σ → α → Prop} {I P : σ → Prop} {μ : σ → ℕ}
    (keeps : ∀ s a s', I s → C s a → T.step s a s' → I s')
    (progress : ∀ s, I s → P s ∨ ∃ a s', C s a ∧ T.step s a s')
    (falls : ∀ s a s', I s → C s a → T.step s a s' → μ s' < μ s) {s : σ} (h : I s) :
    (T.restrict C).Leads P s := by
  refine inevitable_of_admitted_rank (T := T.restrict C) (μ := μ) ?_ progress ?_ h
  · rintro s a s' hs - ⟨ha, hstep⟩
    exact keeps s a s' hs ha hstep
  · rintro s a s' hs - ⟨ha, hstep⟩
    exact falls s a s' hs ha hstep

/-- On the way to a state with `P` an invariant is kept. -/
theorem Leads.exists_of_invariant {I P : σ → Prop}
    (keeps : ∀ s a s', I s → T.step s a s' → I s') {s : σ} (leads : T.Leads P s) (h : I s) :
    ∃ s, I s ∧ P s := by
  induction leads with
  | now hP => exact ⟨_, h, hP⟩
  | later hstep _ ih =>
    obtain ⟨a, s', hstep⟩ := hstep
    exact ih a s' trivial hstep (keeps _ _ _ h hstep)

/-! ## Systems that compute their steps -/

def ofStep (init : σ → Prop) (step : σ → α → Option σ) : LTS σ α where
  init := init
  step s a s' := step s a = some s'

theorem ofStep_leads_to_end {init : σ → Prop} {step : σ → α → Option σ} {I : List α → σ → Prop}
    {μ : σ → ℕ} (keeps : ∀ trace s a s', I trace s → step s a = some s' → I (a :: trace) s')
    (falls : ∀ trace s a s', I trace s → step s a = some s' → μ s' < μ s) {trace : List α} {s : σ}
    (h : I trace s) : (ofStep init step).Leads (fun s => ∀ a, step s a = none) s := by
  refine inevitable_of_admitted_rank (I := fun s => ∃ trace, I trace s) (μ := μ) ?_ ?_ ?_
    ⟨trace, h⟩
  · rintro s a s' ⟨trace, h⟩ - hstep
    exact ⟨a :: trace, keeps trace s a s' h hstep⟩
  · rintro s -
    by_cases hend : ∀ a, step s a = none
    · exact .inl hend
    · obtain ⟨a, ha⟩ := not_forall.mp hend
      obtain ⟨s', hs'⟩ := Option.ne_none_iff_exists'.mp ha
      exact .inr ⟨a, s', hs'⟩
  · rintro s a s' ⟨trace, h⟩ - hstep
    exact falls trace s a s' h hstep

theorem runWhere_of_foldlM {init : σ → Prop} {step : σ → α → Option σ} {C : σ → α → Prop}
    [∀ s a, Decidable (C s a)] {trace actions : List α} {s s' : σ}
    (run : (ofStep init step).RunWhere C trace s)
    (hactions : actions.foldlM (fun s a => if C s a then step s a else none) s = some s') :
    (ofStep init step).RunWhere C (actions.reverse ++ trace) s' := by
  induction actions generalizing trace s with
  | nil =>
    rw [List.foldlM_nil] at hactions
    cases hactions
    exact run
  | cons a rest ih =>
    rw [List.foldlM_cons] at hactions
    obtain ⟨mid, hmid, hrest⟩ := Option.bind_eq_some_iff.mp hactions
    rw [Option.ite_none_right_eq_some] at hmid
    have := ih (.next run hmid.1 hmid.2) hrest
    rwa [List.reverse_cons, List.append_assoc]

theorem run_of_foldlM {init : σ → Prop} {step : σ → α → Option σ} {trace actions : List α}
    {s s' : σ} (run : (ofStep init step).Run trace s)
    (hactions : actions.foldlM step s = some s') :
    (ofStep init step).Run (actions.reverse ++ trace) s' :=
  runWhere_of_foldlM run (by simpa using hactions)

end LTS

/-! ## Systems of like parts -/

section Parts

variable {τ : Type v} (f : τ → ℕ)

def total (parts : List τ) : ℕ := (parts.map f).sum

@[simp] theorem total_nil : total f [] = 0 := rfl

@[simp] theorem total_cons (part : τ) (parts : List τ) :
    total f (part :: parts) = f part + total f parts := by
  simp [total]

theorem total_set {parts : List τ} {i : ℕ} {part : τ} (h : parts[i]? = some part) (part' : τ) :
    total f (parts.set i part') + f part = total f parts + f part' := by
  induction parts generalizing i with
  | nil => cases h
  | cons first rest ih =>
    cases i with
    | zero =>
      cases h
      simp only [List.set_cons_zero, total_cons]
      omega
    | succ i =>
      have := ih (i := i) h
      simp only [List.set_cons_succ, total_cons]
      omega

theorem total_eq_zero {parts : List τ} : total f parts = 0 ↔ ∀ part ∈ parts, f part = 0 := by
  induction parts with
  | nil => simp
  | cons first rest ih => simp [ih]

theorem total_append (parts parts' : List τ) :
    total f (parts ++ parts') = total f parts + total f parts' := by
  induction parts with
  | nil => simp
  | cons first rest ih =>
    rw [List.cons_append, total_cons, total_cons, ih]
    omega

theorem total_eq_length {parts : List τ} (h : ∀ part ∈ parts, f part = 1) :
    total f parts = parts.length := by
  induction parts with
  | nil => rfl
  | cons first rest ih =>
    rw [total_cons, List.length_cons, h first List.mem_cons_self,
      ih fun part hpart => h part (List.mem_cons_of_mem _ hpart)]
    omega

theorem le_total_of_mem {parts : List τ} {part : τ} (h : part ∈ parts) :
    f part ≤ total f parts := by
  induction parts with
  | nil => cases h
  | cons first rest ih =>
    rw [total_cons]
    rcases List.mem_cons.mp h with rfl | h
    · omega
    · have := ih h
      omega

theorem forall_mem_set {P : τ → Prop} {parts : List τ} (h : ∀ part ∈ parts, P part) {i : ℕ}
    {part' : τ} (h' : P part') : ∀ part ∈ parts.set i part', P part := by
  intro part hpart
  rcases List.mem_or_eq_of_mem_set hpart with hold | rfl
  · exact h part hold
  · exact h'

end Parts

end Foundation
