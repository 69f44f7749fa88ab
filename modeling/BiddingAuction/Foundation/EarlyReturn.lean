import Mathlib.Data.List.Basic

/-!
# Loops that return early or fail

A body goes on with a state, returns from the function with one, or fails. Where the body fails
depends on the element alone, unless errors make it return before.
-/

namespace Foundation

variable {σ α β ε : Type}

/-- What a part of a function does: control goes on, or the function returns. -/
inductive Flow (σ : Type) where
  | next (s : σ)
  | returned (s : σ)

namespace Flow

def state : Flow σ → σ
  | next s => s
  | returned s => s

def IsNext : Flow σ → Prop
  | next _ => True
  | returned _ => False

end Flow

/-- A loop whose body may return from the function, and fails if the body does. -/
def loopOrReturn (body : σ → α → Option (Flow σ)) (s : σ) : List α → Option (Flow σ)
  | [] => some (.next s)
  | a :: rest =>
    match body s a with
    | none => none
    | some (.returned s) => some (.returned s)
    | some (.next s) => loopOrReturn body s rest

/-- A loop that never returns early fails iff its body fails on an element; one that may is told
apart by `quits`, where the body never fails. -/
theorem loopOrReturn_isSome_iff {body : σ → α → Option (Flow σ)} {quits : Prop} {safe : α → Prop}
    (hbody : ∀ s a, (body s a).isSome = true ↔ quits ∨ safe a)
    (hnext : ¬ quits → ∀ s a flow, body s a = some flow → flow.IsNext) (s : σ) (l : List α) :
    (loopOrReturn body s l).isSome = true ↔ quits ∨ ∀ a ∈ l, safe a := by
  induction l generalizing s with
  | nil => simp [loopOrReturn]
  | cons a rest ih =>
    have ha := hbody s a
    unfold loopOrReturn
    cases hrun : body s a with
    | none =>
      rw [hrun] at ha
      simp only [Option.isSome_none, Bool.false_eq_true, false_iff, not_or] at ha ⊢
      exact ⟨ha.1, fun hall => ha.2 (hall a List.mem_cons_self)⟩
    | some flow =>
      rw [hrun] at ha
      have hsafe : quits ∨ safe a := ha.mp rfl
      cases flow with
      | next s' =>
        dsimp only
        rw [ih s', List.forall_mem_cons]
        tauto
      | returned s' =>
        -- what is left of the loop does not matter any more
        have hquits : quits := by
          by_contra hnot
          exact hnext hnot s a _ hrun
        exact iff_of_true rfl (.inl hquits)

theorem loopOrReturn_isSome {body : σ → α → Option (Flow σ)}
    (hbody : ∀ s a, (body s a).isSome = true) (s : σ) (l : List α) :
    (loopOrReturn body s l).isSome = true := by
  induction l generalizing s with
  | nil => rfl
  | cons a rest ih =>
    obtain ⟨flow, hrun⟩ := Option.isSome_iff_exists.mp (hbody s a)
    unfold loopOrReturn
    rw [hrun]
    cases flow with
    | next s' => exact ih s'
    | returned s' => rfl

theorem loopOrReturn_append {body : σ → α → Option (Flow σ)} (s : σ) (l l' : List α) :
    loopOrReturn body s (l ++ l') =
      (loopOrReturn body s l).bind fun
        | .next s => loopOrReturn body s l'
        | .returned s => some (.returned s) := by
  induction l generalizing s with
  | nil => rfl
  | cons a rest ih =>
    simp only [List.cons_append, loopOrReturn]
    cases body s a with
    | none => rfl
    | some flow =>
      cases flow with
      | next s' => exact ih s'
      | returned s' => rfl

theorem loopOrReturn_next_of_body {body : σ → α → Option (Flow σ)} {P : σ → Prop}
    (hbody : ∀ s a s', body s a = some (.next s') → P s') {s s' : σ} {l : List α} (hs : P s)
    (h : loopOrReturn body s l = some (.next s')) : P s' := by
  induction l generalizing s with
  | nil =>
    cases h
    exact hs
  | cons a rest ih =>
    unfold loopOrReturn at h
    cases hrun : body s a with
    | none => rw [hrun] at h; cases h
    | some flow =>
      rw [hrun] at h
      cases flow with
      | next s'' => exact ih (hbody _ _ _ hrun) h
      | returned s'' => cases h

theorem loopOrReturn_isNext {body : σ → α → Option (Flow σ)}
    (hnext : ∀ s a flow, body s a = some flow → flow.IsNext) {s : σ} {l : List α} {flow : Flow σ}
    (h : loopOrReturn body s l = some flow) : flow.IsNext := by
  induction l generalizing s with
  | nil =>
    cases h
    trivial
  | cons a rest ih =>
    unfold loopOrReturn at h
    cases hrun : body s a with
    | none => rw [hrun] at h; cases h
    | some flow' =>
      rw [hrun] at h
      cases flow' with
      | next s' => exact ih h
      | returned s' => exact (hnext s a _ hrun).elim

/-! ## Up to the first that is refused -/

/-- The elements are sound up to the first that is not accepted. -/
def soundUpTo (accepted sound : α → Bool) : List α → Bool
  | [] => true
  | a :: rest => sound a && (!accepted a || soundUpTo accepted sound rest)

theorem foldlM_ne_error {f : β → α → Except ε β} {e : ε} {accepted sound : α → Bool}
    (haccepted : ∀ b a, (f b a).isOk = accepted a)
    (hsound : ∀ b a, f b a ≠ .error e ↔ sound a = true) (l : List α) (b : β) :
    l.foldlM f b ≠ .error e ↔ soundUpTo accepted sound l = true := by
  induction l generalizing b with
  | nil => exact iff_of_true (fun h => nomatch h) rfl
  | cons a rest ih =>
    have ha := haccepted b a
    have hs := hsound b a
    rw [List.foldlM_cons, soundUpTo, Bool.and_eq_true, ← hs]
    cases hrun : f b a with
    | ok b' =>
      rw [hrun] at ha
      have hnot : (!accepted a) = false := by rw [← ha]; rfl
      rw [hnot, Bool.false_or]
      show rest.foldlM f b' ≠ _ ↔ _
      rw [ih b']
      exact (and_iff_right fun hne => nomatch hne).symm
    | error e' =>
      rw [hrun] at ha
      have hnot : (!accepted a) = true := by rw [← ha]; rfl
      rw [hnot, Bool.true_or]
      show Except.error e' ≠ _ ↔ _
      simp

theorem foldlM_isOk {f : β → α → Except ε β} {accepted : α → Bool}
    (haccepted : ∀ b a, (f b a).isOk = accepted a) (l : List α) (b : β) :
    (l.foldlM f b).isOk = l.all accepted := by
  induction l generalizing b with
  | nil => rfl
  | cons a rest ih =>
    have ha := haccepted b a
    rw [List.foldlM_cons, List.all_cons, ← ha]
    cases hrun : f b a with
    | ok b' =>
      show (rest.foldlM f b').isOk = _
      rw [ih b']
      rfl
    | error e' => rfl

theorem mapM_ne_error {f : α → Except ε β} {e : ε} {accepted sound : α → Bool}
    (haccepted : ∀ a, (f a).isOk = accepted a) (hsound : ∀ a, f a ≠ .error e ↔ sound a = true)
    (l : List α) : l.mapM f ≠ .error e ↔ soundUpTo accepted sound l = true := by
  induction l with
  | nil => exact iff_of_true (fun h => nomatch h) rfl
  | cons a rest ih =>
    have ha := haccepted a
    rw [List.mapM_cons, soundUpTo, Bool.and_eq_true, ← hsound a]
    cases hrun : f a with
    | ok b =>
      rw [hrun] at ha
      have hnot : (!accepted a) = false := by rw [← ha]; rfl
      rw [hnot, Bool.false_or, ← ih]
      refine Iff.trans ?_ (and_iff_right fun hne => nomatch hne).symm
      cases rest.mapM f with
      | ok bs => exact iff_of_true (fun h => nomatch h) (fun h => nomatch h)
      | error e' =>
        show Except.error e' ≠ _ ↔ _
        simp
    | error e' =>
      rw [hrun] at ha
      have hnot : (!accepted a) = true := by rw [← ha]; rfl
      rw [hnot, Bool.true_or]
      show Except.error e' ≠ _ ↔ _
      simp

theorem mapM_isOk {f : α → Except ε β} {accepted : α → Bool}
    (haccepted : ∀ a, (f a).isOk = accepted a) (l : List α) :
    (l.mapM f).isOk = l.all accepted := by
  induction l with
  | nil => rfl
  | cons a rest ih =>
    rw [List.mapM_cons, List.all_cons, ← haccepted a, ← ih]
    cases f a with
    | error e => rfl
    | ok b => cases rest.mapM f <;> rfl

end Foundation
