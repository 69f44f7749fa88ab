import Mathlib.Data.List.Basic

/-!
# Guarded reads

A read with a single way to fail returns its value under a condition. Reads that follow one
another are guarded by all of their conditions, and so is a loop of them.
-/

namespace Foundation

variable {α β ε : Type}

def guarded (e : ε) (p : Bool) (a : α) : Except ε α := if p then .ok a else .error e

theorem guarded_true (e : ε) (a : α) : guarded e true a = .ok a := rfl

theorem guarded_eq_ok {e : ε} {p : Bool} {a b : α} :
    guarded e p a = .ok b ↔ p = true ∧ a = b := by
  cases p with
  | false => exact iff_of_false (fun h => nomatch h) fun h => nomatch h.1
  | true =>
    rw [guarded_true]
    exact ⟨fun h => ⟨rfl, Except.ok.inj h⟩, fun h => congrArg Except.ok h.2⟩

theorem guarded_eq_error {e e' : ε} {p : Bool} {a : α} :
    guarded e p a = .error e' ↔ p = false ∧ e = e' := by
  cases p with
  | false => exact ⟨fun h => ⟨rfl, Except.error.inj h⟩, fun h => congrArg Except.error h.2⟩
  | true => exact iff_of_false (fun h => nomatch h) fun h => nomatch h.1

theorem guarded_ne_error {e : ε} {p : Bool} {a : α} : guarded e p a ≠ .error e ↔ p = true := by
  cases p with
  | false => exact iff_of_false (fun h => h rfl) (fun h => nomatch h)
  | true => exact iff_of_true (fun h => nomatch h) rfl

theorem guarded_true_bind (e : ε) (a : α) (f : α → Except ε β) :
    guarded e true a >>= f = f a := rfl

theorem guarded_bind {e : ε} {p q : Bool} {a : α} {b : β} {f : α → Except ε β}
    (h : p = true → f a = guarded e q b) : guarded e p a >>= f = guarded e (p && q) b := by
  cases p with
  | false => rfl
  | true => exact h rfl

theorem guarded_bind_of_imp {e : ε} {p q : Bool} {a : α} {b : β} {f : α → Except ε β}
    (hp : q = true → p = true) (h : f a = guarded e q b) :
    guarded e p a >>= f = guarded e q b := by
  cases p with
  | true => exact h
  | false =>
    cases q with
    | true => nomatch hp rfl
    | false => rfl

theorem guarded_bind_ok {e : ε} {p : Bool} {a : α} {b : β} {f : α → Except ε β}
    (h : p = true → f a = .ok b) : guarded e p a >>= f = guarded e p b := by
  cases p with
  | false => rfl
  | true => exact h rfl

theorem guarded_bind_pure {e : ε} {p : Bool} {a : α} (f : α → β) :
    (guarded e p a >>= fun a => pure (f a)) = guarded e p (f a) :=
  guarded_bind_ok fun _ => rfl

theorem mapM_guarded {e : ε} (p : α → Bool) (f : α → β) (l : List α) :
    (l.mapM fun a => guarded e (p a) (f a)) = guarded e (l.all p) (l.map f) := by
  induction l with
  | nil => rfl
  | cons a l ih =>
    rw [List.mapM_cons, ih, List.all_cons, List.map_cons]
    exact guarded_bind fun _ => guarded_bind_pure _

theorem exists_mapM_iff {α β ε : Type} {read : α → Except ε β} {l : List α} :
    (∃ r, l.mapM read = .ok r) ↔ ∀ a ∈ l, ∃ b, read a = .ok b := by
  induction l with
  | nil => exact iff_of_true ⟨[], rfl⟩ nofun
  | cons a l ih =>
    rw [List.mapM_cons, List.forall_mem_cons, ← ih]
    cases read a with
    | error e => exact iff_of_false (fun ⟨_, h⟩ => nomatch h) fun ⟨⟨_, h⟩, _⟩ => nomatch h
    | ok b =>
      cases l.mapM read with
      | error e => exact iff_of_false (fun ⟨_, h⟩ => nomatch h) fun ⟨_, ⟨_, h⟩⟩ => nomatch h
      | ok bs => exact iff_of_true ⟨_, rfl⟩ ⟨⟨b, rfl⟩, ⟨bs, rfl⟩⟩

end Foundation
