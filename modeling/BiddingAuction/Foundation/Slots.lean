import Mathlib.Data.List.Forall2
import Mathlib.Data.Nat.Notation

/-!
# Answers in the slots of a list

A list of outcomes is split into its successes and its failures, each failure with its
position. The successes are answered in order. The answers go back between the failures:
each failure takes the slot of its position, and the slots left vacant take the answers
one after another.
-/

namespace Foundation

universe u w

theorem exists_getElem?_of_forall₂ {α : Type u} {β : Type w} {R : α → β → Prop} {l : List α}
    {l' : List β} (h : List.Forall₂ R l l') {i : ℕ} {a : α} (ha : l[i]? = some a) :
    ∃ b, l'[i]? = some b ∧ R a b := by
  induction h generalizing i with
  | nil => cases ha
  | cons hfirst _ ih =>
    cases i with
    | zero =>
      cases ha
      exact ⟨_, rfl, hfirst⟩
    | succ i => exact ih ha

namespace Slots

variable {α : Type u} {β : Type w}

/-- The failures with their positions, counted from `i`. -/
def failures : ℕ → List (Except β α) → List (ℕ × β)
  | _, [] => []
  | i, .error b :: rest => (i, b) :: failures (i + 1) rest
  | i, .ok _ :: rest => failures (i + 1) rest

def successes (outcomes : List (Except β α)) : List α :=
  outcomes.filterMap Except.toOption

def place (slots : List β) (entries : List (ℕ × β)) : List β :=
  entries.foldl (fun slots entry => slots.set entry.1 entry.2) slots

def slotOf (vacancy : β) : Except β α → β
  | .error b => b
  | .ok _ => vacancy

/-- The vacant slots take the answers in order, as long as there are any. -/
def fill (vacant : β → Bool) : List β → List β → List β
  | [], _ => []
  | slot :: slots, [] => slot :: fill vacant slots []
  | slot :: slots, answer :: answers =>
    if vacant slot then answer :: fill vacant slots answers
    else slot :: fill vacant slots (answer :: answers)

/-- The failures at their positions, and the answers in order at the others. -/
def lineUp : List (Except β α) → List β → List β
  | .error b :: rest, answers => b :: lineUp rest answers
  | .ok _ :: rest, answer :: answers => answer :: lineUp rest answers
  | _, _ => []

@[simp] theorem successes_nil : successes ([] : List (Except β α)) = [] := rfl

@[simp] theorem successes_error {b : β} {rest : List (Except β α)} :
    successes (.error b :: rest) = successes rest := rfl

@[simp] theorem successes_ok {a : α} {rest : List (Except β α)} :
    successes (.ok a :: rest) = a :: successes rest := rfl

theorem length_failures_add_successes (i : ℕ) (outcomes : List (Except β α)) :
    (failures i outcomes).length + (successes outcomes).length = outcomes.length := by
  induction outcomes generalizing i with
  | nil => rfl
  | cons outcome rest ih =>
    have := ih (i + 1)
    cases outcome with
    | error b =>
      simp only [failures, successes_error, List.length_cons]
      omega
    | ok a =>
      simp only [failures, successes_ok, List.length_cons]
      omega

theorem lt_of_mem_failures {i : ℕ} {outcomes : List (Except β α)} {entry : ℕ × β}
    (h : entry ∈ failures i outcomes) : entry.1 < i + outcomes.length := by
  induction outcomes generalizing i with
  | nil => cases h
  | cons outcome rest ih =>
    simp only [List.length_cons]
    cases outcome with
    | error b =>
      rcases List.mem_cons.mp h with rfl | hrest
      · show i < i + (rest.length + 1)
        omega
      · have := ih hrest
        omega
    | ok a =>
      have := ih h
      omega

theorem place_failures_append (vacancy : β) (before : List β) (outcomes : List (Except β α)) :
    place (before ++ List.replicate outcomes.length vacancy) (failures before.length outcomes) =
      before ++ outcomes.map (slotOf vacancy) := by
  induction outcomes generalizing before with
  | nil => rfl
  | cons outcome rest ih =>
    -- the slots before the next one grow by its own
    have hslots (b : β) : before ++ b :: List.replicate rest.length vacancy =
        (before ++ [b]) ++ List.replicate rest.length vacancy := by simp
    have hnext (b : β) := ih (before ++ [b])
    simp only [List.length_append, List.length_singleton] at hnext
    simp only [List.length_cons, List.replicate_succ, List.map_cons]
    cases outcome with
    | error b =>
      show place ((before ++ vacancy :: _).set before.length b) _ = _
      rw [List.set_append_right _ _ (Nat.le_refl _), Nat.sub_self, List.set_cons_zero, hslots,
        hnext, List.append_assoc]
      rfl
    | ok a =>
      show place _ (failures (before.length + 1) rest) = _
      rw [hslots, hnext, List.append_assoc]
      rfl

theorem place_failures (vacancy : β) (outcomes : List (Except β α)) :
    place (List.replicate outcomes.length vacancy) (failures 0 outcomes) =
      outcomes.map (slotOf vacancy) :=
  place_failures_append vacancy [] outcomes

theorem fill_slotOf {vacant : β → Bool} {vacancy : β} (hvacancy : vacant vacancy = true)
    {outcomes : List (Except β α)} (hfailures : ∀ b, .error b ∈ outcomes → vacant b = false)
    {answers : List β} (hlength : answers.length = (successes outcomes).length) :
    fill vacant (outcomes.map (slotOf vacancy)) answers = lineUp outcomes answers := by
  induction outcomes generalizing answers with
  | nil => rfl
  | cons outcome rest ih =>
    have hrest : ∀ b, .error b ∈ rest → vacant b = false :=
      fun b hb => hfailures b (List.mem_cons_of_mem _ hb)
    cases outcome with
    | error b =>
      have hb := hfailures b List.mem_cons_self
      have htail := ih hrest hlength
      cases answers with
      | nil => simpa [slotOf, fill, lineUp] using htail
      | cons answer answers => simpa [slotOf, fill, lineUp, hb] using htail
    | ok a =>
      cases answers with
      | nil => cases hlength
      | cons answer answers =>
        have htail := ih hrest (Nat.succ.inj hlength)
        simpa [slotOf, fill, lineUp, hvacancy] using htail

theorem lineUp_of_failures_eq_nil {i : ℕ} {outcomes : List (Except β α)}
    (h : failures i outcomes = []) {answers : List β}
    (hlength : answers.length = (successes outcomes).length) :
    lineUp outcomes answers = answers := by
  induction outcomes generalizing i answers with
  | nil => exact (List.eq_nil_of_length_eq_zero hlength).symm
  | cons outcome rest ih =>
    cases outcome with
    | error b => cases h
    | ok a =>
      cases answers with
      | nil => cases hlength
      | cons answer answers =>
        show answer :: lineUp rest answers = answer :: answers
        rw [ih h (Nat.succ.inj hlength)]

theorem length_lineUp {outcomes : List (Except β α)} {answers : List β}
    (hlength : answers.length = (successes outcomes).length) :
    (lineUp outcomes answers).length = outcomes.length := by
  induction outcomes generalizing answers with
  | nil => rfl
  | cons outcome rest ih =>
    cases outcome with
    | error b => exact congrArg (· + 1) (ih hlength)
    | ok a =>
      cases answers with
      | nil => cases hlength
      | cons answer answers => exact congrArg (· + 1) (ih (Nat.succ.inj hlength))

theorem getElem?_lineUp_error {outcomes : List (Except β α)} {answers : List β}
    (hlength : answers.length = (successes outcomes).length) {i : ℕ} {b : β}
    (h : outcomes[i]? = some (.error b)) : (lineUp outcomes answers)[i]? = some b := by
  induction outcomes generalizing answers i with
  | nil => cases h
  | cons outcome rest ih =>
    cases i with
    | zero =>
      cases h
      rfl
    | succ i =>
      cases outcome with
      | error b' => exact ih hlength h
      | ok a =>
        cases answers with
        | nil => cases hlength
        | cons answer answers => exact ih (Nat.succ.inj hlength) h

/-- At the position of a success stands the answer to it: the two have the same place
among the successes and among the answers. -/
theorem getElem?_lineUp_ok {outcomes : List (Except β α)} {answers : List β}
    (hlength : answers.length = (successes outcomes).length) {i : ℕ} {a : α}
    (h : outcomes[i]? = some (.ok a)) :
    ∃ k answer, (successes outcomes)[k]? = some a ∧ answers[k]? = some answer ∧
      k = (successes (outcomes.take i)).length ∧ (lineUp outcomes answers)[i]? = some answer := by
  induction outcomes generalizing answers i with
  | nil => cases h
  | cons outcome rest ih =>
    cases outcome with
    | error b =>
      cases i with
      | zero => cases h
      | succ i => exact ih hlength h
    | ok a' =>
      cases answers with
      | nil => cases hlength
      | cons answer answers =>
        cases i with
        | zero =>
          cases h
          exact ⟨0, answer, rfl, rfl, rfl, rfl⟩
        | succ i =>
          obtain ⟨k, answer', hsuccess, hanswer, hk, hline⟩ := ih (Nat.succ.inj hlength) h
          exact ⟨k + 1, answer', hsuccess, hanswer, congrArg (· + 1) hk, hline⟩

end Slots

end Foundation
