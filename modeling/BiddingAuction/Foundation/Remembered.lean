import Mathlib.Tactic.Common

/-!
# Loading what has changed

A loader remembers the content it was last offered and loads what differs from it. It
remembers before it knows whether the load succeeds, so content that failed to load
looks as if it had not changed when it is offered again.
-/

namespace Foundation

universe u

/-- What is remembered, and the loads so far, latest first, with whether they succeeded. -/
structure Remembered (α : Type u) where
  content : α
  loads : List (α × Bool) := []

namespace Remembered

variable {α : Type u} [DecidableEq α]

/-- Content is offered; `succeeds` is whether its load would succeed. -/
def offer (r : Remembered α) (content : α) (succeeds : Bool) : Remembered α :=
  if r.content = content then r else ⟨content, (content, succeeds) :: r.loads⟩

def lastLoaded (r : Remembered α) : Option α := (r.loads.find? Prod.snd).map Prod.fst

theorem loads_offer (r : Remembered α) (content : α) (succeeds : Bool) :
    (r.offer content succeeds).loads = (content, succeeds) :: r.loads ↔ r.content ≠ content := by
  unfold offer
  split
  · rename_i hsame
    refine iff_of_false (fun h => ?_) (not_not_intro hsame)
    have := congrArg List.length h
    simp at this
  · rename_i hdiffers
    exact iff_of_true rfl hdiffers

/-- Content is loaded or was the last to be loaded, unless it is what is remembered and
was not. -/
theorem loads_or_lastLoaded_iff (r : Remembered α) (content : α) (succeeds : Bool) :
    ((r.offer content succeeds).loads = (content, succeeds) :: r.loads ∨
        r.lastLoaded = some content) ↔
      (r.content = content → r.lastLoaded = some content) := by
  rw [loads_offer, ne_eq, ← imp_iff_not_or]

/-- The content last loaded, whether the load succeeded or not, or else `initial`. -/
def lastAttempted (initial : α) (r : Remembered α) : α :=
  (r.loads.head?.map Prod.fst).getD initial

theorem content_offer {initial : α} {r : Remembered α} (h : r.content = r.lastAttempted initial)
    (content : α) (succeeds : Bool) :
    (r.offer content succeeds).content = (r.offer content succeeds).lastAttempted initial := by
  unfold offer
  split
  · exact h
  · rfl

end Remembered

end Foundation
