import Mathlib.Data.List.Chain
import Mathlib.Data.List.Nodup
import Mathlib.Logic.Function.Basic

/-!
# Doubly linked paths in a heap

A heap of list nodes is read through two partial maps, the `next` and `prev`
fields; `none` is the null pointer. `Path` says that a list of distinct nodes
is linked in both directions. The two surgeries a doubly linked list is built
from, unlinking a node and linking one after another, are the sequences of
pointer assignments of a C program; a null pointer met on the way yields
`none`. On a path both are defined and act as the evident list operations.
-/

namespace Foundation

universe u

structure Links (ι : Type u) where
  next : ι → Option ι
  prev : ι → Option ι

namespace Links

variable {ι : Type u} [DecidableEq ι]

/-- `a->next = b`. -/
def setNext (L : Links ι) (a b : ι) : Links ι :=
  { L with next := Function.update L.next a (some b) }

/-- `a->prev = b`. -/
def setPrev (L : Links ι) (a b : ι) : Links ι :=
  { L with prev := Function.update L.prev a (some b) }

/-- `x->prev->next = x->next; x->next->prev = x->prev`. -/
def unlink (L : Links ι) (x : ι) : Option (Links ι) := do
  let before ← L.prev x
  let after ← L.next x
  let L := L.setNext before after
  let after ← L.next x
  let before ← L.prev x
  return L.setPrev after before

/-- `x->next = h->next; x->prev = h; h->next->prev = x; h->next = x`. -/
def linkAfter (L : Links ι) (h x : ι) : Option (Links ι) := do
  let first ← L.next h
  let L := (L.setNext x first).setPrev x h
  let first ← L.next h
  return (L.setPrev first x).setNext h x

/-- `delete x`: the fields of a freed node can no longer be read. -/
def free (L : Links ι) (x : ι) : Links ι where
  next := Function.update L.next x none
  prev := Function.update L.prev x none

def Joined (L : Links ι) (a b : ι) : Prop := L.next a = some b ∧ L.prev b = some a

/-- Distinct nodes, each joined to its successor. -/
structure Path (L : Links ι) (nodes : List ι) : Prop where
  joined : nodes.IsChain L.Joined
  nodup : nodes.Nodup

omit [DecidableEq ι] in
private theorem isChain_frame {L L' : Links ι} {nodes : List ι}
    (hnext : ∀ a ∈ nodes, ∀ b ∈ nodes, L.next a = some b → L'.next a = some b)
    (hprev : ∀ a ∈ nodes, ∀ b ∈ nodes, L.prev b = some a → L'.prev b = some a)
    (chain : nodes.IsChain L.Joined) : nodes.IsChain L'.Joined := by
  refine chain.imp_of_mem_imp ?_
  intro a b ha hb hjoined
  exact ⟨hnext a ha b hb hjoined.1, hprev a ha b hb hjoined.2⟩

omit [DecidableEq ι] in
theorem Path.joined_at {L : Links ι} {pre post : List ι} {a b : ι}
    (path : L.Path (pre ++ a :: b :: post)) : L.Joined a b :=
  (List.isChain_append_cons_cons.mp path.joined).2.1

private theorem Path.unlink_between {L : Links ι} {pre post : List ι} {a x b : ι}
    (path : L.Path (pre ++ a :: x :: b :: post)) :
    ∃ L', L.unlink x = some L' ∧ L'.Path (pre ++ a :: b :: post) := by
  obtain ⟨hpre, hax, hrest⟩ := List.isChain_append_cons_cons.mp path.joined
  obtain ⟨hxb, hpost⟩ := List.isChain_cons_cons.mp hrest
  have hnodup := path.nodup
  have hne : a ≠ x := by grind
  have hx_pre : x ∉ pre ++ [a] := by grind
  have hx_post : x ∉ b :: post := by grind
  have ha_post : a ∉ b :: post := by grind
  have hb_pre : b ∉ pre ++ [a] := by grind
  have hrun : L.unlink x = some ((L.setNext a b).setPrev b a) := by
    simp [Links.unlink, hax.2, hxb.1, setNext, Function.update_of_ne hne.symm]
  refine ⟨_, hrun, ?_, ?_⟩
  · refine List.isChain_append_cons_cons.mpr ⟨?_, ⟨?_, ?_⟩, ?_⟩
    · -- inside this segment no link leaves `a`: it pointed at `x`
      refine isChain_frame ?_ ?_ hpre
      · intro p _ q hq hpq
        have hpa : p ≠ a := by
          rintro rfl
          exact hx_pre (Option.some.inj (hpq.symm.trans hax.1) ▸ hq)
        simpa [setNext, setPrev, Function.update_of_ne hpa] using hpq
      · intro p _ q hq hpq
        have hqb : q ≠ b := fun h => hb_pre (h ▸ hq)
        simpa [setNext, setPrev, Function.update_of_ne hqb] using hpq
    · simp [setNext, setPrev]
    · simp [setPrev]
    · -- inside this segment no link enters `b`: it pointed back at `x`
      refine isChain_frame ?_ ?_ hpost
      · intro p hp q _ hpq
        have hpa : p ≠ a := fun h => ha_post (h ▸ hp)
        simpa [setNext, setPrev, Function.update_of_ne hpa] using hpq
      · intro p hp q _ hpq
        have hqb : q ≠ b := by
          rintro rfl
          exact hx_post (Option.some.inj (hpq.symm.trans hxb.2) ▸ hp)
        simpa [setNext, setPrev, Function.update_of_ne hqb] using hpq
  · refine hnodup.sublist ?_
    simp

theorem Path.unlink {L : Links ι} {before after : List ι} {x : ι}
    (path : L.Path (before ++ x :: after)) (hbefore : before ≠ []) (hafter : after ≠ []) :
    ∃ L', L.unlink x = some L' ∧ L'.Path (before ++ after) := by
  obtain ⟨pre, a, rfl⟩ := (List.eq_nil_or_concat before).resolve_left hbefore
  obtain ⟨b, post, rfl⟩ := List.exists_cons_of_ne_nil hafter
  simpa using Path.unlink_between (by simpa using path)

theorem Path.free {L : Links ι} {nodes : List ι} {x : ι} (path : L.Path nodes)
    (hx : x ∉ nodes) : (L.free x).Path nodes := by
  refine ⟨isChain_frame ?_ ?_ path.joined, path.nodup⟩
  · intro a ha b _ hab
    have hax : a ≠ x := fun h => hx (h ▸ ha)
    simpa [Links.free, Function.update_of_ne hax] using hab
  · intro a _ b hb hab
    have hbx : b ≠ x := fun h => hx (h ▸ hb)
    simpa [Links.free, Function.update_of_ne hbx] using hab

theorem Path.linkAfter {L : Links ι} {rest : List ι} {h x : ι}
    (path : L.Path (h :: rest)) (hrest : rest ≠ []) (hx : x ∉ h :: rest) :
    ∃ L', L.linkAfter h x = some L' ∧ L'.Path (h :: x :: rest) := by
  obtain ⟨b, post, rfl⟩ := List.exists_cons_of_ne_nil hrest
  obtain ⟨hhb, hpost⟩ := List.isChain_cons_cons.mp path.joined
  have hnodup := path.nodup
  have hne_x : h ≠ x := by grind
  have hxb : b ≠ x := by grind
  have hx_post : x ∉ b :: post := by grind
  have hh_post : h ∉ b :: post := by grind
  have hrun : L.linkAfter h x =
      some ((((L.setNext x b).setPrev x h).setPrev b x).setNext h x) := by
    simp [Links.linkAfter, hhb.1, setNext, setPrev, Function.update_of_ne hne_x]
  refine ⟨_, hrun, ?_, ?_⟩
  · refine List.isChain_cons_cons.mpr ⟨⟨?_, ?_⟩, List.isChain_cons_cons.mpr ⟨⟨?_, ?_⟩, ?_⟩⟩
    · simp [setNext]
    · simp [setNext, setPrev, Function.update_of_ne hxb.symm]
    · simp [setNext, setPrev, Function.update_of_ne hne_x.symm]
    · simp [setNext, setPrev]
    · refine isChain_frame ?_ ?_ hpost
      · intro p hp q _ hpq
        have hpx : p ≠ x := fun e => hx_post (e ▸ hp)
        have hph : p ≠ h := fun e => hh_post (e ▸ hp)
        simpa [setNext, setPrev, Function.update_of_ne hpx, Function.update_of_ne hph] using hpq
      · intro p hp q hq hpq
        have hqx : q ≠ x := fun e => hx_post (e ▸ hq)
        have hqb : q ≠ b := by
          rintro rfl
          exact hh_post (Option.some.inj (hpq.symm.trans hhb.2) ▸ hp)
        simpa [setNext, setPrev, Function.update_of_ne hqx, Function.update_of_ne hqb] using hpq
  · simp only [List.nodup_cons, List.mem_cons, not_or] at hnodup hx ⊢
    exact ⟨⟨hne_x, hnodup.1⟩, hx.2, hnodup.2⟩

end Links

end Foundation
