import BiddingAuction.Foundation.Linked
import Mathlib.Data.List.Perm.Subperm

/-!
# `DoublyLinkedList`

The list behind the cache, pointer by pointer. Nodes are heap cells with link
fields and a payload; `head` and `tail` are sentinels without payload. Every
operation is the sequence of assignments of the source, in `Option`: `none` is
a null or freed pointer being followed. `Holds` says which nodes a list holds,
first to last, and each operation has one lemma saying what it does to them.
-/

namespace BiddingAuction

open Foundation

abbrev Ptr := ℕ

/-- The libevent timer of an entry: when it was last added, and whether it is
still pending. -/
structure Event where
  addedAt : ℕ
  pending : Bool
deriving DecidableEq, Repr

structure CacheHashData (K V : Type) where
  key : K
  value : V
  timerEvent : Event
deriving DecidableEq, Repr

/-- The list: its two sentinels and the heap its nodes live in. Addresses from
`fresh` on were never allocated. -/
structure DoublyLinkedList (K V : Type) where
  head : Ptr
  tail : Ptr
  links : Links Ptr
  data : Ptr → Option (CacheHashData K V)
  fresh : Ptr

namespace DoublyLinkedList

variable {K V : Type}

def new : DoublyLinkedList K V where
  head := 0
  tail := 1
  links := (Links.setNext ⟨fun _ => none, fun _ => none⟩ 0 1).setPrev 1 0
  data := fun _ => none
  fresh := 2

/-- `InsertAtFront`: a new node between the head sentinel and the first node. -/
def insertAtFront (l : DoublyLinkedList K V) (d : CacheHashData K V) :
    Option (DoublyLinkedList K V × Ptr) := do
  let node := l.fresh
  let links ← l.links.linkAfter l.head node
  return ({ l with links, data := Function.update l.data node (some d), fresh := node + 1 }, node)

/-- `MoveToFront`: disconnect from the neighbours, link at the front. -/
def moveToFront (l : DoublyLinkedList K V) (node : Ptr) : Option (DoublyLinkedList K V) := do
  let links ← l.links.unlink node
  let links ← links.linkAfter l.head node
  return { l with links }

/-- `Remove`: disconnect from the neighbours, free the node. -/
def remove (l : DoublyLinkedList K V) (node : Ptr) : Option (DoublyLinkedList K V) := do
  let links ← l.links.unlink node
  return { l with links := links.free node, data := Function.update l.data node none }

/-- `Tail`: the last node, or null when the sentinels point at each other. -/
def last (l : DoublyLinkedList K V) : Option (Option Ptr) := do
  let p ← l.links.prev l.tail
  return if p = l.head then none else some p

/-- `Head`: the first node, or null when the sentinels point at each other. -/
def first (l : DoublyLinkedList K V) : Option (Option Ptr) := do
  let p ← l.links.next l.head
  return if p = l.tail then none else some p

/-- The payloads from a node to the last one, for so many nodes at the most. -/
def payloadsFrom (l : DoublyLinkedList K V) : ℕ → Ptr → List (CacheHashData K V)
  | 0, _ => []
  | n + 1, p =>
    if p = l.tail then []
    else
      match l.data p, l.links.next p with
      | some d, some next => d :: payloadsFrom l n next
      | _, _ => []

/-- The payloads, first to last: fewer than the addresses that were allocated. -/
def payloads (l : DoublyLinkedList K V) : List (CacheHashData K V) :=
  match l.links.next l.head with
  | none => []
  | some p => l.payloadsFrom l.fresh p

def setData (l : DoublyLinkedList K V) (node : Ptr) (d : CacheHashData K V) :
    DoublyLinkedList K V :=
  { l with data := Function.update l.data node (some d) }

/-! ## What a list holds -/

abbrev Cell (K V : Type) := Ptr × CacheHashData K V

/-- The list holds exactly `cells`, first to last: they are linked in both
directions between the sentinels, carry their payloads, and are allocated; no
other address carries a payload. -/
structure Holds (l : DoublyLinkedList K V) (cells : List (Cell K V)) : Prop where
  path : l.links.Path (l.head :: (cells.map Prod.fst ++ [l.tail]))
  payload : ∀ c, c ∈ cells ↔ l.data c.1 = some c.2
  allocated : ∀ p ∈ l.head :: (cells.map Prod.fst ++ [l.tail]), p < l.fresh

theorem new_holds : (new : DoublyLinkedList K V).Holds [] where
  path := by
    constructor
    · simp [new, Links.Joined, Links.setNext, Links.setPrev]
    · simp [new]
  payload := by simp [new]
  allocated := by simp [new]

theorem Holds.nodup {l : DoublyLinkedList K V} {cells : List (Cell K V)} (h : l.Holds cells) :
    (cells.map Prod.fst).Nodup :=
  (List.nodup_append.mp (List.nodup_cons.mp h.path.nodup).2).1

/-- `InsertAtFront` puts the new cell first. -/
theorem Holds.insertAtFront {l : DoublyLinkedList K V} {cells : List (Cell K V)}
    (h : l.Holds cells) (d : CacheHashData K V) :
    ∃ l', l.insertAtFront d = some (l', l.fresh) ∧ l'.Holds ((l.fresh, d) :: cells) := by
  have hfresh : l.fresh ∉ l.head :: (cells.map Prod.fst ++ [l.tail]) :=
    fun hmem => absurd (h.allocated _ hmem) (Nat.lt_irrefl _)
  obtain ⟨links, hlink, hpath⟩ := h.path.linkAfter (by simp) hfresh
  refine ⟨_, by rw [DoublyLinkedList.insertAtFront, hlink]; rfl, hpath, ?_, ?_⟩
  · rintro ⟨p, e⟩
    by_cases hp : p = l.fresh
    · subst hp
      have hnew : (l.fresh, e) ∉ cells := by
        intro hmem
        exact hfresh (by simp [List.mem_map_of_mem (f := Prod.fst) hmem])
      simp [hnew, eq_comm]
    · simp [hp, h.payload]
  · intro p hp
    have hold := h.allocated p
    simp only [List.map_cons, List.cons_append, List.mem_cons] at hp hold
    show p < l.fresh + 1
    rcases hp with hp | hp | hp
    · exact Nat.lt_succ_of_lt (hold (.inl hp))
    · exact hp ▸ Nat.lt_succ_self _
    · exact Nat.lt_succ_of_lt (hold (.inr hp))

/-- `MoveToFront` moves the cell to the front. -/
theorem Holds.moveToFront {l : DoublyLinkedList K V} {pre post : List (Cell K V)}
    {c : Cell K V} (h : l.Holds (pre ++ c :: post)) :
    ∃ l', l.moveToFront c.1 = some l' ∧ l'.Holds (c :: (pre ++ post)) := by
  have hpath : l.links.Path
      ((l.head :: pre.map Prod.fst) ++ c.1 :: (post.map Prod.fst ++ [l.tail])) := by
    simpa using h.path
  obtain ⟨links, hunlink, hrest⟩ := hpath.unlink (by simp) (by simp)
  have hc : c.1 ∉ (l.head :: pre.map Prod.fst) ++ (post.map Prod.fst ++ [l.tail]) := by
    have := hpath.nodup
    grind
  obtain ⟨links', hlink, hmoved⟩ :=
    Links.Path.linkAfter (h := l.head) (by simpa using hrest) (by simp) (by simpa using hc)
  have hrun : l.moveToFront c.1 = some { l with links := links' } := by
    simp [DoublyLinkedList.moveToFront, hunlink, hlink]
  refine ⟨_, hrun, ?_, ?_, ?_⟩
  · simpa using hmoved
  · intro d
    rw [← h.payload d]
    simp only [List.mem_cons, List.mem_append]
    tauto
  · intro p hp
    exact h.allocated p (by grind)

/-- `Remove` removes the cell. -/
theorem Holds.remove {l : DoublyLinkedList K V} {pre post : List (Cell K V)}
    {c : Cell K V} (h : l.Holds (pre ++ c :: post)) :
    ∃ l', l.remove c.1 = some l' ∧ l'.Holds (pre ++ post) := by
  have hpath : l.links.Path
      ((l.head :: pre.map Prod.fst) ++ c.1 :: (post.map Prod.fst ++ [l.tail])) := by
    simpa using h.path
  obtain ⟨links, hunlink, hrest⟩ := hpath.unlink (by simp) (by simp)
  have hc : c.1 ∉ (l.head :: pre.map Prod.fst) ++ (post.map Prod.fst ++ [l.tail]) := by
    have := hpath.nodup
    grind
  refine ⟨_, by rw [DoublyLinkedList.remove, hunlink]; rfl, ?_, ?_, ?_⟩
  · simpa using hrest.free hc
  · rintro ⟨p, e⟩
    by_cases hp : p = c.1
    · subst hp
      have hgone : (c.1, e) ∉ pre ++ post := by
        intro hmem
        have := List.mem_map_of_mem (f := Prod.fst) hmem
        exact hc (by grind)
      simpa using hgone
    · have hne : (p, e) ≠ c := fun heq => hp (congrArg Prod.fst heq)
      have hold := h.payload (p, e)
      simp only [List.mem_append, List.mem_cons, hne, false_or] at hold
      simpa [hp] using hold
  · intro p hp
    exact h.allocated p (by grind)

/-- `Tail` is the last cell, or null on an empty list. -/
theorem Holds.last {l : DoublyLinkedList K V} {cells : List (Cell K V)} (h : l.Holds cells) :
    l.last = some (cells.getLast?.map Prod.fst) := by
  rcases List.eq_nil_or_concat cells with rfl | ⟨init, c, rfl⟩
  · have hpath : l.links.Path ([] ++ l.head :: l.tail :: []) := h.path
    have hjoined : l.links.Joined l.head l.tail := hpath.joined_at
    simp [DoublyLinkedList.last, hjoined.2]
  · have hpath : l.links.Path ((l.head :: init.map Prod.fst) ++ c.1 :: l.tail :: []) := by
      simpa using h.path
    have hjoined : l.links.Joined c.1 l.tail := hpath.joined_at
    have hne : c.1 ≠ l.head := by
      have := hpath.nodup
      grind
    simp [DoublyLinkedList.last, hjoined.2, hne]

/-- `Head` is the first cell, or null on an empty list. -/
theorem Holds.first {l : DoublyLinkedList K V} {cells : List (Cell K V)} (h : l.Holds cells) :
    l.first = some (cells.head?.map Prod.fst) := by
  cases cells with
  | nil =>
    have hpath : l.links.Path ([] ++ l.head :: l.tail :: []) := h.path
    have hjoined : l.links.Joined l.head l.tail := hpath.joined_at
    simp [DoublyLinkedList.first, hjoined.1]
  | cons c cells =>
    have hpath : l.links.Path ([] ++ l.head :: c.1 :: (cells.map Prod.fst ++ [l.tail])) := h.path
    have hjoined : l.links.Joined l.head c.1 := hpath.joined_at
    have hne : c.1 ≠ l.tail := by
      have := hpath.nodup
      grind
    simp [DoublyLinkedList.first, hjoined.1, hne]

theorem Holds.payloadsFrom {l : DoublyLinkedList K V} (pre : List (Cell K V))
    {post : List (Cell K V)} (h : l.Holds (pre ++ post)) {n : ℕ} (hn : post.length ≤ n) {p : Ptr}
    (hp : (post.map Prod.fst ++ [l.tail]).head? = some p) :
    l.payloadsFrom n p = post.map Prod.snd := by
  induction post generalizing pre n p with
  | nil =>
    obtain rfl : l.tail = p := Option.some.inj hp
    cases n with
    | zero => rfl
    | succ n => exact if_pos rfl
  | cons c post ih =>
    obtain rfl : c.1 = p := Option.some.inj hp
    obtain ⟨n, rfl⟩ : ∃ n', n = n' + 1 := Nat.exists_eq_add_one.mpr (Nat.lt_of_lt_of_le
      (Nat.succ_pos _) hn)
    have hdata := (h.payload c).mp (by simp)
    have hnodup := h.path.nodup
    have hne : c.1 ≠ l.tail := by grind
    obtain ⟨next, rest, hnext⟩ := List.exists_cons_of_ne_nil
      (List.append_ne_nil_of_right_ne_nil (post.map Prod.fst) (List.cons_ne_nil l.tail []))
    have hpath : l.links.Path ((l.head :: pre.map Prod.fst) ++ c.1 :: next :: rest) := by
      simpa [← hnext] using h.path
    have hrest : l.payloadsFrom n next = post.map Prod.snd :=
      ih (pre ++ [c]) (by simpa using h) (Nat.le_of_succ_le_succ hn) (by rw [hnext]; rfl)
    rw [DoublyLinkedList.payloadsFrom, if_neg hne, hdata, hpath.joined_at.1]
    exact congrArg (c.2 :: ·) hrest

theorem Holds.payloads {l : DoublyLinkedList K V} {cells : List (Cell K V)} (h : l.Holds cells) :
    l.payloads = cells.map Prod.snd := by
  obtain ⟨next, rest, hnext⟩ := List.exists_cons_of_ne_nil
    (List.append_ne_nil_of_right_ne_nil (cells.map Prod.fst) (List.cons_ne_nil l.tail []))
  have hpath : l.links.Path ([] ++ l.head :: next :: rest) := by
    simpa [← hnext] using h.path
  have hlength : cells.length ≤ l.fresh := by
    have hsubset : cells.map Prod.fst ⊆ List.range l.fresh := fun p hp =>
      List.mem_range.mpr (h.allocated p (by simp [hp]))
    have := (List.subperm_of_subset h.nodup hsubset).length_le
    rwa [List.length_map, List.length_range] at this
  rw [DoublyLinkedList.payloads, hpath.joined_at.1]
  exact Holds.payloadsFrom [] h hlength (by rw [hnext]; rfl)

theorem Holds.setData {l : DoublyLinkedList K V} {pre post : List (Cell K V)}
    {c : Cell K V} (h : l.Holds (pre ++ c :: post)) (d : CacheHashData K V) :
    (l.setData c.1 d).Holds (pre ++ (c.1, d) :: post) := by
  have hnodes : (pre ++ (c.1, d) :: post).map Prod.fst = (pre ++ c :: post).map Prod.fst := by
    simp
  refine ⟨hnodes ▸ h.path, ?_, hnodes ▸ h.allocated⟩
  rintro ⟨p, e⟩
  have hold := h.payload (p, e)
  have hnodup := hnodes ▸ h.nodup
  by_cases hp : p = c.1
  · subst hp
    have hsame : (c.1, e) ∈ pre ++ (c.1, d) :: post ↔ e = d := by
      constructor
      · intro hmem
        have hmem' : (c.1, d) ∈ pre ++ (c.1, d) :: post := by simp
        exact congrArg Prod.snd (List.inj_on_of_nodup_map hnodup hmem hmem' rfl)
      · rintro rfl
        simp
    rw [hsame]
    simp [DoublyLinkedList.setData, eq_comm]
  · have hne : (p, e) ≠ c := fun heq => hp (congrArg Prod.fst heq)
    simp only [List.mem_append, List.mem_cons, hne, false_or] at hold
    simpa [DoublyLinkedList.setData, hp] using hold

end DoublyLinkedList

end BiddingAuction
