import BiddingAuction.Foundation.SortedWindow
import Mathlib.Data.Rat.Defs
import Mathlib.Algebra.Order.Ring.Rat
import Mathlib.Data.Int.Order.Basic

/-!
# The moving median

A window of the last values, in the order of arrival and in order of size, with an iterator to
the middle of the latter. While the window is not full every value is accepted; later ones are
sampled.
-/

namespace BiddingAuction

open Foundation

/-- `MovingMedian`. The multiset is in the order it is iterated, the iterator is the index it
stands at. A `double` holds the sum of two `int`s, and half of it. -/
structure MovingMedian where
  windowSize : ℕ
  samplingProbability : ℚ
  window : List ℤ := []
  windowData : List ℤ := []
  mid : Option ℕ := none
  median : Except String ℤ := .error "Window is not full"
deriving DecidableEq

/-- A call of `AddNumber`, with what the generator draws for it. -/
structure AddedNumber where
  draw : ℚ
  value : ℤ
deriving DecidableEq, Repr

namespace MovingMedian

def isSkipped (m : MovingMedian) (number : AddedNumber) : Bool :=
  decide (m.windowSize ≤ m.windowData.length) &&
    (m.samplingProbability = 0 || m.samplingProbability ≤ number.draw)

/-- `*mid`, undefined at the end. -/
def elementAt (window : List ℤ) (mid : Option ℕ) : Option ℤ := mid.bind (window[·]?)

def calculateMedian (m : MovingMedian) : Option (Except String ℤ) :=
  if m.windowData.length < m.windowSize then some (.error "Window is not full.")
  else if m.windowSize % 2 = 0 then do
    let lower ← elementAt m.window m.mid
    let upper ← elementAt m.window (m.mid.map (· + 1))
    some (.ok ((lower + upper).tdiv 2))
  else (elementAt m.window m.mid).map .ok

def evict (m : MovingMedian) : MovingMedian :=
  if m.windowSize < m.window.length then
    match m.windowData with
    | [] => m
    | toRemove :: rest => { m with window := m.window.erase toRemove, windowData := rest }
  else m

/-- `AddNumber`, none where an iterator is read at the end. -/
def addNumber (m : MovingMedian) (number : AddedNumber) : Option MovingMedian :=
  if m.isSkipped number then some m
  else
    let m := evict
      { m with
        window := m.window.orderedInsert (· ≤ ·) number.value
        windowData := m.windowData ++ [number.value] }
    let m :=
      if m.window.length = m.windowSize then { m with mid := some ((m.windowSize - 1) / 2) } else m
    m.calculateMedian.map fun median => { m with median }

def getMedian (m : MovingMedian) : Except String ℤ := m.median

def isWindowFilled (m : MovingMedian) : Bool := m.windowSize = m.windowData.length

/-! ## What it is for -/

/-- The median of some numbers: the middle one, or the mean of the two in the middle, rounded
towards zero. -/
def medianOf (numbers : List ℤ) : ℤ :=
  let sorted := numbers.insertionSort (· ≤ ·)
  if numbers.length % 2 = 0 then
    (sorted.getD (numbers.length / 2 - 1) 0 + sorted.getD (numbers.length / 2) 0).tdiv 2
  else sorted.getD (numbers.length / 2) 0

def isAccepted (windowSize : ℕ) (samplingProbability : ℚ) (accepted : List ℤ)
    (number : AddedNumber) : Bool :=
  accepted.length < windowSize || (samplingProbability ≠ 0 && number.draw < samplingProbability)

def acceptedValues (windowSize : ℕ) (samplingProbability : ℚ) (numbers : List AddedNumber) :
    List ℤ :=
  numbers.foldl (fun accepted number =>
    if isAccepted windowSize samplingProbability accepted number then accepted ++ [number.value]
    else accepted) []

/-! ## The window -/

/-- The window holds the last of the accepted values, and the median is theirs. -/
structure Holds (w : ℕ) (p : ℚ) (accepted : List ℤ) (m : MovingMedian) : Prop where
  windowSize : m.windowSize = w
  samplingProbability : m.samplingProbability = p
  windowData : m.windowData = accepted.rtake w
  window : m.window = m.windowData.insertionSort (· ≤ ·)
  notFull : accepted.length < w → ∃ message, m.median = .error message
  full : w ≤ accepted.length → m.median = .ok (medianOf (accepted.rtake w))

variable {m : MovingMedian} {w : ℕ} {p : ℚ} {accepted : List ℤ}

theorem holds_init (hw : 0 < w) : Holds w p [] { windowSize := w, samplingProbability := p } where
  windowSize := rfl
  samplingProbability := rfl
  windowData := by
    unfold List.rtake
    simp
  window := rfl
  notFull _ := ⟨_, rfl⟩
  full hfull := by
    rw [List.length_nil] at hfull
    omega

theorem Holds.length_windowData (h : Holds w p accepted m) :
    m.windowData.length = min w accepted.length := by
  rw [h.windowData, length_rtake]

theorem Holds.isSkipped_iff (h : Holds w p accepted m) (number : AddedNumber) :
    m.isSkipped number = !isAccepted w p accepted number := by
  have hlength := h.length_windowData
  have hfull : decide (w ≤ m.windowData.length) = !decide (accepted.length < w) := by
    rw [← decide_not]
    congr 1
    rw [eq_iff_iff]
    omega
  unfold isSkipped isAccepted
  rw [h.windowSize, h.samplingProbability, hfull, Bool.not_or, Bool.not_and]
  congr 1
  by_cases hzero : p = 0
  · simp [hzero]
  · simp [hzero, ← not_lt]

theorem Holds.evict (h : Holds w p accepted m) (hw : 0 < w) (value : ℤ) :
    (MovingMedian.evict
      { m with
        window := m.window.orderedInsert (· ≤ ·) value
        windowData := m.windowData ++ [value] }) =
      { m with
        window := ((accepted ++ [value]).rtake w).insertionSort (· ≤ ·)
        windowData := (accepted ++ [value]).rtake w } := by
  have hlength := h.length_windowData
  have hsorted : m.window.orderedInsert (· ≤ ·) value =
      (m.windowData ++ [value]).insertionSort (· ≤ ·) := by
    rw [insertionSort_concat, h.window]
  unfold MovingMedian.evict
  dsimp only
  rw [hsorted, List.length_insertionSort, List.length_append, List.length_singleton, h.windowSize,
    h.windowData]
  by_cases hfull : w ≤ accepted.length
  · rw [if_pos (by rw [length_rtake]; omega), rtake_concat_of_le hw hfull]
    cases hdata : accepted.rtake w ++ [value] with
    | nil => simp at hdata
    | cons toRemove rest =>
      dsimp only
      rw [erase_insertionSort]
      rfl
  · rw [if_neg (by rw [length_rtake]; omega), rtake_concat_of_lt (by omega)]

theorem calculateMedian_eq {values : List ℤ} (hw : 0 < w) (hsize : m.windowSize = w)
    (hdata : m.windowData = values) (hwindow : m.window = values.insertionSort (· ≤ ·))
    (hfull : values.length = w) (hmid : m.mid = some ((w - 1) / 2)) :
    m.calculateMedian = some (.ok (medianOf values)) := by
  have helement {i : ℕ} (hi : i < w) : elementAt m.window (some i) =
      some ((values.insertionSort (· ≤ ·)).getD i 0) := by
    have hbound : i < (values.insertionSort (· ≤ ·)).length := by
      rw [List.length_insertionSort]
      omega
    show m.window[i]? = _
    rw [hwindow, List.getD_eq_getElem?_getD, List.getElem?_eq_getElem hbound, Option.getD_some]
  unfold calculateMedian medianOf
  rw [hdata, hsize, hfull, if_neg (lt_irrefl w), hmid, Option.map_some]
  dsimp only
  by_cases heven : w % 2 = 0
  · -- the iterator stands at the lower one of the two
    have hlower : (w - 1) / 2 = w / 2 - 1 := by omega
    have hupper : (w - 1) / 2 + 1 = w / 2 := by omega
    rw [if_pos heven, if_pos heven, hupper, helement (by omega), helement (by omega), hlower]
    rfl
  · have hmiddle : (w - 1) / 2 = w / 2 := by omega
    rw [if_neg heven, if_neg heven, helement (by omega), hmiddle]
    rfl

theorem Holds.addNumber (h : Holds w p accepted m) (hw : 0 < w) (number : AddedNumber) :
    ∃ m', m.addNumber number = some m' ∧ Holds w p
      (if isAccepted w p accepted number then accepted ++ [number.value] else accepted) m' := by
  unfold MovingMedian.addNumber
  rw [h.isSkipped_iff]
  cases haccepted : isAccepted w p accepted number with
  | false => exact ⟨m, rfl, h⟩
  | true =>
    have hlength : ((accepted ++ [number.value]).rtake w).length =
        min w (accepted.length + 1) := by
      rw [length_rtake, List.length_append, List.length_singleton]
    simp only [Bool.not_true, Bool.false_eq_true, if_false, if_true]
    rw [h.evict hw, List.length_insertionSort, hlength]
    dsimp only
    rw [h.windowSize]
    by_cases hfull : w ≤ accepted.length + 1
    · rw [if_pos (by omega), calculateMedian_eq hw rfl rfl rfl (hlength.trans (by omega)) rfl]
      refine ⟨_, rfl, rfl, h.samplingProbability, rfl, rfl, ?_, fun _ => rfl⟩
      intro hless
      rw [List.length_append, List.length_singleton] at hless
      omega
    · rw [if_neg (by omega)]
      unfold calculateMedian
      dsimp only
      rw [if_pos (by omega)]
      refine ⟨_, rfl, rfl, h.samplingProbability, rfl, rfl, fun _ => ⟨_, rfl⟩, ?_⟩
      intro hless
      rw [List.length_append, List.length_singleton] at hless
      omega

/-- Whatever is drawn, after any calls the window holds the last of the accepted values, and
the median is an error until it is full, and theirs from then on. -/
theorem getMedian_of_addNumbers (hw : 0 < w) (p : ℚ) (numbers : List AddedNumber) :
    ∃ m : MovingMedian, numbers.foldlM addNumber { windowSize := w, samplingProbability := p } =
        some m ∧
      m.windowData = (acceptedValues w p numbers).rtake w ∧ m.window.Perm m.windowData ∧
      m.window.Pairwise (· ≤ ·) ∧
      ((acceptedValues w p numbers).length < w ↔ ∃ message, m.getMedian = .error message) ∧
      (w ≤ (acceptedValues w p numbers).length →
        m.getMedian = .ok (medianOf ((acceptedValues w p numbers).rtake w))) := by
  have hrun : ∃ m : MovingMedian,
      numbers.foldlM addNumber { windowSize := w, samplingProbability := p } = some m ∧
      Holds w p (acceptedValues w p numbers) m := by
    induction numbers using List.reverseRecOn with
    | nil => exact ⟨_, rfl, holds_init hw⟩
    | append_singleton numbers number ih =>
      obtain ⟨m, hm, h⟩ := ih
      obtain ⟨m', hm', h'⟩ := h.addNumber hw number
      refine ⟨m', ?_, ?_⟩
      · rw [List.foldlM_append, hm]
        simpa using hm'
      · unfold acceptedValues
        rw [List.foldl_append]
        exact h'
  obtain ⟨m, hm, h⟩ := hrun
  refine ⟨m, hm, h.windowData, ?_, ?_, ⟨h.notFull, ?_⟩, h.full⟩
  · rw [h.window]
    exact List.perm_insertionSort _ _
  · rw [h.window]
    exact List.pairwise_insertionSort _ _
  · rintro ⟨message, herror⟩
    by_contra hfull
    cases herror.symm.trans (h.full (by omega))

/-- A window of four, sampled always: the first value is out, 3 and 4 are in the middle. -/
theorem getMedian_of_addNumbers_example : ∃ m : MovingMedian,
    [⟨0, 1⟩, ⟨0, 5⟩, ⟨0, 3⟩, ⟨0, 4⟩, ⟨0, 2⟩].foldlM addNumber
      { windowSize := 4, samplingProbability := 1 } = some m ∧ m.getMedian = .ok 3 := by
  obtain ⟨m, hm, -, -, -, -, hmedian⟩ := getMedian_of_addNumbers (w := 4) (by decide) 1
    [⟨0, 1⟩, ⟨0, 5⟩, ⟨0, 3⟩, ⟨0, 4⟩, ⟨0, 2⟩]
  have haccepted : acceptedValues 4 1 [⟨0, 1⟩, ⟨0, 5⟩, ⟨0, 3⟩, ⟨0, 4⟩, ⟨0, 2⟩] =
      [1, 5, 3, 4, 2] := by decide
  rw [haccepted] at hmedian
  exact ⟨m, hm, hmedian (by decide)⟩

end MovingMedian

end BiddingAuction
