import Mathlib.Algebra.Ring.Int.Defs
import Mathlib.Data.Nat.Cast.Order.Ring
import Mathlib.Data.List.Forall2
import Mathlib.Tactic.Ring

/-!
# Numbers as bits, and bits in bytes

Bits run from the least significant one. Those of a row of bytes run from the last byte to
the first.
-/

namespace Foundation

/-! ## Numbers -/

/-- The low `w` bits of a number. -/
def lowBits (w n : ℕ) : List Bool := (List.range w).map fun i => n.testBit i

def ofLowBits : List Bool → ℕ
  | [] => 0
  | b :: rest => b.toNat + 2 * ofLowBits rest

@[simp] theorem length_lowBits (w n : ℕ) : (lowBits w n).length = w := by
  unfold lowBits
  rw [List.length_map, List.length_range]

theorem lowBits_succ (w n : ℕ) : lowBits (w + 1) n = n.testBit 0 :: lowBits w (n / 2) := by
  unfold lowBits
  rw [List.range_succ_eq_map, List.map_cons, List.map_map]
  congr 1
  apply List.map_congr_left
  intro i _
  exact Nat.testBit_succ n i

theorem lowBits_succ_last (w n : ℕ) : lowBits (w + 1) n = lowBits w n ++ [n.testBit w] := by
  unfold lowBits
  rw [List.range_succ, List.map_append]
  rfl

theorem lowBits_zero (w : ℕ) : lowBits w 0 = List.replicate w false := by
  induction w with
  | zero => rfl
  | succ w ih =>
    rw [lowBits_succ, Nat.zero_div, ih, Nat.zero_testBit]
    rfl

theorem ofLowBits_lowBits {w n : ℕ} (h : n < 2 ^ w) : ofLowBits (lowBits w n) = n := by
  induction w generalizing n with
  | zero =>
    have hzero : n = 0 := Nat.lt_one_iff.mp h
    rw [hzero]
    rfl
  | succ w ih =>
    have hhalf : n / 2 < 2 ^ w := by
      rw [pow_succ] at h
      omega
    rw [lowBits_succ]
    show (n.testBit 0).toNat + 2 * ofLowBits (lowBits w (n / 2)) = n
    rw [ih hhalf, Nat.testBit_zero]
    rcases Nat.mod_two_eq_zero_or_one n with hmod | hmod
    · simp [hmod]
      omega
    · simp [hmod]
      omega

theorem ofLowBits_append (l r : List Bool) :
    ofLowBits (l ++ r) = ofLowBits l + 2 ^ l.length * ofLowBits r := by
  induction l with
  | nil => simp [ofLowBits]
  | cons b rest ih =>
    show b.toNat + 2 * ofLowBits (rest ++ r) =
      b.toNat + 2 * ofLowBits rest + 2 ^ (rest.length + 1) * ofLowBits r
    rw [ih]
    ring

theorem lowBits_or_two_pow {w p : ℕ} (n : ℕ) :
    lowBits w (n ||| 2 ^ p) = (lowBits w n).set p true := by
  apply List.ext_getElem
  · simp
  · intro i hi hi'
    rw [List.getElem_set]
    simp only [lowBits, List.getElem_map, List.getElem_range, Nat.testBit_or,
      Nat.testBit_two_pow]
    by_cases hp : p = i
    · simp [hp]
    · simp [hp]

def ofTwosComplement (bits : List Bool) : ℤ :=
  if bits.getLast? = some true then ofLowBits bits - 2 ^ bits.length else ofLowBits bits

theorem ofTwosComplement_lowBits {w n : ℕ} (h : n < 2 ^ w) :
    ofTwosComplement (lowBits (w + 1) n) = n := by
  have hlast : (lowBits (w + 1) n).getLast? = some false := by
    rw [lowBits_succ_last, Nat.testBit_lt_two_pow h]
    simp
  have hlt : n < 2 ^ (w + 1) := by
    rw [pow_succ]
    omega
  unfold ofTwosComplement
  rw [hlast, if_neg (by simp), ofLowBits_lowBits hlt]

theorem ofTwosComplement_sign {w n : ℕ} (h : n < 2 ^ w) :
    ofTwosComplement (lowBits w n ++ [true]) = n - 2 ^ w := by
  unfold ofTwosComplement
  rw [if_pos (by simp), ofLowBits_append, ofLowBits_lowBits h, List.length_append,
    length_lowBits]
  show ((n + 2 ^ w * 1 : ℕ) : ℤ) - 2 ^ (w + 1) = n - 2 ^ w
  push_cast
  ring

/-! ## Bytes -/

def bitStream : List UInt8 → List Bool
  | [] => []
  | b :: rest => bitStream rest ++ lowBits 8 b.toNat

@[simp] theorem length_bitStream (bytes : List UInt8) :
    (bitStream bytes).length = 8 * bytes.length := by
  induction bytes with
  | nil => rfl
  | cons b rest ih =>
    unfold bitStream
    rw [List.length_append, ih, length_lowBits, List.length_cons]
    omega

theorem bitStream_replicate_zero (n : ℕ) :
    bitStream (List.replicate n 0) = List.replicate (8 * n) false := by
  induction n with
  | zero => rfl
  | succ n ih =>
    rw [List.replicate_succ]
    unfold bitStream
    rw [ih]
    show List.replicate (8 * n) false ++ lowBits 8 0 = _
    rw [lowBits_zero, ← List.replicate_add]
    rfl

theorem toNat_or_shiftLeft (b : UInt8) {p : ℕ} (h : p < 8) :
    (b ||| 1 <<< UInt8.ofNat p).toNat = b.toNat ||| 2 ^ p := by
  have hp : (UInt8.ofNat p).toNat = p := by
    apply UInt8.toNat_ofNat_of_lt'
    unfold UInt8.size
    omega
  have hlt : 2 ^ p < 2 ^ 8 := Nat.pow_lt_pow_right (by omega) h
  rw [UInt8.toNat_or, UInt8.toNat_shiftLeft, hp, Nat.mod_eq_of_lt h]
  congr 1
  show 1 <<< p % 2 ^ 8 = 2 ^ p
  rw [Nat.one_shiftLeft, Nat.mod_eq_of_lt hlt]

theorem bitStream_modify {bytes : List UInt8} {i j p : ℕ} (hp : p < 8)
    (hij : i + j + 1 = bytes.length) :
    bitStream (bytes.modify i (· ||| 1 <<< UInt8.ofNat p)) =
      (bitStream bytes).set (8 * j + p) true := by
  induction bytes generalizing i with
  | nil => simp at hij
  | cons b rest ih =>
    rw [List.length_cons] at hij
    cases i with
    | zero =>
      have hj : 8 * j = (bitStream rest).length := by
        rw [length_bitStream]
        omega
      show bitStream rest ++ lowBits 8 (b ||| 1 <<< UInt8.ofNat p).toNat =
        (bitStream rest ++ lowBits 8 b.toNat).set (8 * j + p) true
      rw [toNat_or_shiftLeft b hp, lowBits_or_two_pow, hj,
        List.set_append_right _ _ (by omega), Nat.add_sub_cancel_left]
    | succ i =>
      show bitStream (rest.modify i (· ||| 1 <<< UInt8.ofNat p)) ++ lowBits 8 b.toNat =
        (bitStream rest ++ lowBits 8 b.toNat).set (8 * j + p) true
      rw [ih (by omega), List.set_append_left]
      rw [length_bitStream]
      omega

/-! ## Fields

A reader takes a value from the front of a stream, and leaves the rest. -/

def takeBits (n : ℕ) (stream : List Bool) : Option (List Bool × List Bool) :=
  if n ≤ stream.length then some (stream.take n, stream.drop n) else none

theorem takeBits_append {n : ℕ} {bits : List Bool} (h : bits.length = n) (rest : List Bool) :
    takeBits n (bits ++ rest) = some (bits, rest) := by
  unfold takeBits
  rw [← h, if_pos (by simp), List.take_left, List.drop_left]

theorem takeBits_eq_some {n : ℕ} {stream : List Bool} {taken : List Bool × List Bool}
    (h : takeBits n stream = some taken) : stream.length = n + taken.2.length := by
  unfold takeBits at h
  split at h
  · cases h
    rw [List.length_drop]
    omega
  · cases h

section Fields

variable {α β γ : Type}

def readEach (read : α → List Bool → Option (β × List Bool)) :
    List α → List Bool → Option (List β × List Bool)
  | [], stream => some ([], stream)
  | field :: fields, stream => do
    let (value, stream) ← read field stream
    let (values, stream) ← readEach read fields stream
    some (value :: values, stream)

variable {read : α → List Bool → Option (β × List Bool)}

theorem readEach_cons {field : α} {fields : List α} {stream : List Bool}
    {result : List β × List Bool} (h : readEach read (field :: fields) stream = some result) :
    ∃ first rest, read field stream = some first ∧
      readEach read fields first.2 = some rest ∧ result = (first.1 :: rest.1, rest.2) := by
  obtain ⟨first, hfirst, h⟩ := Option.bind_eq_some_iff.mp h
  obtain ⟨rest, hrest, h⟩ := Option.bind_eq_some_iff.mp h
  cases h
  exact ⟨first, rest, hfirst, hrest, rfl⟩

theorem length_of_readEach {width : α → ℕ} {fields : List α} {stream : List Bool}
    {result : List β × List Bool} (h : readEach read fields stream = some result)
    (hread : ∀ {field stream taken}, read field stream = some taken →
      stream.length = width field + taken.2.length) :
    stream.length = (fields.map width).sum + result.2.length := by
  induction fields generalizing stream result with
  | nil =>
    cases h
    simp
  | cons field fields ih =>
    obtain ⟨first, rest, hfirst, hrest, rfl⟩ := readEach_cons h
    have hlength := hread hfirst
    have htail := ih hrest
    rw [List.map_cons, List.sum_cons]
    show stream.length = width field + (fields.map width).sum + rest.2.length
    omega

theorem readEach_flatten (value : α → γ → Option β) {fields : List α} {sources : List γ}
    {pieces : List (List Bool)} (hlength : fields.length = sources.length)
    (h : List.Forall₂ (fun item piece => ∃ v, value item.1 item.2 = some v ∧
      ∀ rest, read item.1 (piece ++ rest) = some (v, rest)) (fields.zip sources) pieces) :
    ∃ values, (fields.zip sources).mapM (fun item => value item.1 item.2) = some values ∧
      ∀ rest, readEach read fields (pieces.flatten ++ rest) = some (values, rest) := by
  induction fields generalizing sources pieces with
  | nil =>
    cases h
    exact ⟨[], rfl, fun _ => rfl⟩
  | cons field fields ih =>
    cases sources with
    | nil => cases hlength
    | cons source sources =>
      rw [List.zip_cons_cons] at h
      cases h with
      | cons hfirst hrest =>
        obtain ⟨v, hvalue, hread⟩ := hfirst
        obtain ⟨values, hvalues, hreads⟩ := ih (Nat.succ.inj hlength) hrest
        refine ⟨v :: values, ?_, ?_⟩
        · rw [List.zip_cons_cons, List.mapM_cons, hvalue, hvalues]
          rfl
        · intro rest
          rw [List.flatten_cons, List.append_assoc]
          unfold readEach
          rw [hread]
          show (readEach read fields _).bind _ = _
          rw [hreads]
          rfl

end Fields

end Foundation
