import BiddingAuction.Foundation.BigEndian

/-!
# Reading and writing bytes within bounds

A reader is what is left of its bytes, and reads nothing that is not there. A writer has a
capacity, and leaves out what does not fit.
-/

namespace Foundation

/-! ## Reading -/

def readBytes (n : ℕ) (bytes : List UInt8) : Option (List UInt8 × List UInt8) :=
  if n ≤ bytes.length then some (bytes.take n, bytes.drop n) else none

def readBigEndian (k : ℕ) (bytes : List UInt8) : Option (ℕ × List UInt8) :=
  (readBytes k bytes).map fun read => (ofBigEndian read.1, read.2)

theorem readBytes_eq_some {n : ℕ} {bytes front rest : List UInt8} :
    readBytes n bytes = some (front, rest) ↔ bytes = front ++ rest ∧ front.length = n := by
  unfold readBytes
  constructor
  · intro h
    split at h
    · rename_i hlength
      cases h
      exact ⟨(List.take_append_drop n bytes).symm, List.length_take_of_le hlength⟩
    · cases h
  · rintro ⟨rfl, rfl⟩
    rw [if_pos (by rw [List.length_append]; omega), List.take_left, List.drop_left]

theorem readBytes_append {n : ℕ} {front : List UInt8} (h : front.length = n)
    (rest : List UInt8) : readBytes n (front ++ rest) = some (front, rest) :=
  readBytes_eq_some.mpr ⟨rfl, h⟩

theorem readBigEndian_eq_some {k n : ℕ} {bytes rest : List UInt8} :
    readBigEndian k bytes = some (n, rest) ↔
      ∃ front, bytes = front ++ rest ∧ front.length = k ∧ ofBigEndian front = n := by
  unfold readBigEndian
  rw [Option.map_eq_some_iff]
  constructor
  · rintro ⟨⟨front, rest'⟩, hread, heq⟩
    cases heq
    obtain ⟨hsplit, hlength⟩ := readBytes_eq_some.mp hread
    exact ⟨front, hsplit, hlength, rfl⟩
  · rintro ⟨front, hsplit, hlength, rfl⟩
    exact ⟨(front, rest), readBytes_eq_some.mpr ⟨hsplit, hlength⟩, rfl⟩

/-! ## Writing -/

structure Writer where
  capacity : ℕ
  written : List UInt8 := []

namespace Writer

def write (w : Writer) (bytes : List UInt8) : Writer :=
  if w.written.length + bytes.length ≤ w.capacity then { w with written := w.written ++ bytes }
  else w

def pad (w : Writer) : List UInt8 :=
  w.written ++ List.replicate (w.capacity - w.written.length) 0

theorem write_of_le {w : Writer} {bytes : List UInt8}
    (h : w.written.length + bytes.length ≤ w.capacity) :
    w.write bytes = { w with written := w.written ++ bytes } :=
  if_pos h

theorem foldl_write {w : Writer} {chunks : List (List UInt8)}
    (h : w.written.length + chunks.flatten.length ≤ w.capacity) :
    chunks.foldl write w = { w with written := w.written ++ chunks.flatten } := by
  induction chunks generalizing w with
  | nil =>
    rw [List.flatten_nil, List.append_nil]
    rfl
  | cons chunk chunks ih =>
    rw [List.flatten_cons, List.length_append] at h
    rw [List.foldl_cons, write_of_le (by omega), ih, List.flatten_cons, List.append_assoc]
    dsimp only
    rw [List.length_append]
    omega

theorem capacity_write (w : Writer) (bytes : List UInt8) :
    (w.write bytes).capacity = w.capacity := by
  unfold write
  split
  · rfl
  · rfl

theorem length_write_le {w : Writer} (h : w.written.length ≤ w.capacity) (bytes : List UInt8) :
    (w.write bytes).written.length ≤ (w.write bytes).capacity := by
  unfold write
  split
  · rename_i hfits
    rw [List.length_append]
    exact hfits
  · exact h

theorem length_pad {w : Writer} (h : w.written.length ≤ w.capacity) :
    w.pad.length = w.capacity := by
  unfold pad
  rw [List.length_append, List.length_replicate]
  omega

end Writer

end Foundation
