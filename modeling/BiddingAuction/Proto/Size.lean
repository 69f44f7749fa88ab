import Mathlib.Data.Nat.Notation

/-!
# Sizes of serialized fields

The bytes of a field of a message, for tags of one byte.
-/

namespace BiddingAuction

def varintSize (n : ℕ) : ℕ := Nat.log2 n / 7 + 1

def delimitedSize (size : ℕ) : ℕ := 1 + varintSize size + size

def packedSize (size : ℕ) : ℕ := if size = 0 then 0 else delimitedSize size

def enumSize (number : ℕ) : ℕ := if number = 0 then 0 else 1 + varintSize number

theorem delimitedSize_pos (size : ℕ) : 0 < delimitedSize size := by
  unfold delimitedSize
  omega

end BiddingAuction
