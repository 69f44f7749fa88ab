import Mathlib.Algebra.Ring.Nat

/-!
# Numbers as big-endian bytes
-/

namespace Foundation

/-- The low `k` bytes of a number, the most significant first. -/
def toBigEndian : ℕ → ℕ → List UInt8
  | 0, _ => []
  | k + 1, n => toBigEndian k (n / 256) ++ [UInt8.ofNat n]

def ofBigEndian (bytes : List UInt8) : ℕ := bytes.foldl (fun n b => n * 256 + b.toNat) 0

theorem length_toBigEndian (k n : ℕ) : (toBigEndian k n).length = k := by
  induction k generalizing n with
  | zero => rfl
  | succ k ih =>
    unfold toBigEndian
    rw [List.length_append, ih]
    rfl

theorem ofBigEndian_toBigEndian {k n : ℕ} (hn : n < 256 ^ k) :
    ofBigEndian (toBigEndian k n) = n := by
  induction k generalizing n with
  | zero =>
    have hzero : n = 0 := Nat.lt_one_iff.mp hn
    rw [hzero]
    rfl
  | succ k ih =>
    have hdiv : n / 256 < 256 ^ k := by
      rw [pow_succ] at hn
      omega
    have hbyte : (UInt8.ofNat n).toNat = n % 256 := UInt8.toNat_ofNat'
    have hrest := ih hdiv
    unfold ofBigEndian at hrest ⊢
    unfold toBigEndian
    rw [List.foldl_append, hrest]
    show n / 256 * 256 + (UInt8.ofNat n).toNat = n
    rw [hbyte]
    omega

end Foundation
