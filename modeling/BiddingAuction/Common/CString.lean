import BiddingAuction.Common.Json
import Mathlib.Data.List.TakeWhile

/-!
# Strings read up to their first null character
-/

namespace BiddingAuction

theorem toList_cString (s : String) :
    (cString s).toList = s.toList.takeWhile fun c => c.toNat ≠ 0 := by
  unfold cString
  rw [String.toList_ofList]

theorem cString_cString (s : String) : cString (cString s) = cString s := by
  unfold cString
  rw [String.toList_ofList, List.takeWhile_idem]

theorem cString_eq_iff (s : String) : cString s = s ↔ ∀ c ∈ s.toList, c.toNat ≠ 0 := by
  rw [← String.toList_inj, toList_cString, List.takeWhile_eq_self_iff]
  simp only [decide_eq_true_eq]

theorem length_cString_le (s : String) : (cString s).toList.length ≤ s.toList.length := by
  rw [toList_cString]
  exact (List.takeWhile_prefix _).length_le

end BiddingAuction
