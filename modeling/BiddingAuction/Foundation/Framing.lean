import BiddingAuction.Foundation.BigEndian

/-!
# Unique reading of joined texts

Two texts that are joined from parts are equal only if the parts are, when each part ends
at a separator that is not in it, or is preceded by its length.
-/

namespace Foundation

section Separator

variable {α : Type} {sep : α} {a b x y : List α}

theorem separated_inj (ha : sep ∉ a) (hb : sep ∉ b) (h : a ++ sep :: x = b ++ sep :: y) :
    a = b ∧ x = y := by
  induction a generalizing b with
  | nil =>
    cases b with
    | nil => exact ⟨rfl, (List.cons.inj h).2⟩
    | cons c b =>
      have hc : sep = c := (List.cons.inj h).1
      exact absurd (hc ▸ List.mem_cons_self) hb
  | cons c a ih =>
    cases b with
    | nil =>
      have hc : c = sep := (List.cons.inj h).1
      exact absurd (hc ▸ List.mem_cons_self) ha
    | cons d b =>
      obtain ⟨hc, hrest⟩ := List.cons.inj h
      obtain ⟨hab, hxy⟩ := ih (List.not_mem_of_not_mem_cons ha) (List.not_mem_of_not_mem_cons hb)
        hrest
      exact ⟨congrArg₂ List.cons hc hab, hxy⟩

end Separator

theorem toBigEndian_inj {k n m : ℕ} (hn : n < 256 ^ k) (hm : m < 256 ^ k)
    (h : toBigEndian k n = toBigEndian k m) : n = m := by
  rw [← ofBigEndian_toBigEndian hn, h, ofBigEndian_toBigEndian hm]

theorem sized_inj {k : ℕ} {a b x y : List UInt8} (ha : a.length < 256 ^ k)
    (hb : b.length < 256 ^ k)
    (h : toBigEndian k a.length ++ (a ++ x) = toBigEndian k b.length ++ (b ++ y)) :
    a = b ∧ x = y := by
  have hsizes : (toBigEndian k a.length).length = (toBigEndian k b.length).length := by
    rw [length_toBigEndian, length_toBigEndian]
  obtain ⟨hsize, hrest⟩ := List.append_inj h hsizes
  exact List.append_inj hrest (toBigEndian_inj ha hb hsize)

end Foundation
