import BiddingAuction.Common.JsonByHand
import Mathlib.Data.Rat.Floor

/-!
# Numbers in fixed notation

`std::to_string` prints a number with six digits after the point. What it prints is JSON, of
the number if it has no more than six digits.
-/

namespace BiddingAuction

open JsonText

namespace FixedNotation

/-! ## The source -/

def roundHalfEven (q : ℚ) : ℕ :=
  let n := q.floor.toNat
  if q - n < 1 / 2 ∨ (q - n = 1 / 2 ∧ n % 2 = 0) then n else n + 1

def sixDigits (n : ℕ) : List Char :=
  [5, 4, 3, 2, 1, 0].map fun i => Nat.digitChar (n / 10 ^ i % 10)

def millionths (q : ℚ) : ℕ := roundHalfEven (|q| * 10 ^ 6)

def fixed (q : ℚ) : List Char :=
  let digits := Nat.toDigits 10 (millionths q / 10 ^ 6) ++ '.' :: sixDigits (millionths q)
  if q < 0 then '-' :: digits else digits

/-- `std::to_string` of a `float`. -/
def stdToString (q : ℚ) : String := String.ofList (fixed q)

example : stdToString (-3 / 2) = "-1.500000" := by decide +kernel

/-! ## Digits -/

theorem toNat_digitChar : ∀ d < 10, (Nat.digitChar d).toNat - '0'.toNat = d := by decide

theorem isDigit_digitChar : ∀ d < 10, (Nat.digitChar d).isDigit = true := by decide

theorem isDigit_of_mem_sixDigits {n : ℕ} : ∀ c ∈ sixDigits n, c.isDigit = true := by
  intro c hc
  obtain ⟨i, -, rfl⟩ := List.mem_map.mp hc
  exact isDigit_digitChar _ (Nat.mod_lt _ (by decide))

theorem foldl_digit (a n i : ℕ) :
    10 * a + ((Nat.digitChar (n / 10 ^ i % 10)).toNat - '0'.toNat) = 10 * a + n / 10 ^ i % 10 := by
  rw [toNat_digitChar _ (Nat.mod_lt _ (by decide))]

theorem natOfDigits_append_sixDigits (digits : List Char) (n : ℕ) :
    natOfDigits (digits ++ sixDigits n) = natOfDigits digits * 10 ^ 6 + n % 10 ^ 6 := by
  unfold natOfDigits sixDigits
  rw [List.foldl_append]
  generalize digits.foldl _ 0 = a
  simp only [List.map_cons, List.map_nil, List.foldl_cons, List.foldl_nil, foldl_digit]
  omega

theorem isDelimiter_of_mem_number {c : Char} (h : c.isDigit = true ∨ c = '.' ∨ c = '-') :
    isDelimiter c = false := by
  rcases h with h | rfl | rfl
  · exact isDelimiter_of_isDigit h
  · decide
  · decide

section Fraction

variable {digits fraction : List Char} (hdigits : ∀ c ∈ digits, c.isDigit = true)
  (hne : digits ≠ []) (hzero : digits.head? = some '0' → digits = ['0'])
  (hfraction : ∀ c ∈ fraction, c.isDigit = true) (hsome : fraction ≠ [])

include hdigits hne hzero hfraction hsome

omit hzero hfraction hsome in
theorem head_append_ne_minus : (digits ++ '.' :: fraction).head? ≠ some '-' := by
  rw [List.head?_append_of_ne_nil _ hne]
  exact head_ne_minus hdigits

theorem number?_fraction : number? (digits ++ '.' :: fraction) =
    some (.double (natOfDigits (digits ++ fraction) / 10 ^ fraction.length)) := by
  have htake : (digits ++ '.' :: fraction).takeWhile Char.isDigit = digits := by
    rw [List.takeWhile_append_of_pos hdigits, List.takeWhile_cons_of_neg (by decide),
      List.append_nil]
  have hdrop : (digits ++ '.' :: fraction).dropWhile Char.isDigit = '.' :: fraction := by
    rw [List.dropWhile_append_of_pos hdigits, List.dropWhile_cons_of_neg (by decide)]
  have hfractionTake : fraction.takeWhile Char.isDigit = fraction :=
    List.takeWhile_eq_self_iff.mpr hfraction
  have hfractionDrop : fraction.dropWhile Char.isDigit = [] :=
    List.dropWhile_eq_nil_iff.mpr hfraction
  have hread : fraction? ('.' :: fraction) = some (some fraction, []) := by
    show (if (fraction.takeWhile Char.isDigit).isEmpty then none
      else some (some (fraction.takeWhile Char.isDigit), fraction.dropWhile Char.isDigit)) = _
    rw [hfractionTake, hfractionDrop, if_neg (by simpa using hsome)]
  have hscale : ¬ 0 ≤ (none : Option ℤ).getD 0 - (fraction.length : ℤ) := by
    have hpos := List.length_pos_iff.mpr hsome
    rw [Option.getD_none]
    omega
  have hexponent : (-((none : Option ℤ).getD 0 - (fraction.length : ℤ))).toNat =
      fraction.length := by
    rw [Option.getD_none]
    omega
  unfold number?
  split
  rename_i negative body hsign
  split at hsign
  · rename_i rest heq
    exact absurd (congrArg List.head? heq) (head_append_ne_minus hdigits hne)
  · cases hsign
    dsimp only
    rw [htake, hdrop, if_neg (by simpa [hne] using hzero), hread]
    dsimp only [exponent?]
    rw [if_neg (by simp), Option.getD_some, if_neg hscale, hexponent, if_neg Bool.false_ne_true,
      one_mul]

theorem number?_minus_fraction : number? ('-' :: (digits ++ '.' :: fraction)) =
    some (.double (-(natOfDigits (digits ++ fraction) / 10 ^ fraction.length))) := by
  rw [number?_minus (head_append_ne_minus hdigits hne),
    number?_fraction hdigits hne hzero hfraction hsome]
  rfl

end Fraction

/-! ## What is printed -/

def printed (q : ℚ) : ℚ :=
  if q < 0 then -(millionths q / 10 ^ 6 : ℚ) else millionths q / 10 ^ 6

theorem natOfDigits_printed (n : ℕ) :
    natOfDigits (Nat.toDigits 10 (n / 10 ^ 6) ++ sixDigits n) = n := by
  rw [natOfDigits_append_sixDigits, natOfDigits_toDigits]
  exact Nat.div_add_mod' n (10 ^ 6)

theorem isText_fixed (q : ℚ) : IsText (fixed q) (.double (printed q)) := by
  have hdigits : ∀ c ∈ Nat.toDigits 10 (millionths q / 10 ^ 6), c.isDigit = true :=
    fun c hc => Nat.isDigit_of_mem_toDigits (by decide) (by decide) hc
  have hsix : sixDigits (millionths q) ≠ [] := List.cons_ne_nil _ _
  have hlength : (sixDigits (millionths q)).length = 6 := rfl
  have hstops : ∀ c ∈ Nat.toDigits 10 (millionths q / 10 ^ 6) ++ '.' :: sixDigits (millionths q),
      isDelimiter c = false := by
    intro c hc
    rcases List.mem_append.mp hc with hc | hc
    · exact isDelimiter_of_mem_number (.inl (hdigits c hc))
    · rcases List.mem_cons.mp hc with rfl | hc
      · exact isDelimiter_of_mem_number (.inr (.inl rfl))
      · exact isDelimiter_of_mem_number (.inl (isDigit_of_mem_sixDigits c hc))
  have hplain := number?_fraction hdigits Nat.toDigits_ne_nil (head_toDigits _)
    isDigit_of_mem_sixDigits hsix
  have hminus := number?_minus_fraction hdigits Nat.toDigits_ne_nil (head_toDigits _)
    isDigit_of_mem_sixDigits hsix
  rw [natOfDigits_printed, hlength] at hplain hminus
  unfold fixed printed
  dsimp only
  split
  · refine isText_scalar ?_ (scalar?_of_number? hminus)
    intro c hc
    rcases List.mem_cons.mp hc with rfl | hc
    · exact isDelimiter_of_mem_number (.inr (.inr rfl))
    · exact hstops c hc
  · exact isText_scalar hstops (scalar?_of_number? hplain)

theorem parse_stdToString (q : ℚ) : parse (stdToString q) = some (.double (printed q)) := by
  rw [parse_eq_some_iff_isText, stdToString, String.toList_ofList]
  exact isText_fixed q

/-! ## Numbers of six digits -/

def HasSixDecimals (q : ℚ) : Prop := (q * 10 ^ 6).den = 1

instance (q : ℚ) : Decidable (HasSixDecimals q) := inferInstanceAs (Decidable (_ = _))

theorem roundHalfEven_natCast (n : ℕ) : roundHalfEven n = n := by
  have hfloor : ((n : ℚ)).floor.toNat = n := by
    rw [← Int.cast_natCast, Rat.floor_intCast, Int.toNat_natCast]
  unfold roundHalfEven
  dsimp only
  rw [hfloor, if_pos]
  left
  rw [sub_self]
  exact one_half_pos

theorem printed_eq_iff (q : ℚ) : printed q = q ↔ HasSixDecimals q := by
  constructor
  · intro h
    have hmillion : q * 10 ^ 6 =
        ((if q < 0 then -(millionths q : ℤ) else millionths q : ℤ) : ℚ) := by
      conv_lhs => rw [← h]
      unfold printed
      split <;> push_cast <;> field_simp
    unfold HasSixDecimals
    rw [hmillion]
    exact Rat.den_intCast _
  · intro h
    -- the magnitude is a whole number of millionths, so nothing is rounded
    have hwhole : |q| * 10 ^ 6 = (((q * 10 ^ 6).num.natAbs : ℕ) : ℚ) := by
      have hnum : q * 10 ^ 6 = ((q * 10 ^ 6).num : ℚ) := (Rat.den_eq_one_iff _).mp h |>.symm
      have habs : |q| * 10 ^ 6 = |q * 10 ^ 6| := by
        rw [abs_mul, abs_of_pos (by norm_num : (0 : ℚ) < 10 ^ 6)]
      rw [habs, hnum, Nat.cast_natAbs, Int.cast_abs, Rat.num_intCast]
    have hmillionths : (millionths q : ℚ) = |q| * 10 ^ 6 := by
      unfold millionths
      rw [hwhole, roundHalfEven_natCast]
    unfold printed
    rw [hmillionths, mul_div_cancel_right₀ _ (by norm_num)]
    split
    · rename_i hneg
      rw [abs_of_neg hneg, neg_neg]
    · rename_i hnonneg
      exact abs_of_nonneg (not_lt.mp hnonneg)

end FixedNotation

end BiddingAuction
