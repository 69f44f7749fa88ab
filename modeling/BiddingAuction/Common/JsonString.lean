import Mathlib.Tactic.IntervalCases

/-!
# Strings of JSON

A string is read character by character, up to the quote that closes it. One that is put between
quotes as it is comes back unchanged if and only if no character of it needs an escape; one that
is written with escapes always comes back.
-/

namespace BiddingAuction

namespace JsonText

/-! ## Characters of a string -/

/-- What the reader of a string has to finish: nothing, an escape, the digits of one, or a pair of
them. -/
inductive Pending where
  | plain
  | backslash
  | hex (left value : ℕ) (high : Option ℕ)
  | high (unit : ℕ)
  | highBackslash (unit : ℕ)
deriving DecidableEq, Repr

/-- What a character of a string does: it closes the string, it is part of an escape, or it
completes a character. -/
inductive StringStep where
  | close
  | skip (pending : Pending)
  | emit (c : Char)
deriving DecidableEq, Repr

def hexDigit? (c : Char) : Option ℕ :=
  if '0' ≤ c ∧ c ≤ '9' then some (c.toNat - '0'.toNat)
  else if 'a' ≤ c ∧ c ≤ 'f' then some (c.toNat - 'a'.toNat + 10)
  else if 'A' ≤ c ∧ c ≤ 'F' then some (c.toNat - 'A'.toNat + 10)
  else none

def escaped? (c : Char) : Option Char :=
  if c = '\x22' ∨ c = '\x5c' ∨ c = '/' then some c
  else if c = 'b' then some '\x08'
  else if c = 'f' then some '\x0c'
  else if c = 'n' then some '\n'
  else if c = 'r' then some '\x0d'
  else if c = 't' then some '\t'
  else none

def isControl (c : Char) : Bool := c.toNat < 0x20

/-- An escape with four digits is a character or half of one. -/
def unitStep (unit : ℕ) : Option ℕ → Option StringStep
  | none =>
    if 0xd800 ≤ unit ∧ unit < 0xdc00 then some (.skip (.high unit))
    else if 0xdc00 ≤ unit ∧ unit < 0xe000 then none
    else some (.emit (Char.ofNat unit))
  | some high =>
    if 0xdc00 ≤ unit ∧ unit < 0xe000 then
      some (.emit (Char.ofNat (0x10000 + (high - 0xd800) * 0x400 + (unit - 0xdc00))))
    else none

def stringStep : Pending → Char → Option StringStep
  | .plain, c =>
    if c = '\x22' then some .close
    else if c = '\x5c' then some (.skip .backslash)
    else if isControl c then none
    else some (.emit c)
  | .backslash, c =>
    if c = 'u' then some (.skip (.hex 3 0 none)) else (escaped? c).map .emit
  | .hex (left + 1) value high, c =>
    (hexDigit? c).map fun digit => .skip (.hex left (16 * value + digit) high)
  | .hex 0 value high, c => (hexDigit? c).bind fun digit => unitStep (16 * value + digit) high
  | .high unit, c => if c = '\x5c' then some (.skip (.highBackslash unit)) else none
  | .highBackslash unit, c => if c = 'u' then some (.skip (.hex 3 0 (some unit))) else none

/-- The characters up to the quote that closes the string, and the text after it. -/
def readChars : Pending → List Char → Option (List Char × List Char)
  | _, [] => none
  | pending, c :: rest =>
    match stringStep pending c with
    | none => none
    | some .close => some ([], rest)
    | some (.skip pending) => readChars pending rest
    | some (.emit e) => (readChars .plain rest).map fun r => (e :: r.1, r.2)

/-- The characters come from this piece of a text, without the quote. -/
inductive Decodes : Pending → List Char → List Char → Prop
  | nil : Decodes .plain [] []
  | skip {pending pending' : Pending} {c : Char} {source chars : List Char} :
    stringStep pending c = some (.skip pending') → Decodes pending' source chars →
    Decodes pending (c :: source) chars
  | emit {pending : Pending} {c e : Char} {source chars : List Char} :
    stringStep pending c = some (.emit e) → Decodes .plain source chars →
    Decodes pending (c :: source) (e :: chars)

def IsClean (chars : List Char) : Prop :=
  ∀ c ∈ chars, c ≠ '\x22' ∧ c ≠ '\x5c' ∧ isControl c = false

instance (chars : List Char) : Decidable (IsClean chars) :=
  List.decidableBAll (fun c => c ≠ '\x22' ∧ c ≠ '\x5c' ∧ isControl c = false) chars

theorem unitStep_ne_close (unit : ℕ) (high : Option ℕ) : unitStep unit high ≠ some .close := by
  cases high with
  | none =>
    simp only [unitStep]
    split
    · simp
    · split <;> simp
  | some high =>
    simp only [unitStep]
    split <;> simp

theorem stringStep_eq_close {pending : Pending} {c : Char}
    (h : stringStep pending c = some .close) : pending = .plain ∧ c = '\x22' := by
  cases pending with
  | plain =>
    simp only [stringStep] at h
    split at h
    · rename_i hc
      exact ⟨rfl, hc⟩
    · split at h
      · cases h
      · split at h <;> cases h
  | backslash =>
    simp only [stringStep] at h
    split at h
    · cases h
    · cases hescaped : escaped? c <;> rw [hescaped] at h <;> cases h
  | hex left value high =>
    cases left with
    | zero =>
      simp only [stringStep] at h
      obtain ⟨digit, -, hunit⟩ := Option.bind_eq_some_iff.mp h
      exact absurd hunit (unitStep_ne_close _ _)
    | succ left =>
      simp only [stringStep] at h
      obtain ⟨digit, -, hskip⟩ := Option.map_eq_some_iff.mp h
      cases hskip
  | high unit =>
    simp only [stringStep] at h
    split at h <;> cases h
  | highBackslash unit =>
    simp only [stringStep] at h
    split at h <;> cases h

theorem stringStep_quote {pending : Pending} {s : StringStep}
    (h : stringStep pending '\x22' = some s) :
    s = .close ∨ pending ≠ .plain ∧ s = .emit '\x22' := by
  cases pending with
  | plain => exact .inl (Option.some.inj h).symm
  | backslash => exact .inr ⟨by simp, (Option.some.inj h).symm⟩
  | hex left value high => cases left <;> cases h
  | high unit => cases h
  | highBackslash unit => cases h

/-! ## Strings -/

theorem readChars_cons {pending : Pending} {c : Char} {rest : List Char} :
    readChars pending (c :: rest) =
      match stringStep pending c with
      | none => none
      | some .close => some ([], rest)
      | some (.skip pending) => readChars pending rest
      | some (.emit e) => (readChars .plain rest).map fun r => (e :: r.1, r.2) := rfl

theorem readChars_eq_some {pending : Pending} {text chars rest : List Char}
    (h : readChars pending text = some (chars, rest)) :
    ∃ source, text = source ++ '\x22' :: rest ∧ Decodes pending source chars := by
  induction text generalizing pending chars with
  | nil => cases h
  | cons c text ih =>
    rw [readChars_cons] at h
    cases hstep : stringStep pending c with
    | none =>
      rw [hstep] at h
      cases h
    | some s =>
      rw [hstep] at h
      cases s with
      | close =>
        cases h
        obtain ⟨rfl, rfl⟩ := stringStep_eq_close hstep
        exact ⟨[], rfl, .nil⟩
      | skip pending' =>
        obtain ⟨source, rfl, hdecodes⟩ := ih h
        exact ⟨c :: source, rfl, .skip hstep hdecodes⟩
      | emit e =>
        obtain ⟨⟨chars', rest'⟩, hread, heq⟩ := Option.map_eq_some_iff.mp h
        cases heq
        obtain ⟨source, rfl, hdecodes⟩ := ih hread
        exact ⟨c :: source, rfl, .emit hstep hdecodes⟩

theorem Decodes.readChars {pending : Pending} {source chars : List Char}
    (h : Decodes pending source chars) (rest : List Char) :
    readChars pending (source ++ '\x22' :: rest) = some (chars, rest) := by
  induction h with
  | nil => rfl
  | skip hstep _ ih =>
    rw [List.cons_append, readChars_cons, hstep]
    exact ih
  | emit hstep _ ih =>
    rw [List.cons_append, readChars_cons, hstep, ih]
    rfl

theorem readChars_append {pending : Pending} {text chars rest : List Char}
    (h : readChars pending text = some (chars, rest)) (more : List Char) :
    readChars pending (text ++ more) = some (chars, rest ++ more) := by
  obtain ⟨source, rfl, hdecodes⟩ := readChars_eq_some h
  rw [List.append_assoc]
  exact hdecodes.readChars (rest ++ more)

theorem Decodes.length_le {pending : Pending} {source chars : List Char}
    (h : Decodes pending source chars) : chars.length ≤ source.length := by
  induction h with
  | nil => exact Nat.le_refl _
  | skip _ _ ih => exact Nat.le_succ_of_le ih
  | emit _ _ ih => exact Nat.succ_le_succ ih

theorem stringStep_plain_eq_emit {c e : Char} (h : stringStep .plain c = some (.emit e)) :
    e = c ∧ c ≠ '\x22' ∧ c ≠ '\x5c' ∧ isControl c = false := by
  simp only [stringStep] at h
  split at h
  · cases h
  · rename_i hquote
    split at h
    · cases h
    · rename_i hbackslash
      split at h
      · cases h
      · rename_i hcontrol
        cases h
        exact ⟨rfl, hquote, hbackslash, Bool.eq_false_of_not_eq_true hcontrol⟩

theorem Decodes.isClean {source chars : List Char} (h : Decodes .plain source chars)
    (hlength : source.length ≤ chars.length) : IsClean source := by
  generalize hplain : Pending.plain = pending at h
  induction h with
  | nil => exact fun c hc => absurd hc List.not_mem_nil
  | skip _ hdecodes =>
    have hshort := hdecodes.length_le
    rw [List.length_cons] at hlength
    omega
  | emit hstep _ ih =>
    subst hplain
    intro c hc
    rcases List.mem_cons.mp hc with rfl | hc
    · exact (stringStep_plain_eq_emit hstep).2
    · exact ih (Nat.le_of_succ_le_succ hlength) rfl c hc

theorem decodes_of_isClean {chars : List Char} (h : IsClean chars) :
    Decodes .plain chars chars := by
  induction chars with
  | nil => exact .nil
  | cons c rest ih =>
    obtain ⟨hquote, hbackslash, hcontrol⟩ := h c List.mem_cons_self
    refine .emit ?_ (ih fun c hc => h c (List.mem_cons_of_mem _ hc))
    simp only [stringStep, hquote, hbackslash, hcontrol, if_false, Bool.false_eq_true]

theorem Decodes.quote_lt {pending : Pending} {source chars : List Char}
    (h : Decodes pending source chars) {before after : List Char}
    (hsource : source = before ++ '\x22' :: after) (hfirst : '\x22' ∉ before) :
    ∃ i, chars[i]? = some '\x22' ∧ i ≤ before.length ∧ (pending = .plain → i < before.length) := by
  induction h generalizing before with
  | nil => simp at hsource
  | skip hstep hdecodes ih =>
    cases before with
    | nil =>
      cases hsource
      rcases stringStep_quote hstep with h | ⟨-, h⟩ <;> cases h
    | cons c before =>
      obtain ⟨rfl, htail⟩ := List.cons.inj hsource
      obtain ⟨i, hi, hle, -⟩ := ih htail fun h => hfirst (List.mem_cons_of_mem _ h)
      exact ⟨i, hi, Nat.le_succ_of_le hle, fun _ => Nat.lt_succ_of_le hle⟩
  | emit hstep hdecodes ih =>
    cases before with
    | nil =>
      cases hsource
      rcases stringStep_quote hstep with h | ⟨hpending, h⟩
      · cases h
      · cases h
        exact ⟨0, rfl, Nat.le_refl _, fun hplain => absurd hplain hpending⟩
    | cons c before =>
      obtain ⟨rfl, htail⟩ := List.cons.inj hsource
      obtain ⟨i, hi, -, hlt⟩ := ih htail fun h => hfirst (List.mem_cons_of_mem _ h)
      refine ⟨i + 1, hi, Nat.succ_le_succ (hlt rfl).le, fun _ => Nat.succ_lt_succ (hlt rfl)⟩

theorem readChars_self_iff {chars rest rest' : List Char} :
    readChars .plain (chars ++ '\x22' :: rest) = some (chars, rest') ↔
      IsClean chars ∧ rest' = rest := by
  constructor
  · intro h
    obtain ⟨source, htext, hdecodes⟩ := readChars_eq_some h
    -- a quote in the piece would come out before the first quote of the text
    have hnone : '\x22' ∉ source := by
      intro hmem
      obtain ⟨before, after, hsource, hfirst⟩ := List.eq_append_cons_of_mem hmem
      obtain ⟨i, hi, -, hlt⟩ := hdecodes.quote_lt hsource hfirst
      have hi' : (chars ++ '\x22' :: rest)[i]? = some '\x22' := by
        obtain ⟨hbound, -⟩ := List.getElem?_eq_some_iff.mp hi
        rw [List.getElem?_append_left hbound, hi]
      rw [htext, hsource, List.append_assoc, List.getElem?_append_left (hlt rfl)] at hi'
      exact hfirst (List.mem_of_getElem? hi')
    have hafter : ∃ after, chars = source ++ after := by
      rcases List.append_eq_append_iff.mp htext with ⟨after, hsource, hrest⟩ | ⟨after, h, -⟩
      · cases after with
        | nil => exact ⟨[], by rw [hsource, List.append_nil, List.append_nil]⟩
        | cons c after =>
          obtain ⟨rfl, -⟩ := List.cons.inj hrest
          exact absurd (hsource ▸ List.mem_append_right _ List.mem_cons_self) hnone
      · exact ⟨after, h⟩
    obtain ⟨after, hchars⟩ := hafter
    have hshort := hdecodes.length_le
    have hend : after = [] := by
      rw [hchars, List.length_append] at hshort
      exact List.eq_nil_of_length_eq_zero (by omega)
    rw [hend, List.append_nil] at hchars
    subst hchars
    exact ⟨hdecodes.isClean (Nat.le_refl _),
      (List.cons.inj (List.append_cancel_left htext)).2.symm⟩
  · rintro ⟨hclean, rfl⟩
    exact (decodes_of_isClean hclean).readChars rest'

/-! ## Writing a string -/

def hexDigit (digit : ℕ) : Char :=
  if digit < 10 then Char.ofNat ('0'.toNat + digit) else Char.ofNat ('A'.toNat + (digit - 10))

/-- The escape of `rapidjson::Writer` for a character, or the character. -/
def escape (c : Char) : List Char :=
  if c = '\x22' ∨ c = '\x5c' then ['\x5c', c]
  else if c = '\x08' then ['\x5c', 'b']
  else if c = '\x0c' then ['\x5c', 'f']
  else if c = '\n' then ['\x5c', 'n']
  else if c = '\x0d' then ['\x5c', 'r']
  else if c = '\t' then ['\x5c', 't']
  else if isControl c then
    ['\x5c', 'u', '0', '0', hexDigit (c.toNat / 16), hexDigit (c.toNat % 16)]
  else [c]

def writeString (s : String) : List Char := '\x22' :: (s.toList.flatMap escape ++ ['\x22'])

theorem readChars_escape_control : ∀ n < 32, ∀ rest : List Char,
    readChars .plain (escape (Char.ofNat n) ++ rest) =
      (readChars .plain rest).map fun r => (Char.ofNat n :: r.1, r.2) := by
  intro n hn rest
  interval_cases n <;> rfl

theorem readChars_escape (c : Char) (rest : List Char) :
    readChars .plain (escape c ++ rest) =
      (readChars .plain rest).map fun r => (c :: r.1, r.2) := by
  by_cases hcontrol : isControl c = true
  · have h := readChars_escape_control c.toNat (of_decide_eq_true hcontrol) rest
    rwa [Char.ofNat_toNat] at h
  · by_cases hquote : c = '\x22'
    · subst hquote
      rfl
    · by_cases hbackslash : c = '\x5c'
      · subst hbackslash
        rfl
      · have hself : escape c = [c] := by
          have hne {d : Char} (hd : isControl d = true) : c ≠ d := by
            rintro rfl
            exact hcontrol hd
          have hbackspace : c ≠ '\x08' := hne rfl
          have hformFeed : c ≠ '\x0c' := hne rfl
          have hnewline : c ≠ '\n' := hne rfl
          have hreturn : c ≠ '\x0d' := hne rfl
          have htab : c ≠ '\t' := hne rfl
          simp only [escape, hquote, hbackslash, or_self, if_false, hbackspace, hformFeed, hnewline,
            hreturn, htab, hcontrol, Bool.false_eq_true]
        rw [hself, List.singleton_append, readChars_cons]
        simp only [stringStep, hquote, hbackslash, hcontrol, if_false, Bool.false_eq_true]

theorem readChars_written (chars rest : List Char) :
    readChars .plain (chars.flatMap escape ++ '\x22' :: rest) = some (chars, rest) := by
  induction chars with
  | nil => rfl
  | cons c chars ih =>
    rw [List.flatMap_cons, List.append_assoc, readChars_escape, ih]
    rfl

end JsonText

end BiddingAuction
