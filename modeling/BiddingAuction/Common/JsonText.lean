import BiddingAuction.Common.Json
import BiddingAuction.Common.JsonString
import Mathlib.Algebra.Field.Rat

/-!
# Texts of JSON

A text is read value by value. A value is read in the same way whatever comes after it, and the
length of a text is enough fuel to read it.
-/

namespace BiddingAuction

namespace JsonText

/-! ## Values -/

def isWhitespace (c : Char) : Bool := c = ' ' || c = '\t' || c = '\n' || c = '\x0d'

def skipWhitespace (text : List Char) : List Char := text.dropWhile isWhitespace

def isDelimiter (c : Char) : Bool :=
  isWhitespace c || c = ',' || c = ':' || c = '[' || c = ']' || c = '\x7b' || c = '\x7d' ||
    c = '\x22'

def natOfDigits (digits : List Char) : ℕ :=
  digits.foldl (fun n c => 10 * n + (c.toNat - '0'.toNat)) 0

def fraction? : List Char → Option (Option (List Char) × List Char)
  | '.' :: rest =>
    let digits := rest.takeWhile Char.isDigit
    if digits.isEmpty then none else some (some digits, rest.dropWhile Char.isDigit)
  | rest => some (none, rest)

def exponent? : List Char → Option (Option ℤ)
  | [] => some none
  | e :: rest =>
    if e = 'e' ∨ e = 'E' then
      let (negative, digits) :=
        match rest with
        | '-' :: rest => (true, rest)
        | '+' :: rest => (false, rest)
        | rest => (false, rest)
      if digits.isEmpty ∨ !digits.all Char.isDigit then none
      else some (some (if negative then -(natOfDigits digits : ℤ) else natOfDigits digits))
    else none

/-- A number: with no superfluous zero before it, and exact. -/
def number? (token : List Char) : Option Json :=
  let (negative, body) :=
    match token with
    | '-' :: rest => (true, rest)
    | rest => (false, rest)
  let digits := body.takeWhile Char.isDigit
  if digits.isEmpty ∨ (digits.head? = some '0' ∧ digits ≠ ['0']) then none
  else
    match fraction? (body.dropWhile Char.isDigit) with
    | none => none
    | some (fractionDigits, rest) =>
      match exponent? rest with
      | none => none
      | some exponent =>
        let sign : ℚ := if negative then -1 else 1
        if fractionDigits.isNone ∧ exponent.isNone then some (.number (sign * natOfDigits digits))
        else
          let fractionDigits := fractionDigits.getD []
          let scale := exponent.getD 0 - fractionDigits.length
          let mantissa : ℚ := sign * natOfDigits (digits ++ fractionDigits)
          some (.double (if 0 ≤ scale then mantissa * 10 ^ scale.toNat
            else mantissa / 10 ^ (-scale).toNat))

def scalar? (token : List Char) : Option Json :=
  if token = ['t', 'r', 'u', 'e'] then some (.bool true)
  else if token = ['f', 'a', 'l', 's', 'e'] then some (.bool false)
  else if token = ['n', 'u', 'l', 'l'] then some .null
  else number? token

def readScalar (text : List Char) : Option (Json × List Char) :=
  (scalar? (text.takeWhile fun c => !isDelimiter c)).map fun value =>
    (value, text.dropWhile fun c => !isDelimiter c)

def expect (c : Char) (text : List Char) : Option (List Char) :=
  match skipWhitespace text with
  | [] => none
  | c' :: rest => if c' = c then some rest else none

/-- The items after one that was read, up to the end of the list. -/
def readMore {α : Type} (close : Char) (more : List Char → Option (List α × List Char)) (item : α)
    (text : List Char) : Option (List α × List Char) :=
  match expect ',' text with
  | some rest => (more rest).map fun r => (item :: r.1, r.2)
  | none => (expect close text).map fun rest => ([item], rest)

def readItems {α : Type} (close : Char) (items : List Char → Option (List α × List Char))
    (text : List Char) : Option (List α × List Char) :=
  match expect close text with
  | some rest => some ([], rest)
  | none => items text

mutual

def readValue : ℕ → List Char → Option (Json × List Char)
  | 0, _ => none
  | fuel + 1, text =>
    match skipWhitespace text with
    | [] => none
    | c :: rest =>
      if c = '\x7b' then
        (readItems '\x7d' (readMembers fuel) rest).map fun r => (.object r.1, r.2)
      else if c = '[' then
        (readItems ']' (readElements fuel) rest).map fun r => (.array r.1, r.2)
      else if c = '\x22' then
        (readChars .plain rest).map fun r => (.string (String.ofList r.1), r.2)
      else readScalar (c :: rest)

def readElements : ℕ → List Char → Option (List Json × List Char)
  | 0, _ => none
  | fuel + 1, text =>
    match readValue fuel text with
    | none => none
    | some (value, rest) => readMore ']' (readElements fuel) value rest

def readMembers : ℕ → List Char → Option (List (String × Json) × List Char)
  | 0, _ => none
  | fuel + 1, text =>
    match expect '\x22' text with
    | none => none
    | some rest =>
      match readChars .plain rest with
      | none => none
      | some (key, rest) =>
        match expect ':' rest with
        | none => none
        | some rest =>
          match readValue fuel rest with
          | none => none
          | some (value, rest) =>
            readMore '\x7d' (readMembers fuel) (String.ofList key, value) rest

end

def parse (text : String) : Option Json :=
  match readValue (2 * text.length + 1) text.toList with
  | none => none
  | some (value, rest) => if skipWhitespace rest = [] then some value else none

/-! ## What comes after a value -/

def Stops (text : List Char) : Prop := ∀ c ∈ text.head?, isDelimiter c = true

theorem stops_nil : Stops [] := by
  intro c hc
  cases hc

theorem stops_cons {c : Char} (h : isDelimiter c = true) (text : List Char) :
    Stops (c :: text) := by
  intro c' hc
  cases hc
  exact h

theorem skipWhitespace_append {text : List Char} (h : skipWhitespace text ≠ [])
    (more : List Char) : skipWhitespace (text ++ more) = skipWhitespace text ++ more := by
  unfold skipWhitespace at h ⊢
  rw [List.dropWhile_append, if_neg]
  rwa [List.isEmpty_iff]

theorem expect_append {c : Char} {text rest : List Char} (h : expect c text = some rest)
    (more : List Char) : expect c (text ++ more) = some (rest ++ more) := by
  unfold expect at h ⊢
  cases htext : skipWhitespace text with
  | nil =>
    rw [htext] at h
    cases h
  | cons c' tail =>
    rw [skipWhitespace_append (htext ▸ List.cons_ne_nil _ _), htext]
    rw [htext] at h
    dsimp only [List.cons_append] at h ⊢
    split at h
    · rename_i hc
      cases h
      rw [if_pos hc]
    · cases h

theorem expect_eq_none_append {c : Char} {text : List Char} (h : expect c text = none)
    (htext : skipWhitespace text ≠ []) (more : List Char) : expect c (text ++ more) = none := by
  unfold expect at h ⊢
  rw [skipWhitespace_append htext]
  cases hskip : skipWhitespace text with
  | nil => exact absurd hskip htext
  | cons c' tail =>
    rw [hskip] at h
    dsimp only [List.cons_append] at h ⊢
    split at h
    · cases h
    · rename_i hc
      rw [if_neg hc]

theorem skipWhitespace_ne_nil_of_expect {c : Char} {text rest : List Char}
    (h : expect c text = some rest) : skipWhitespace text ≠ [] := by
  intro hnil
  unfold expect at h
  rw [hnil] at h
  cases h

theorem length_skipWhitespace_le (text : List Char) :
    (skipWhitespace text).length ≤ text.length :=
  (List.dropWhile_suffix _).length_le

theorem length_of_expect {c : Char} {text rest : List Char} (h : expect c text = some rest) :
    rest.length < text.length := by
  have hle := length_skipWhitespace_le text
  unfold expect at h
  cases hskip : skipWhitespace text with
  | nil =>
    rw [hskip] at h
    cases h
  | cons c' tail =>
    rw [hskip] at h hle
    dsimp only at h
    split at h
    · cases h
      exact hle
    · cases h

theorem takeWhile_append_of_stop {p : Char → Bool} {more : List Char}
    (hstop : ∀ c ∈ more.head?, p c = false) (text : List Char) :
    (text ++ more).takeWhile p = text.takeWhile p ∧
      (text ++ more).dropWhile p = text.dropWhile p ++ more := by
  induction text with
  | nil =>
    cases more with
    | nil => exact ⟨rfl, rfl⟩
    | cons c more =>
      have hc := hstop c rfl
      simp [hc]
  | cons c text ih =>
    cases hc : p c with
    | true => simpa [hc] using ih
    | false => simp [hc]

theorem readScalar_append {text rest : List Char} {value : Json}
    (h : readScalar text = some (value, rest)) {more : List Char} (hmore : Stops more) :
    readScalar (text ++ more) = some (value, rest ++ more) := by
  have hstop : ∀ c ∈ more.head?, (!isDelimiter c) = false := by
    intro c hc
    rw [hmore c hc]
    rfl
  obtain ⟨htake, hdrop⟩ := takeWhile_append_of_stop hstop text
  unfold readScalar at h ⊢
  obtain ⟨scalar, hscalar, heq⟩ := Option.map_eq_some_iff.mp h
  cases heq
  rw [htake, hdrop, hscalar]
  rfl

theorem length_of_readScalar {c : Char} {text rest : List Char} {value : Json}
    (h : readScalar (c :: text) = some (value, rest)) : rest.length < (c :: text).length := by
  unfold readScalar at h
  obtain ⟨scalar, hscalar, heq⟩ := Option.map_eq_some_iff.mp h
  cases heq
  cases hc : isDelimiter c with
  | true =>
    simp [hc, scalar?, number?] at hscalar
  | false =>
    rw [List.dropWhile_cons_of_pos (by rw [hc]; rfl)]
    exact Nat.lt_succ_of_le (List.dropWhile_suffix _).length_le

theorem length_of_readChars {pending : Pending} {text chars rest : List Char}
    (h : readChars pending text = some (chars, rest)) : rest.length < text.length := by
  obtain ⟨source, rfl, -⟩ := readChars_eq_some h
  simp only [List.length_append, List.length_cons]
  omega

theorem readMore_append {α : Type} {close : Char}
    {more more' : List Char → Option (List α × List Char)} {item : α} {text rest : List Char}
    {items : List α} (h : readMore close more item text = some (items, rest)) (after : List Char)
    (hmore : ∀ text' items' rest', text'.length < text.length →
      more text' = some (items', rest') → more' (text' ++ after) = some (items', rest' ++ after)) :
    readMore close more' item (text ++ after) = some (items, rest ++ after) := by
  unfold readMore at h ⊢
  cases hcomma : expect ',' text with
  | some text' =>
    rw [hcomma] at h
    obtain ⟨⟨items', rest'⟩, hitems, heq⟩ := Option.map_eq_some_iff.mp h
    cases heq
    rw [expect_append hcomma]
    dsimp only
    rw [hmore text' items' rest' (length_of_expect hcomma) hitems]
    rfl
  | none =>
    rw [hcomma] at h
    obtain ⟨rest', hclose, heq⟩ := Option.map_eq_some_iff.mp h
    cases heq
    rw [expect_eq_none_append hcomma (skipWhitespace_ne_nil_of_expect hclose)]
    dsimp only
    rw [expect_append hclose]
    rfl

theorem length_of_readMore {α : Type} {close : Char}
    {more : List Char → Option (List α × List Char)} {item : α} {text rest : List Char}
    {items : List α} (h : readMore close more item text = some (items, rest))
    (hmore : ∀ text' items' rest', more text' = some (items', rest') →
      rest'.length < text'.length) : rest.length < text.length := by
  unfold readMore at h
  cases hcomma : expect ',' text with
  | some text' =>
    rw [hcomma] at h
    obtain ⟨⟨items', rest'⟩, hitems, heq⟩ := Option.map_eq_some_iff.mp h
    cases heq
    exact (hmore _ _ _ hitems).trans (length_of_expect hcomma)
  | none =>
    rw [hcomma] at h
    obtain ⟨rest', hclose, heq⟩ := Option.map_eq_some_iff.mp h
    cases heq
    exact length_of_expect hclose

theorem readItems_append {α : Type} {close : Char}
    {read read' : List Char → Option (List α × List Char)} {text rest : List Char}
    {items : List α} (h : readItems close read text = some (items, rest)) (after : List Char)
    (hread : ∀ items' rest', read text = some (items', rest') →
      skipWhitespace text ≠ [] ∧ read' (text ++ after) = some (items', rest' ++ after)) :
    readItems close read' (text ++ after) = some (items, rest ++ after) := by
  unfold readItems at h ⊢
  cases hclose : expect close text with
  | some text' =>
    rw [hclose] at h
    cases h
    rw [expect_append hclose]
  | none =>
    rw [hclose] at h
    obtain ⟨hsome, hread⟩ := hread _ _ h
    rw [expect_eq_none_append hclose hsome]
    exact hread

theorem length_of_readItems {α : Type} {close : Char}
    {read : List Char → Option (List α × List Char)} {text rest : List Char} {items : List α}
    (h : readItems close read text = some (items, rest))
    (hread : ∀ items' rest', read text = some (items', rest') → rest'.length < text.length) :
    rest.length < text.length := by
  unfold readItems at h
  cases hclose : expect close text with
  | some text' =>
    rw [hclose] at h
    cases h
    exact length_of_expect hclose
  | none =>
    rw [hclose] at h
    exact hread _ _ h

/-! ## Enough fuel -/

/-- A value, the elements of an array or the members of an object that are read with some fuel are
so with more of it, whatever comes after. -/
structure Extends (fuel : ℕ) : Prop where
  value {text rest : List Char} {value : Json} : readValue fuel text = some (value, rest) →
    rest.length < text.length ∧ ∀ {fuel' : ℕ} {more : List Char}, fuel ≤ fuel' → Stops more →
      readValue fuel' (text ++ more) = some (value, rest ++ more)
  elements {text rest : List Char} {elements : List Json} :
    readElements fuel text = some (elements, rest) →
    rest.length < text.length ∧ ∀ {fuel' : ℕ} {more : List Char}, fuel ≤ fuel' → Stops more →
      readElements fuel' (text ++ more) = some (elements, rest ++ more)
  members {text rest : List Char} {members : List (String × Json)} :
    readMembers fuel text = some (members, rest) →
    rest.length < text.length ∧ ∀ {fuel' : ℕ} {more : List Char}, fuel ≤ fuel' → Stops more →
      readMembers fuel' (text ++ more) = some (members, rest ++ more)

theorem skipWhitespace_ne_nil_of_readValue {fuel : ℕ} {text rest : List Char} {value : Json}
    (h : readValue fuel text = some (value, rest)) : skipWhitespace text ≠ [] := by
  intro hnil
  cases fuel with
  | zero => cases h
  | succ fuel =>
    rw [readValue, hnil] at h
    cases h

theorem skipWhitespace_ne_nil_of_readElements {fuel : ℕ} {text rest : List Char}
    {elements : List Json} (h : readElements fuel text = some (elements, rest)) :
    skipWhitespace text ≠ [] := by
  cases fuel with
  | zero => cases h
  | succ fuel =>
    rw [readElements] at h
    cases hvalue : readValue fuel text with
    | none =>
      rw [hvalue] at h
      cases h
    | some r => exact skipWhitespace_ne_nil_of_readValue hvalue

theorem skipWhitespace_ne_nil_of_readMembers {fuel : ℕ} {text rest : List Char}
    {members : List (String × Json)} (h : readMembers fuel text = some (members, rest)) :
    skipWhitespace text ≠ [] := by
  cases fuel with
  | zero => cases h
  | succ fuel =>
    rw [readMembers] at h
    cases hquote : expect '\x22' text with
    | none =>
      rw [hquote] at h
      cases h
    | some text' => exact skipWhitespace_ne_nil_of_expect hquote

theorem extends_value {fuel : ℕ} (hfuel : Extends fuel) {text rest : List Char} {value : Json}
    (h : readValue (fuel + 1) text = some (value, rest)) : rest.length < text.length ∧
      ∀ {fuel' : ℕ} {more : List Char}, fuel + 1 ≤ fuel' → Stops more →
        readValue fuel' (text ++ more) = some (value, rest ++ more) := by
  have hsome := skipWhitespace_ne_nil_of_readValue h
  have hlength := length_skipWhitespace_le text
  rw [readValue] at h
  cases hskip : skipWhitespace text with
  | nil => exact absurd hskip hsome
  | cons c tail =>
    rw [hskip] at h hlength
    dsimp only at h
    have hstep {fuel' : ℕ} (more : List Char) : readValue (fuel' + 1) (text ++ more) =
        if c = '\x7b' then
          (readItems '\x7d' (readMembers fuel') (tail ++ more)).map fun r => (.object r.1, r.2)
        else if c = '[' then
          (readItems ']' (readElements fuel') (tail ++ more)).map fun r => (.array r.1, r.2)
        else if c = '\x22' then
          (readChars .plain (tail ++ more)).map fun r => (.string (String.ofList r.1), r.2)
        else readScalar (c :: (tail ++ more)) := by
      rw [readValue, skipWhitespace_append hsome, hskip]
      rfl
    by_cases hobject : c = '\x7b'
    · simp only [if_pos hobject] at h hstep
      obtain ⟨⟨members, rest'⟩, hitems, heq⟩ := Option.map_eq_some_iff.mp h
      cases heq
      have hshort := length_of_readItems hitems fun _ _ hread => (hfuel.members hread).1
      refine ⟨hshort.trans_le (Nat.le_of_succ_le hlength), fun {fuel' more} hle hmore => ?_⟩
      obtain ⟨fuel', rfl⟩ : ∃ k, fuel' = k + 1 := ⟨fuel' - 1, by omega⟩
      rw [hstep, readItems_append hitems more fun _ _ hread =>
        ⟨skipWhitespace_ne_nil_of_readMembers hread,
          (hfuel.members hread).2 (Nat.le_of_succ_le_succ hle) hmore⟩]
      rfl
    · simp only [if_neg hobject] at h hstep
      by_cases harray : c = '['
      · simp only [if_pos harray] at h hstep
        obtain ⟨⟨elements, rest'⟩, hitems, heq⟩ := Option.map_eq_some_iff.mp h
        cases heq
        have hshort := length_of_readItems hitems fun _ _ hread => (hfuel.elements hread).1
        refine ⟨hshort.trans_le (Nat.le_of_succ_le hlength), fun {fuel' more} hle hmore => ?_⟩
        obtain ⟨fuel', rfl⟩ : ∃ k, fuel' = k + 1 := ⟨fuel' - 1, by omega⟩
        rw [hstep, readItems_append hitems more fun _ _ hread =>
          ⟨skipWhitespace_ne_nil_of_readElements hread,
            (hfuel.elements hread).2 (Nat.le_of_succ_le_succ hle) hmore⟩]
        rfl
      · simp only [if_neg harray] at h hstep
        by_cases hstring : c = '\x22'
        · simp only [if_pos hstring] at h hstep
          obtain ⟨⟨chars, rest'⟩, hchars, heq⟩ := Option.map_eq_some_iff.mp h
          cases heq
          refine ⟨(length_of_readChars hchars).trans_le (Nat.le_of_succ_le hlength),
            fun {fuel' more} hle hmore => ?_⟩
          obtain ⟨fuel', rfl⟩ : ∃ k, fuel' = k + 1 := ⟨fuel' - 1, by omega⟩
          rw [hstep, readChars_append hchars]
          rfl
        · simp only [if_neg hstring] at h hstep
          refine ⟨(length_of_readScalar h).trans_le hlength, fun {fuel' more} hle hmore => ?_⟩
          obtain ⟨fuel', rfl⟩ : ∃ k, fuel' = k + 1 := ⟨fuel' - 1, by omega⟩
          rw [hstep]
          exact readScalar_append h hmore

theorem extends_elements {fuel : ℕ} (hfuel : Extends fuel) {text rest : List Char}
    {elements : List Json} (h : readElements (fuel + 1) text = some (elements, rest)) :
    rest.length < text.length ∧
      ∀ {fuel' : ℕ} {more : List Char}, fuel + 1 ≤ fuel' → Stops more →
        readElements fuel' (text ++ more) = some (elements, rest ++ more) := by
  rw [readElements] at h
  cases hvalue : readValue fuel text with
  | none =>
    rw [hvalue] at h
    cases h
  | some r =>
    obtain ⟨value, text'⟩ := r
    rw [hvalue] at h
    obtain ⟨hshort, hread⟩ := hfuel.value hvalue
    refine ⟨(length_of_readMore h fun _ _ _ hread => (hfuel.elements hread).1).trans hshort,
      fun {fuel' more} hle hmore => ?_⟩
    obtain ⟨fuel', rfl⟩ : ∃ k, fuel' = k + 1 := ⟨fuel' - 1, by omega⟩
    have hle := Nat.le_of_succ_le_succ hle
    rw [readElements, hread hle hmore]
    exact readMore_append h more fun _ _ _ _ hread => (hfuel.elements hread).2 hle hmore

theorem readMembers_succ_eq_some {fuel : ℕ} {text : List Char}
    {r : List (String × Json) × List Char} : readMembers (fuel + 1) text = some r ↔
      ∃ quoted key afterKey beforeValue value afterValue,
        expect '\x22' text = some quoted ∧ readChars .plain quoted = some (key, afterKey) ∧
        expect ':' afterKey = some beforeValue ∧
        readValue fuel beforeValue = some (value, afterValue) ∧
        readMore '\x7d' (readMembers fuel) (String.ofList key, value) afterValue = some r := by
  rw [readMembers]
  constructor
  · intro h
    cases hquote : expect '\x22' text with
    | none =>
      rw [hquote] at h
      cases h
    | some quoted =>
      rw [hquote] at h
      dsimp only at h
      cases hkey : readChars .plain quoted with
      | none =>
        rw [hkey] at h
        cases h
      | some key =>
        rw [hkey] at h
        dsimp only at h
        cases hcolon : expect ':' key.2 with
        | none =>
          rw [hcolon] at h
          cases h
        | some beforeValue =>
          rw [hcolon] at h
          dsimp only at h
          cases hvalue : readValue fuel beforeValue with
          | none =>
            rw [hvalue] at h
            cases h
          | some value =>
            rw [hvalue] at h
            exact ⟨quoted, key.1, key.2, beforeValue, value.1, value.2, rfl, hkey, hcolon, hvalue,
              h⟩
  · rintro ⟨quoted, key, afterKey, beforeValue, value, afterValue, hquote, hkey, hcolon, hvalue,
      hmore⟩
    rw [hquote]
    dsimp only
    rw [hkey]
    dsimp only
    rw [hcolon]
    dsimp only
    rw [hvalue]
    exact hmore

theorem extends_members {fuel : ℕ} (hfuel : Extends fuel) {text rest : List Char}
    {members : List (String × Json)} (h : readMembers (fuel + 1) text = some (members, rest)) :
    rest.length < text.length ∧
      ∀ {fuel' : ℕ} {more : List Char}, fuel + 1 ≤ fuel' → Stops more →
        readMembers fuel' (text ++ more) = some (members, rest ++ more) := by
  obtain ⟨quoted, key, afterKey, beforeValue, value, afterValue, hquote, hkey, hcolon, hvalue,
    hrest⟩ := readMembers_succ_eq_some.mp h
  obtain ⟨hshort, hread⟩ := hfuel.value hvalue
  refine ⟨?_, fun {fuel' more} hle hmore => ?_⟩
  · have hlast := length_of_readMore hrest fun _ _ _ hread => (hfuel.members hread).1
    have hfirst := length_of_expect hquote
    have hchars := length_of_readChars hkey
    have hsecond := length_of_expect hcolon
    omega
  · obtain ⟨fuel', rfl⟩ : ∃ k, fuel' = k + 1 := ⟨fuel' - 1, by omega⟩
    have hle := Nat.le_of_succ_le_succ hle
    exact readMembers_succ_eq_some.mpr ⟨_, key, _, _, value, _, expect_append hquote more,
      readChars_append hkey more, expect_append hcolon more, hread hle hmore,
      readMore_append hrest more fun _ _ _ _ hread => (hfuel.members hread).2 hle hmore⟩

theorem extends_all (fuel : ℕ) : Extends fuel := by
  induction fuel with
  | zero =>
    constructor
    · intro _ _ _ h
      cases h
    · intro _ _ _ h
      cases h
    · intro _ _ _ h
      cases h
  | succ fuel ih => exact ⟨extends_value ih, extends_elements ih, extends_members ih⟩

theorem readValue_append {fuel fuel' : ℕ} {text rest more : List Char} {value : Json}
    (h : readValue fuel text = some (value, rest)) (hle : fuel ≤ fuel') (hmore : Stops more) :
    readValue fuel' (text ++ more) = some (value, rest ++ more) :=
  ((extends_all fuel).value h).2 hle hmore

theorem readValue_mono {fuel fuel' : ℕ} {text rest : List Char} {value : Json}
    (h : readValue fuel text = some (value, rest)) (hle : fuel ≤ fuel') :
    readValue fuel' text = some (value, rest) := by
  simpa using readValue_append h hle stops_nil

theorem readValue_unique {fuel fuel' : ℕ} {text : List Char} {r r' : Json × List Char}
    (h : readValue fuel text = some r) (h' : readValue fuel' text = some r') : r = r' := by
  have hmax := readValue_mono h (Nat.le_max_left fuel fuel')
  rw [readValue_mono h' (Nat.le_max_right fuel fuel')] at hmax
  exact (Option.some.inj hmax).symm

/-- The length of the text is enough fuel. -/
structure Enough (fuel : ℕ) : Prop where
  value {text : List Char} {r : Json × List Char} : readValue fuel text = some r →
    readValue (2 * text.length + 1) text = some r
  elements {text : List Char} {r : List Json × List Char} : readElements fuel text = some r →
    readElements (2 * text.length + 2) text = some r
  members {text : List Char} {r : List (String × Json) × List Char} :
    readMembers fuel text = some r → readMembers (2 * text.length + 2) text = some r

theorem readElements_mono {fuel fuel' : ℕ} {text : List Char} {r : List Json × List Char}
    (h : readElements fuel text = some r) (hle : fuel ≤ fuel') :
    readElements fuel' text = some r := by
  simpa using ((extends_all fuel).elements h).2 hle stops_nil

theorem readMembers_mono {fuel fuel' : ℕ} {text : List Char}
    {r : List (String × Json) × List Char} (h : readMembers fuel text = some r)
    (hle : fuel ≤ fuel') : readMembers fuel' text = some r := by
  simpa using ((extends_all fuel).members h).2 hle stops_nil

theorem enough_value {fuel : ℕ} (hfuel : Enough fuel) {text : List Char} {r : Json × List Char}
    (h : readValue (fuel + 1) text = some r) : readValue (2 * text.length + 1) text = some r := by
  have hlength := length_skipWhitespace_le text
  rw [readValue] at h ⊢
  cases hskip : skipWhitespace text with
  | nil =>
    rw [hskip] at h
    cases h
  | cons c tail =>
    rw [hskip] at h hlength
    rw [List.length_cons] at hlength
    dsimp only at h ⊢
    have hmembers : ∀ items rest, readMembers fuel tail = some (items, rest) →
        skipWhitespace tail ≠ [] ∧
          readMembers (2 * text.length) (tail ++ []) = some (items, rest ++ []) := by
      intro items rest hread
      refine ⟨skipWhitespace_ne_nil_of_readMembers hread, ?_⟩
      rw [List.append_nil, List.append_nil]
      exact readMembers_mono (hfuel.members hread) (by omega)
    have helements : ∀ items rest, readElements fuel tail = some (items, rest) →
        skipWhitespace tail ≠ [] ∧
          readElements (2 * text.length) (tail ++ []) = some (items, rest ++ []) := by
      intro items rest hread
      refine ⟨skipWhitespace_ne_nil_of_readElements hread, ?_⟩
      rw [List.append_nil, List.append_nil]
      exact readElements_mono (hfuel.elements hread) (by omega)
    split
    · rename_i hobject
      rw [if_pos hobject] at h
      obtain ⟨items, hitems, rfl⟩ := Option.map_eq_some_iff.mp h
      have hread := readItems_append hitems [] hmembers
      rw [List.append_nil, List.append_nil] at hread
      rw [hread]
      rfl
    · rename_i hobject
      rw [if_neg hobject] at h
      split
      · rename_i harray
        rw [if_pos harray] at h
        obtain ⟨items, hitems, rfl⟩ := Option.map_eq_some_iff.mp h
        have hread := readItems_append hitems [] helements
        rw [List.append_nil, List.append_nil] at hread
        rw [hread]
        rfl
      · rename_i harray
        rw [if_neg harray] at h
        exact h

theorem readMore_mono {α : Type} {close : Char}
    {more more' : List Char → Option (List α × List Char)} {item : α} {text : List Char}
    {r : List α × List Char} (h : readMore close more item text = some r)
    (hmore : ∀ text' r', text'.length < text.length → more text' = some r' →
      more' text' = some r') : readMore close more' item text = some r := by
  obtain ⟨items, rest⟩ := r
  have hmore' : ∀ text' items' rest', text'.length < text.length →
      more text' = some (items', rest') → more' (text' ++ []) = some (items', rest' ++ []) := by
    intro text' items' rest' hlength hread
    rw [List.append_nil, List.append_nil]
    exact hmore _ _ hlength hread
  have hread := readMore_append h [] hmore'
  rwa [List.append_nil, List.append_nil] at hread

theorem enough_elements {fuel : ℕ} (hfuel : Enough fuel) {text : List Char}
    {r : List Json × List Char} (h : readElements (fuel + 1) text = some r) :
    readElements (2 * text.length + 2) text = some r := by
  rw [readElements] at h ⊢
  cases hvalue : readValue fuel text with
  | none =>
    rw [hvalue] at h
    cases h
  | some value =>
    rw [hvalue] at h
    rw [hfuel.value hvalue]
    have hshort := ((extends_all fuel).value hvalue).1
    refine readMore_mono h fun text' r' hlength hread => ?_
    exact readElements_mono (hfuel.elements hread) (by omega)

theorem enough_members {fuel : ℕ} (hfuel : Enough fuel) {text : List Char}
    {r : List (String × Json) × List Char} (h : readMembers (fuel + 1) text = some r) :
    readMembers (2 * text.length + 2) text = some r := by
  obtain ⟨quoted, key, afterKey, beforeValue, value, afterValue, hquote, hkey, hcolon, hvalue,
    hrest⟩ := readMembers_succ_eq_some.mp h
  have hfirst := length_of_expect hquote
  have hchars := length_of_readChars hkey
  have hsecond := length_of_expect hcolon
  have hshort := ((extends_all fuel).value hvalue).1
  refine readMembers_succ_eq_some.mpr ⟨quoted, key, afterKey, beforeValue, value, afterValue,
    hquote, hkey, hcolon, readValue_mono (hfuel.value hvalue) (by omega), ?_⟩
  refine readMore_mono hrest fun text' r' hlength hread => ?_
  exact readMembers_mono (hfuel.members hread) (by omega)

theorem enough_all (fuel : ℕ) : Enough fuel := by
  induction fuel with
  | zero =>
    constructor
    · intro _ _ h
      cases h
    · intro _ _ h
      cases h
    · intro _ _ h
      cases h
  | succ fuel ih => exact ⟨enough_value ih, enough_elements ih, enough_members ih⟩

theorem parse_eq_some_iff {text : String} {value : Json} :
    parse text = some value ↔
      ∃ fuel rest, readValue fuel text.toList = some (value, rest) ∧ skipWhitespace rest = [] := by
  unfold parse
  constructor
  · intro h
    cases hread : readValue (2 * text.length + 1) text.toList with
    | none =>
      rw [hread] at h
      cases h
    | some r =>
      rw [hread] at h
      dsimp only at h
      split at h
      · rename_i hrest
        cases h
        exact ⟨_, r.2, hread, hrest⟩
      · cases h
  · rintro ⟨fuel, rest, hread, hrest⟩
    have henough := (enough_all fuel).value hread
    rw [String.length_toList] at henough
    rw [henough]
    exact if_pos hrest

end JsonText

end BiddingAuction
