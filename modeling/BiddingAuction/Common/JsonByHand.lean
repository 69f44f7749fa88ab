import BiddingAuction.Common.JsonText
import Mathlib.Data.List.TakeWhile
import Mathlib.Data.Rat.Lemmas

/-!
# Texts put together by hand

An array or an object whose text is put together from the texts of its values. The keys of the
object are put between quotes as they are: the text is that of the object if and only if each key
is clean.
-/

namespace BiddingAuction

namespace JsonText

def IsText (text : List Char) (value : Json) : Prop :=
  ∃ fuel rest, readValue fuel text = some (value, rest) ∧ skipWhitespace rest = []

theorem parse_eq_some_iff_isText {text : String} {value : Json} :
    parse text = some value ↔ IsText text.toList value := parse_eq_some_iff

theorem IsText.unique {text : List Char} {value value' : Json} (h : IsText text value)
    (h' : IsText text value') : value = value' := by
  obtain ⟨fuel, rest, hread, -⟩ := h
  obtain ⟨fuel', rest', hread', -⟩ := h'
  exact congrArg Prod.fst (readValue_unique hread hread')

/-! ## A value within a text -/

theorem expect_cons {c c' : Char} (h : isWhitespace c' = false) (rest : List Char) :
    expect c (c' :: rest) = if c' = c then some rest else none := by
  unfold expect skipWhitespace
  rw [List.dropWhile_cons_of_neg (by rw [h]; exact Bool.false_ne_true)]

theorem skipWhitespace_append_cons {space : List Char} (h : skipWhitespace space = []) {c : Char}
    (hc : isWhitespace c = false) (rest : List Char) :
    skipWhitespace (space ++ c :: rest) = c :: rest := by
  unfold skipWhitespace at h ⊢
  rw [List.dropWhile_append, h]
  rw [List.dropWhile_cons_of_neg (by rw [hc]; exact Bool.false_ne_true)]
  rfl

theorem IsText.before {text : List Char} {value : Json} (h : IsText text value) {c : Char}
    (hdelimiter : isDelimiter c = true) (hspace : isWhitespace c = false) (more : List Char) :
    ∃ fuel afterValue, readValue fuel (text ++ c :: more) = some (value, afterValue) ∧
      ∀ c', expect c' afterValue = if c = c' then some more else none := by
  obtain ⟨fuel, rest, hread, hrest⟩ := h
  refine ⟨fuel, rest ++ c :: more, readValue_append hread (Nat.le_refl _)
    (stops_cons hdelimiter more), fun c' => ?_⟩
  unfold expect
  rw [skipWhitespace_append_cons hrest hspace]

/-! ## Arrays -/

theorem intercalate_cons_flatMap (first : List Char) (rest : List (List Char)) :
    [','].intercalate (first :: rest) = first ++ rest.flatMap fun text => ',' :: text := by
  induction rest generalizing first with
  | nil => simp
  | cons next rest ih =>
    rw [List.intercalate_cons_cons, ih, List.flatMap_cons, List.append_assoc]
    rfl

def arrayText (texts : List (List Char)) : List Char := '[' :: ([','].intercalate texts ++ [']'])

theorem readElements_texts {texts : List (List Char)} {values : List Json}
    (h : List.Forall₂ IsText texts values) (hsome : texts ≠ []) (more : List Char) :
    ∃ fuel, readElements fuel ([','].intercalate texts ++ ']' :: more) = some (values, more) := by
  induction h with
  | nil => exact absurd rfl hsome
  | @cons text value texts values hvalue hrest ih =>
    cases hrest with
    | nil =>
      obtain ⟨fuel, afterValue, hread, hexpect⟩ := hvalue.before (c := ']') rfl rfl more
      refine ⟨fuel + 1, ?_⟩
      rw [List.intercalate_singleton, readElements, hread]
      show readMore ']' _ value afterValue = _
      unfold readMore
      rw [hexpect, hexpect]
      rfl
    | @cons next value' texts values' hnext hrest =>
      obtain ⟨fuel', hmore⟩ := ih (List.cons_ne_nil _ _)
      obtain ⟨fuel, afterValue, hread, hexpect⟩ := hvalue.before (c := ',') rfl rfl
        ([','].intercalate (next :: texts) ++ ']' :: more)
      refine ⟨max fuel fuel' + 1, ?_⟩
      rw [List.intercalate_cons_cons, readElements, List.append_assoc, List.append_assoc]
      rw [List.singleton_append, readValue_mono hread (Nat.le_max_left _ _)]
      show readMore ']' _ value afterValue = _
      unfold readMore
      rw [hexpect, if_pos rfl]
      dsimp only
      rw [readElements_mono hmore (Nat.le_max_right _ _)]
      rfl

theorem expect_bracket_of_readValue {fuel : ℕ} {text : List Char} {r : Json × List Char}
    (h : readValue fuel text = some r) : expect ']' text = none := by
  cases fuel with
  | zero => cases h
  | succ fuel =>
    rw [readValue] at h
    unfold expect
    cases hskip : skipWhitespace text with
    | nil => rfl
    | cons c tail =>
      rw [hskip] at h
      dsimp only at h ⊢
      by_cases hc : c = ']'
      · subst hc
        cases h
      · exact if_neg hc

theorem isText_array {texts : List (List Char)} {values : List Json}
    (h : List.Forall₂ IsText texts values) : IsText (arrayText texts) (.array values) := by
  have hread (fuel : ℕ) (body : List Char) : readValue (fuel + 1) ('[' :: body) =
      (readItems ']' (readElements fuel) body).map fun r => (.array r.1, r.2) := by
    rw [readValue]
    rfl
  by_cases hsome : texts = []
  · subst hsome
    cases h
    exact ⟨1, [], rfl, rfl⟩
  · obtain ⟨fuel, helements⟩ := readElements_texts h hsome []
    refine ⟨fuel + 1, [], ?_, rfl⟩
    unfold arrayText
    rw [hread]
    unfold readItems
    have hfirst : expect ']' ([','].intercalate texts ++ [']']) = none := by
      cases fuel with
      | zero => cases helements
      | succ fuel =>
        rw [readElements] at helements
        cases hvalue : readValue fuel ([','].intercalate texts ++ [']']) with
        | none =>
          rw [hvalue] at helements
          cases helements
        | some r => exact expect_bracket_of_readValue hvalue
    rw [hfirst, helements]
    rfl

/-! ## Strings -/

theorem readValue_string (fuel : ℕ) (body : List Char) : readValue (fuel + 1) ('\x22' :: body) =
    (readChars .plain body).map fun r => (.string (String.ofList r.1), r.2) := by
  rw [readValue]
  rfl

theorem number?_ne_string {token : List Char} {s : String} : number? token ≠ some (.string s) := by
  intro h
  unfold number? at h
  split at h
  dsimp only at h
  split at h
  · cases h
  · split at h
    · cases h
    · split at h
      · cases h
      · split at h <;> cases h

theorem scalar?_ne_string {token : List Char} {s : String} : scalar? token ≠ some (.string s) := by
  intro h
  unfold scalar? at h
  split at h
  · cases h
  · split at h
    · cases h
    · split at h
      · cases h
      · exact number?_ne_string h

theorem readValue_eq_string {fuel : ℕ} {text rest : List Char} {s : String}
    (h : readValue fuel text = some (.string s, rest)) :
    ∃ body, skipWhitespace text = '\x22' :: body ∧
      readChars .plain body = some (s.toList, rest) := by
  cases fuel with
  | zero => cases h
  | succ fuel =>
    rw [readValue] at h
    cases hskip : skipWhitespace text with
    | nil =>
      rw [hskip] at h
      cases h
    | cons c body =>
      rw [hskip] at h
      dsimp only at h
      split at h
      · obtain ⟨r, -, hr⟩ := Option.map_eq_some_iff.mp h
        cases hr
      · split at h
        · obtain ⟨r, -, hr⟩ := Option.map_eq_some_iff.mp h
          cases hr
        · split at h
          · rename_i hquote
            obtain ⟨⟨chars, rest'⟩, hchars, hr⟩ := Option.map_eq_some_iff.mp h
            cases hr
            refine ⟨body, by rw [hquote], ?_⟩
            rw [hchars, String.toList_ofList]
          · unfold readScalar at h
            obtain ⟨value, hvalue, hr⟩ := Option.map_eq_some_iff.mp h
            cases hr
            exact absurd hvalue scalar?_ne_string

theorem IsText.length_lt {text : List Char} {s : String} (h : IsText text (.string s)) :
    s.toList.length < text.length := by
  obtain ⟨fuel, rest, hread, -⟩ := h
  obtain ⟨body, hskip, hchars⟩ := readValue_eq_string hread
  obtain ⟨source, rfl, hdecodes⟩ := readChars_eq_some hchars
  have hshort := hdecodes.length_le
  have hle := length_skipWhitespace_le text
  rw [hskip, List.length_cons, List.length_append] at hle
  omega

theorem isText_writeString (s : String) : IsText (writeString s) (.string s) := by
  refine ⟨1, [], ?_, rfl⟩
  unfold writeString
  rw [readValue_string, readChars_written, Option.map_some, String.ofList_toList]

theorem isText_quoted {chars : List Char} (h : IsClean chars) :
    IsText ('\x22' :: (chars ++ ['\x22'])) (.string (String.ofList chars)) := by
  refine ⟨1, [], ?_, rfl⟩
  rw [readValue_string, readChars_self_iff.mpr ⟨h, rfl⟩]
  rfl

theorem isText_quoted_iff {chars : List Char} {s : String}
    (hlength : chars.length ≤ s.toList.length) :
    IsText ('\x22' :: (chars ++ ['\x22'])) (.string s) ↔ s.toList = chars ∧ IsClean chars := by
  constructor
  · rintro ⟨fuel, rest, hread, -⟩
    obtain ⟨body, hskip, hchars⟩ := readValue_eq_string hread
    have hbody : chars ++ ['\x22'] = body := (List.cons.inj hskip).2
    subst hbody
    obtain ⟨source, hsource, hdecodes⟩ := readChars_eq_some hchars
    -- nothing is left out and nothing comes after, so no character was escaped
    have hshort := hdecodes.length_le
    have hsame := congrArg List.length hsource
    simp only [List.length_append, List.length_cons, List.length_nil] at hsame
    obtain ⟨hchars', -⟩ := List.append_inj hsource (by omega)
    subst hchars'
    have hclean := hdecodes.isClean (by omega)
    rw [readChars_self_iff.mpr ⟨hclean, rfl⟩] at hchars
    exact ⟨(congrArg Prod.fst (Option.some.inj hchars)).symm, hclean⟩
  · rintro ⟨rfl, hclean⟩
    have h := isText_quoted hclean
    rwa [String.ofList_toList] at h

/-! ## Objects -/

/-- A key between quotes as it is, with the text of its value. -/
def memberText (member : List Char × List Char) : List Char :=
  '\x22' :: (member.1 ++ '\x22' :: ':' :: member.2)

def objectText (members : List (List Char × List Char)) : List Char :=
  '\x7b' :: ([','].intercalate (members.map memberText) ++ ['\x7d'])

/-- The key and the text of a value, and the member they stand for. -/
structure IsMember (written : List Char × List Char) (member : String × Json) : Prop where
  key : member.1 = String.ofList written.1
  isText : IsText written.2 member.2

theorem readMembers_memberText {fuel : ℕ} {written : List Char × List Char} {more : List Char}
    {r : List (String × Json) × List Char} :
    readMembers (fuel + 1) (memberText written ++ more) = some r ↔
      ∃ key afterKey beforeValue value afterValue,
        readChars .plain (written.1 ++ '\x22' :: ':' :: (written.2 ++ more)) =
          some (key, afterKey) ∧
        expect ':' afterKey = some beforeValue ∧
        readValue fuel beforeValue = some (value, afterValue) ∧
        readMore '\x7d' (readMembers fuel) (String.ofList key, value) afterValue = some r := by
  rw [readMembers_succ_eq_some]
  have htext : memberText written ++ more =
      '\x22' :: (written.1 ++ '\x22' :: ':' :: (written.2 ++ more)) := by
    unfold memberText
    simp
  rw [htext, expect_cons rfl, if_pos rfl]
  constructor
  · rintro ⟨quoted, key, afterKey, beforeValue, value, afterValue, hquoted, hread⟩
    cases hquoted
    exact ⟨key, afterKey, beforeValue, value, afterValue, hread⟩
  · rintro ⟨key, afterKey, beforeValue, value, afterValue, hread⟩
    exact ⟨_, key, afterKey, beforeValue, value, afterValue, rfl, hread⟩

theorem readMembers_of_isClean {written : List Char × List Char} {member : String × Json}
    (hmember : IsMember written member) (hclean : IsClean written.1) {c : Char}
    (hdelimiter : isDelimiter c = true) (hspace : isWhitespace c = false) (more : List Char) :
    ∃ fuel afterValue, (∀ c', expect c' afterValue = if c = c' then some more else none) ∧
      ∀ fuel', fuel ≤ fuel' → ∀ r,
        (readMembers (fuel' + 1) (memberText written ++ c :: more) = some r ↔
          readMore '\x7d' (readMembers fuel') member afterValue = some r) := by
  obtain ⟨fuel, afterValue, hread, hexpect⟩ := hmember.isText.before hdelimiter hspace more
  refine ⟨fuel, afterValue, hexpect, fun fuel' hle r => ?_⟩
  have hkey := readChars_self_iff.mpr
    ⟨hclean, (rfl : ':' :: (written.2 ++ c :: more) = ':' :: (written.2 ++ c :: more))⟩
  have hself : (String.ofList written.1, member.2) = member := Prod.ext hmember.key.symm rfl
  rw [readMembers_memberText]
  constructor
  · rintro ⟨key, afterKey, beforeValue, value, afterValue', hkey', hcolon, hvalue, hmore⟩
    rw [hkey] at hkey'
    cases hkey'
    rw [expect_cons rfl, if_pos rfl] at hcolon
    cases hcolon
    obtain ⟨rfl, rfl⟩ := Prod.mk.inj (readValue_unique hvalue hread)
    rwa [hself] at hmore
  · intro hmore
    refine ⟨_, _, _, member.2, afterValue, hkey, ?_, readValue_mono hread hle, ?_⟩
    · rw [expect_cons rfl, if_pos rfl]
    · rwa [hself]

theorem exists_tail_of_readMore {α : Type} {close : Char}
    {more : List Char → Option (List α × List Char)} {item : α} {text rest : List Char}
    {items : List α} (h : readMore close more item text = some (items, rest)) :
    ∃ tail, items = item :: tail := by
  unfold readMore at h
  cases hcomma : expect ',' text with
  | none =>
    rw [hcomma] at h
    obtain ⟨rest', -, heq⟩ := Option.map_eq_some_iff.mp h
    cases heq
    exact ⟨[], rfl⟩
  | some text' =>
    rw [hcomma] at h
    obtain ⟨r, -, heq⟩ := Option.map_eq_some_iff.mp h
    cases heq
    exact ⟨r.1, rfl⟩

theorem isClean_of_readMembers {fuel : ℕ} {written : List Char × List Char}
    {more rest : List Char} {member : String × Json} {members : List (String × Json)}
    (hkey : member.1 = String.ofList written.1)
    (h : readMembers fuel (memberText written ++ more) = some (member :: members, rest)) :
    IsClean written.1 := by
  cases fuel with
  | zero => cases h
  | succ fuel =>
    obtain ⟨key, afterKey, beforeValue, value, afterValue, hread, -, -, hmore⟩ :=
      readMembers_memberText.mp h
    obtain ⟨tail, htail⟩ := exists_tail_of_readMore hmore
    have hself : key = written.1 := by
      have hfirst := congrArg Prod.fst (List.cons.inj htail).1
      rw [hkey] at hfirst
      exact (String.ofList_injective hfirst).symm
    rw [hself] at hread
    exact (readChars_self_iff.mp hread).1

theorem readMembers_of_all_isClean {written : List (List Char × List Char)}
    {members : List (String × Json)} (h : List.Forall₂ IsMember written members)
    (hsome : written ≠ []) (hclean : ∀ w ∈ written, IsClean w.1) (more : List Char) :
    ∃ fuel, readMembers fuel ([','].intercalate (written.map memberText) ++ '\x7d' :: more) =
      some (members, more) := by
  induction h with
  | nil => exact absurd rfl hsome
  | @cons w member written members hmember hrest ih =>
    cases hrest with
    | nil =>
      obtain ⟨fuel, afterValue, hexpect, hread⟩ := readMembers_of_isClean hmember
        (hclean w List.mem_cons_self) (c := '\x7d') rfl rfl more
      refine ⟨fuel + 1, ?_⟩
      rw [List.map_singleton, List.intercalate_singleton, hread fuel (Nat.le_refl _)]
      unfold readMore
      rw [hexpect, hexpect]
      rfl
    | @cons next member' written members' hnext hrest =>
      obtain ⟨fuel', hmore⟩ := ih (List.cons_ne_nil _ _)
        fun w' hw' => hclean w' (List.mem_cons_of_mem _ hw')
      obtain ⟨fuel, afterValue, hexpect, hread⟩ := readMembers_of_isClean hmember
        (hclean w List.mem_cons_self) (c := ',') rfl rfl
        ([','].intercalate ((next :: written).map memberText) ++ '\x7d' :: more)
      refine ⟨max fuel fuel' + 1, ?_⟩
      rw [List.map_cons, List.map_cons, List.intercalate_cons_cons, List.append_assoc,
        List.append_assoc, List.singleton_append, ← List.map_cons,
        hread _ (Nat.le_max_left _ _)]
      unfold readMore
      rw [hexpect, if_pos rfl]
      dsimp only
      rw [readMembers_mono hmore (Nat.le_max_right _ _)]
      rfl

theorem all_isClean_of_readMembers {written : List (List Char × List Char)}
    {members : List (String × Json)} (h : List.Forall₂ IsMember written members) {fuel : ℕ}
    {more rest : List Char}
    (hread : readMembers fuel ([','].intercalate (written.map memberText) ++ '\x7d' :: more) =
      some (members, rest)) : ∀ w ∈ written, IsClean w.1 := by
  induction h generalizing fuel with
  | nil => exact fun w hw => absurd hw List.not_mem_nil
  | @cons w member written members hmember hrest ih =>
    cases hrest with
    | nil =>
      rw [List.map_singleton, List.intercalate_singleton] at hread
      rw [List.forall_mem_singleton]
      exact isClean_of_readMembers hmember.key hread
    | @cons next member' written members' hnext hrest =>
      rw [List.map_cons, List.map_cons, List.intercalate_cons_cons, List.append_assoc,
        List.append_assoc, List.singleton_append, ← List.map_cons] at hread
      have hclean := isClean_of_readMembers hmember.key hread
      rw [List.forall_mem_cons]
      refine ⟨hclean, ?_⟩
      obtain ⟨fuel', afterValue, hexpect, hsame⟩ := readMembers_of_isClean hmember hclean
        (c := ',') rfl rfl ([','].intercalate ((next :: written).map memberText) ++ '\x7d' :: more)
      have hmore := (hsame (max fuel fuel') (Nat.le_max_right _ _) _).mp
        (readMembers_mono hread (Nat.le_succ_of_le (Nat.le_max_left _ _)))
      unfold readMore at hmore
      rw [hexpect, if_pos rfl] at hmore
      obtain ⟨⟨tail, rest'⟩, htail, heq⟩ := Option.map_eq_some_iff.mp hmore
      cases heq
      exact ih htail

theorem isText_braced_iff {c : Char} (hc : isWhitespace c = false) (hne : c ≠ '\x7d')
    {body : List Char} {value : Json} : IsText ('\x7b' :: c :: body) value ↔
      ∃ members fuel rest, value = .object members ∧
        readMembers fuel (c :: body) = some (members, rest) ∧ skipWhitespace rest = [] := by
  have hread (fuel : ℕ) : readValue (fuel + 1) ('\x7b' :: c :: body) =
      (readMembers fuel (c :: body)).map fun r => (.object r.1, r.2) := by
    rw [readValue]
    show (readItems '\x7d' (readMembers fuel) (c :: body)).map _ = _
    unfold readItems
    rw [expect_cons hc, if_neg hne]
  constructor
  · rintro ⟨fuel, rest, hvalue, hrest⟩
    cases fuel with
    | zero => cases hvalue
    | succ fuel =>
      rw [hread] at hvalue
      obtain ⟨r, hmembers, heq⟩ := Option.map_eq_some_iff.mp hvalue
      cases heq
      exact ⟨r.1, fuel, r.2, rfl, hmembers, hrest⟩
  · rintro ⟨members, fuel, rest, rfl, hmembers, hrest⟩
    refine ⟨fuel + 1, rest, ?_, hrest⟩
    rw [hread, hmembers]
    rfl

/-- The text of an object that is put together by hand is that of the object if and only if its
keys are clean. -/
theorem isText_objectText_iff {written : List (List Char × List Char)}
    {members : List (String × Json)} (h : List.Forall₂ IsMember written members) :
    IsText (objectText written) (.object members) ↔ ∀ w ∈ written, IsClean w.1 := by
  cases h with
  | nil => exact iff_of_true ⟨1, [], rfl, rfl⟩ fun w hw => absurd hw List.not_mem_nil
  | @cons w member written members hmember hrest =>
    have hall : List.Forall₂ IsMember (w :: written) (member :: members) := .cons hmember hrest
    obtain ⟨body, hbody⟩ : ∃ body, [','].intercalate ((w :: written).map memberText) ++ ['\x7d'] =
        '\x22' :: body := by
      cases written with
      | nil => exact ⟨_, by rw [List.map_singleton, List.intercalate_singleton]; rfl⟩
      | cons next written =>
        exact ⟨_, by rw [List.map_cons, List.map_cons, List.intercalate_cons_cons]; rfl⟩
    unfold objectText
    rw [hbody, isText_braced_iff rfl (by decide), ← hbody]
    constructor
    · rintro ⟨members', fuel, rest, heq, hread, -⟩
      cases heq
      exact all_isClean_of_readMembers hall hread
    · intro hclean
      obtain ⟨fuel, hread⟩ := readMembers_of_all_isClean hall (List.cons_ne_nil _ _) hclean []
      exact ⟨member :: members, fuel, [], rfl, hread, rfl⟩

/-! ## Integers -/

def writeInt (n : ℤ) : List Char :=
  if n < 0 then '-' :: Nat.toDigits 10 n.natAbs else Nat.toDigits 10 n.natAbs

theorem natOfDigits_toDigits (n : ℕ) : natOfDigits (Nat.toDigits 10 n) = n := by
  have h := Nat.ofDigitChars_ten_toDigits (n := n)
  rwa [Nat.ofDigitChars_eq_foldl] at h

theorem head_toDigits (n : ℕ) :
    (Nat.toDigits 10 n).head? = some '0' → Nat.toDigits 10 n = ['0'] := by
  induction n using Nat.strong_induction_on with
  | _ n ih =>
    intro hhead
    rcases Nat.lt_or_ge n 10 with hlt | hge
    · rw [Nat.toDigits_of_lt_base hlt] at hhead ⊢
      simpa using hhead
    · rw [Nat.toDigits_of_base_le (by decide) hge] at hhead ⊢
      rw [List.head?_append, List.head?_eq_some_head Nat.toDigits_ne_nil, Option.some_or,
        ← List.head?_eq_some_head Nat.toDigits_ne_nil] at hhead
      have hzero := ih (n / 10) (by omega) hhead
      have hvalue := natOfDigits_toDigits (n / 10)
      rw [hzero] at hvalue
      have : n / 10 = 0 := hvalue.symm
      omega

theorem isDelimiter_of_isDigit {c : Char} (h : c.isDigit = true) : isDelimiter c = false := by
  rw [Bool.eq_false_iff]
  intro hdelimiter
  simp only [isDelimiter, isWhitespace, Bool.or_eq_true, decide_eq_true_eq] at hdelimiter
  rcases hdelimiter with ((((((((((rfl | rfl) | rfl) | rfl) | rfl) | rfl) | rfl) | rfl) | rfl) |
    rfl) | rfl) <;> exact absurd h (by decide)

def negate : Json → Json
  | .number value => .number (-value)
  | .double value => .double (-value)
  | value => value

theorem number?_minus {body : List Char} (h : body.head? ≠ some '-') :
    number? ('-' :: body) = (number? body).map negate := by
  generalize hminus : number? ('-' :: body) = minus
  generalize hvalue : number? body = value
  unfold number? at hminus hvalue
  split at hminus
  rename_i negative body' hsign
  cases hsign
  split at hvalue
  rename_i negative body' hsign
  split at hsign
  · exact absurd rfl h
  cases hsign
  subst hminus hvalue
  dsimp only
  by_cases hdigits : (body.takeWhile Char.isDigit).isEmpty = true ∨
      (body.takeWhile Char.isDigit).head? = some '0' ∧ body.takeWhile Char.isDigit ≠ ['0']
  · rw [if_pos hdigits, if_pos hdigits]
    rfl
  · rw [if_neg hdigits, if_neg hdigits]
    cases fraction? (body.dropWhile Char.isDigit) with
    | none => rfl
    | some fraction =>
      dsimp only
      cases exponent? fraction.2 with
      | none => rfl
      | some exponent =>
        dsimp only
        by_cases hwhole : fraction.1.isNone = true ∧ exponent.isNone = true
        · rw [if_pos hwhole, if_pos hwhole]
          simp [negate]
        · rw [if_neg hwhole, if_neg hwhole]
          by_cases hscale : 0 ≤ exponent.getD 0 - ((fraction.1.getD []).length : ℤ)
          · rw [if_pos hscale, if_pos hscale]
            simp [negate]
          · rw [if_neg hscale, if_neg hscale]
            simp [negate, neg_div]
theorem head_ne_minus {digits : List Char} (h : ∀ c ∈ digits, c.isDigit = true) :
    digits.head? ≠ some '-' := by
  intro hhead
  exact absurd (h '-' (List.mem_of_mem_head? hhead)) (by decide)

section Digits

variable {digits : List Char} (hdigits : ∀ c ∈ digits, c.isDigit = true) (hne : digits ≠ [])
  (hzero : digits.head? = some '0' → digits = ['0'])

include hdigits hne hzero

theorem number?_digits : number? digits = some (.number (natOfDigits digits)) := by
  have htake : digits.takeWhile Char.isDigit = digits := List.takeWhile_eq_self_iff.mpr hdigits
  have hdrop : digits.dropWhile Char.isDigit = [] := List.dropWhile_eq_nil_iff.mpr hdigits
  unfold number?
  split
  rename_i negative body hsign
  split at hsign
  · exact absurd (hdigits '-' List.mem_cons_self) (by decide)
  · cases hsign
    dsimp only
    rw [htake, hdrop, if_neg (by simpa [hne] using hzero)]
    simp [fraction?, exponent?]

theorem number?_minus_digits :
    number? ('-' :: digits) = some (.number (-natOfDigits digits)) := by
  rw [number?_minus (head_ne_minus hdigits), number?_digits hdigits hne hzero]
  rfl

end Digits

theorem number?_writeInt (n : ℤ) : number? (writeInt n) = some (.number n) := by
  have hdigits : ∀ c ∈ Nat.toDigits 10 n.natAbs, c.isDigit = true :=
    fun c hc => Nat.isDigit_of_mem_toDigits (by decide) (by decide) hc
  unfold writeInt
  split
  · rename_i hneg
    rw [number?_minus_digits hdigits Nat.toDigits_ne_nil (head_toDigits _), natOfDigits_toDigits]
    have hcast : (n : ℚ) = -(n.natAbs : ℚ) := by
      rw [Nat.cast_natAbs, abs_of_neg hneg]
      push_cast
      exact (neg_neg _).symm
    rw [← hcast]
  · rename_i hnonneg
    rw [number?_digits hdigits Nat.toDigits_ne_nil (head_toDigits _), natOfDigits_toDigits,
      Nat.cast_natAbs, abs_of_nonneg (by omega)]

theorem writeInt_stops (n : ℤ) : ∀ c ∈ writeInt n, isDelimiter c = false := by
  have hdigits : ∀ c ∈ Nat.toDigits 10 n.natAbs, isDelimiter c = false := fun c hc =>
    isDelimiter_of_isDigit (Nat.isDigit_of_mem_toDigits (by decide) (by decide) hc)
  intro c hc
  unfold writeInt at hc
  split at hc
  · rcases List.mem_cons.mp hc with rfl | hc
    · decide
    · exact hdigits c hc
  · exact hdigits c hc

theorem isText_scalar {token : List Char} {value : Json}
    (hstops : ∀ c ∈ token, isDelimiter c = false) (hscalar : scalar? token = some value) :
    IsText token value := by
  have htake : token.takeWhile (fun c => !isDelimiter c) = token :=
    List.takeWhile_eq_self_iff.mpr fun c hc => by rw [hstops c hc]; rfl
  have hdrop : token.dropWhile (fun c => !isDelimiter c) = [] :=
    List.dropWhile_eq_nil_iff.mpr fun c hc => by rw [hstops c hc]; rfl
  have hread : readScalar token = some (value, []) := by
    unfold readScalar
    rw [htake, hdrop, hscalar]
    rfl
  refine ⟨1, [], ?_, rfl⟩
  cases token with
  | nil => cases hscalar
  | cons c rest =>
    have hc := hstops c List.mem_cons_self
    simp only [isDelimiter, Bool.or_eq_false_iff, decide_eq_false_iff_not] at hc
    rw [readValue, skipWhitespace, List.dropWhile_cons_of_neg (by simp [hc])]
    simp [hc, hread]

theorem scalar?_of_number? {token : List Char} {value : Json} (h : number? token = some value) :
    scalar? token = some value := by
  have hliteral : ∀ literal, number? literal = none → token ≠ literal := by
    rintro literal hnone rfl
    rw [h] at hnone
    cases hnone
  unfold scalar?
  rw [if_neg (hliteral _ rfl), if_neg (hliteral _ rfl), if_neg (hliteral _ rfl), h]

theorem isText_writeInt (n : ℤ) : IsText (writeInt n) (.number n) :=
  isText_scalar (writeInt_stops n) (scalar?_of_number? (number?_writeInt n))

end JsonText

end BiddingAuction
