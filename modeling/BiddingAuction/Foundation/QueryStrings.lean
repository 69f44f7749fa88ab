import Mathlib.Data.List.Basic
import Mathlib.Data.List.TakeWhile

/-!
# Percent-encoding

A byte is written as a percent sign and two hexadecimal digits. Decoding goes from left to right;
a percent sign that no two digits follow stays as it is.
-/

namespace Foundation

def hexValue (byte : UInt8) : Option ℕ :=
  if 48 ≤ byte ∧ byte ≤ 57 then some (byte.toNat - 48)
  else if 65 ≤ byte ∧ byte ≤ 70 then some (byte.toNat - 55)
  else if 97 ≤ byte ∧ byte ≤ 102 then some (byte.toNat - 87)
  else none

def escaped? (percent high low : UInt8) : Option UInt8 :=
  if percent = 37 then
    (hexValue high).bind fun h => (hexValue low).map fun l => .ofNat (16 * h + l)
  else none

def percentDecode : List UInt8 → List UInt8
  | [] => []
  | [a] => [a]
  | [a, b] => [a, b]
  | a :: b :: c :: rest =>
    match escaped? a b c with
    | some byte => byte :: percentDecode rest
    | none => a :: percentDecode (b :: c :: rest)

/-! ## Length -/

theorem length_percentDecode_le (l : List UInt8) : (percentDecode l).length ≤ l.length := by
  fun_induction percentDecode l with
  | case1 => exact Nat.le_refl _
  | case2 => exact Nat.le_refl _
  | case3 => exact Nat.le_refl _
  | case4 a b c rest byte _ ih =>
    simp only [List.length_cons]
    omega
  | case5 a b c rest _ ih =>
    simp only [List.length_cons] at ih ⊢
    omega

def hasEscape : List UInt8 → Bool
  | a :: b :: c :: rest => (escaped? a b c).isSome || hasEscape (b :: c :: rest)
  | _ => false

theorem percentDecode_eq_self_iff (l : List UInt8) :
    percentDecode l = l ↔ hasEscape l = false := by
  fun_induction percentDecode l with
  | case1 => exact iff_of_true rfl rfl
  | case2 => exact iff_of_true rfl rfl
  | case3 => exact iff_of_true rfl rfl
  | case4 a b c rest byte hbyte _ =>
    refine iff_of_false (fun heq => ?_) (by simp [hasEscape, hbyte])
    have hle := length_percentDecode_le rest
    have hlength := congrArg List.length heq
    simp only [List.length_cons] at hlength
    omega
  | case5 a b c rest hnone ih =>
    rw [hasEscape, hnone, List.cons_inj_right, ih]
    rfl

/-! ## Boundaries -/

/-- No escape goes on over the byte: it is neither a percent sign nor a digit. -/
def IsBoundary (byte : UInt8) : Prop := byte ≠ 37 ∧ hexValue byte = none

instance : DecidablePred IsBoundary := fun _ => inferInstanceAs (Decidable (_ ∧ _))

theorem escaped?_of_boundary_middle {b : UInt8} (h : IsBoundary b) (a c : UInt8) :
    escaped? a b c = none := by
  unfold escaped?
  rw [h.2]
  split <;> rfl

theorem escaped?_of_boundary_last {c : UInt8} (h : IsBoundary c) (a b : UInt8) :
    escaped? a b c = none := by
  unfold escaped?
  rw [h.2]
  split
  · cases hexValue b <;> rfl
  · rfl

theorem percentDecode_cons {a : UInt8} (h : a ≠ 37) (l : List UInt8) :
    percentDecode (a :: l) = a :: percentDecode l := by
  match l with
  | [] => rfl
  | [_] => rfl
  | b :: c :: rest =>
    have hnone : escaped? a b c = none := if_neg h
    rw [percentDecode, hnone]

theorem percentDecode_append_cons {byte : UInt8} (h : IsBoundary byte) (l rest : List UInt8) :
    percentDecode (l ++ byte :: rest) = percentDecode l ++ byte :: percentDecode rest := by
  fun_induction percentDecode l with
  | case1 => exact percentDecode_cons h.1 rest
  | case2 a =>
    show percentDecode (a :: byte :: rest) = a :: byte :: percentDecode rest
    cases rest with
    | nil => rfl
    | cons c rest =>
      rw [percentDecode, escaped?_of_boundary_middle h]
      exact congrArg (a :: ·) (percentDecode_cons h.1 _)
  | case3 a b =>
    show percentDecode (a :: b :: byte :: rest) = a :: b :: byte :: percentDecode rest
    rw [percentDecode, escaped?_of_boundary_last h]
    cases rest with
    | nil => rfl
    | cons c rest =>
      show a :: percentDecode (b :: byte :: c :: rest) = _
      rw [percentDecode, escaped?_of_boundary_middle h, percentDecode_cons h.1]
  | case4 a b c rest' byte' hbyte ih =>
    show percentDecode (a :: b :: c :: (rest' ++ byte :: rest)) = _
    rw [percentDecode, hbyte]
    exact congrArg (byte' :: ·) ih
  | case5 a b c rest' hnone ih =>
    show percentDecode (a :: b :: c :: (rest' ++ byte :: rest)) = _
    rw [percentDecode, hnone]
    exact congrArg (a :: ·) ih

theorem percentDecode_intercalate {byte : UInt8} (h : IsBoundary byte) (parts : List (List UInt8)) :
    percentDecode ([byte].intercalate parts) = [byte].intercalate (parts.map percentDecode) := by
  match parts with
  | [] => rfl
  | [part] =>
    rw [List.intercalate_singleton, List.map_singleton, List.intercalate_singleton]
  | part :: next :: parts =>
    have ih := percentDecode_intercalate h (next :: parts)
    rw [List.intercalate_cons_cons, List.append_assoc, List.singleton_append,
      percentDecode_append_cons h, ih, List.map_cons, List.map_cons, List.map_cons,
      List.intercalate_cons_cons, List.append_assoc, List.singleton_append]

theorem percentDecode_of_notMem {l : List UInt8} (h : 37 ∉ l) : percentDecode l = l := by
  induction l with
  | nil => rfl
  | cons a l ih =>
    obtain ⟨ha, hl⟩ := List.ne_and_not_mem_of_not_mem_cons h
    rw [percentDecode_cons (Ne.symm ha), ih hl]

/-! ## Encoding -/

def hexDigit (n : ℕ) : UInt8 := .ofNat (if n < 10 then 48 + n else 55 + n)

/-- Letters, digits and `-._~`. -/
def isUnreserved (byte : UInt8) : Bool :=
  (48 ≤ byte && byte ≤ 57) || (65 ≤ byte && byte ≤ 90) || (97 ≤ byte && byte ≤ 122) ||
    byte = 45 || byte = 46 || byte = 95 || byte = 126

def percentEncodeByte (byte : UInt8) : List UInt8 :=
  if isUnreserved byte then [byte]
  else [37, hexDigit (byte.toNat / 16), hexDigit (byte.toNat % 16)]

def percentEncode (l : List UInt8) : List UInt8 := l.flatMap percentEncodeByte

theorem hexValue_hexDigit {n : ℕ} (h : n < 16) : hexValue (hexDigit n) = some n := by
  have hall : ∀ n : Fin 16, hexValue (hexDigit n) = some n.val := by decide
  exact hall ⟨n, h⟩

theorem isUnreserved_hexDigit {n : ℕ} (h : n < 16) : isUnreserved (hexDigit n) = true := by
  have hall : ∀ n : Fin 16, isUnreserved (hexDigit n) = true := by decide
  exact hall ⟨n, h⟩

theorem escaped?_percentEncodeByte (byte : UInt8) :
    escaped? 37 (hexDigit (byte.toNat / 16)) (hexDigit (byte.toNat % 16)) = some byte := by
  have hbyte := byte.toNat_lt
  rw [escaped?, if_pos rfl, hexValue_hexDigit (by omega), hexValue_hexDigit (by omega)]
  show some (UInt8.ofNat (16 * (byte.toNat / 16) + byte.toNat % 16)) = some byte
  rw [Nat.div_add_mod, UInt8.ofNat_toNat]

theorem percentDecode_percentEncode (l : List UInt8) : percentDecode (percentEncode l) = l := by
  induction l with
  | nil => rfl
  | cons byte l ih =>
    show percentDecode (percentEncodeByte byte ++ percentEncode l) = byte :: l
    unfold percentEncodeByte
    split
    · rename_i hplain
      have hne : byte ≠ 37 := by
        rintro rfl
        exact absurd hplain (by decide)
      rw [List.singleton_append, percentDecode_cons hne, ih]
    · show percentDecode (37 :: _ :: _ :: percentEncode l) = byte :: l
      rw [percentDecode, escaped?_percentEncodeByte]
      exact congrArg (byte :: ·) ih

theorem isUnreserved_of_mem_percentEncode {l : List UInt8} {byte : UInt8}
    (h : byte ∈ percentEncode l) : isUnreserved byte = true ∨ byte = 37 := by
  obtain ⟨source, -, hmem⟩ := List.mem_flatMap.mp h
  have hsource := source.toNat_lt
  unfold percentEncodeByte at hmem
  split at hmem
  · rename_i hplain
    exact .inl (List.mem_singleton.mp hmem ▸ hplain)
  · rcases List.mem_cons.mp hmem with rfl | hmem
    · exact .inr rfl
    · rcases List.mem_cons.mp hmem with rfl | hmem
      · exact .inl (isUnreserved_hexDigit (by omega))
      · exact .inl (List.mem_singleton.mp hmem ▸ isUnreserved_hexDigit (by omega))

/-!
# Query strings

A query is split at `&` into parameters, each of these at `=` into its parts, and each part at `,`
into items, which are decoded. Decoding the whole query gives the decoded items between the same
separators.
-/

/-- The parameters of a query, which ends where a fragment begins. -/
def untilFragment (query : List UInt8) : List UInt8 := query.takeWhile fun byte => byte ≠ 35

def readParams (query : List UInt8) : List (List (List (List UInt8))) :=
  if query = [] then []
  else (query.splitOn 38).map fun param => (param.splitOn 61).map fun part =>
    (part.splitOn 44).map percentDecode

def joinParams (params : List (List (List (List UInt8)))) : List UInt8 :=
  [38].intercalate (params.map fun parts => [61].intercalate (parts.map [44].intercalate))

theorem percentDecode_eq_intercalate {byte : UInt8} (h : IsBoundary byte) (l : List UInt8) :
    percentDecode l = [byte].intercalate ((l.splitOn byte).map percentDecode) := by
  rw [← percentDecode_intercalate h, List.intercalate_splitOn]

theorem joinParams_readParams {query : List UInt8} (h : query ≠ []) :
    joinParams (readParams query) = percentDecode query := by
  have hpart (part : List UInt8) :
      [44].intercalate ((part.splitOn 44).map percentDecode) = percentDecode part :=
    (percentDecode_eq_intercalate (by decide) part).symm
  have hparam (param : List UInt8) :
      [61].intercalate (((param.splitOn 61).map fun part =>
        (part.splitOn 44).map percentDecode).map [44].intercalate) = percentDecode param := by
    rw [List.map_map, percentDecode_eq_intercalate (by decide : IsBoundary 61) param]
    exact congrArg (fun decode => [61].intercalate ((param.splitOn 61).map decode)) (funext hpart)
  unfold joinParams readParams
  rw [if_neg h, List.map_map, percentDecode_eq_intercalate (by decide : IsBoundary 38) query]
  exact congrArg (fun decode => [38].intercalate ((query.splitOn 38).map decode)) (funext hparam)

theorem length_splitOn (byte : UInt8) (l : List UInt8) :
    (l.splitOn byte).length = l.count byte + 1 := by
  induction l with
  | nil => rfl
  | cons a l ih =>
    rw [List.splitOn_cons_eq_if_modifyHead, List.count_cons]
    split
    · rw [List.length_cons, ih]
    · rw [List.length_modifyHead, ih, Nat.add_zero]

theorem notMem_of_length_untilFragment {query : List UInt8}
    (h : (percentDecode query).length ≤ (percentDecode (untilFragment query)).length) :
    35 ∉ query := by
  intro hmem
  obtain ⟨byte, rest, hdrop, hbyte⟩ : ∃ byte rest,
      query.dropWhile (fun byte => byte ≠ 35) = byte :: rest ∧ byte = 35 := by
    cases hdrop : query.dropWhile (fun byte => byte ≠ 35) with
    | nil =>
      have hnone := List.dropWhile_eq_nil_iff.mp hdrop 35 hmem
      simp at hnone
    | cons byte rest =>
      refine ⟨byte, rest, rfl, ?_⟩
      have hhead := List.head?_dropWhile_not (fun byte : UInt8 => decide (byte ≠ 35)) query
      rw [hdrop] at hhead
      simpa using hhead
  have hquery : query = untilFragment query ++ 35 :: rest := by
    rw [← hbyte, ← hdrop]
    exact List.takeWhile_append_dropWhile.symm
  have hlength : (percentDecode query).length =
      (percentDecode (untilFragment query)).length + (percentDecode rest).length + 1 := by
    conv_lhs => rw [hquery, percentDecode_append_cons (by decide)]
    rw [List.length_append, List.length_cons, Nat.add_assoc]
  omega

theorem untilFragment_of_notMem {query : List UInt8} (h : 35 ∉ query) :
    untilFragment query = query :=
  List.takeWhile_eq_self_iff.mpr fun _ hbyte => decide_eq_true fun heq => h (heq ▸ hbyte)

/-! ## Written queries -/

/-- A parameter: the items it is to carry, and the text that is written for them. -/
structure QueryParam where
  name : List UInt8
  items : List (List UInt8)
  text : List UInt8

namespace QueryParam

variable (p : QueryParam)

def given : List (List (List UInt8)) := [[p.name], p.items]

def written : List UInt8 := p.name ++ 61 :: p.text

/-- A writer that looks at the last byte writes the separator after this parameter. -/
def Separated : Prop := p.text.getLast? ≠ some 63 ∧ p.text.getLast? ≠ some 38

instance : Decidable p.Separated := inferInstanceAs (Decidable (_ ∧ _))

/-- The name has no separator and no percent sign, and the text decodes to nothing longer than the
items. -/
structure Sound : Prop where
  name : ∀ byte ∈ p.name, isUnreserved byte = true
  text : (percentDecode p.text).length ≤ ([44].intercalate p.items).length

/-- The text is read as the items, wherever it stands. -/
structure Clean : Prop where
  noAmpersand : 38 ∉ p.text
  noEquals : 61 ∉ p.text
  noFragment : 35 ∉ p.text
  read : (p.text.splitOn 44).map percentDecode = p.items

end QueryParam

/-- The parameters one after another, each next one behind a separator unless the last byte takes
its place. -/
def writeQuery : List QueryParam → List UInt8
  | [] => []
  | [p] => p.written
  | p :: next :: ps => p.written ++ ((if p.Separated then [38] else []) ++ writeQuery (next :: ps))

namespace QueryParam

variable {p : QueryParam}

def joined (p : QueryParam) : List UInt8 := p.name ++ 61 :: [44].intercalate p.items

theorem Sound.name_notMem (h : p.Sound) {byte : UInt8} (hbyte : isUnreserved byte = false) :
    byte ∉ p.name := by
  intro hmem
  rw [h.name byte hmem] at hbyte
  cases hbyte

theorem Sound.percentDecode_written (h : p.Sound) :
    percentDecode p.written = p.name ++ 61 :: percentDecode p.text := by
  rw [written, percentDecode_append_cons (by decide), percentDecode_of_notMem (h.name_notMem rfl)]

theorem Sound.length_percentDecode_written_le (h : p.Sound) :
    (percentDecode p.written).length ≤ p.joined.length := by
  have htext := h.text
  rw [h.percentDecode_written, joined]
  simp only [List.length_append, List.length_cons]
  omega

theorem percentDecode_written_append (h : ¬p.Separated) (rest : List UInt8) :
    percentDecode (p.written ++ rest) = percentDecode p.written ++ percentDecode rest := by
  obtain ⟨byte, hbyte, hlast⟩ : ∃ byte, IsBoundary byte ∧ p.text.getLast? = some byte := by
    rcases Decidable.not_and_iff_not_or_not.mp h with h | h
    · exact ⟨63, by decide, Decidable.not_not.mp h⟩
    · exact ⟨38, by decide, Decidable.not_not.mp h⟩
  obtain ⟨front, htext⟩ := List.getLast?_eq_some_iff.mp hlast
  have hwritten : p.written = (p.name ++ 61 :: front) ++ [byte] := by
    rw [written, htext, List.append_assoc, List.cons_append]
  rw [hwritten, List.append_assoc, List.singleton_append, percentDecode_append_cons hbyte,
    percentDecode_append_cons hbyte, List.append_assoc]
  rfl

end QueryParam

theorem joinParams_given (ps : List QueryParam) :
    joinParams (ps.map QueryParam.given) = [38].intercalate (ps.map QueryParam.joined) := by
  unfold joinParams
  rw [List.map_map]
  congr 2
  funext p
  show [61].intercalate [[44].intercalate [p.name], [44].intercalate p.items] = p.joined
  rw [List.intercalate_cons_cons, List.intercalate_singleton, List.intercalate_singleton,
    QueryParam.joined, List.append_assoc, List.singleton_append]

/-- Nothing is decoded to more than was to be written, and to as much only if no separator is
left out. -/
theorem length_percentDecode_writeQuery {ps : List QueryParam} (h : ∀ p ∈ ps, p.Sound) :
    (percentDecode (writeQuery ps)).length ≤ ([38].intercalate (ps.map QueryParam.joined)).length ∧
    (([38].intercalate (ps.map QueryParam.joined)).length ≤
      (percentDecode (writeQuery ps)).length → ∀ p ∈ ps.dropLast, p.Separated) := by
  induction ps with
  | nil => exact ⟨Nat.le_refl _, fun _ p hp => absurd hp List.not_mem_nil⟩
  | cons p ps ih =>
    have hp := (h p List.mem_cons_self).length_percentDecode_written_le
    cases ps with
    | nil =>
      refine ⟨?_, fun _ p hp => absurd hp List.not_mem_nil⟩
      rw [List.map_singleton, List.intercalate_singleton]
      exact hp
    | cons next ps =>
      obtain ⟨ihle, ihsep⟩ := ih fun p hp => h p (List.mem_cons_of_mem _ hp)
      rw [List.map_cons, List.map_cons, List.intercalate_cons_cons, ← List.map_cons]
      simp only [List.length_append, List.length_singleton]
      rw [writeQuery]
      by_cases hsep : p.Separated
      · rw [if_pos hsep, List.singleton_append, percentDecode_append_cons (by decide)]
        simp only [List.length_append, List.length_cons]
        refine ⟨by omega, fun hle q hq => ?_⟩
        rw [List.dropLast_cons_cons] at hq
        rcases List.mem_cons.mp hq with rfl | hq
        · exact hsep
        · exact ihsep (by omega) q hq
      · rw [if_neg hsep, List.nil_append, QueryParam.percentDecode_written_append hsep]
        simp only [List.length_append]
        exact ⟨by omega, fun hle => by omega⟩

theorem writeQuery_eq_intercalate {ps : List QueryParam} (h : ∀ p ∈ ps.dropLast, p.Separated) :
    writeQuery ps = [38].intercalate (ps.map QueryParam.written) := by
  induction ps with
  | nil => rfl
  | cons p ps ih =>
    cases ps with
    | nil => rw [List.map_singleton, List.intercalate_singleton, writeQuery]
    | cons next ps =>
      rw [List.dropLast_cons_cons] at h
      rw [writeQuery, if_pos (h p List.mem_cons_self),
        ih fun q hq => h q (List.mem_cons_of_mem _ hq)]
      show _ = [38].intercalate (p.written :: next.written :: ps.map QueryParam.written)
      rw [List.intercalate_cons_cons, List.append_assoc]
      rfl

theorem notMem_of_count_intercalate {byte : UInt8} {parts : List (List UInt8)}
    (h : ([byte].intercalate parts).count byte + 1 = parts.length) :
    ∀ part ∈ parts, byte ∉ part := by
  have hcount (parts : List (List UInt8)) (hne : parts ≠ []) :
      ([byte].intercalate parts).count byte + 1 =
        (parts.map (List.count byte)).sum + parts.length := by
    induction parts with
    | nil => exact absurd rfl hne
    | cons part parts ih =>
      cases parts with
      | nil => simp
      | cons next parts =>
        have ih := ih (List.cons_ne_nil _ _)
        rw [List.intercalate_cons_cons, List.count_append, List.count_append,
          List.count_singleton_self, List.map_cons, List.sum_cons, List.length_cons]
        omega
  intro part hpart
  have hsum := hcount parts (List.ne_nil_of_mem hpart)
  have hzero : (parts.map (List.count byte)).sum = 0 := by omega
  exact List.count_eq_zero.mp
    (List.sum_eq_zero_iff_forall_eq_nat.mp hzero _ (List.mem_map_of_mem hpart))

theorem notMem_intercalate_iff {byte sep : UInt8} (hne : byte ≠ sep) {parts : List (List UInt8)} :
    byte ∉ [sep].intercalate parts ↔ ∀ part ∈ parts, byte ∉ part := by
  induction parts with
  | nil => exact ⟨fun _ part hpart => absurd hpart List.not_mem_nil, fun _ => List.not_mem_nil⟩
  | cons part parts ih =>
    cases parts with
    | nil => rw [List.intercalate_singleton, List.forall_mem_singleton]
    | cons next parts =>
      rw [List.intercalate_cons_cons, List.forall_mem_cons, ← ih, List.mem_append, List.mem_append,
        List.mem_singleton, or_iff_left hne, not_or]

namespace QueryParam

variable {p : QueryParam}

theorem Sound.clean (h : p.Sound) (hampersand : 38 ∉ p.written) (hfragment : 35 ∉ p.written)
    (hread : (p.written.splitOn 61).map (fun part => (part.splitOn 44).map percentDecode) =
      p.given) : p.Clean := by
  have htext {byte : UInt8} (hbyte : byte ∉ p.written) : byte ∉ p.text :=
    fun hmem => hbyte (List.mem_append_right _ (List.mem_cons_of_mem _ hmem))
  have hcount : p.text.count 61 = 0 := by
    have hlength := congrArg List.length hread
    have hname : p.name.count 61 = 0 := List.count_eq_zero.mpr (h.name_notMem rfl)
    rw [List.length_map, length_splitOn, written, List.count_append, List.count_cons_self, hname]
      at hlength
    simp only [given, List.length_cons, List.length_nil] at hlength
    omega
  have hequals : 61 ∉ p.text := List.count_eq_zero.mp hcount
  rw [written, List.splitOn_append_cons_self_of_not_mem (h.name_notMem rfl),
    List.splitOn_eq_singleton hequals] at hread
  exact ⟨htext hampersand, hequals, htext hfragment, (List.cons.inj (List.cons.inj hread).2).1⟩

theorem Clean.read_written (h : p.Clean) (hsound : p.Sound) :
    (p.written.splitOn 61).map (fun part => (part.splitOn 44).map percentDecode) = p.given := by
  rw [written, List.splitOn_append_cons_self_of_not_mem (hsound.name_notMem rfl),
    List.splitOn_eq_singleton h.noEquals]
  show [(p.name.splitOn 44).map percentDecode, (p.text.splitOn 44).map percentDecode] = _
  rw [List.splitOn_eq_singleton (hsound.name_notMem rfl), h.read, List.map_singleton,
    percentDecode_of_notMem (hsound.name_notMem rfl), given]

theorem Clean.notMem_written (h : p.Clean) (hsound : p.Sound) :
    38 ∉ p.written ∧ 35 ∉ p.written := by
  constructor
  · rw [written, List.mem_append, List.mem_cons]
    rintro (hmem | hmem | hmem)
    · exact hsound.name_notMem rfl hmem
    · exact absurd hmem (by decide)
    · exact h.noAmpersand hmem
  · rw [written, List.mem_append, List.mem_cons]
    rintro (hmem | hmem | hmem)
    · exact hsound.name_notMem rfl hmem
    · exact absurd hmem (by decide)
    · exact h.noFragment hmem

end QueryParam

theorem writeQuery_ne_nil {ps : List QueryParam} (h : ps ≠ []) : writeQuery ps ≠ [] := by
  match ps with
  | [p] => exact List.append_ne_nil_of_right_ne_nil _ (List.cons_ne_nil _ _)
  | p :: next :: ps =>
    exact List.append_ne_nil_of_left_ne_nil
      (List.append_ne_nil_of_right_ne_nil _ (List.cons_ne_nil _ _)) _

theorem readParams_intercalate {ps : List QueryParam} (hne : ps ≠ [])
    (h : ∀ p ∈ ps, 38 ∉ p.written) :
    readParams ([38].intercalate (ps.map QueryParam.written)) =
      ps.map fun p => (p.written.splitOn 61).map fun part =>
        (part.splitOn 44).map percentDecode := by
  have hquery : [38].intercalate (ps.map QueryParam.written) ≠ [] := by
    intro hnil
    have hsplit := List.splitOn_intercalate 38 (List.forall_mem_map.mpr h :
      ∀ part ∈ ps.map QueryParam.written, 38 ∉ part) (by simpa using hne)
    rw [hnil, List.splitOn_nil] at hsplit
    obtain ⟨p, hp⟩ := List.exists_mem_of_ne_nil _ hne
    have hmem : p.written ∈ [[]] := hsplit ▸ List.mem_map_of_mem hp
    exact List.append_ne_nil_of_right_ne_nil _ (List.cons_ne_nil _ _) (List.mem_singleton.mp hmem)
  rw [readParams, if_neg hquery, List.splitOn_intercalate 38 (List.forall_mem_map.mpr h)
    (by simpa using hne), List.map_map]
  rfl

/-- What is written is read back if and only if every text stands on its own and no separator is
left out. -/
theorem readParams_writeQuery_iff {ps : List QueryParam} (hsound : ∀ p ∈ ps, p.Sound) :
    readParams (untilFragment (writeQuery ps)) = ps.map QueryParam.given ↔
      (∀ p ∈ ps, p.Clean) ∧ ∀ p ∈ ps.dropLast, p.Separated := by
  by_cases hnil : ps = []
  · rw [hnil]
    refine ⟨fun _ => ⟨?_, ?_⟩, fun _ => rfl⟩
    · intro p hp
      exact absurd hp List.not_mem_nil
    · intro p hp
      exact absurd hp List.not_mem_nil
  constructor
  · intro hread
    obtain ⟨hle, hsep⟩ := length_percentDecode_writeQuery hsound
    have hcut : untilFragment (writeQuery ps) ≠ [] := by
      intro hcut
      rw [hcut] at hread
      exact hnil (List.map_eq_nil_iff.mp hread.symm)
    -- Joining the parameters that are read gives the decoded query, whose length leaves no room.
    have hjoin := joinParams_readParams hcut
    rw [hread, joinParams_given] at hjoin
    have hfragment := notMem_of_length_untilFragment (hjoin ▸ hle)
    rw [untilFragment_of_notMem hfragment] at hjoin hread
    have hsep := hsep (hjoin ▸ Nat.le_refl _)
    have hquery := writeQuery_eq_intercalate hsep
    rw [hquery] at hfragment
    have hampersand : ∀ part ∈ ps.map QueryParam.written, 38 ∉ part := by
      refine notMem_of_count_intercalate ?_
      have hlength := congrArg List.length hread
      rw [readParams, if_neg (writeQuery_ne_nil hnil), List.length_map, length_splitOn, hquery,
        List.length_map] at hlength
      rw [hlength, List.length_map]
    rw [hquery, readParams_intercalate hnil fun p hp => hampersand _ (List.mem_map_of_mem hp)]
      at hread
    refine ⟨fun p hp => ?_, hsep⟩
    exact (hsound p hp).clean (hampersand _ (List.mem_map_of_mem hp))
      ((notMem_intercalate_iff (by decide)).mp hfragment _ (List.mem_map_of_mem hp))
      (List.map_inj_left.mp hread p hp)
  · rintro ⟨hclean, hsep⟩
    have hwritten p hp := (hclean p hp).notMem_written (hsound p hp)
    rw [writeQuery_eq_intercalate hsep, untilFragment_of_notMem
      ((notMem_intercalate_iff (by decide)).mpr
        (List.forall_mem_map.mpr fun p hp => (hwritten p hp).2)),
      readParams_intercalate hnil fun p hp => (hwritten p hp).1]
    exact List.map_congr_left fun p hp => (hclean p hp).read_written (hsound p hp)

end Foundation
