import BiddingAuction.Inference.RequestParser
import Mathlib.Data.List.DropRight
import Mathlib.Data.List.TakeWhile

/-!
# The content of a tensor

A tensor is accepted if its content has as many values as the product of its dimensions, a
product that is multiplied in 64 bits. A content value is a text of JSON, and read up to its
first null character.
-/

namespace BiddingAuction

open Foundation

namespace InferencePayload

/-! ## Integers in text -/

def isAsciiSpace (c : Char) : Bool := c = ' ' || (9 ≤ c.toNat && c.toNat ≤ 13)

def isAsciiDigit (c : Char) : Bool := 48 ≤ c.toNat && c.toNat ≤ 57

def digits? (text : List Char) : Option ℤ :=
  if text ≠ [] ∧ text.all isAsciiDigit = true then
    some (text.foldl (fun n c => n * 10 + (c.toNat - 48 : ℤ)) 0)
  else none

/-- The integer a text is: decimal digits, with a sign or without, and with white space
around it or not. -/
def integer? (s : String) : Option ℤ :=
  match (s.toList.dropWhile isAsciiSpace).rdropWhile isAsciiSpace with
  | '-' :: text => (digits? text).map fun n => -n
  | '+' :: text => digits? text
  | text => digits? text

/-- `SimpleAtoi` gives a number only if the text is that number. -/
structure Parsing.ReadsIntegers (parsing : Parsing) : Prop where
  int32 : ∀ value n, parsing.simpleAtoi32 value = some n → integer? value = some n.toInt
  int64 : ∀ value n, parsing.simpleAtoi64 value = some n → integer? value = some n.toInt

theorem not_isNull_of_digits {text : List Char} {n : ℤ} (h : digits? text = some n) :
    ∀ c ∈ text, c.toNat ≠ 0 := by
  unfold digits? at h
  split at h
  · rename_i hdigits
    intro c hc
    have hdigit := List.all_eq_true.mp hdigits.2 c hc
    unfold isAsciiDigit at hdigit
    rw [Bool.and_eq_true, decide_eq_true_eq] at hdigit
    omega
  · cases h

theorem not_isNull_of_isAsciiSpace {c : Char} (h : isAsciiSpace c = true) : c.toNat ≠ 0 := by
  unfold isAsciiSpace at h
  rw [Bool.or_eq_true, Bool.and_eq_true, decide_eq_true_eq, decide_eq_true_eq] at h
  rcases h with rfl | h
  · decide
  · omega

theorem cString_of_integer {s : String} {n : ℤ} (h : integer? s = some n) : cString s = s := by
  have hmiddle : ∀ c ∈ (s.toList.dropWhile isAsciiSpace).rdropWhile isAsciiSpace, c.toNat ≠ 0 := by
    unfold integer? at h
    split at h
    · rename_i text hsplit
      rw [hsplit]
      obtain ⟨m, hm, -⟩ := Option.map_eq_some_iff.mp h
      intro c hc
      rcases List.mem_cons.mp hc with rfl | hc
      · decide
      · exact not_isNull_of_digits hm c hc
    · rename_i text hsplit
      rw [hsplit]
      intro c hc
      rcases List.mem_cons.mp hc with rfl | hc
      · decide
      · exact not_isNull_of_digits h c hc
    · exact not_isNull_of_digits h
  have hall : ∀ c ∈ s.toList, c.toNat ≠ 0 := by
    intro c hc
    rw [← List.takeWhile_append_dropWhile (p := isAsciiSpace) (l := s.toList)] at hc
    rcases List.mem_append.mp hc with hfront | hrest
    · exact not_isNull_of_isAsciiSpace (List.mem_takeWhile_imp hfront)
    · rw [← List.rdropWhile_append_rtakeWhile (p := isAsciiSpace)
        (l := s.toList.dropWhile isAsciiSpace)] at hrest
      rcases List.mem_append.mp hrest with hmid | hback
      · exact hmiddle c hmid
      · exact not_isNull_of_isAsciiSpace (List.mem_rtakeWhile_imp hback)
  unfold cString
  rw [List.takeWhile_eq_self_iff.mpr fun c hc => decide_eq_true (hall c hc), String.ofList_toList]

/-! ## What is stored -/

def DataTypeProto.isInteger : DataTypeProto → Bool
  | float | double => false
  | int8 | int16 | int32 | int64 => true

def integersOf (dataType : DataTypeProto) (content : TensorContent) : List ℤ :=
  match dataType with
  | .int64 => content.tensorContentInt64.map Int64.toInt
  | _ => content.tensorContentInt32.map Int32.toInt

theorem addTensorContent_integers {parsing : Parsing} (hreads : parsing.ReadsIntegers)
    {dataType : DataTypeProto} (hinteger : dataType.isInteger = true) {value : String}
    {content content' : TensorContent}
    (h : parsing.addTensorContent dataType value content = .ok content') :
    ∃ n, integer? value = some n ∧
      integersOf dataType content' = integersOf dataType content ++ [n] := by
  unfold Parsing.addTensorContent at h
  cases dataType with
  | float => cases hinteger
  | double => cases hinteger
  | int64 =>
    dsimp only at h
    split at h
    · rename_i n hn
      cases h
      exact ⟨n.toInt, hreads.int64 value n hn, List.map_append⟩
    · cases h
  | int32 =>
    dsimp only at h
    split at h
    · rename_i n hn
      cases h
      exact ⟨n.toInt, hreads.int32 value n hn, List.map_append⟩
    · cases h
  | int16 =>
    dsimp only at h
    split at h
    · rename_i n hn
      split at h
      · cases h
      · cases h
        exact ⟨n.toInt, hreads.int32 value n hn, List.map_append⟩
    · cases h
  | int8 =>
    dsimp only at h
    split at h
    · rename_i n hn
      split at h
      · cases h
      · cases h
        exact ⟨n.toInt, hreads.int32 value n hn, List.map_append⟩
    · cases h

theorem readContent_integers {parsing : Parsing} (hreads : parsing.ReadsIntegers)
    {dataType : DataTypeProto} (hinteger : dataType.isInteger = true) {tensorContent : List Json}
    {content result : Option TensorContent}
    (h : parsing.readContent dataType tensorContent content = .ok result) :
    ∃ ns, List.Forall₂ (fun contentValue n => ∃ s, contentValue = .string s ∧
        integer? (cString s) = some n) tensorContent ns ∧
      integersOf dataType (result.getD {}) = integersOf dataType (content.getD {}) ++ ns := by
  induction tensorContent generalizing content with
  | nil =>
    cases h
    exact ⟨[], .nil, (List.append_nil _).symm⟩
  | cons contentValue rest ih =>
    obtain ⟨s, content', hs, hadd, hrest⟩ := readContent_cons.mp h
    obtain ⟨n, hn, hstored⟩ := addTensorContent_integers hreads hinteger hadd
    obtain ⟨ns, hns, hall⟩ := ih hrest
    refine ⟨n :: ns, .cons ⟨s, hs, hn⟩ hns, ?_⟩
    rw [hall, Option.getD_some, hstored, List.append_assoc]
    rfl

theorem map_integer_eq_iff {tensorContent : List Json} {ns : List ℤ}
    (h : List.Forall₂ (fun contentValue n => ∃ s, contentValue = .string s ∧
      integer? (cString s) = some n) tensorContent ns) :
    (tensorContent.map fun contentValue => contentValue.string?.bind integer?) = ns.map some ↔
      ∀ s, .string s ∈ tensorContent → cString s = s := by
  induction h with
  | nil => exact iff_of_true rfl fun s hs => nomatch hs
  | @cons contentValue n tensorContent ns hfirst _ ih =>
    obtain ⟨s, rfl, hn⟩ := hfirst
    rw [List.map_cons, List.map_cons, List.cons.injEq, ih]
    constructor
    · rintro ⟨hself, hrest⟩ s' hs'
      rcases List.mem_cons.mp hs' with heq | hs'
      · cases heq
        exact cString_of_integer hself
      · exact hrest s' hs'
    · intro hall
      refine ⟨?_, fun s' hs' => hall s' (List.mem_cons_of_mem _ hs')⟩
      rw [hall s List.mem_cons_self] at hn
      exact hn

/-! ## Counts -/

def arrayMember (tensorValue : Json) (memberName : String) : List Json :=
  match tensorValue.findMember memberName with
  | some (.array elements) => elements
  | _ => []

def dimsOf (tensorValue : Json) : List ℤ := (arrayMember tensorValue "tensor_shape").filterMap dim?

def contentOf (tensorValue : Json) : List Json := arrayMember tensorValue "tensor_content"

theorem dimsOf_eq {tensorValue : Json} {tensorShape : List Json} {dims : List ℤ}
    (hshape : tensorValue.findMember "tensor_shape" = some (.array tensorShape))
    (hdims : List.Forall₂ (fun shapeValue dim => dim? shapeValue = some dim ∧ 1 ≤ dim) tensorShape
      dims) : dimsOf tensorValue = dims ∧ ∀ dim ∈ dims, 1 ≤ dim := by
  unfold dimsOf arrayMember
  rw [hshape]
  dsimp only
  clear hshape
  induction hdims with
  | nil => exact ⟨rfl, fun dim hdim => nomatch hdim⟩
  | cons hfirst _ ih =>
    refine ⟨?_, ?_⟩
    · rw [List.filterMap_cons, hfirst.1, ih.1]
    · intro dim hdim
      rcases List.mem_cons.mp hdim with rfl | hdim
      · exact hfirst.2
      · exact ih.2 dim hdim

theorem map_toInt_eq {tensorShape : List Json} {dims : List ℤ}
    (hdims : List.Forall₂ (fun shapeValue dim => dim? shapeValue = some dim ∧ 1 ≤ dim) tensorShape
      dims) : (dims.map Int64.ofInt).map Int64.toInt = dims := by
  induction hdims with
  | nil => rfl
  | @cons shapeValue dim tensorShape dims hfirst _ ih =>
    have hbounds : -2 ^ 31 ≤ dim ∧ dim ≤ 2 ^ 31 - 1 := by
      have hint := hfirst.1
      unfold dim? Json.int? at hint
      split at hint
      · split at hint
        · rename_i hwhole
          cases hint
          exact hwhole.2
        · cases hint
      · cases hint
    have hself : (Int64.ofInt dim).toInt = dim :=
      Int64.toInt_ofInt_of_le (by omega) (by omega)
    rw [List.map_cons, List.map_cons, hself, ih]

theorem count_eq_prod_iff {numTensors : ℕ} {dims : List ℤ} (hpos : ∀ dim ∈ dims, 1 ≤ dim)
    (hmod : (numTensors : ℤ) ≡ dims.prod [ZMOD 2 ^ 64]) (hsize : numTensors < 2 ^ 64) :
    (numTensors : ℤ) = dims.prod ↔ dims.prod < 2 ^ 64 := by
  have hprod := one_le_prod hpos
  unfold Int.ModEq at hmod
  omega

section Accepted

variable {α : Type} {readContent : DataTypeProto → List Json → Except ReadError (α × ℕ)}
  {tensorValue : Json} {dataType : DataTypeProto} {dims : List ℤ} {tensorContent : List Json}
  {content : α} {numTensors : ℕ}

theorem Accepts.contentOf_eq
    (h : Accepts readContent tensorValue dataType dims tensorContent content numTensors) :
    contentOf tensorValue = tensorContent := by
  unfold contentOf arrayMember
  rw [h.elements]

theorem Accepts.count_eq_iff
    (h : Accepts readContent tensorValue dataType dims tensorContent content numTensors)
    (hsize : numTensors < 2 ^ 64) :
    (numTensors : ℤ) = ((dims.map Int64.ofInt).map Int64.toInt).prod ↔
      (dimsOf tensorValue).prod < 2 ^ 64 := by
  obtain ⟨tensorShape, hshape, hdims⟩ := h.shape
  obtain ⟨hdimsOf, hpos⟩ := dimsOf_eq hshape hdims
  rw [map_toInt_eq hdims, hdimsOf]
  exact count_eq_prod_iff hpos (InferencePayload.count_eq_iff.mp h.count) hsize

theorem hasDataType_unique {dataType' : DataTypeProto} (h : HasDataType tensorValue dataType)
    (h' : HasDataType tensorValue dataType') : dataType = dataType' := by
  obtain ⟨s, hs, hread⟩ := h
  obtain ⟨s', hs', hread'⟩ := h'
  rw [hs] at hs'
  cases hs'
  rw [hread] at hread'
  cases hread'
  rfl

end Accepted

/-! ## Exactness -/

/-- The tensor has as many content values as the product of its dimensions over the integers,
and of an integer type it stores the integers that are written. -/
structure IsExact (tensorValue : Json) (tensor : TensorProto) : Prop where
  count : ((contentOf tensorValue).length : ℤ) = (tensor.tensorShape.map Int64.toInt).prod
  integers : tensor.dataType.isInteger = true →
    ((contentOf tensorValue).map fun contentValue => contentValue.string?.bind integer?) =
      (integersOf tensor.dataType (tensor.tensorContent.getD {})).map some

theorem parseTensor_count_iff {tensorValue : Json} {tensor : Tensor}
    (hsize : (contentOf tensorValue).length < 2 ^ 64)
    (h : RequestParser.parseTensor tensorValue = .ok tensor) :
    (tensor.tensorContent.length : ℤ) = (tensor.tensorShape.map Int64.toInt).prod ↔
      (dimsOf tensorValue).prod < 2 ^ 64 := by
  rw [parseTensor_eq] at h
  obtain ⟨tensorName, dataType, dims, tensorContent, content, numTensors, haccepts, rfl⟩ :=
    readTensor_eq_ok h
  obtain ⟨values, hvalues, hreads⟩ := except_bind_eq_ok.mp haccepts.reads
  cases hreads
  rw [haccepts.contentOf_eq, (except_mapM_eq_ok.mp hvalues).length_eq] at hsize
  exact haccepts.count_eq_iff hsize

theorem parseTensorProto_isExact_iff {parsing : Parsing} (hreads : parsing.ReadsIntegers)
    {tensorValue : Json} {tensor : TensorProto} (hsize : (contentOf tensorValue).length < 2 ^ 64)
    (h : parsing.parseTensorProto tensorValue = .ok tensor) :
    IsExact tensorValue tensor ↔ (dimsOf tensorValue).prod < 2 ^ 64 ∧
      ∀ dataType, HasDataType tensorValue dataType → dataType.isInteger = true →
        ∀ s, .string s ∈ contentOf tensorValue → cString s = s := by
  rw [parseTensorProto_eq] at h
  obtain ⟨tensorName, dataType, dims, tensorContent, content, numTensors, haccepts, rfl⟩ :=
    readTensor_eq_ok h
  obtain ⟨result, hcontent, hresult⟩ := except_bind_eq_ok.mp haccepts.reads
  cases hresult
  have hcontentOf := haccepts.contentOf_eq
  have hcount := haccepts.count_eq_iff (hcontentOf ▸ hsize)
  have hintegers (hinteger : dataType.isInteger = true) :
      ((contentOf tensorValue).map fun contentValue => contentValue.string?.bind integer?) =
          (integersOf dataType (content.getD {})).map some ↔
        ∀ s, .string s ∈ contentOf tensorValue → cString s = s := by
    obtain ⟨ns, hns, hstored⟩ := readContent_integers hreads hinteger hcontent
    have hempty : integersOf dataType ((none : Option TensorContent).getD {}) = [] := by
      cases dataType <;> rfl
    rw [hstored, hempty, List.nil_append, hcontentOf]
    exact map_integer_eq_iff hns
  constructor
  · intro hexact
    refine ⟨hcount.mp (hcontentOf ▸ hexact.count), fun dataType' hdataType' hinteger => ?_⟩
    obtain rfl := hasDataType_unique haccepts.hasDataType hdataType'
    exact (hintegers hinteger).mp (hexact.integers hinteger)
  · rintro ⟨hprod, hnull⟩
    refine ⟨?_, fun hinteger => ?_⟩
    · rw [hcontentOf]
      exact hcount.mpr hprod
    · exact (hintegers hinteger).mpr (hnull dataType haccepts.hasDataType hinteger)

/-- A tensor that is accepted is exact if the product of its dimensions is below 2⁶⁴ and, for
the integers, no text of its content has a null character. The content is counted in 64 bits. -/
theorem tensors_exact_iff {parsing : Parsing} (hreads : parsing.ReadsIntegers) {tensorValue : Json}
    (hsize : (contentOf tensorValue).length < 2 ^ 64) :
    (∀ tensor, RequestParser.parseTensor tensorValue = .ok tensor →
      ((tensor.tensorContent.length : ℤ) = (tensor.tensorShape.map Int64.toInt).prod ↔
        (dimsOf tensorValue).prod < 2 ^ 64)) ∧
    ∀ tensor, parsing.parseTensorProto tensorValue = .ok tensor →
      (IsExact tensorValue tensor ↔ (dimsOf tensorValue).prod < 2 ^ 64 ∧
        ∀ dataType, HasDataType tensorValue dataType → dataType.isInteger = true →
          ∀ s, .string s ∈ contentOf tensorValue → cString s = s) :=
  ⟨fun _ => parseTensor_count_iff hsize, fun _ => parseTensorProto_isExact_iff hreads hsize⟩

def decimalParsing : Parsing where
  parseJsonString _ := .ok (.object [])
  simpleAtof _ := none
  simpleAtod _ := none
  simpleAtoi32 value := (integer? value).bind fun n =>
    if -2 ^ 31 ≤ n ∧ n < 2 ^ 31 then some (Int32.ofInt n) else none
  simpleAtoi64 value := (integer? value).bind fun n =>
    if -2 ^ 63 ≤ n ∧ n < 2 ^ 63 then some (Int64.ofInt n) else none

theorem decimalParsing_readsIntegers : decimalParsing.ReadsIntegers := by
  constructor
  · intro value n h
    obtain ⟨m, hm, h⟩ := Option.bind_eq_some_iff.mp h
    split at h
    · rename_i hbounds
      cases h
      rw [Int32.toInt_ofInt_of_le (by omega) (by omega)]
      exact hm
    · cases h
  · intro value n h
    obtain ⟨m, hm, h⟩ := Option.bind_eq_some_iff.mp h
    split at h
    · rename_i hbounds
      cases h
      rw [Int64.toInt_ofInt_of_le (by omega) (by omega)]
      exact hm
    · cases h

def tensorOf (tensorShape : List ℚ) (tensorContent : List String) : Json :=
  .object [("data_type", .string "INT8"), ("tensor_shape", .array (tensorShape.map .number)),
    ("tensor_content", .array (tensorContent.map .string))]

theorem tensors_exact_iff_example :
    (∃ tensor, decimalParsing.parseTensorProto (tensorOf [2, 1] ["-5", " 7"]) = .ok tensor ∧
      IsExact (tensorOf [2, 1] ["-5", " 7"]) tensor) := by
  refine ⟨_, rfl, ((tensors_exact_iff decimalParsing_readsIntegers (by decide)).2 _ rfl).mpr ?_⟩
  refine ⟨by decide, fun dataType _ _ s hs => ?_⟩
  rcases List.mem_cons.mp hs with h | hs
  · cases h
    decide
  rcases List.mem_cons.mp hs with h | hs
  · cases h
    decide
  · cases hs

/-- The product of four dimensions of 2¹⁶ wraps around to the length of no content, and of
the text of a null character between two digits the first digit is stored. -/
theorem not_isExact_example :
    (∃ tensor, RequestParser.parseTensor (tensorOf [65536, 65536, 65536, 65536] []) = .ok tensor ∧
      (tensor.tensorContent.length : ℤ) ≠ (tensor.tensorShape.map Int64.toInt).prod) ∧
    (∃ tensor, decimalParsing.parseTensorProto (tensorOf [65536, 65536, 65536, 65536] []) =
      .ok tensor ∧ ¬ IsExact (tensorOf [65536, 65536, 65536, 65536] []) tensor) ∧
    ∃ tensor, decimalParsing.parseTensorProto (tensorOf [1] ["1\x002"]) = .ok tensor ∧
      ¬ IsExact (tensorOf [1] ["1\x002"]) tensor := by
  refine ⟨⟨_, rfl, by decide⟩, ⟨_, rfl, fun h => ?_⟩, ⟨_, rfl, fun h => ?_⟩⟩
  · exact absurd h.count (by decide)
  · exact absurd (h.integers rfl) (by decide)

end InferencePayload

end BiddingAuction
