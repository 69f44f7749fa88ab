import BiddingAuction.Foundation.FirstFailure
import BiddingAuction.Inference.BatchRequests
import Mathlib.Algebra.BigOperators.Group.List.Basic
import Mathlib.Data.Int.ModEq

/-!
# Parsing of inference requests

A batch is parsed once for its metrics and once for the sidecar, in the same way: request by
request, tensor by tensor, with a tensor's shape read before its content. What a tensor has
to be like for either parser is said without the parsers; so is what they have to be able to
read.
-/

namespace BiddingAuction

open Foundation

namespace InferencePayload

/-! ## The parser of the sidecar -/

structure Tensor where
  tensorName : String := ""
  dataType : DataTypeProto
  tensorShape : List Int64 := []
  tensorContent : List String := []
deriving DecidableEq

structure InferenceRequest where
  modelPath : String := ""
  inputs : List Tensor := []
deriving DecidableEq

/-- A request, or the error in parsing it. -/
abbrev ParsedRequestOrError := Except ErrorProto InferenceRequest

namespace RequestParser

def readString : Json → Except ReadError String
  | .string value => .ok (cString value)
  | _ => .error (.invalidArgument
      "All numbers within the tensor_content must be enclosed in quotes")

def parseTensor (tensorValue : Json) : Except ReadError Tensor := do
  let tensorName := ((← tensorValue.member? "tensor_name").bind Json.string?).map cString
  let dataType ← stringToDataType (← getStringMember tensorValue "data_type")
  let tensorShape ← tensorValue.getArrayMember "tensor_shape"
  let (shape, productOfDimensions) ← Parsing.readShape tensorShape 1 []
  let tensorContent ← tensorValue.getArrayMember "tensor_content"
  let content ← tensorContent.mapM readString
  if UInt64.ofNat content.length ≠ productOfDimensions then
    throw (.invalidArgument ("Mismatch between the size of tensor_content (" ++
      toString content.length ++ ") and a product of tensor dimensions (" ++
      toString productOfDimensions ++ ")"))
  return ⟨tensorName.getD "", dataType, shape, content⟩

def parseInternal (inferenceRequest : Json) (error : ErrorProto) :
    ErrorProto × Except ReadError InferenceRequest :=
  match getStringMember inferenceRequest "model_path" with
  | .error e => (error, .error e)
  | .ok modelPath =>
    ({ error with modelPath := modelPath }, do
      let tensors ← inferenceRequest.getArrayMember "tensors"
      return ⟨modelPath, ← tensors.mapM parseTensor⟩)

/-- One turn of the loop of `ParseJsonInferenceRequest`. -/
def parseRequest (inferenceRequest : Json) : Except ReadError ParsedRequestOrError :=
  match parseInternal inferenceRequest {} with
  | (_, .ok request) => .ok (.ok request)
  | (error, .error (.invalidArgument message)) =>
    .ok (.error { error with description := message, errorType := .inputParsing })
  | (_, .error .asserted) => .error .asserted

def parseJsonInferenceRequest (parsing : Parsing) (jsonString : String) :
    Except ReadError (List ParsedRequestOrError) := do
  let batch ← parsing.batchInferenceRequest jsonString
  batch.mapM parseRequest

end RequestParser

/-! ## Members -/

/-- Reading a member is asserted on a value that is no object. -/
def IsObject (document : Json) : Prop := ∃ members, document = .object members

theorem findMember_eq_none_of_not_isObject {document : Json} (h : ¬ IsObject document)
    (memberName : String) : document.findMember memberName = none := by
  cases document with
  | object members => exact absurd ⟨members, rfl⟩ h
  | _ => rfl

theorem isObject_of_findMember {document value : Json} {memberName : String}
    (h : document.findMember memberName = some value) : IsObject document := by
  by_contra hnot
  rw [findMember_eq_none_of_not_isObject hnot] at h
  cases h

theorem member?_eq_ok {document : Json} (h : IsObject document) (memberName : String) :
    document.member? memberName = .ok (document.findMember memberName) := by
  obtain ⟨members, rfl⟩ := h
  rfl

theorem member?_eq_asserted {document : Json} (h : ¬ IsObject document) (memberName : String) :
    document.member? memberName = .error .asserted := by
  cases document with
  | object members => exact absurd ⟨members, rfl⟩ h
  | _ => rfl

theorem getMember_eq_ok {α : Type} {read : Json → Option α} {expected : ℕ} {document : Json}
    {memberName : String} {a : α} :
    Json.getMember read expected document memberName = .ok a ↔
      ∃ value, document.findMember memberName = some value ∧ read value = some a := by
  unfold Json.getMember
  by_cases hobject : IsObject document
  · rw [member?_eq_ok hobject]
    simp only [bind, Except.bind]
    cases hvalue : document.findMember memberName with
    | none => exact iff_of_false (fun h => nomatch h) fun ⟨value, hnone, _⟩ => nomatch hnone
    | some value =>
      dsimp only
      cases hread : read value with
      | none =>
        refine iff_of_false (fun h => nomatch h) ?_
        rintro ⟨value', hsome, hread'⟩
        cases hsome
        rw [hread] at hread'
        cases hread'
      | some b =>
        constructor
        · intro h
          cases h
          exact ⟨value, rfl, hread⟩
        · rintro ⟨value', hsome, hread'⟩
          cases hsome
          rw [hread] at hread'
          cases hread'
          rfl
  · rw [member?_eq_asserted hobject, findMember_eq_none_of_not_isObject hobject]
    exact iff_of_false (fun h => nomatch h) fun ⟨value, hnone, _⟩ => nomatch hnone

theorem getMember_eq_asserted {α : Type} {read : Json → Option α} {expected : ℕ}
    {document : Json} {memberName : String} :
    Json.getMember read expected document memberName = .error .asserted ↔
      ¬ IsObject document := by
  unfold Json.getMember
  by_cases hobject : IsObject document
  · rw [member?_eq_ok hobject]
    simp only [bind, Except.bind]
    refine iff_of_false ?_ (not_not.mpr hobject)
    cases document.findMember memberName with
    | none => exact fun h => nomatch h
    | some value =>
      dsimp only
      cases read value with
      | none => exact fun h => nomatch h
      | some a => exact fun h => nomatch h
  · rw [member?_eq_asserted hobject]
    exact iff_of_true rfl hobject

theorem getArrayMember_eq_ok {document : Json} {memberName : String} {elements : List Json} :
    document.getArrayMember memberName = .ok elements ↔
      document.findMember memberName = some (.array elements) := by
  unfold Json.getArrayMember
  rw [getMember_eq_ok]
  constructor
  · rintro ⟨value, hvalue, hread⟩
    cases value with
    | array elements' =>
      cases hread
      exact hvalue
    | _ => cases hread
  · intro h
    exact ⟨_, h, rfl⟩

theorem getStringMember_eq_ok {document : Json} {memberName result : String} :
    getStringMember document memberName = .ok result ↔
      ∃ s, document.findMember memberName = some (.string s) ∧ result = cString s ∧
        cString s ≠ "" := by
  unfold getStringMember
  rw [except_bind_eq_ok]
  simp only [getMember_eq_ok]
  constructor
  · rintro ⟨s, ⟨value, hvalue, hread⟩, h⟩
    cases value with
    | string s' =>
      cases hread
      split at h
      · cases h
      · rename_i hnonempty
        cases h
        exact ⟨s, hvalue, rfl, hnonempty⟩
    | _ => cases hread
  · rintro ⟨s, hvalue, rfl, hnonempty⟩
    refine ⟨s, ⟨_, hvalue, rfl⟩, ?_⟩
    rw [if_neg hnonempty]
    rfl

theorem getStringMember_eq_asserted {document : Json} {memberName : String} :
    getStringMember document memberName = .error .asserted ↔ ¬ IsObject document := by
  unfold getStringMember
  rw [except_bind_eq_error, getMember_eq_asserted, or_iff_left]
  rintro ⟨s, -, h⟩
  dsimp only at h
  split at h
  · cases h
  · cases h

theorem stringToDataType_ne_asserted (dataType : String) :
    stringToDataType dataType ≠ .error .asserted := by
  unfold stringToDataType
  split <;> exact fun h => nomatch h

/-! ## Tensors -/

def dim? (shapeValue : Json) : Option ℤ := shapeValue.int? (-2 ^ 31) (2 ^ 31 - 1)

def readDim (shapeValue : Json) : Except ReadError ℤ := do
  let dim ← getInt shapeValue
  if dim < 1 then
    throw (.invalidArgument "Invalid tensor dimension: it has to be greater than 0")
  return dim

theorem readDim_eq_ok {shapeValue : Json} {dim : ℤ} :
    readDim shapeValue = .ok dim ↔ dim? shapeValue = some dim ∧ 1 ≤ dim := by
  unfold readDim getInt dim?
  cases hint : shapeValue.int? (-2 ^ 31) (2 ^ 31 - 1) with
  | none => exact iff_of_false (fun h => nomatch h) fun h => nomatch h.1
  | some n =>
    simp only [bind, Except.bind]
    by_cases hn : n < 1
    · rw [if_pos hn]
      refine iff_of_false (fun h => nomatch h) ?_
      rintro ⟨hdim, hpos⟩
      cases hdim
      omega
    · rw [if_neg hn]
      constructor
      · intro h
        cases h
        exact ⟨rfl, by omega⟩
      · rintro ⟨hdim, -⟩
        cases hdim
        rfl

/-- Only a value that is no `int` is asserted on. -/
theorem readDim_eq_asserted {shapeValue : Json} :
    readDim shapeValue = .error .asserted ↔ dim? shapeValue = none := by
  unfold readDim getInt dim?
  cases hint : shapeValue.int? (-2 ^ 31) (2 ^ 31 - 1) with
  | none => exact iff_of_true rfl rfl
  | some n =>
    refine iff_of_false ?_ (fun h => nomatch h)
    simp only [bind, Except.bind]
    by_cases hn : n < 1
    · rw [if_pos hn]
      intro h
      cases h
    · rw [if_neg hn]
      intro h
      cases h

theorem readShape_cons (shapeValue : Json) (rest : List Json) (product : UInt64)
    (shape : List Int64) :
    Parsing.readShape (shapeValue :: rest) product shape = readDim shapeValue >>= fun dim =>
      Parsing.readShape rest (product * UInt64.ofInt dim) (shape ++ [Int64.ofInt dim]) := by
  rw [Parsing.readShape]
  unfold readDim
  cases getInt shapeValue with
  | error e => rfl
  | ok dim =>
    simp only [bind, Except.bind]
    by_cases hdim : dim < 1
    · rw [if_pos hdim, if_pos hdim]
      rfl
    · rw [if_neg hdim, if_neg hdim]
      rfl

theorem readShape_eq (tensorShape : List Json) (product : UInt64) (shape : List Int64) :
    Parsing.readShape tensorShape product shape = (tensorShape.mapM readDim).map fun dims =>
      (shape ++ dims.map Int64.ofInt, (dims.map UInt64.ofInt).foldl (· * ·) product) := by
  induction tensorShape generalizing product shape with
  | nil =>
    rw [List.mapM_nil]
    simp [Parsing.readShape, Except.map, pure, Except.pure]
  | cons shapeValue rest ih =>
    rw [readShape_cons, List.mapM_cons]
    cases readDim shapeValue with
    | error e => rfl
    | ok dim =>
      simp only [bind, Except.bind, ih]
      cases rest.mapM readDim with
      | error e => rfl
      | ok dims => simp [Except.map, pure, Except.pure]

/-- What both parsers read before the content: the name, the type, the dimensions. -/
def readHeader (tensorValue : Json) : Except ReadError (String × DataTypeProto × List ℤ) := do
  let tensorName := ((← tensorValue.member? "tensor_name").bind Json.string?).map cString
  let dataType ← stringToDataType (← getStringMember tensorValue "data_type")
  let tensorShape ← tensorValue.getArrayMember "tensor_shape"
  let dims ← tensorShape.mapM readDim
  return (tensorName.getD "", dataType, dims)

def productOfDimensions (dims : List ℤ) : UInt64 := (dims.map UInt64.ofInt).foldl (· * ·) 1

/-- What both parsers do with a tensor: they differ in what they make of its content. -/
def readTensor {α τ : Type} (readContent : DataTypeProto → List Json → Except ReadError (α × ℕ))
    (build : String → DataTypeProto → List Int64 → α → τ) (tensorValue : Json) :
    Except ReadError τ := do
  let (tensorName, dataType, dims) ← readHeader tensorValue
  let tensorContent ← tensorValue.getArrayMember "tensor_content"
  let (content, numTensors) ← readContent dataType tensorContent
  if UInt64.ofNat numTensors ≠ productOfDimensions dims then
    throw (.invalidArgument ("Mismatch between the size of tensor_content (" ++
      toString numTensors ++ ") and a product of tensor dimensions (" ++
      toString (productOfDimensions dims) ++ ")"))
  return build tensorName dataType (dims.map Int64.ofInt) content

theorem readShape_bind {α : Type} (tensorShape : List Json)
    (f : List Int64 × UInt64 → Except ReadError α) :
    (Parsing.readShape tensorShape 1 [] >>= f) = tensorShape.mapM readDim >>= fun dims =>
      f (dims.map Int64.ofInt, productOfDimensions dims) := by
  rw [readShape_eq]
  cases tensorShape.mapM readDim with
  | error e => rfl
  | ok dims => rfl

theorem parseTensor_eq (tensorValue : Json) :
    RequestParser.parseTensor tensorValue = readTensor
      (fun _ tensorContent => do
        let content ← tensorContent.mapM RequestParser.readString
        return (content, content.length))
      (fun tensorName dataType shape content => ⟨tensorName, dataType, shape, content⟩)
      tensorValue := by
  unfold RequestParser.parseTensor readTensor readHeader
  simp only [bind_assoc, pure_bind, readShape_bind]

theorem parseTensorProto_eq (parsing : Parsing) (tensorValue : Json) :
    parsing.parseTensorProto tensorValue = readTensor
      (fun dataType tensorContent => do
        let content ← parsing.readContent dataType tensorContent none
        return (content, tensorContent.length))
      (fun tensorName dataType shape content => ⟨dataType, shape, tensorName, content⟩)
      tensorValue := by
  unfold Parsing.parseTensorProto readTensor readHeader
  simp only [bind_assoc, pure_bind, readShape_bind]

/-! ## What can be read -/

def IsDim (shapeValue : Json) : Prop := ∃ dim, dim? shapeValue = some dim ∧ 1 ≤ dim

def HasDataType (tensorValue : Json) (dataType : DataTypeProto) : Prop :=
  ∃ s, tensorValue.findMember "data_type" = some (.string s) ∧
    stringToDataType (cString s) = .ok dataType

/-- A tensor that can be read: its shape is reached if it has a type, and an entry of its
shape if those before it are accepted. -/
structure IsReadableTensor (tensorValue : Json) : Prop where
  isObject : IsObject tensorValue
  shape : ∀ dataType, HasDataType tensorValue dataType → ∀ tensorShape,
    tensorValue.findMember "tensor_shape" = some (.array tensorShape) →
      ∀ shapeValue, Foundation.Reached IsDim tensorShape shapeValue →
        (dim? shapeValue).isSome = true

theorem hasDataType_iff {tensorValue : Json} {dataType : DataTypeProto} :
    HasDataType tensorValue dataType ↔
      ∃ s, getStringMember tensorValue "data_type" = .ok s ∧ stringToDataType s = .ok dataType := by
  constructor
  · rintro ⟨s, hs, hdataType⟩
    refine ⟨_, getStringMember_eq_ok.mpr ⟨s, hs, rfl, ?_⟩, hdataType⟩
    intro hempty
    rw [hempty] at hdataType
    cases hdataType
  · rintro ⟨s, hs, hdataType⟩
    obtain ⟨s', hs', rfl, -⟩ := getStringMember_eq_ok.mp hs
    exact ⟨s', hs', hdataType⟩

theorem readDim_isOk_iff {shapeValue : Json} :
    (∃ dim, readDim shapeValue = .ok dim) ↔ IsDim shapeValue := by
  unfold IsDim
  simp only [readDim_eq_ok]

theorem mapM_readDim_eq_asserted {tensorShape : List Json} :
    tensorShape.mapM readDim = .error .asserted ↔
      ∃ shapeValue, Foundation.Reached IsDim tensorShape shapeValue ∧ dim? shapeValue = none := by
  rw [except_mapM_eq_error]
  simp only [readDim_eq_asserted, readDim_isOk_iff]

theorem readHeader_eq_ok {tensorValue : Json} {dataType : DataTypeProto} {dims : List ℤ} :
    (∃ tensorName, readHeader tensorValue = .ok (tensorName, dataType, dims)) ↔
      HasDataType tensorValue dataType ∧ ∃ tensorShape,
        tensorValue.findMember "tensor_shape" = some (.array tensorShape) ∧
        List.Forall₂ (fun shapeValue dim => dim? shapeValue = some dim ∧ 1 ≤ dim) tensorShape
          dims := by
  unfold readHeader
  constructor
  · rintro ⟨tensorName, h⟩
    obtain ⟨name, -, h⟩ := except_bind_eq_ok.mp h
    obtain ⟨s, hs, h⟩ := except_bind_eq_ok.mp h
    obtain ⟨dataType', hdataType, h⟩ := except_bind_eq_ok.mp h
    obtain ⟨tensorShape, hshape, h⟩ := except_bind_eq_ok.mp h
    obtain ⟨dims', hdims, h⟩ := except_bind_eq_ok.mp h
    cases h
    refine ⟨hasDataType_iff.mpr ⟨s, hs, hdataType⟩, tensorShape, getArrayMember_eq_ok.mp hshape, ?_⟩
    simpa only [readDim_eq_ok] using except_mapM_eq_ok.mp hdims
  · rintro ⟨hdataType, tensorShape, hshape, hdims⟩
    obtain ⟨s, hs, hdataType⟩ := hasDataType_iff.mp hdataType
    have hobject := isObject_of_findMember hshape
    have hdims' : tensorShape.mapM readDim = .ok dims := by
      rw [except_mapM_eq_ok]
      simpa only [readDim_eq_ok] using hdims
    rw [member?_eq_ok hobject, hs, getArrayMember_eq_ok.mpr hshape]
    simp only [bind, Except.bind, hdataType, hdims']
    exact ⟨_, rfl⟩

/-- Reading what comes before the content is asserted on if something reached there has a
type that is not expected. -/
theorem readHeader_eq_asserted {tensorValue : Json} :
    readHeader tensorValue = .error .asserted ↔ ¬ IsReadableTensor tensorValue := by
  by_cases hobject : IsObject tensorValue
  · constructor
    · intro h hreadable
      unfold readHeader at h
      rw [member?_eq_ok hobject] at h
      rcases except_bind_eq_error.mp h with h | ⟨name, -, h⟩
      · cases h
      rcases except_bind_eq_error.mp h with h | ⟨s, hs, h⟩
      · exact getStringMember_eq_asserted.mp h hobject
      rcases except_bind_eq_error.mp h with h | ⟨dataType, hdataType, h⟩
      · exact stringToDataType_ne_asserted s h
      rcases except_bind_eq_error.mp h with h | ⟨tensorShape, hshape, h⟩
      · exact getMember_eq_asserted.mp h hobject
      rcases except_bind_eq_error.mp h with h | ⟨dims, -, h⟩
      · obtain ⟨shapeValue, hreached, hnone⟩ := mapM_readDim_eq_asserted.mp h
        have hsome := hreadable.shape dataType (hasDataType_iff.mpr ⟨s, hs, hdataType⟩) tensorShape
          (getArrayMember_eq_ok.mp hshape) shapeValue hreached
        rw [hnone] at hsome
        cases hsome
      · cases h
    · intro hnot
      by_contra h
      refine hnot ⟨hobject, fun dataType hdataType tensorShape hshape shapeValue hreached => ?_⟩
      by_contra hnone
      obtain ⟨s, hs, hdataType⟩ := hasDataType_iff.mp hdataType
      have hasserted := mapM_readDim_eq_asserted.mpr
        ⟨shapeValue, hreached, Option.not_isSome_iff_eq_none.mp hnone⟩
      refine h ?_
      unfold readHeader
      rw [member?_eq_ok hobject, hs, getArrayMember_eq_ok.mpr hshape]
      simp only [bind, Except.bind, hdataType, hasserted]
  · have hasserted : readHeader tensorValue = .error .asserted := by
      unfold readHeader
      rw [member?_eq_asserted hobject]
      rfl
    exact iff_of_true hasserted fun h => hobject h.isObject

section Content

variable {α τ : Type} {readContent : DataTypeProto → List Json → Except ReadError (α × ℕ)}
  {build : String → DataTypeProto → List Int64 → α → τ} {tensorValue : Json}

theorem readTensor_eq_asserted
    (hcontent : ∀ dataType tensorContent, readContent dataType tensorContent ≠ .error .asserted) :
    readTensor readContent build tensorValue = .error .asserted ↔
      ¬ IsReadableTensor tensorValue := by
  rw [← readHeader_eq_asserted]
  unfold readTensor
  rw [except_bind_eq_error, or_iff_left]
  rintro ⟨⟨tensorName, dataType, dims⟩, hheader, h⟩
  obtain ⟨-, tensorShape, hshape, -⟩ := readHeader_eq_ok.mp ⟨tensorName, hheader⟩
  rcases except_bind_eq_error.mp h with h | ⟨tensorContent, -, h⟩
  · exact getMember_eq_asserted.mp h (isObject_of_findMember hshape)
  rcases except_bind_eq_error.mp h with h | ⟨content, -, h⟩
  · exact hcontent dataType tensorContent h
  · dsimp only at h
    split at h
    · cases h
    · cases h

/-- What a tensor that is accepted consists of. -/
structure Accepts (readContent : DataTypeProto → List Json → Except ReadError (α × ℕ))
    (tensorValue : Json) (dataType : DataTypeProto) (dims : List ℤ) (tensorContent : List Json)
    (content : α) (numTensors : ℕ) : Prop where
  hasDataType : HasDataType tensorValue dataType
  shape : ∃ tensorShape, tensorValue.findMember "tensor_shape" = some (.array tensorShape) ∧
    List.Forall₂ (fun shapeValue dim => dim? shapeValue = some dim ∧ 1 ≤ dim) tensorShape dims
  elements : tensorValue.findMember "tensor_content" = some (.array tensorContent)
  reads : readContent dataType tensorContent = .ok (content, numTensors)
  count : UInt64.ofNat numTensors = productOfDimensions dims

theorem readTensor_eq_ok {tensor : τ} (h : readTensor readContent build tensorValue = .ok tensor) :
    ∃ tensorName dataType dims tensorContent content numTensors,
      Accepts readContent tensorValue dataType dims tensorContent content numTensors ∧
      tensor = build tensorName dataType (dims.map Int64.ofInt) content := by
  obtain ⟨⟨tensorName, dataType, dims⟩, hheader, h⟩ := except_bind_eq_ok.mp h
  obtain ⟨hdataType, hshape⟩ := readHeader_eq_ok.mp ⟨tensorName, hheader⟩
  obtain ⟨tensorContent, htensorContent, h⟩ := except_bind_eq_ok.mp h
  obtain ⟨⟨content, numTensors⟩, hcontent, h⟩ := except_bind_eq_ok.mp h
  dsimp only at h
  split at h
  · cases h
  · rename_i hcount
    cases h
    exact ⟨tensorName, dataType, dims, tensorContent, content, numTensors,
      ⟨hdataType, hshape, getArrayMember_eq_ok.mp htensorContent, hcontent, not_not.mp hcount⟩, rfl⟩

theorem readTensor_of_accepts {dataType : DataTypeProto} {dims : List ℤ}
    {tensorContent : List Json} {content : α} {numTensors : ℕ}
    (h : Accepts readContent tensorValue dataType dims tensorContent content numTensors) :
    ∃ tensor, readTensor readContent build tensorValue = .ok tensor := by
  obtain ⟨tensorName, hheader⟩ := readHeader_eq_ok.mpr ⟨h.hasDataType, h.shape⟩
  refine ⟨build tensorName dataType (dims.map Int64.ofInt) content, ?_⟩
  unfold readTensor
  rw [hheader, getArrayMember_eq_ok.mpr h.elements]
  simp only [bind, Except.bind, h.reads]
  rw [if_neg (not_not.mpr h.count)]
  rfl

end Content

/-! ## What is accepted -/

theorem productOfDimensions_eq (dims : List ℤ) :
    productOfDimensions dims = UInt64.ofInt dims.prod := by
  have hfold (product : UInt64) : (dims.map UInt64.ofInt).foldl (· * ·) product =
      product * UInt64.ofInt dims.prod := by
    induction dims generalizing product with
    | nil => simp
    | cons dim dims ih =>
      rw [List.map_cons, List.foldl_cons, ih, List.prod_cons, UInt64.ofInt_mul, UInt64.mul_assoc]
  unfold productOfDimensions
  rw [hfold, UInt64.one_mul]

theorem count_eq_iff {numTensors : ℕ} {dims : List ℤ} :
    UInt64.ofNat numTensors = productOfDimensions dims ↔
      (numTensors : ℤ) ≡ dims.prod [ZMOD 2 ^ 64] := by
  rw [productOfDimensions_eq, UInt64.ofInt, ← UInt64.toNat_inj, UInt64.toNat_ofNat',
    UInt64.toNat_ofNat']
  unfold Int.ModEq
  omega

theorem one_le_prod {dims : List ℤ} (h : ∀ dim ∈ dims, 1 ≤ dim) : 1 ≤ dims.prod := by
  induction dims with
  | nil => simp
  | cons dim dims ih =>
    rw [List.prod_cons]
    have hdim := h dim List.mem_cons_self
    have hrest := ih fun dim' hdim' => h dim' (List.mem_cons_of_mem _ hdim')
    have hpos : 0 < dim * dims.prod := Int.mul_pos (by omega) (by omega)
    omega

/-- A tensor that is accepted: its content is of strings that its type converts, as many as
the product of its dimensions modulo 2⁶⁴. -/
structure IsTensor (converts : DataTypeProto → String → Prop) (tensorValue : Json) : Prop where
  parts : ∃ dataType tensorShape dims tensorContent, HasDataType tensorValue dataType ∧
    tensorValue.findMember "tensor_shape" = some (.array tensorShape) ∧
    List.Forall₂ (fun shapeValue dim => dim? shapeValue = some dim ∧ 1 ≤ dim) tensorShape dims ∧
    tensorValue.findMember "tensor_content" = some (.array tensorContent) ∧
    (∀ contentValue ∈ tensorContent, ∃ s, contentValue = .string s ∧
      converts dataType (cString s)) ∧
    (tensorContent.length : ℤ) ≡ dims.prod [ZMOD 2 ^ 64]

theorem readTensor_isOk_iff {α τ : Type}
    {readContent : DataTypeProto → List Json → Except ReadError (α × ℕ)}
    {build : String → DataTypeProto → List Int64 → α → τ}
    {converts : DataTypeProto → String → Prop} {tensorValue : Json}
    (hcontent : ∀ dataType tensorContent, (∃ content, readContent dataType tensorContent =
      .ok (content, tensorContent.length)) ↔ ∀ contentValue ∈ tensorContent,
        ∃ s, contentValue = .string s ∧ converts dataType (cString s))
    (hcount : ∀ dataType tensorContent content numTensors, readContent dataType tensorContent =
      .ok (content, numTensors) → numTensors = tensorContent.length) :
    (∃ tensor, readTensor readContent build tensorValue = .ok tensor) ↔
      IsTensor converts tensorValue := by
  constructor
  · rintro ⟨tensor, h⟩
    obtain ⟨tensorName, dataType, dims, tensorContent, content, numTensors, haccepts, -⟩ :=
      readTensor_eq_ok h
    obtain ⟨tensorShape, hshape, hdims⟩ := haccepts.shape
    obtain rfl := hcount _ _ _ _ haccepts.reads
    exact ⟨dataType, tensorShape, dims, tensorContent, haccepts.hasDataType, hshape, hdims,
      haccepts.elements, (hcontent _ _).mp ⟨content, haccepts.reads⟩,
      count_eq_iff.mp haccepts.count⟩
  · intro h
    obtain ⟨dataType, tensorShape, dims, tensorContent, hdataType, hshape, hdims, helements,
      hconverts, hcount⟩ := h.parts
    obtain ⟨content, hreads⟩ := (hcontent _ _).mpr hconverts
    exact readTensor_of_accepts ⟨hdataType, ⟨tensorShape, hshape, hdims⟩, helements, hreads,
      count_eq_iff.mpr hcount⟩

/-! ## Either parser -/

theorem readString_eq_ok {contentValue : Json} {value : String} :
    RequestParser.readString contentValue = .ok value ↔
      ∃ s, contentValue = .string s ∧ value = cString s := by
  unfold RequestParser.readString
  split
  · constructor
    · intro h
      cases h
      exact ⟨_, rfl, rfl⟩
    · rintro ⟨s, hs, rfl⟩
      cases hs
      rfl
  · rename_i hnot
    refine iff_of_false (fun h => nomatch h) ?_
    rintro ⟨s, rfl, -⟩
    exact hnot s rfl

theorem readString_ne_asserted (contentValue : Json) :
    RequestParser.readString contentValue ≠ .error .asserted := by
  unfold RequestParser.readString
  split <;> exact fun h => nomatch h

/-- The tensors that `ParseTensor` accepts: their content is not converted. -/
theorem parseTensor_isOk_iff {tensorValue : Json} :
    (∃ tensor, RequestParser.parseTensor tensorValue = .ok tensor) ↔
      IsTensor (fun _ _ => True) tensorValue := by
  simp only [parseTensor_eq]
  apply readTensor_isOk_iff
  · intro dataType tensorContent
    constructor
    · rintro ⟨content, h⟩ contentValue hmem
      obtain ⟨values, hvalues, -⟩ := except_bind_eq_ok.mp h
      obtain ⟨value, hvalue⟩ := except_mapM_isOk_iff.mp ⟨values, hvalues⟩ contentValue hmem
      obtain ⟨s, hs, -⟩ := readString_eq_ok.mp hvalue
      exact ⟨s, hs, trivial⟩
    · intro h
      obtain ⟨values, hvalues⟩ := except_mapM_isOk_iff.mpr fun contentValue hmem => by
        obtain ⟨s, hs, -⟩ := h contentValue hmem
        exact ⟨_, readString_eq_ok.mpr ⟨s, hs, rfl⟩⟩
      refine ⟨values, except_bind_eq_ok.mpr ⟨values, hvalues, ?_⟩⟩
      rw [(except_mapM_eq_ok.mp hvalues).length_eq]
      rfl
  · intro dataType tensorContent content numTensors h
    obtain ⟨values, hvalues, h⟩ := except_bind_eq_ok.mp h
    cases h
    exact (except_mapM_eq_ok.mp hvalues).length_eq.symm

theorem parseTensor_eq_asserted {tensorValue : Json} :
    RequestParser.parseTensor tensorValue = .error .asserted ↔ ¬ IsReadableTensor tensorValue := by
  rw [parseTensor_eq]
  refine readTensor_eq_asserted fun dataType tensorContent h => ?_
  rcases except_bind_eq_error.mp h with h | ⟨values, -, h⟩
  · obtain ⟨contentValue, -, hasserted⟩ := except_mapM_eq_error.mp h
    exact readString_ne_asserted contentValue hasserted
  · cases h

def Parsing.Converts (parsing : Parsing) (dataType : DataTypeProto) (value : String) : Prop :=
  ∃ content, parsing.addTensorContent dataType value {} = .ok content

theorem addTensorContent_isOk_iff {parsing : Parsing} {dataType : DataTypeProto} {value : String}
    (content : TensorContent) :
    (∃ content', parsing.addTensorContent dataType value content = .ok content') ↔
      parsing.Converts dataType value := by
  unfold Parsing.Converts Parsing.addTensorContent
  cases dataType with
  | float => cases parsing.simpleAtof value <;> simp
  | double => cases parsing.simpleAtod value <;> simp
  | int32 => cases parsing.simpleAtoi32 value <;> simp
  | int64 => cases parsing.simpleAtoi64 value <;> simp
  | int16 =>
    cases parsing.simpleAtoi32 value with
    | none => simp
    | some n =>
      dsimp only
      by_cases hbounds : n.toInt < -2 ^ 15 ∨ 2 ^ 15 - 1 < n.toInt
      · simp only [if_pos hbounds, reduceCtorEq]
      · simp only [if_neg hbounds, Except.ok.injEq, exists_eq']
  | int8 =>
    cases parsing.simpleAtoi32 value with
    | none => simp
    | some n =>
      dsimp only
      by_cases hbounds : n.toInt < -2 ^ 7 ∨ 2 ^ 7 - 1 < n.toInt
      · simp only [if_pos hbounds, reduceCtorEq]
      · simp only [if_neg hbounds, Except.ok.injEq, exists_eq']

theorem readContent_cons {parsing : Parsing} {dataType : DataTypeProto} {contentValue : Json}
    {rest : List Json} {content result : Option TensorContent} :
    parsing.readContent dataType (contentValue :: rest) content = .ok result ↔
      ∃ s content', contentValue = .string s ∧
        parsing.addTensorContent dataType (cString s) (content.getD {}) = .ok content' ∧
        parsing.readContent dataType rest (some content') = .ok result := by
  cases contentValue with
  | string s =>
    rw [Parsing.readContent]
    cases hadd : parsing.addTensorContent dataType (cString s) (content.getD {}) with
    | error message =>
      refine iff_of_false (fun h => nomatch h) ?_
      rintro ⟨s', content', hs, hadd', -⟩
      cases hs
      rw [hadd] at hadd'
      cases hadd'
    | ok content' =>
      constructor
      · intro h
        exact ⟨s, content', rfl, hadd, h⟩
      · rintro ⟨s', content'', hs, hadd', h⟩
        cases hs
        rw [hadd] at hadd'
        cases hadd'
        exact h
  | _ =>
    refine iff_of_false (fun h => nomatch h) ?_
    rintro ⟨s, content', hs, -⟩
    cases hs

theorem readContent_isOk_iff {parsing : Parsing} {dataType : DataTypeProto}
    {tensorContent : List Json} (content : Option TensorContent) :
    (∃ result, parsing.readContent dataType tensorContent content = .ok result) ↔
      ∀ contentValue ∈ tensorContent, ∃ s, contentValue = .string s ∧
        parsing.Converts dataType (cString s) := by
  induction tensorContent generalizing content with
  | nil => exact iff_of_true ⟨content, rfl⟩ fun contentValue hmem => nomatch hmem
  | cons contentValue rest ih =>
    rw [List.forall_mem_cons]
    simp only [readContent_cons]
    constructor
    · rintro ⟨result, s, content', hs, hadd, h⟩
      exact ⟨⟨s, hs, (addTensorContent_isOk_iff _).mp ⟨content', hadd⟩⟩, (ih _).mp ⟨result, h⟩⟩
    · rintro ⟨⟨s, hs, hconverts⟩, hrest⟩
      obtain ⟨content', hadd⟩ := (addTensorContent_isOk_iff (content.getD {})).mpr hconverts
      obtain ⟨result, h⟩ := (ih (some content')).mpr hrest
      exact ⟨result, s, content', hs, hadd, h⟩

theorem readContent_ne_asserted (parsing : Parsing) (dataType : DataTypeProto)
    (tensorContent : List Json) (content : Option TensorContent) :
    parsing.readContent dataType tensorContent content ≠ .error .asserted := by
  induction tensorContent generalizing content with
  | nil => exact fun h => nomatch h
  | cons contentValue rest ih =>
    cases contentValue with
    | string s =>
      rw [Parsing.readContent]
      cases parsing.addTensorContent dataType (cString s) (content.getD {}) with
      | error message => exact fun h => nomatch h
      | ok content' => exact ih _
    | _ => exact fun h => nomatch h

/-- The tensors that `ParseTensorProto` accepts. -/
theorem parseTensorProto_isOk_iff {parsing : Parsing} {tensorValue : Json} :
    (∃ tensor, parsing.parseTensorProto tensorValue = .ok tensor) ↔
      IsTensor parsing.Converts tensorValue := by
  simp only [parseTensorProto_eq]
  apply readTensor_isOk_iff
  · intro dataType tensorContent
    rw [← readContent_isOk_iff none]
    constructor
    · rintro ⟨content, h⟩
      obtain ⟨result, hresult, -⟩ := except_bind_eq_ok.mp h
      exact ⟨result, hresult⟩
    · rintro ⟨result, hresult⟩
      exact ⟨result, except_bind_eq_ok.mpr ⟨result, hresult, rfl⟩⟩
  · intro dataType tensorContent content numTensors h
    obtain ⟨result, -, h⟩ := except_bind_eq_ok.mp h
    cases h
    rfl

theorem parseTensorProto_eq_asserted {parsing : Parsing} {tensorValue : Json} :
    parsing.parseTensorProto tensorValue = .error .asserted ↔
      ¬ IsReadableTensor tensorValue := by
  rw [parseTensorProto_eq]
  refine readTensor_eq_asserted fun dataType tensorContent h => ?_
  rcases except_bind_eq_error.mp h with h | ⟨result, -, h⟩
  · exact readContent_ne_asserted parsing dataType tensorContent none h
  · cases h

end InferencePayload

end BiddingAuction
