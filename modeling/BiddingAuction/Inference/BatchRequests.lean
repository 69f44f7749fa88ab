import BiddingAuction.Foundation.Slots
import BiddingAuction.PrivateAggregation.ScriptContribution
import BiddingAuction.Proto.Size

/-!
# Batches of inference requests

A script asks for inferences with a batch of requests as JSON. What can be parsed goes to
the sidecar, the parsing errors are kept with their positions, and the response of the
sidecar is merged with them.

A payload is a field of a message, and shorter than 2³¹ bytes: positions do not overflow.
-/

namespace BiddingAuction

open Foundation

namespace InferencePayload

/-! ## Messages -/

inductive DataTypeProto where
  | float
  | double
  | int8
  | int16
  | int32
  | int64
deriving DecidableEq, Repr

def DataTypeProto.number : DataTypeProto → ℕ
  | float => 0
  | double => 1
  | int8 => 2
  | int16 => 3
  | int32 => 4
  | int64 => 5

structure TensorContent where
  tensorContentFloat : List Float32 := []
  tensorContentDouble : List Float := []
  tensorContentInt32 : List Int32 := []
  tensorContentInt64 : List Int64 := []

structure TensorProto where
  dataType : DataTypeProto := .float
  tensorShape : List Int64 := []
  tensorName : String := ""
  tensorContent : Option TensorContent := none

inductive ErrorType where
  | unknown
  | inputParsing
  | modelNotFound
  | modelExecution
  | outputParsing
  | grpc
deriving DecidableEq, Repr

def ErrorType.number : ErrorType → ℕ
  | unknown => 0
  | inputParsing => 1
  | modelNotFound => 2
  | modelExecution => 3
  | outputParsing => 4
  | grpc => 5

structure ErrorProto where
  errorType : ErrorType := .unknown
  description : String := ""
  modelPath : String := ""
deriving DecidableEq, Repr

structure InferenceRequestProto where
  modelPath : String := ""
  tensors : List TensorProto := []

structure InferenceResponseProto where
  modelPath : String := ""
  tensors : List TensorProto := []
  error : Option ErrorProto := none

structure OrderedInferenceErrorResponse where
  index : ℤ
  response : InferenceResponseProto

/-! ## Their sizes -/

def TensorContent.byteSizeLong (content : TensorContent) : ℕ :=
  packedSize (4 * content.tensorContentFloat.length) +
    packedSize (8 * content.tensorContentDouble.length) +
    packedSize (content.tensorContentInt32.map fun n => varintSize n.toInt64.toUInt64.toNat).sum +
    packedSize (content.tensorContentInt64.map fun n => varintSize n.toUInt64.toNat).sum

def TensorProto.byteSizeLong (tensor : TensorProto) : ℕ :=
  enumSize tensor.dataType.number +
    packedSize (tensor.tensorShape.map fun n => varintSize n.toUInt64.toNat).sum +
    packedSize tensor.tensorName.utf8ByteSize +
    (tensor.tensorContent.map fun content => delimitedSize content.byteSizeLong).getD 0

def ErrorProto.byteSizeLong (error : ErrorProto) : ℕ :=
  enumSize error.errorType.number + packedSize error.description.utf8ByteSize +
    packedSize error.modelPath.utf8ByteSize

def InferenceResponseProto.byteSizeLong (response : InferenceResponseProto) : ℕ :=
  packedSize response.modelPath.utf8ByteSize +
    (response.tensors.map fun tensor => delimitedSize tensor.byteSizeLong).sum +
    (response.error.map fun error => delimitedSize error.byteSizeLong).getD 0

/-! ## Parsing -/

/-- What parsing takes from its libraries. -/
structure Parsing where
  /-- `ParseJsonString`, with the text of an error. -/
  parseJsonString : String → Except String Json
  simpleAtof : String → Option Float32
  simpleAtod : String → Option Float
  simpleAtoi32 : String → Option Int32
  simpleAtoi64 : String → Option Int64

def getStringMember (document : Json) (memberName : String) : Except ReadError String := do
  let result := cString (← Json.getMember Json.string? 5 document memberName)
  if result = "" then
    throw (.invalidArgument ("Value of member: " ++ memberName ++
      ", is unexpectedly an empty string."))
  else return result

def getInt (value : Json) : Except ReadError ℤ :=
  match value.int? (-2 ^ 31) (2 ^ 31 - 1) with
  | some n => .ok n
  | none => .error .asserted

def stringToDataType : String → Except ReadError DataTypeProto
  | "FLOAT" => .ok .float
  | "DOUBLE" => .ok .double
  | "INT8" => .ok .int8
  | "INT16" => .ok .int16
  | "INT32" => .ok .int32
  | "INT64" => .ok .int64
  | dataType => .error (.invalidArgument
      ("Invalid JSON format: Unsupported 'data_type' field " ++ dataType))

namespace Parsing

variable (parsing : Parsing)

/-- `AddTensorContent`, to what is added. -/
def addTensorContent (dataType : DataTypeProto) (value : String) (content : TensorContent) :
    Except String TensorContent :=
  match dataType with
  | .float =>
    match parsing.simpleAtof value with
    | some x => .ok { content with tensorContentFloat := content.tensorContentFloat ++ [x] }
    | none => .error "Error in float conversion"
  | .double =>
    match parsing.simpleAtod value with
    | some x => .ok { content with tensorContentDouble := content.tensorContentDouble ++ [x] }
    | none => .error "Error in double conversion"
  | .int32 =>
    match parsing.simpleAtoi32 value with
    | some n => .ok { content with tensorContentInt32 := content.tensorContentInt32 ++ [n] }
    | none => .error "Error in int32 conversion"
  | .int16 =>
    match parsing.simpleAtoi32 value with
    | some n =>
      if n.toInt < -2 ^ 15 ∨ 2 ^ 15 - 1 < n.toInt then
        .error "The number is outside of bounds of int16_t."
      else .ok { content with tensorContentInt32 := content.tensorContentInt32 ++ [n] }
    | none => .error "Error in int16 conversion"
  | .int8 =>
    match parsing.simpleAtoi32 value with
    | some n =>
      if n.toInt < -2 ^ 7 ∨ 2 ^ 7 - 1 < n.toInt then
        .error "The number is outside of bounds of int8_t."
      else .ok { content with tensorContentInt32 := content.tensorContentInt32 ++ [n] }
    | none => .error "Error in int8 conversion"
  | .int64 =>
    match parsing.simpleAtoi64 value with
    | some n => .ok { content with tensorContentInt64 := content.tensorContentInt64 ++ [n] }
    | none => .error "Error in int64 conversion"

def readShape : List Json → UInt64 → List Int64 → Except ReadError (List Int64 × UInt64)
  | [], product, shape => .ok (shape, product)
  | shapeValue :: rest, product, shape => do
    let dim ← getInt shapeValue
    if dim < 1 then
      throw (.invalidArgument "Invalid tensor dimension: it has to be greater than 0")
    readShape rest (product * UInt64.ofInt dim) (shape ++ [Int64.ofInt dim])

/-- The numbers of a tensor; its content is there from the first one on. -/
def readContent (dataType : DataTypeProto) :
    List Json → Option TensorContent → Except ReadError (Option TensorContent)
  | [], content => .ok content
  | .string value :: rest, content =>
    match parsing.addTensorContent dataType (cString value) (content.getD {}) with
    | .error message => .error (.invalidArgument message)
    | .ok content => readContent dataType rest (some content)
  | _ :: _, _ => .error (.invalidArgument
      "All numbers within the tensor_content must be enclosed in quotes")

def parseTensorProto (tensorValue : Json) : Except ReadError TensorProto := do
  let tensorName := ((← tensorValue.member? "tensor_name").bind Json.string?).map cString
  let dataType ← stringToDataType (← getStringMember tensorValue "data_type")
  let tensorShape ← tensorValue.getArrayMember "tensor_shape"
  let (shape, productOfDimensions) ← readShape tensorShape 1 []
  let tensorContent ← tensorValue.getArrayMember "tensor_content"
  let content ← parsing.readContent dataType tensorContent none
  if UInt64.ofNat tensorContent.length ≠ productOfDimensions then
    throw (.invalidArgument ("Mismatch between the size of tensor_content (" ++
      toString tensorContent.length ++ ") and a product of tensor dimensions (" ++
      toString productOfDimensions ++ ")"))
  return ⟨dataType, shape, tensorName.getD "", content⟩

/-- `ParseInternal`. The path of the model is in the error from where it is read on. -/
def parseInternal (inferenceRequest : Json) (error : ErrorProto) :
    ErrorProto × Except ReadError InferenceRequestProto :=
  match getStringMember inferenceRequest "model_path" with
  | .error e => (error, .error e)
  | .ok modelPath =>
    ({ error with modelPath := modelPath }, do
      let tensors ← inferenceRequest.getArrayMember "tensors"
      return ⟨modelPath, ← tensors.mapM parsing.parseTensorProto⟩)

def parsingError (error : ErrorProto) (message : String) : InferenceResponseProto where
  modelPath := error.modelPath
  error := some { error with description := message, errorType := .inputParsing }

/-- The loop of `ConvertJsonToProto`, from request `i` on. -/
def convertRequests : List Json → ℕ → List InferenceRequestProto →
    List OrderedInferenceErrorResponse →
    Except ReadError (List InferenceRequestProto × List OrderedInferenceErrorResponse)
  | [], _, parsedBatchInput, parsingErrors => .ok (parsedBatchInput, parsingErrors)
  | inferenceRequest :: rest, i, parsedBatchInput, parsingErrors =>
    match parsing.parseInternal inferenceRequest {} with
    | (_, .ok request) => convertRequests rest (i + 1) (parsedBatchInput ++ [request]) parsingErrors
    | (error, .error (.invalidArgument message)) =>
      convertRequests rest (i + 1) parsedBatchInput
        (parsingErrors ++ [⟨i, parsingError error message⟩])
    | (_, .error .asserted) => .error .asserted

def batchInferenceRequest (jsonString : String) : Except ReadError (List Json) := do
  match parsing.parseJsonString jsonString with
  | .error message => throw (.invalidArgument ("JSON Parse Error: " ++ message))
  | .ok document => document.getArrayMember "request"

def convertJsonToProto (jsonString : String) :
    Except ReadError (List InferenceRequestProto × List OrderedInferenceErrorResponse) := do
  let batch ← parsing.batchInferenceRequest jsonString
  let (parsedBatchInput, parsingErrors) ← parsing.convertRequests batch 0 [] []
  if parsedBatchInput = [] then throw (.invalidArgument "All requests are invalid")
  return (parsedBatchInput, parsingErrors)

end Parsing

/-! ## Merging -/

/-- The first loop of `MergeBatchResponse`. -/
def placeErrors : List OrderedInferenceErrorResponse → List InferenceResponseProto →
    Except String (List InferenceResponseProto)
  | [], allResponses => .ok allResponses
  | indexedResponse :: rest, allResponses =>
    if 0 ≤ indexedResponse.index ∧ indexedResponse.index < allResponses.length then
      placeErrors rest (allResponses.set indexedResponse.index.toNat indexedResponse.response)
    else .error "OrderedInferenceErrorResponse with out-of-bounds index"

def isUnfilled (response : InferenceResponseProto) : Bool := response.byteSizeLong == 0

def mergeBatchResponse (response : List InferenceResponseProto)
    (parsingErrors : List OrderedInferenceErrorResponse) :
    Except String (List InferenceResponseProto) := do
  if parsingErrors = [] then return response
  let allResponses ← placeErrors parsingErrors
    (List.replicate (parsingErrors.length + response.length) {})
  return Slots.fill isUnfilled allResponses response

/-! ## Slots that are unfilled -/

theorem isUnfilled_of_error {response : InferenceResponseProto} {error : ErrorProto}
    (h : response.error = some error) : isUnfilled response = false := by
  have hsize : 0 < response.byteSizeLong := by
    unfold InferenceResponseProto.byteSizeLong
    rw [h, Option.map_some, Option.getD_some]
    have := delimitedSize_pos error.byteSizeLong
    omega
  exact beq_false_of_ne (Nat.ne_of_gt hsize)

theorem isUnfilled_default : isUnfilled {} = true := rfl

/-! ## The two passes -/

def ordered (entry : ℕ × InferenceResponseProto) : OrderedInferenceErrorResponse where
  index := entry.1
  response := entry.2

namespace Parsing

variable {parsing : Parsing}

/-- What becomes of a request: it is parsed, or answered by its parsing error. -/
def outcome (parsing : Parsing) (inferenceRequest : Json) :
    Except ReadError (Except InferenceResponseProto InferenceRequestProto) :=
  match parsing.parseInternal inferenceRequest {} with
  | (_, .ok request) => .ok (.ok request)
  | (error, .error (.invalidArgument message)) => .ok (.error (parsingError error message))
  | (_, .error .asserted) => .error .asserted

theorem outcome_of_ok {inferenceRequest : Json} {request : InferenceRequestProto}
    (h : (parsing.parseInternal inferenceRequest {}).2 = .ok request) :
    parsing.outcome inferenceRequest = .ok (.ok request) := by
  unfold outcome
  generalize parsing.parseInternal inferenceRequest {} = parsed at h ⊢
  obtain ⟨error, result⟩ := parsed
  cases h
  rfl

theorem outcome_of_invalidArgument {inferenceRequest : Json} {message : String}
    (h : (parsing.parseInternal inferenceRequest {}).2 = .error (.invalidArgument message)) :
    parsing.outcome inferenceRequest =
      .ok (.error (parsingError (parsing.parseInternal inferenceRequest {}).1 message)) := by
  unfold outcome
  generalize parsing.parseInternal inferenceRequest {} = parsed at h ⊢
  obtain ⟨error, result⟩ := parsed
  cases h
  rfl

theorem asserted_of_outcome {inferenceRequest : Json} {e : ReadError}
    (h : parsing.outcome inferenceRequest = .error e) :
    (parsing.parseInternal inferenceRequest {}).2 = .error .asserted := by
  unfold outcome at h
  split at h
  · cases h
  · cases h
  · rename_i heq
    rw [heq]

theorem isUnfilled_outcome {inferenceRequest : Json} {response : InferenceResponseProto}
    (h : parsing.outcome inferenceRequest = .ok (.error response)) :
    isUnfilled response = false := by
  unfold outcome at h
  split at h
  · cases h
  · cases h
    exact isUnfilled_of_error rfl
  · cases h

/-- The outcomes of a batch, request by request. -/
abbrev Outcomes (parsing : Parsing) (batch : List Json)
    (outcomes : List (Except InferenceResponseProto InferenceRequestProto)) : Prop :=
  List.Forall₂ (fun inferenceRequest result => parsing.outcome inferenceRequest = .ok result)
    batch outcomes

theorem exists_outcomes (parsing : Parsing) (batch : List Json) :
    (∃ r ∈ batch, (parsing.parseInternal r {}).2 = .error .asserted) ∨
      ∃ outcomes, parsing.Outcomes batch outcomes := by
  induction batch with
  | nil => exact .inr ⟨[], .nil⟩
  | cons r rest ih =>
    cases hr : parsing.outcome r with
    | error e => exact .inl ⟨r, List.mem_cons_self, asserted_of_outcome hr⟩
    | ok result =>
      rcases ih with ⟨r', hr', hasserted⟩ | ⟨outcomes, hrest⟩
      · exact .inl ⟨r', List.mem_cons_of_mem _ hr', hasserted⟩
      · exact .inr ⟨result :: outcomes, .cons hr hrest⟩

/-- The loop splits the batch into the requests that are parsed and the errors with their
positions. -/
theorem convertRequests_eq {batch : List Json}
    {outcomes : List (Except InferenceResponseProto InferenceRequestProto)}
    (h : parsing.Outcomes batch outcomes) (i : ℕ)
    (parsedBatchInput : List InferenceRequestProto)
    (parsingErrors : List OrderedInferenceErrorResponse) :
    parsing.convertRequests batch i parsedBatchInput parsingErrors =
      .ok (parsedBatchInput ++ Slots.successes outcomes,
        parsingErrors ++ (Slots.failures i outcomes).map ordered) := by
  induction h generalizing i parsedBatchInput parsingErrors with
  | nil => simp [convertRequests, Slots.failures]
  | cons hr _ ih =>
    unfold convertRequests
    unfold outcome at hr
    split at hr
    · cases hr
      simp only [ih, Slots.successes_ok, Slots.failures, List.append_assoc,
        List.singleton_append]
    · cases hr
      simp only [ih, Slots.successes_error, Slots.failures, List.append_assoc,
        List.singleton_append, List.map_cons, ordered]
    · cases hr

theorem placeErrors_ordered {entries : List (ℕ × InferenceResponseProto)}
    {slots : List InferenceResponseProto} (h : ∀ entry ∈ entries, entry.1 < slots.length) :
    placeErrors (entries.map ordered) slots = .ok (Slots.place slots entries) := by
  induction entries generalizing slots with
  | nil => rfl
  | cons entry rest ih =>
    have hentry := h entry List.mem_cons_self
    have hrest := @ih (slots.set entry.1 entry.2) fun entry' hentry' => by
      rw [List.length_set]
      exact h entry' (List.mem_cons_of_mem _ hentry')
    show (if (0 : ℤ) ≤ entry.1 ∧ (entry.1 : ℤ) < slots.length then _ else _) = _
    rw [if_pos ⟨by omega, by omega⟩]
    exact hrest

theorem mergeBatchResponse_eq {batch : List Json}
    {outcomes : List (Except InferenceResponseProto InferenceRequestProto)}
    (h : parsing.Outcomes batch outcomes) {response : List InferenceResponseProto}
    (hlength : response.length = (Slots.successes outcomes).length) :
    mergeBatchResponse response ((Slots.failures 0 outcomes).map ordered) =
      .ok (Slots.lineUp outcomes response) := by
  have hsizes := Slots.length_failures_add_successes 0 outcomes
  have hbounds : ∀ entry ∈ Slots.failures 0 outcomes,
      entry.1 < (List.replicate outcomes.length ({} : InferenceResponseProto)).length := by
    intro entry hentry
    have := Slots.lt_of_mem_failures hentry
    rw [List.length_replicate]
    omega
  have hfailures : ∀ b, .error b ∈ outcomes → isUnfilled b = false := by
    intro b hb
    obtain ⟨i, hi⟩ := List.mem_iff_getElem?.mp hb
    obtain ⟨r, -, hr⟩ := exists_getElem?_of_forall₂ h.flip hi
    exact isUnfilled_outcome hr
  unfold mergeBatchResponse
  by_cases hnone : Slots.failures 0 outcomes = []
  · rw [hnone, List.map_nil, if_pos rfl, Slots.lineUp_of_failures_eq_nil hnone hlength]
    rfl
  · have hnone' : (Slots.failures 0 outcomes).map ordered ≠ [] := by simpa using hnone
    rw [if_neg hnone', List.length_map, hlength, hsizes]
    show (placeErrors _ _ >>= _) = _
    rw [placeErrors_ordered hbounds, Slots.place_failures]
    show Except.ok (Slots.fill isUnfilled _ response) = _
    rw [Slots.fill_slotOf isUnfilled_default hfailures hlength]

def parses (parsing : Parsing) (inferenceRequest : Json) : Bool :=
  (parsing.parseInternal inferenceRequest {}).2.isOk

theorem length_successes {batch : List Json}
    {outcomes : List (Except InferenceResponseProto InferenceRequestProto)}
    (h : parsing.Outcomes batch outcomes) :
    (Slots.successes outcomes).length = batch.countP parsing.parses := by
  induction h with
  | nil => rfl
  | cons hr _ ih =>
    unfold outcome at hr
    split at hr
    · rename_i heq
      cases hr
      rw [Slots.successes_ok, List.length_cons, ih, List.countP_cons_of_pos]
      simp [parses, heq, Except.isOk, Except.toBool]
    · rename_i heq
      cases hr
      rw [Slots.successes_error, ih, List.countP_cons_of_neg]
      simp [parses, heq, Except.isOk, Except.toBool]
    · cases hr

end Parsing

section Example

/-- A batch of two requests that can be parsed, and one between them that cannot. -/
def exampleBatch : List Json :=
  [.object [("model_path", .string "a"), ("tensors", .array [])],
    .object [("model_path", .string "b")],
    .object [("model_path", .string "c"), ("tensors", .array [])]]

def exampleParsing : Parsing where
  parseJsonString _ := .ok (.object [("request", .array exampleBatch)])
  simpleAtof _ := none
  simpleAtod _ := none
  simpleAtoi32 _ := none
  simpleAtoi64 _ := none

end Example

end InferencePayload

end BiddingAuction
