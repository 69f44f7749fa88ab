import BiddingAuction.Inference.RequestParser
import BiddingAuction.Inference.TensorFlow

/-!
# Predictions for batches

A batch of requests is run request by request: each is launched if its model is registered,
and the results are gathered in the order of the batch. The batch size that is counted for a
model is read from the first dimension of the first tensor. A batch that came as JSON is
answered by one document, so that one output that cannot be written takes the place of all.
-/

namespace BiddingAuction

namespace InferencePayload

/-- What ends a prediction without a response: an element that is not there, an exception. -/
inductive Crash where
  | missingElement
  | exception
deriving DecidableEq, Repr

/-! ## Running a model -/

/-- The inputs of a model, each converted or the error of the first that is not. -/
def convertInputs {τ T : Type} (check : τ → Except Inference.Status Unit)
    (convert : τ → Except String T) (conversionError : String → String) (tensors : List τ) :
    Except Inference.Status (List T) :=
  tensors.mapM fun tensor => do
    check tensor
    match convert tensor with
    | .error message => .error ⟨.invalidArgument, conversionError message⟩
    | .ok converted => .ok converted

/-- What TensorFlow makes of tensors, and how it runs a model. -/
structure TensorFlowRuntime (Model T Out : Type) where
  convertFlatArrayToTensor : Tensor → Except String T
  convertProtoToTensor : TensorProto → Except String T
  predictPerModelInternal : Model → String → List (String × T) → Except Inference.Status Out

def checkTensorName (tensorName : String) : Except Inference.Status Unit :=
  if tensorName.isEmpty then
    .error ⟨.invalidArgument,
      "Tensor Input Name Error. Message: Name is required for each TensorFlow tensor input."⟩
  else .ok ()

section TensorFlow

variable {Model T Out : Type} (tf : TensorFlowRuntime Model T Out)

def predictPerModelFromJson (model : Model) (inferenceRequest : InferenceRequest) :
    Except Inference.Status Out := do
  let inputs ← convertInputs (fun tensor : Tensor => checkTensorName tensor.tensorName)
    (fun tensor => (tf.convertFlatArrayToTensor tensor).map (tensor.tensorName, ·))
    ("Input Tensor Conversion Error. Message: " ++ ·) inferenceRequest.inputs
  tf.predictPerModelInternal model inferenceRequest.modelPath inputs

def predictPerModelFromProto (model : Model) (inferenceRequest : InferenceRequestProto) :
    Except Inference.Status Out := do
  let inputs ← convertInputs (fun tensor : TensorProto => checkTensorName tensor.tensorName)
    (fun tensor => (tf.convertProtoToTensor tensor).map (tensor.tensorName, ·))
    ("Input Tensor Conversion Error. Message: " ++ ·) inferenceRequest.tensors
  tf.predictPerModelInternal model inferenceRequest.modelPath inputs

structure SameRequest (json : InferenceRequest) (proto : InferenceRequestProto) : Prop where
  modelPath : json.modelPath = proto.modelPath
  tensors : List.Forall₂ (fun t t' => t.tensorName = t'.tensorName ∧
    t.tensorShape = t'.tensorShape ∧ tf.convertFlatArrayToTensor t = tf.convertProtoToTensor t')
    json.inputs proto.tensors

variable {tf}

theorem SameRequest.predictPerModel {json : InferenceRequest} {proto : InferenceRequestProto}
    (h : SameRequest tf json proto) (model : Model) :
    predictPerModelFromJson tf model json = predictPerModelFromProto tf model proto := by
  have hinputs : convertInputs (fun tensor : Tensor => checkTensorName tensor.tensorName)
      (fun tensor => (tf.convertFlatArrayToTensor tensor).map (tensor.tensorName, ·))
      ("Input Tensor Conversion Error. Message: " ++ ·) json.inputs =
    convertInputs (fun tensor : TensorProto => checkTensorName tensor.tensorName)
      (fun tensor => (tf.convertProtoToTensor tensor).map (tensor.tensorName, ·))
      ("Input Tensor Conversion Error. Message: " ++ ·) proto.tensors := by
    unfold convertInputs
    obtain ⟨-, htensors⟩ := h
    generalize json.inputs = inputs, proto.tensors = tensors at htensors ⊢
    induction htensors with
    | nil => rfl
    | cons hsame _ ih =>
      rw [List.mapM_cons, List.mapM_cons, ih]
      dsimp only
      rw [hsame.1, hsame.2.2]
  unfold predictPerModelFromJson predictPerModelFromProto
  rw [hinputs, h.modelPath]

theorem SameRequest.shapes {json : InferenceRequest} {proto : InferenceRequestProto}
    (h : SameRequest tf json proto) :
    json.inputs.map Tensor.tensorShape = proto.tensors.map TensorProto.tensorShape := by
  obtain ⟨-, htensors⟩ := h
  generalize json.inputs = inputs, proto.tensors = tensors at htensors ⊢
  induction htensors with
  | nil => rfl
  | cons hsame _ ih => rw [List.map_cons, List.map_cons, ih, hsame.2.1]

end TensorFlow

/-- What PyTorch makes of tensors, and how it runs a model. -/
structure PyTorchRuntime (Model T Out : Type) where
  convertFlatArrayToTensor : Tensor → Except String T
  /-- `forward`, or the text of an exception; none of an unknown one. -/
  forward : Model → List T → Except (Option String) Out

def predictInternal {Model T Out : Type} (torch : PyTorchRuntime Model T Out) (model : Model)
    (request : InferenceRequest) : Except Inference.Status Out := do
  let inputs ← convertInputs (fun _ => .ok ()) torch.convertFlatArrayToTensor
    ("Input Tensor Conversion Error. Message: Model " ++ request.modelPath ++
      " encounters tensor parsing error: " ++ ·) request.inputs
  match torch.forward model inputs with
  | .ok out => .ok out
  | .error (some what) => .error ⟨.internal, "Model Execution Error. Message: Model " ++
      request.modelPath ++ " encounters an exception during evaluation: " ++ what⟩
  | .error none => .error ⟨.internal, "Model Execution Error. Message: Model " ++
      request.modelPath ++ " encounters an unknown exception during evaluation"⟩

/-! ## Outputs -/

/-- A tensor that a model puts out, of a type that can be written or another one. -/
structure OutputTensor where
  tensorName : String := ""
  dataType : Except String DataTypeProto
  tensorShape : List Int64 := []
  tensorContent : TensorContent := {}

def OutputTensor.convert (unsupported : String) (tensor : OutputTensor) :
    Except Inference.Status TensorProto :=
  match tensor.dataType with
  | .error dataType => .error ⟨.invalidArgument, unsupported ++ dataType⟩
  | .ok dataType => .ok ⟨dataType, tensor.tensorShape, tensor.tensorName,
      some tensor.tensorContent⟩

/-- `TensorToJsonValue` of TensorFlow. What is written of a tensor is what a message has. -/
def OutputTensor.tensorToJsonValue : OutputTensor → Except Inference.Status TensorProto :=
  OutputTensor.convert "Unsupported data type "

def OutputTensor.convertTensorToProto : OutputTensor → Except Inference.Status TensorProto :=
  OutputTensor.convert "Unsupported tensor type: "

/-- `torch::IValue`; an element of a tuple may be no tensor. -/
inductive IValue where
  | tensor (tensor : OutputTensor)
  | tuple (elements : List (Option OutputTensor))
  | other

/-- The elements of a tuple: one that is no tensor throws, one of another type is an error. -/
def tupleToJsonValue :
    List (Option OutputTensor) → Except Crash (Except Inference.Status (List TensorProto))
  | [] => .ok (.ok [])
  | none :: _ => .error .exception
  | some tensor :: rest =>
    match tensor.convert "Unsupported type " with
    | .error status => .ok (.error { status with code := .internal })
    | .ok json => (tupleToJsonValue rest).map fun jsons => jsons.map (json :: ·)

def iValueToJsonValue (modelPath : String) : IValue →
    Except Crash (Except Inference.Status (List TensorProto))
  | .tensor tensor => tupleToJsonValue [some tensor]
  | .tuple elements => tupleToJsonValue elements
  | .other => .ok (.error ⟨.internal, "Model " ++ modelPath ++
      " produces a non supported output type"⟩)

def TensorProto.isFinite (tensor : TensorProto) : Bool :=
  (tensor.tensorContent.map fun content => content.tensorContentFloat.all Float32.isFinite &&
    content.tensorContentDouble.all Float.isFinite).getD true

/-! ## A batch -/

/-- `inputs[0].tensor_shape[0]`. -/
def batchCount (shapes : List (List Int64)) : Except Crash Int64 :=
  match shapes with
  | (dim :: _) :: _ => .ok dim
  | _ => .error .missingElement

/-- A place of the batch after the first loop: its error is known, or its model runs. -/
inductive Launched (Model Request : Type) where
  | failed (modelPath : String) (error : ErrorProto)
  | running (model : Model) (request : Request)

/-- What a batch of requests in one form is run with. -/
structure Predictor (Model Request Out : Type) where
  modelPath : Request → String
  shapes : Request → List (List Int64)
  /-- `GetModel` of the store, which a batch leaves as it is. -/
  getModel : String → Except Inference.Status Model
  run : Model → Request → Except Inference.Status Out

section Batch

variable {Model Request Out : Type}

namespace Predictor

variable (P : Predictor Model Request Out)

def launch (request : Request) : Except Crash (Launched Model Request) :=
  match P.getModel (P.modelPath request) with
  | .error status => .ok (.failed (P.modelPath request)
      { errorType := .modelNotFound, description := status.message })
  | .ok model => (batchCount (P.shapes request)).map fun _ => .running model request

/-- One turn of the second loop: the path of the model, and its output or an error. -/
def gather : Launched Model Request → String × Except ErrorProto Out
  | .failed modelPath error => (modelPath, .error error)
  | .running model request => (P.modelPath request,
      (P.run model request).mapError fun status =>
        { errorType := if status.code = .invalidArgument then .inputParsing else .modelExecution
          description := status.message })

end Predictor

def launchParsed (P : Predictor Model Request Out) :
    Except ErrorProto Request → Except Crash (Launched Model Request)
  | .error error => .ok (.failed error.modelPath error)
  | .ok request => P.launch request

/-- How an output is written, for a model with this path. -/
abbrev Writer (Out : Type) :=
  String → Out → Except Crash (Except Inference.Status (List TensorProto))

/-- One place of a document. Of an error its type and description are written. -/
def writePlace (write : Writer Out) :
    String × Except ErrorProto Out → Except Crash (Except Inference.Status InferenceResponseProto)
  | (modelPath, .ok out) => (write modelPath out).map fun tensors =>
      tensors.map fun tensors => { modelPath := modelPath, tensors := tensors }
  | (modelPath, .error error) =>
    .ok (.ok { modelPath := modelPath, error := some { error with modelPath := "" } })

def writePlaces (write : Writer Out) : List (String × Except ErrorProto Out) →
    Except Crash (Except Inference.Status (List InferenceResponseProto))
  | [] => .ok (.ok [])
  | place :: rest =>
    match writePlace write place with
    | .error crash => .error crash
    | .ok (.error status) => .ok (.error status)
    | .ok (.ok response) => (writePlaces write rest).map fun rest => rest.map (response :: ·)

/-- `ConvertTensorsOrErrorToJson`: the document is serialized once it is built. -/
def convertTensorsOrErrorToJson (write : Writer Out)
    (places : List (String × Except ErrorProto Out)) :
    Except Crash (Except Inference.Status (List InferenceResponseProto)) :=
  (writePlaces write places).map fun written => written.bind fun responses =>
    if responses.all fun response => response.tensors.all TensorProto.isFinite then
      .ok responses
    else .error ⟨.internal, "Unknown JSON to string serialization error"⟩

/-- `CreateBatchErrorString`: a document with one response. -/
def createBatchErrorString (error : ErrorProto) : List InferenceResponseProto :=
  [{ error := some error }]

/-- The response to a batch whose document cannot be written. -/
def outputError : ErrorProto :=
  { errorType := .outputParsing, description := "Error during output parsing to json." }

/-- `PredictFromJsonHelper`, once the document is parsed; `PyTorchModule::Predict` as well. -/
def predictFromJson (P : Predictor Model Request Out) (write : Writer Out)
    (batch : List (Except ErrorProto Request)) : Except Crash (List InferenceResponseProto) := do
  let launched ← batch.mapM (launchParsed P)
  match ← convertTensorsOrErrorToJson write (launched.map P.gather) with
  | .error _ => return createBatchErrorString outputError
  | .ok responses => return responses

/-- A tensor of an output is added to the response, or sets its error. -/
def addOutput (response : InferenceResponseProto) (tensor : OutputTensor) :
    InferenceResponseProto :=
  match tensor.convertTensorToProto with
  | .error status =>
    { response with error := some { errorType := .outputParsing, description := status.message } }
  | .ok proto => { response with tensors := response.tensors ++ [proto] }

/-- The response of the second loop of `PredictFromProtoHelper`. -/
def protoResponse : String × Except ErrorProto (List OutputTensor) → InferenceResponseProto
  | (modelPath, .ok tensors) => tensors.foldl addOutput { modelPath := modelPath }
  | (modelPath, .error error) => { modelPath := modelPath, error := some error }

/-- `PredictFromProtoHelper`. -/
def predictFromProto (P : Predictor Model Request (List OutputTensor)) (batch : List Request) :
    Except Crash (List InferenceResponseProto) := do
  let launched ← batch.mapM P.launch
  return launched.map fun place => protoResponse (P.gather place)

end Batch

/-- `ConvertTensorsOrErrorToJson` of TensorFlow writes each tensor. -/
def writeTensors : Writer (List OutputTensor) :=
  fun _ tensors => .ok (tensors.mapM OutputTensor.tensorToJsonValue)

end InferencePayload

end BiddingAuction
