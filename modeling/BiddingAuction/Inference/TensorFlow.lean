import BiddingAuction.Common.FlatHash
import BiddingAuction.Foundation.Runs

/-!
# The TensorFlow module

`RegisterModel` saves the files of a request to a file system in memory that all models
share, loads the directory of the model to validate it, and loads it two times more to
construct the models that are served. A model is reset from the same directory. Deleting
a model removes it from the store.

A step of a registration is what it does between two points where another call may come
in. The file system either saves a file as a whole or fails; a load reads its directory
at one point.
-/

namespace BiddingAuction

open Foundation

namespace Inference

/-! ## Results -/

inductive StatusCode where
  | cancelled
  | invalidArgument
  | notFound
  | alreadyExists
  | internal
deriving DecidableEq, Repr

/-- `absl::Status` of a failure. -/
structure Status where
  code : StatusCode
  message : String
deriving DecidableEq, Repr

inductive CancelLocation where
  | kRegModelLogic
  | kDelModelLogic
  | kModelPutPreLock
  | kModelPutPostLock
deriving DecidableEq, Repr

def CancelLocation.number : CancelLocation → ℕ
  | kRegModelLogic => 20
  | kDelModelLogic => 21
  | kModelPutPreLock => 22
  | kModelPutPostLock => 23

/-- `RETURN_IF_CANCELLED`. -/
def cancelledError (location : CancelLocation) : Status :=
  ⟨.cancelled, "Request cancelled by client. Location code: " ++ toString location.number⟩

/-! ## Requests and files -/

abbrev Bytes := List UInt8

abbrev File := Sigma fun _ : String => Bytes

abbrev RamFileSystem := FlatHashMap String Bytes

structure RegisterModelRequest where
  modelPath : String
  modelFiles : FlatHashMap String Bytes := ∅
  warmUpBatchRequestJson : String := ""

def isUnder (directory file : String) : Bool :=
  (directory ++ "/").toList.isPrefixOf file.toList

def filesUnder (directory : String) (files : RamFileSystem) : String → Option Bytes :=
  fun file => if isUnder directory file then files.lookup file else none

/-! ## The graph validator -/

structure NodeDef where
  op : String
deriving DecidableEq, Repr

/-- A graph: its nodes, and those of the functions of its library. -/
structure GraphDef where
  node : List NodeDef
  function : List (List NodeDef) := []
deriving DecidableEq, Repr

def denylistedOps : List String :=
  ["CloseSummaryWriter", "CreateSummaryDbWriter", "CreateSummaryFileWriter",
    "FlushSummaryWriter", "ImportEvent", "StatsAggregatorSetSummaryWriter", "SummaryWriter",
    "WriteAudioSummary", "WriteFile", "WriteGraphSummary", "WriteHistogramSummary",
    "WriteImageSummary", "WriteRawProtoSummary", "WriteScalarSummary", "WriteSummary"]

def allowlistedOps : List String :=
  ["MergeV2Checkpoints", "ReadVariableOp", "Restore", "RestoreV2", "Save", "SaveV2",
    "StatefulPartitionedCall"]

def GraphDef.getAllNodes (graph : GraphDef) : List NodeDef := graph.node ++ graph.function.flatten

/-- `IsNodeAllowed`: not on the denylist, and if stateful on the allowlist. -/
def isNodeAllowed (statefulOps : List String) (node : NodeDef) : Bool :=
  !denylistedOps.contains node.op &&
    (!statefulOps.contains node.op || allowlistedOps.contains node.op)

def isGraphAllowed (statefulOps : List String) (graph : GraphDef) : Bool :=
  graph.getAllNodes.all (isNodeAllowed statefulOps)

/-! ## The model constructor -/

structure InferenceRequest where
  modelPath : String
  input : String

/-- `tensorflow::SavedModelBundle`, and the files it was loaded from. -/
structure SavedModelBundle where
  graphDef : GraphDef
  files : String → Option Bytes

/-- What the module takes from its libraries. -/
structure TensorFlow where
  /-- `LoadSavedModel`, of the files in the directory. -/
  loadSavedModel : String → (String → Option Bytes) → Except String GraphDef
  freezeSavedModel : GraphDef → Except String GraphDef
  /-- The names of the registered operations that are stateful. -/
  statefulOps : List String
  /-- `ParseJsonInferenceRequest`: a request is missing where it could not be parsed. -/
  parseJsonInferenceRequest : String → Except String (List (Option InferenceRequest))
  predictPerModelFromJson : GraphDef → InferenceRequest → Except Status Unit
  testonlyDisableModelValidation : Bool := false

namespace TensorFlow

variable (tf : TensorFlow)

/-- The warm up requests that could be parsed are made one after another. -/
def warmUp (modelPath : String) (graph : GraphDef) :
    List (Option InferenceRequest) → Except Status ℕ
  | [] => .ok 0
  | none :: rest => warmUp modelPath graph rest
  | some request :: rest => do
    if request.modelPath ≠ modelPath then
      throw ⟨.invalidArgument, "Warm up request using different model path."⟩
    tf.predictPerModelFromJson graph request
    return (← warmUp modelPath graph rest) + 1

def warmUpBatch (request : RegisterModelRequest) (graph : GraphDef) : Except Status Unit := do
  if request.warmUpBatchRequestJson = "" then return
  match tf.parseJsonInferenceRequest request.warmUpBatchRequestJson with
  | .error message =>
    throw ⟨.invalidArgument,
      "Encounters warm up batch inference request parsing error: " ++ message⟩
  | .ok parsedRequests =>
    if (← tf.warmUp request.modelPath graph parsedRequests) = 0 then
      throw ⟨.invalidArgument, "Encounters warm up batch inference request parsing error: " ++
        "All requests can not be parsed"⟩

/-- `LoadSavedModel` of the path of a model. -/
def load (modelPath : String) (ram : RamFileSystem) : Except Status SavedModelBundle :=
  match tf.loadSavedModel modelPath (filesUnder modelPath ram) with
  | .ok graph => .ok ⟨graph, filesUnder modelPath ram⟩
  | .error _ => .error ⟨.internal, "Error loading model: " ++ modelPath⟩

/-- `TensorFlowModelConstructor`. -/
def modelConstructor (request : RegisterModelRequest) (ram : RamFileSystem) :
    Except Status SavedModelBundle := do
  let model ← tf.load request.modelPath ram
  match tf.freezeSavedModel model.graphDef with
  | .error message =>
    throw ⟨.internal, "Error freezing model: " ++ request.modelPath ++ ": " ++ message⟩
  | .ok frozen =>
    tf.warmUpBatch request frozen
    return { model with graphDef := frozen }

def isModelAllowed (request : RegisterModelRequest) (ram : RamFileSystem) :
    Except Status Unit := do
  if tf.testonlyDisableModelValidation then return
  let model ← tf.load request.modelPath ram
  if !isGraphAllowed tf.statefulOps model.graphDef then
    throw ⟨.internal, "Error: model " ++ request.modelPath ++
      " is not allowed due to using a disallowed operator"⟩

end TensorFlow

/-! ## The model store -/

structure ModelStore where
  modelDataMap : FlatHashMap String RegisterModelRequest := ∅
  prodModelMap : FlatHashMap String SavedModelBundle := ∅
  consentedModelMap : FlatHashMap String SavedModelBundle := ∅

namespace ModelStore

variable (store : ModelStore)

def modelMap (isConsented : Bool) : FlatHashMap String SavedModelBundle :=
  if isConsented then store.consentedModelMap else store.prodModelMap

def getModel (key : String) (isConsented : Bool := false) : Except Status SavedModelBundle :=
  match (store.modelMap isConsented).lookup key with
  | some model => .ok model
  | none => .error ⟨.notFound, "Requested model '" ++ key ++ "' has not been registered"⟩

/-- The end of `PutModel`, under its locks. -/
def putModel (key : String) (request : RegisterModelRequest) (prod consented : SavedModelBundle) :
    ModelStore where
  modelDataMap := store.modelDataMap.insert key request
  prodModelMap := store.prodModelMap.insert key prod
  consentedModelMap := store.consentedModelMap.insert key consented

def resetModel (tf : TensorFlow) (ram : RamFileSystem) (key : String) (isConsented : Bool) :
    Except Status ModelStore :=
  match store.modelDataMap.lookup key with
  | none => .ok store
  | some request => do
    let model ← tf.modelConstructor request ram
    return if isConsented then
        { store with consentedModelMap := store.consentedModelMap.insert key model }
      else { store with prodModelMap := store.prodModelMap.insert key model }

def deleteModel (key : String) : Except Status ModelStore :=
  match store.modelDataMap.lookup key with
  | none => .error ⟨.notFound, "Failed to delete because the model is not found."⟩
  | some _ => .ok {
      modelDataMap := store.modelDataMap.erase key
      prodModelMap := store.prodModelMap.erase key
      consentedModelMap := store.consentedModelMap.erase key }

end ModelStore

/-! ## The module -/

/-- How far a call of `RegisterModel` is, past its first check of the store. -/
inductive RegisterPhase where
  | creatingDir
  | saving (files : List File)
  | validating
  | constructingProd
  | constructingConsented (prod : SavedModelBundle)
  | putting (prod consented : SavedModelBundle)

structure RegisterCall where
  request : RegisterModelRequest
  phase : RegisterPhase

/-- What `PutModel` is given: the request without its files. -/
def RegisterModelRequest.modelRequest (request : RegisterModelRequest) : RegisterModelRequest where
  modelPath := request.modelPath
  warmUpBatchRequestJson := request.warmUpBatchRequestJson

structure TensorflowModule where
  ram : RamFileSystem := ∅
  store : ModelStore := {}
  calls : FlatHashMap ℕ RegisterCall := ∅
  /-- The requests that are registered, with their files; the code does not keep them. -/
  registrations : FlatHashMap String RegisterModelRequest := ∅
  /-- What the calls returned, the latest first. -/
  returned : List (Except Status Unit) := []
  /-- The process has ended, or the module is destroyed. -/
  terminated : Bool := false

namespace TensorflowModule

inductive Event where
  | registerModel (call : ℕ) (request : RegisterModelRequest) (cancelled : Bool)
  | createDir (call : ℕ) (error : Option Status)
  | writeFile (call : ℕ) (error : Option Status)
  | isModelAllowed (call : ℕ)
  | constructProd (call : ℕ) (cancelled : Bool)
  | constructConsented (call : ℕ)
  | putModel (call : ℕ) (cancelled : Bool)
  | deleteModel (key : String) (cancelled : Bool)
  | resetModel (key : String) (isConsented : Bool)
  | destroy

variable (m : TensorflowModule) (tf : TensorFlow)

def setPhase (call : ℕ) (request : RegisterModelRequest) (phase : RegisterPhase) :
    TensorflowModule :=
  { m with calls := m.calls.insert call ⟨request, phase⟩ }

/-- A call of `RegisterModel` returns. -/
def answer (call : ℕ) (result : Except Status Unit) : TensorflowModule :=
  { m with calls := m.calls.erase call, returned := result :: m.returned }

def proceed (call : ℕ) (request : RegisterModelRequest) :
    Except Status RegisterPhase → TensorflowModule
  | .ok phase => m.setPhase call request phase
  | .error error => m.answer call (.error error)

/-- The first checks of `RegisterModel`. -/
def checkRegisterModel (request : RegisterModelRequest) (cancelled : Bool) :
    Except Status RegisterPhase :=
  if cancelled then .error (cancelledError .kRegModelLogic)
  else if request.modelPath = "" then .error ⟨.invalidArgument, "Model path is empty"⟩
  else
    match m.store.getModel request.modelPath with
    | .ok _ => .error ⟨.alreadyExists,
        "Model " ++ request.modelPath ++ " has already been registered"⟩
    | .error _ => .ok .creatingDir

/-- `RegisterModel`, to the check that no model is registered for the path. -/
def registerModel (call : ℕ) (request : RegisterModelRequest) (cancelled : Bool) :
    TensorflowModule :=
  m.proceed call request (m.checkRegisterModel request cancelled)

def nextFile : List File → RegisterPhase
  | [] => .validating
  | files => .saving files

def createDir (call : ℕ) (request : RegisterModelRequest) (error : Option Status) :
    TensorflowModule :=
  m.proceed call request <|
    match error with
    | some error => .error error
    | none => .ok (nextFile request.modelFiles.entries)

/-- One turn of the loop of `SaveToRamFileSystem`. -/
def writeFile (call : ℕ) (request : RegisterModelRequest) (file : File)
    (rest : List File) (error : Option Status) : TensorflowModule :=
  match error with
  | some error => m.answer call (.error error)
  | none => { m with ram := m.ram.insert file.1 file.2 }.setPhase call request (nextFile rest)

def isModelAllowed (call : ℕ) (request : RegisterModelRequest) : TensorflowModule :=
  m.proceed call request ((tf.isModelAllowed request m.ram).map fun _ => .constructingProd)

/-- The first model of `PutModel`. -/
def constructProd (call : ℕ) (request : RegisterModelRequest) (cancelled : Bool) :
    TensorflowModule :=
  m.proceed call request <|
    if cancelled then .error (cancelledError .kModelPutPreLock)
    else (tf.modelConstructor request.modelRequest m.ram).map .constructingConsented

def constructConsented (call : ℕ) (request : RegisterModelRequest) (prod : SavedModelBundle) :
    TensorflowModule :=
  m.proceed call request ((tf.modelConstructor request.modelRequest m.ram).map (.putting prod))

def putModel (call : ℕ) (request : RegisterModelRequest) (prod consented : SavedModelBundle)
    (cancelled : Bool) : TensorflowModule :=
  if cancelled then m.answer call (.error (cancelledError .kModelPutPostLock))
  else { m with
      store := m.store.putModel request.modelPath request.modelRequest prod consented
      registrations := m.registrations.insert request.modelPath request }.answer call (.ok ())

def deleteModel (key : String) (cancelled : Bool) : TensorflowModule :=
  if cancelled then
    { m with returned := .error (cancelledError .kDelModelLogic) :: m.returned }
  else
    match m.store.deleteModel key with
    | .error error => { m with returned := .error error :: m.returned }
    | .ok store => { m with
        store := store
        registrations := m.registrations.erase key
        returned := .ok () :: m.returned }

/-- `ResetModel` of the background thread, which ends the process when it fails. -/
def resetModel (key : String) (isConsented : Bool) : TensorflowModule :=
  match m.store.resetModel tf m.ram key isConsented with
  | .ok store => { m with store := store }
  | .error _ => { m with terminated := true }

def deleteFromRamFileSystem (ram : RamFileSystem) (path : String) : RamFileSystem :=
  ram.keys.foldl (fun ram file => if isUnder path file then ram.erase file else ram) ram

def destroy : TensorflowModule :=
  { m with
    ram := m.store.modelDataMap.keys.foldl deleteFromRamFileSystem m.ram
    terminated := true }

def step (m : TensorflowModule) (event : Event) : Option TensorflowModule :=
  if m.terminated then none
  else
    match event with
    | .registerModel call request cancelled =>
      if call ∈ m.calls then none else some (m.registerModel call request cancelled)
    | .createDir call error =>
      match m.calls.lookup call with
      | some ⟨request, .creatingDir⟩ => some (m.createDir call request error)
      | _ => none
    | .writeFile call error =>
      match m.calls.lookup call with
      | some ⟨request, .saving (file :: rest)⟩ => some (m.writeFile call request file rest error)
      | _ => none
    | .isModelAllowed call =>
      match m.calls.lookup call with
      | some ⟨request, .validating⟩ => some (m.isModelAllowed tf call request)
      | _ => none
    | .constructProd call cancelled =>
      match m.calls.lookup call with
      | some ⟨request, .constructingProd⟩ => some (m.constructProd tf call request cancelled)
      | _ => none
    | .constructConsented call =>
      match m.calls.lookup call with
      | some ⟨request, .constructingConsented prod⟩ =>
        some (m.constructConsented tf call request prod)
      | _ => none
    | .putModel call cancelled =>
      match m.calls.lookup call with
      | some ⟨request, .putting prod consented⟩ =>
        some (m.putModel call request prod consented cancelled)
      | _ => none
    | .deleteModel key cancelled => some (m.deleteModel key cancelled)
    | .resetModel key isConsented => some (m.resetModel tf key isConsented)
    | .destroy => some m.destroy

def system : LTS TensorflowModule Event := LTS.ofStep (fun m => m = {}) (step tf)

end TensorflowModule

end Inference

end BiddingAuction
