import BiddingAuction.Inference.TensorFlow
import BiddingAuction.Proto.Size

/-!
# The periodic model fetcher

Each polling cycle fetches a configuration of models, evicts the models it no longer lists
with their checksums, and registers those that are not loaded. A model with a grace period
is deleted by a timer, cycles later.

A cycle and the callback of a timer run under one lock: each is a step.
-/

namespace BiddingAuction

open Foundation

open Inference (RegisterModelRequest)

/-! ## Configurations and blobs -/

structure ModelMetadata where
  modelPath : String
  checksum : String := ""
  warmUpBatchRequestJson : String := ""
  evictionGracePeriodInMs : ℤ := 0
deriving DecidableEq, Repr

abbrev ModelConfig := List ModelMetadata

structure Blob where
  path : String
  bytes : Inference.Bytes

/-- A path that ends with a slash takes all files under the directory. -/
def isFileOf (modelPath : String) (blob : Blob) : Bool :=
  ("/".toList.isSuffixOf modelPath.toList && modelPath.toList.isPrefixOf blob.path.toList) ||
    blob.path == modelPath

def computeChecksumForBlobs (computeSHA256 : Inference.Bytes → String) (blobViews : List Blob) :
    Option String :=
  if blobViews.isEmpty then none
  else
    let blobHashes := (blobViews.map fun blob => (blob.path, computeSHA256 blob.bytes)).mergeSort
      fun a b => a.1 < b.1 || (a.1 == b.1 && a.2 ≤ b.2)
    some (computeSHA256 (String.join (blobHashes.map Prod.snd)).toUTF8.toList)

/-- The checksum is right, or the configuration leaves it out. -/
def ModelMetadata.matchesChecksum (metadata : ModelMetadata)
    (computeSHA256 : Inference.Bytes → String) (snapshot : List Blob) : Bool :=
  metadata.checksum == "" ||
    computeChecksumForBlobs computeSHA256 (snapshot.filter (isFileOf metadata.modelPath)) ==
      some metadata.checksum

def kMaxProtoMessageSize : ℕ := 2 * 1024 * 1024 * 1024

/-- The size of a request: the entries of its map have both fields. -/
def Inference.RegisterModelRequest.byteSizeLong (request : RegisterModelRequest) : ℕ :=
  delimitedSize (packedSize request.modelPath.utf8ByteSize) +
    (request.modelFiles.entries.map fun file =>
      delimitedSize (delimitedSize file.1.utf8ByteSize + delimitedSize file.2.length)).sum +
    packedSize request.warmUpBatchRequestJson.utf8ByteSize

/-- The request that registers a model from a snapshot of the bucket. -/
def ModelMetadata.registerModelRequest (metadata : ModelMetadata) (snapshot : List Blob) :
    RegisterModelRequest where
  modelPath := metadata.modelPath
  modelFiles := (snapshot.filter (isFileOf metadata.modelPath)).foldl
    (fun files blob => files.insert blob.path blob.bytes) ∅
  warmUpBatchRequestJson := metadata.warmUpBatchRequestJson

/-! ## The fetcher -/

inductive ModelState where
  | active
  | inGracePeriod
  | inDeletion
deriving DecidableEq, Repr

structure ModelEntry where
  checksum : String
  evictionGracePeriodInMs : ℤ
  modelState : ModelState
deriving DecidableEq, Repr

def ModelConfig.lists (config : ModelConfig) (modelPath checksum : String) : Bool :=
  config.any fun metadata => metadata.modelPath == modelPath && metadata.checksum == checksum

/-- A `DeleteModel` request that was sent: the entry it was sent for, and the configuration
fetched last. -/
structure Deletion where
  modelPath : String
  entry : ModelEntry
  config : Option ModelConfig

structure PeriodicModelFetcher where
  modelEntryMap : FlatHashMap String ModelEntry := ∅
  /-- The paths whose grace period is running. -/
  timers : List String := []
  /-- The configuration fetched last; the code does not keep it. -/
  latestConfig : Option ModelConfig := none
  /-- What was sent to the sidecar, the latest first. -/
  deletions : List Deletion := []

namespace PeriodicModelFetcher

structure Cycle where
  /-- `FetchModelConfig`. -/
  config : Option ModelConfig
  deleteModelOk : String → Bool
  /-- `FetchSync` of the models that are pending. -/
  snapshot : Option (List Blob)
  /-- The status of the request for the pending model at a position. -/
  registerModelOk : ℕ → Bool
  /-- The order a set of paths is iterated in. -/
  order : List String → List String
  order_perm : ∀ paths, (order paths).Perm paths

inductive Event where
  | poll (cycle : Cycle)
  /-- The grace period of a model ends. -/
  | timer (modelPath : String) (deleteModelOk : Bool)

variable (f : PeriodicModelFetcher)

/-- `operator[]`. -/
def modelEntry (modelPath : String) : ModelEntry :=
  (f.modelEntryMap.lookup modelPath).getD ⟨"", 0, .active⟩

def setState (modelPath : String) (modelState : ModelState) : PeriodicModelFetcher :=
  { f with modelEntryMap :=
      f.modelEntryMap.insert modelPath { f.modelEntry modelPath with modelState := modelState } }

def deleteModel (modelPath : String) (ok : Bool) : PeriodicModelFetcher :=
  let g := f.setState modelPath .inDeletion
  { g with
    modelEntryMap := if ok then g.modelEntryMap.erase modelPath else g.modelEntryMap
    deletions := ⟨modelPath, f.modelEntry modelPath, f.latestConfig⟩ :: f.deletions }

/-- One turn of the loop of `DeleteModels`. -/
def deleteOrDefer (modelPath : String) (ok : Bool) : PeriodicModelFetcher :=
  if (f.modelEntry modelPath).modelState = .inGracePeriod then f
  else if (f.modelEntry modelPath).modelState = .active ∧
      0 < (f.modelEntry modelPath).evictionGracePeriodInMs then
    { f.setState modelPath .inGracePeriod with timers := f.timers ++ [modelPath] }
  else f.deleteModel modelPath ok

def deleteModels (modelPaths : List String) (ok : String → Bool) : PeriodicModelFetcher :=
  modelPaths.foldl (fun f modelPath => f.deleteOrDefer modelPath (ok modelPath)) f

/-- A model that is loaded with the checksum of the configuration is not deleted. -/
def spare (models : List String) (metadata : ModelMetadata) : List String :=
  match f.modelEntryMap.lookup metadata.modelPath with
  | some entry =>
    if entry.checksum = metadata.checksum then models.erase metadata.modelPath else models
  | none => models

def garbageCollectableModels (config : ModelConfig) : List String :=
  config.foldl f.spare f.modelEntryMap.keys

/-- The models of the configuration that are to be loaded. One that is still there waits
for a later cycle, whatever its state. -/
def pendingModelMetadata (config : ModelConfig) : List ModelMetadata :=
  config.filter fun metadata =>
    metadata.modelPath ≠ "" ∧ metadata.modelPath ∉ f.modelEntryMap

variable (computeSHA256 : Inference.Bytes → String)

def registerModel (metadata : ModelMetadata) (snapshot : List Blob) (ok : Bool) :
    PeriodicModelFetcher :=
  if kMaxProtoMessageSize < (metadata.registerModelRequest snapshot).byteSizeLong then f
  else if !metadata.matchesChecksum computeSHA256 snapshot then f
  else if ok then
    let entry := ⟨metadata.checksum, metadata.evictionGracePeriodInMs, .active⟩
    { f with modelEntryMap := f.modelEntryMap.insert metadata.modelPath entry }
  else f

def registerModels (snapshot : List Blob) (ok : ℕ → Bool) :
    ℕ → List ModelMetadata → PeriodicModelFetcher → PeriodicModelFetcher
  | _, [], f => f
  | i, metadata :: rest, f =>
    registerModels snapshot ok (i + 1) rest (f.registerModel computeSHA256 metadata snapshot (ok i))

/-- The first half of a cycle, past the fetch of the configuration. -/
def processDeletion (config : ModelConfig) (cycle : Cycle) : PeriodicModelFetcher :=
  { f with latestConfig := some config }.deleteModels
    (cycle.order (f.garbageCollectableModels config)) cycle.deleteModelOk

def processLoading (config : ModelConfig) (cycle : Cycle) : PeriodicModelFetcher :=
  if f.pendingModelMetadata config = [] then f
  else
    match cycle.snapshot with
    | none => f
    | some snapshot => f.registerModels computeSHA256 snapshot cycle.registerModelOk 0
        (f.pendingModelMetadata config)

def internalModelFetchAndRegistration (cycle : Cycle) : PeriodicModelFetcher :=
  match cycle.config with
  | none => f
  | some config => (f.processDeletion config cycle).processLoading computeSHA256 config cycle

def endGracePeriod (modelPath : String) (deleteModelOk : Bool) : PeriodicModelFetcher :=
  { f with timers := f.timers.erase modelPath }.deleteModel modelPath deleteModelOk

def step (f : PeriodicModelFetcher) : Event → Option PeriodicModelFetcher
  | .poll cycle => some (f.internalModelFetchAndRegistration computeSHA256 cycle)
  | .timer modelPath ok =>
    if modelPath ∈ f.timers then some (f.endGracePeriod modelPath ok) else none

def system : LTS PeriodicModelFetcher Event :=
  .ofStep (· = {}) (step computeSHA256)

end PeriodicModelFetcher

/-! ## Deletion, path by path -/

namespace ModelEntry

def Defers (entry : ModelEntry) : Prop :=
  entry.modelState = .active ∧ 0 < entry.evictionGracePeriodInMs

instance (entry : ModelEntry) : Decidable entry.Defers :=
  inferInstanceAs (Decidable (_ ∧ _))

def evicted (entry : ModelEntry) (ok : Bool) : Option ModelEntry :=
  if entry.modelState = .inGracePeriod then some entry
  else if entry.Defers then some { entry with modelState := .inGracePeriod }
  else if ok then none
  else some { entry with modelState := .inDeletion }

end ModelEntry

namespace PeriodicModelFetcher

variable {f : PeriodicModelFetcher} {computeSHA256 : Inference.Bytes → String}

theorem lists_iff {config : ModelConfig} {modelPath checksum : String} :
    config.lists modelPath checksum = true ↔
      ∃ metadata ∈ config, metadata.modelPath = modelPath ∧ metadata.checksum = checksum := by
  simp [ModelConfig.lists]

theorem mem_spare {models : List String} (hnodup : models.Nodup) {metadata : ModelMetadata}
    {modelPath : String} :
    modelPath ∈ f.spare models metadata ↔ modelPath ∈ models ∧
      ¬ ∃ entry, f.modelEntryMap.lookup modelPath = some entry ∧
        metadata.modelPath = modelPath ∧ metadata.checksum = entry.checksum := by
  unfold spare
  split
  · rename_i entry hentry
    split
    · rename_i hchecksum
      rw [hnodup.mem_erase_iff]
      constructor
      · rintro ⟨hne, hmem⟩
        exact ⟨hmem, fun ⟨_, _, hpath, _⟩ => hne hpath.symm⟩
      · rintro ⟨hmem, hnone⟩
        refine ⟨?_, hmem⟩
        rintro rfl
        exact hnone ⟨entry, hentry, rfl, hchecksum.symm⟩
    · rename_i hchecksum
      refine ⟨fun hmem => ⟨hmem, ?_⟩, And.left⟩
      rintro ⟨entry', hentry', rfl, heq⟩
      cases hentry.symm.trans hentry'
      exact hchecksum heq.symm
  · rename_i hnone
    refine ⟨fun hmem => ⟨hmem, ?_⟩, And.left⟩
    rintro ⟨entry, hentry, rfl, -⟩
    cases hnone.symm.trans hentry

theorem nodup_spare {models : List String} (hnodup : models.Nodup) {metadata : ModelMetadata} :
    (f.spare models metadata).Nodup := by
  unfold spare
  split
  · split
    · exact hnodup.erase _
    · exact hnodup
  · exact hnodup

theorem nodup_foldl_spare {models : List String} (hnodup : models.Nodup) (config : ModelConfig) :
    (config.foldl f.spare models).Nodup := by
  induction config generalizing models with
  | nil => exact hnodup
  | cons metadata rest ih => exact ih (nodup_spare hnodup)

theorem mem_foldl_spare {models : List String} (hnodup : models.Nodup) {config : ModelConfig}
    {modelPath : String} :
    modelPath ∈ config.foldl f.spare models ↔ modelPath ∈ models ∧
      ∀ entry, f.modelEntryMap.lookup modelPath = some entry →
        config.lists modelPath entry.checksum = false := by
  induction config generalizing models with
  | nil => simp [ModelConfig.lists]
  | cons metadata rest ih =>
    rw [List.foldl_cons, ih (nodup_spare hnodup), mem_spare hnodup]
    simp only [ModelConfig.lists, List.any_cons, Bool.or_eq_false_iff, Bool.and_eq_false_iff,
      beq_eq_false_iff_ne, not_exists, not_and, ne_eq]
    constructor
    · rintro ⟨⟨hmem, hfirst⟩, hrest⟩
      refine ⟨hmem, fun entry hentry => ⟨?_, hrest entry hentry⟩⟩
      by_cases hpath : metadata.modelPath = modelPath
      · exact .inr (hfirst entry hentry hpath)
      · exact .inl hpath
    · rintro ⟨hmem, h⟩
      refine ⟨⟨hmem, fun entry hentry hpath => ?_⟩, fun entry hentry => (h entry hentry).2⟩
      rcases (h entry hentry).1 with hne | hne
      · exact absurd hpath hne
      · exact hne

theorem mem_garbageCollectableModels {config : ModelConfig} {modelPath : String} :
    modelPath ∈ f.garbageCollectableModels config ↔
      ∃ entry, f.modelEntryMap.lookup modelPath = some entry ∧
        config.lists modelPath entry.checksum = false := by
  unfold garbageCollectableModels
  rw [mem_foldl_spare f.modelEntryMap.keys_nodup, ← AList.mem_keys]
  constructor
  · rintro ⟨hmem, h⟩
    obtain ⟨entry, hentry⟩ := Option.isSome_iff_exists.mp (AList.lookup_isSome.mpr hmem)
    exact ⟨entry, hentry, h entry hentry⟩
  · rintro ⟨entry, hentry, hlists⟩
    refine ⟨AList.lookup_isSome.mp (hentry ▸ rfl), fun entry' hentry' => ?_⟩
    cases hentry.symm.trans hentry'
    exact hlists

theorem nodup_garbageCollectableModels {config : ModelConfig} :
    (f.garbageCollectableModels config).Nodup :=
  nodup_foldl_spare f.modelEntryMap.keys_nodup config

theorem modelEntry_eq {modelPath : String} {entry : ModelEntry}
    (h : f.modelEntryMap.lookup modelPath = some entry) : f.modelEntry modelPath = entry := by
  unfold modelEntry
  rw [h]
  rfl

@[simp] theorem lookup_setState_self {modelPath : String} {modelState : ModelState} :
    (f.setState modelPath modelState).modelEntryMap.lookup modelPath =
      some { f.modelEntry modelPath with modelState := modelState } :=
  AList.lookup_insert _

theorem lookup_setState_ne {modelPath other : String} {modelState : ModelState}
    (hne : other ≠ modelPath) :
    (f.setState modelPath modelState).modelEntryMap.lookup other = f.modelEntryMap.lookup other :=
  AList.lookup_insert_ne hne

theorem lookup_deleteModel_self {modelPath : String} {ok : Bool} :
    (f.deleteModel modelPath ok).modelEntryMap.lookup modelPath =
      if ok then none else some { f.modelEntry modelPath with modelState := .inDeletion } := by
  unfold deleteModel
  cases ok
  · exact lookup_setState_self
  · exact AList.lookup_erase _ _

theorem lookup_deleteModel_ne {modelPath other : String} {ok : Bool} (hne : other ≠ modelPath) :
    (f.deleteModel modelPath ok).modelEntryMap.lookup other = f.modelEntryMap.lookup other := by
  unfold deleteModel
  cases ok
  · exact lookup_setState_ne hne
  · exact (AList.lookup_erase_ne hne).trans (lookup_setState_ne hne)

theorem deleteOrDefer_cases (f : PeriodicModelFetcher) (modelPath : String) (ok : Bool) :
    ((f.modelEntry modelPath).modelState = .inGracePeriod ∧ f.deleteOrDefer modelPath ok = f) ∨
    ((f.modelEntry modelPath).Defers ∧ f.deleteOrDefer modelPath ok =
      { f.setState modelPath .inGracePeriod with timers := f.timers ++ [modelPath] }) ∨
    ((f.modelEntry modelPath).modelState ≠ .inGracePeriod ∧ ¬ (f.modelEntry modelPath).Defers ∧
      f.deleteOrDefer modelPath ok = f.deleteModel modelPath ok) := by
  unfold deleteOrDefer
  by_cases hgrace : (f.modelEntry modelPath).modelState = .inGracePeriod
  · exact .inl ⟨hgrace, if_pos hgrace⟩
  · rw [if_neg hgrace]
    by_cases hdefers : (f.modelEntry modelPath).Defers
    · exact .inr (.inl ⟨hdefers, if_pos hdefers⟩)
    · exact .inr (.inr ⟨hgrace, hdefers, if_neg hdefers⟩)

theorem lookup_deleteOrDefer_self {modelPath : String} {entry : ModelEntry} {ok : Bool}
    (h : f.modelEntryMap.lookup modelPath = some entry) :
    (f.deleteOrDefer modelPath ok).modelEntryMap.lookup modelPath = entry.evicted ok := by
  have hentry := modelEntry_eq h
  unfold ModelEntry.evicted
  rcases deleteOrDefer_cases f modelPath ok with ⟨hgrace, heq⟩ | ⟨hdefers, heq⟩ |
    ⟨hgrace, hdefers, heq⟩
  · rw [heq, h, if_pos (hentry ▸ hgrace)]
  · have hactive : entry.modelState ≠ .inGracePeriod := by
      rw [← hentry, hdefers.1]
      nofun
    rw [heq, if_neg hactive, if_pos (hentry ▸ hdefers), ← hentry]
    exact lookup_setState_self
  · rw [heq, if_neg (hentry ▸ hgrace), if_neg (hentry ▸ hdefers), ← hentry]
    exact lookup_deleteModel_self

theorem lookup_deleteOrDefer_ne {modelPath other : String} {ok : Bool} (hne : other ≠ modelPath) :
    (f.deleteOrDefer modelPath ok).modelEntryMap.lookup other = f.modelEntryMap.lookup other := by
  rcases deleteOrDefer_cases f modelPath ok with ⟨-, heq⟩ | ⟨-, heq⟩ | ⟨-, -, heq⟩
  · rw [heq]
  · rw [heq]
    exact lookup_setState_ne hne
  · rw [heq]
    exact lookup_deleteModel_ne hne

theorem timers_deleteOrDefer {modelPath : String} {ok : Bool} :
    (f.deleteOrDefer modelPath ok).timers =
      f.timers ++ if (f.modelEntry modelPath).Defers then [modelPath] else [] := by
  rcases deleteOrDefer_cases f modelPath ok with ⟨hgrace, heq⟩ | ⟨hdefers, heq⟩ |
    ⟨-, hdefers, heq⟩
  · have hdefers : ¬ (f.modelEntry modelPath).Defers := by
      intro hdefers
      cases hgrace.symm.trans hdefers.1
    rw [heq, if_neg hdefers, List.append_nil]
  · rw [heq, if_pos hdefers]
  · rw [heq, if_neg hdefers, List.append_nil]
    rfl

@[simp] theorem latestConfig_deleteOrDefer {modelPath : String} {ok : Bool} :
    (f.deleteOrDefer modelPath ok).latestConfig = f.latestConfig := by
  rcases deleteOrDefer_cases f modelPath ok with ⟨-, heq⟩ | ⟨-, heq⟩ | ⟨-, -, heq⟩ <;>
    rw [heq] <;> rfl

theorem deletions_deleteOrDefer (f : PeriodicModelFetcher) (modelPath : String) (ok : Bool) :
    (f.deleteOrDefer modelPath ok).deletions = f.deletions ∨
      (f.deleteOrDefer modelPath ok).deletions =
        ⟨modelPath, f.modelEntry modelPath, f.latestConfig⟩ :: f.deletions := by
  rcases deleteOrDefer_cases f modelPath ok with ⟨-, heq⟩ | ⟨-, heq⟩ | ⟨-, -, heq⟩
  · exact .inl (by rw [heq])
  · exact .inl (by rw [heq]; rfl)
  · exact .inr (by rw [heq]; rfl)

/-! ## The loop over the paths -/

theorem lookup_deleteModels_of_notMem {modelPaths : List String} {ok : String → Bool}
    {other : String} (h : other ∉ modelPaths) :
    (f.deleteModels modelPaths ok).modelEntryMap.lookup other = f.modelEntryMap.lookup other := by
  induction modelPaths generalizing f with
  | nil => rfl
  | cons modelPath rest ih =>
    show ((f.deleteOrDefer modelPath _).deleteModels rest ok).modelEntryMap.lookup other = _
    rw [ih (List.not_mem_of_not_mem_cons h)]
    exact lookup_deleteOrDefer_ne (List.ne_of_not_mem_cons h)

theorem lookup_deleteModels_of_mem {modelPaths : List String} (hnodup : modelPaths.Nodup)
    {ok : String → Bool} {modelPath : String} (hmem : modelPath ∈ modelPaths)
    {entry : ModelEntry} (h : f.modelEntryMap.lookup modelPath = some entry) :
    (f.deleteModels modelPaths ok).modelEntryMap.lookup modelPath =
      entry.evicted (ok modelPath) := by
  induction modelPaths generalizing f with
  | nil => cases hmem
  | cons first rest ih =>
    obtain ⟨hfirst, hnodup⟩ := List.nodup_cons.mp hnodup
    show ((f.deleteOrDefer first _).deleteModels rest ok).modelEntryMap.lookup modelPath = _
    rcases List.mem_cons.mp hmem with rfl | hrest
    · rw [lookup_deleteModels_of_notMem hfirst]
      exact lookup_deleteOrDefer_self h
    · have hne : modelPath ≠ first := fun heq => hfirst (heq ▸ hrest)
      apply ih hnodup hrest
      rw [lookup_deleteOrDefer_ne hne]
      exact h

theorem mem_timers_deleteModels {modelPaths : List String} (hnodup : modelPaths.Nodup)
    {ok : String → Bool} {modelPath : String} :
    modelPath ∈ (f.deleteModels modelPaths ok).timers ↔ modelPath ∈ f.timers ∨
      modelPath ∈ modelPaths ∧ (f.modelEntry modelPath).Defers := by
  induction modelPaths generalizing f with
  | nil => simp [deleteModels]
  | cons first rest ih =>
    obtain ⟨hfirst, hnodup⟩ := List.nodup_cons.mp hnodup
    show modelPath ∈ ((f.deleteOrDefer first _).deleteModels rest ok).timers ↔ _
    rw [ih hnodup, timers_deleteOrDefer, List.mem_append, List.mem_cons]
    by_cases hpath : modelPath = first
    · subst hpath
      by_cases hdefers : (f.modelEntry modelPath).Defers
      · simp [hdefers]
      · simp [hdefers, hfirst]
    · -- the entries of the others are as they were
      have hentry : (f.deleteOrDefer first (ok first)).modelEntry modelPath =
          f.modelEntry modelPath := by
        unfold modelEntry
        rw [lookup_deleteOrDefer_ne hpath]
      rw [hentry]
      by_cases hdefers : (f.modelEntry first).Defers
      · simp [hdefers, hpath]
      · simp [hdefers, hpath]

theorem mem_deletions_deleteModels {modelPaths : List String} (hnodup : modelPaths.Nodup)
    {ok : String → Bool} {d : Deletion} (h : d ∈ (f.deleteModels modelPaths ok).deletions) :
    d ∈ f.deletions ∨ d.modelPath ∈ modelPaths ∧ d.entry = f.modelEntry d.modelPath ∧
      d.config = f.latestConfig := by
  induction modelPaths generalizing f with
  | nil => exact .inl h
  | cons first rest ih =>
    obtain ⟨hfirst, hnodup⟩ := List.nodup_cons.mp hnodup
    rcases ih hnodup h with hold | ⟨hmem, hentry, hconfig⟩
    · rcases deletions_deleteOrDefer f first (ok first) with hsame | hsent
      · exact .inl (hsame ▸ hold)
      · rw [hsent] at hold
        rcases List.mem_cons.mp hold with rfl | hold
        · exact .inr ⟨List.mem_cons_self, rfl, rfl⟩
        · exact .inl hold
    · have hne : d.modelPath ≠ first := fun heq => hfirst (heq ▸ hmem)
      refine .inr ⟨List.mem_cons_of_mem _ hmem, ?_, hconfig.trans latestConfig_deleteOrDefer⟩
      rw [hentry]
      unfold modelEntry
      rw [lookup_deleteOrDefer_ne hne]

theorem deletions_subset_deleteModels {modelPaths : List String} {ok : String → Bool} :
    f.deletions ⊆ (f.deleteModels modelPaths ok).deletions := by
  induction modelPaths generalizing f with
  | nil => exact fun _ h => h
  | cons first rest ih =>
    refine List.Subset.trans ?_ ih
    rcases deletions_deleteOrDefer f first (ok first) with hsame | hsent
    · exact fun d hd => hsame ▸ hd
    · exact fun d hd => hsent ▸ List.mem_cons_of_mem _ hd

end PeriodicModelFetcher

end BiddingAuction
