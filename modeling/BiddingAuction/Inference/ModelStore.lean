import BiddingAuction.Inference.TensorFlow
import Mathlib.Algebra.Order.Ring.Rat

/-!
# The model store

The store of a sidecar for models of any kind: the requests that are registered, the
models made from them for production and for consented traffic, and the inferences of
each. Each map has its lock.

A step is a section under its locks. `ResetModel` keeps the lock of the registrations
while it constructs: what does not take that lock goes on meanwhile.
-/

namespace BiddingAuction

open Foundation

namespace InferenceSidecar

open Inference (Status CancelLocation cancelledError)

variable {Request Model World : Type}

/-- The configuration of a sidecar. Its constructor makes a model of a request, and of
what else it reads at that moment. -/
structure Sidecar (Request Model World : Type) where
  modelConstructor : Request → World → Except Status Model
  modelResetProbability : ℚ := 0

def Sidecar.Constructed (sidecar : Sidecar Request Model World) (request : Request)
    (model : Model) : Prop :=
  ∃ world, sidecar.modelConstructor request world = .ok model

/-! ## The maps -/

structure ModelStore (Request Model : Type) where
  modelDataMap : FlatHashMap String Request := ∅
  prodModelMap : FlatHashMap String Model := ∅
  consentedModelMap : FlatHashMap String Model := ∅
  perModelInferenceCount : FlatHashMap String ℤ := ∅

namespace ModelStore

variable (store : ModelStore Request Model)

def modelMap (isConsented : Bool) : FlatHashMap String Model :=
  if isConsented then store.consentedModelMap else store.prodModelMap

/-- The end of `PutModel`, under all locks. -/
def putModel (key : String) (request : Request) (prodModel consentedModel : Model) :
    ModelStore Request Model where
  modelDataMap := store.modelDataMap.insert key request
  prodModelMap := store.prodModelMap.insert key prodModel
  consentedModelMap := store.consentedModelMap.insert key consentedModel
  perModelInferenceCount := store.perModelInferenceCount.insert key 0

def getModel (key : String) (isConsented : Bool := false) : Except Status Model :=
  match (store.modelMap isConsented).lookup key with
  | none => .error ⟨.notFound, "Requested model '" ++ key ++ "' has not been registered"⟩
  | some model => .ok model

/-- The end of `ResetModel`, under the lock of the map it writes. -/
def resetModel (key : String) (isConsented : Bool) (model : Model) : ModelStore Request Model :=
  if isConsented then
    { store with consentedModelMap := store.consentedModelMap.insert key model }
  else
    { store with prodModelMap := store.prodModelMap.insert key model }

def listModels : List String := store.modelDataMap.keys

def deleteModel (key : String) : Except Status (ModelStore Request Model) :=
  match store.modelDataMap.lookup key with
  | none => .error ⟨.notFound, "Failed to delete because the model is not found."⟩
  | some _ => .ok {
      modelDataMap := store.modelDataMap.erase key
      prodModelMap := store.prodModelMap.erase key
      consentedModelMap := store.consentedModelMap.erase key
      perModelInferenceCount := store.perModelInferenceCount.erase key }

def setInferenceCount (key : String) (count : ℤ → ℤ) : ModelStore Request Model :=
  match store.perModelInferenceCount.lookup key with
  | none => store
  | some old =>
    { store with perModelInferenceCount := store.perModelInferenceCount.insert key (count old) }

def incrementModelInferenceCount (key : String) : ModelStore Request Model :=
  store.setInferenceCount key (· + 1)

/-- `ResetModels` reads the count of a model, and sets it to zero. -/
def takeInferenceCount (key : String) : ℤ × ModelStore Request Model :=
  ((store.perModelInferenceCount.lookup key).getD 0, store.setInferenceCount key fun _ => 0)

end ModelStore

/-! ## The calls -/

/-- How far a call of `PutModel` is, past its first check. -/
inductive PutPhase (Model : Type) where
  | constructingProd
  | constructingConsented (prodModel : Model)
  | committing (prodModel consentedModel : Model)

structure PutCall (Request Model : Type) where
  key : String
  request : Request
  phase : PutPhase Model

/-- A call of `ResetModel` that has found its request, and has the lock. -/
structure ResetCall (Request : Type) where
  key : String
  isConsented : Bool
  request : Request
  /-- The call is made by `ResetModels`. -/
  inBackground : Bool

/-- Where `ResetModels` is, with the models it has still to look at. It waits once there
are none. -/
inductive Background where
  | visiting (models : List String)
  | counted (count : ℤ) (modelKey : String) (models : List String)
  | resetting (modelKey : String) (models : List String)

def Background.models : Background → List String
  | visiting models => models
  | counted _ _ models => models
  | resetting _ models => models

structure System (Request Model : Type) where
  store : ModelStore Request Model := {}
  puts : FlatHashMap ℕ (PutCall Request Model) := ∅
  /-- The call of `ResetModel` that holds the lock of the registrations. -/
  reset : Option (ResetCall Request) := none
  background : Background := .visiting []
  /-- A reset in the background has failed. -/
  terminated : Bool := false

namespace System

inductive Event (Request World : Type) where
  | putModel (call : ℕ) (key : String) (request : Request) (cancelled : Bool)
  | constructProd (call : ℕ) (world : World)
  | constructConsented (call : ℕ) (world : World)
  | commitPut (call : ℕ) (cancelled : Bool)
  | getModel (key : String) (isConsented : Bool)
  | deleteModel (key : String)
  | resetModel (key : String) (isConsented : Bool)
  | constructReset (world : World)
  | incrementModelInferenceCount (key : String)
  | listModels
  | takeInferenceCount
  | drawReset (random : ℚ)
  | backgroundReset

variable (s : System Request Model) (sidecar : Sidecar Request Model World)

/-- A call of `PutModel` goes on in its next phase, or returns an error. -/
def proceed (call : ℕ) (key : String) (request : Request) :
    Except Status (PutPhase Model) → System Request Model
  | .ok phase => { s with puts := s.puts.insert call ⟨key, request, phase⟩ }
  | .error _ => { s with puts := s.puts.erase call }

/-- The section of `PutModel`: the maps are written unless the request is cancelled. -/
def commitPut (call : ℕ) (key : String) (request : Request) (prodModel consentedModel : Model)
    (cancelled : Bool) : System Request Model where
  store := if cancelled then s.store else s.store.putModel key request prodModel consentedModel
  puts := s.puts.erase call
  reset := s.reset
  background := s.background
  terminated := s.terminated

def deleteModel (key : String) : System Request Model :=
  match s.store.deleteModel key with
  | .ok store => { s with store := store }
  | .error _ => s

/-- `ResetModel` returns. -/
def resetDone (inBackground : Bool) : System Request Model :=
  { s with
    reset := none
    background := if inBackground then .visiting s.background.models else s.background }

/-- `ResetModel` to its construction: nothing is to be done for a key that is not
registered. -/
def lockReset (key : String) (isConsented inBackground : Bool) : System Request Model :=
  match s.store.modelDataMap.lookup key with
  | none => s.resetDone inBackground
  | some request => { s with reset := some ⟨key, isConsented, request, inBackground⟩ }

/-- The rest of `ResetModel`. An error ends the process where `ResetModels` gets it. -/
def constructReset (call : ResetCall Request) (world : World) : System Request Model :=
  match sidecar.modelConstructor call.request world with
  | .ok model =>
    { s.resetDone call.inBackground with
      store := s.store.resetModel call.key call.isConsented model }
  | .error _ => { s.resetDone call.inBackground with terminated := call.inBackground }

def takeInferenceCount (modelKey : String) (models : List String) : System Request Model :=
  { s with
    store := (s.store.takeInferenceCount modelKey).2
    background := .counted (s.store.takeInferenceCount modelKey).1 modelKey models }

/-- Whether the model is reset is drawn, the likelier the more inferences it has made. -/
def drawReset (count : ℤ) (modelKey : String) (models : List String) (random : ℚ) :
    System Request Model :=
  { s with
    background :=
      if count ≤ 0 ∨ (sidecar.modelResetProbability ≠ 1 ∧
          sidecar.modelResetProbability * count ≤ random) then .visiting models
      else .resetting modelKey models }

/-- The sections, where their calls and their locks allow them. -/
def step (s : System Request Model) (event : Event Request World) :
    Option (System Request Model) :=
  if s.terminated then none
  else match event with
    | .putModel call key request cancelled =>
      if call ∈ s.puts then none
      else some (s.proceed call key request <|
        if cancelled then .error (cancelledError .kModelPutPreLock) else .ok .constructingProd)
    | .constructProd call world =>
      match s.puts.lookup call with
      | some ⟨key, request, .constructingProd⟩ =>
        some (s.proceed call key request
          ((sidecar.modelConstructor request world).map .constructingConsented))
      | _ => none
    | .constructConsented call world =>
      match s.puts.lookup call with
      | some ⟨key, request, .constructingConsented prodModel⟩ =>
        some (s.proceed call key request
          ((sidecar.modelConstructor request world).map (.committing prodModel)))
      | _ => none
    | .commitPut call cancelled =>
      match s.reset, s.puts.lookup call with
      | none, some ⟨key, request, .committing prodModel consentedModel⟩ =>
        some (s.commitPut call key request prodModel consentedModel cancelled)
      | _, _ => none
    | .getModel _ _ => some s
    | .deleteModel key => if s.reset.isSome then none else some (s.deleteModel key)
    | .resetModel key isConsented =>
      if s.reset.isSome then none else some (s.lockReset key isConsented false)
    | .constructReset world => s.reset.map fun call => s.constructReset sidecar call world
    | .incrementModelInferenceCount key =>
      some { s with store := s.store.incrementModelInferenceCount key }
    | .listModels =>
      match s.reset, s.background with
      | none, .visiting [] =>
        if sidecar.modelResetProbability = 0 then none
        else some { s with background := .visiting s.store.listModels }
      | _, _ => none
    | .takeInferenceCount =>
      match s.background with
      | .visiting (modelKey :: models) => some (s.takeInferenceCount modelKey models)
      | _ => none
    | .drawReset random =>
      match s.background with
      | .counted count modelKey models => some (s.drawReset sidecar count modelKey models random)
      | _ => none
    | .backgroundReset =>
      match s.reset, s.background with
      | none, .resetting modelKey _ => some (s.lockReset modelKey false true)
      | _, _ => none

def system : LTS (System Request Model) (Event Request World) :=
  .ofStep (· = {}) (step sidecar)

end System

/-! ## What the maps agree on -/

def SameKeys {K V W : Type} (m : FlatHashMap K V) (m' : FlatHashMap K W) : Prop :=
  ∀ k, k ∈ m ↔ k ∈ m'

namespace SameKeys

variable {K V W : Type} [DecidableEq K] {m : FlatHashMap K V} {m' : FlatHashMap K W}

theorem insert (h : SameKeys m m') (k : K) (v : V) (w : W) :
    SameKeys (m.insert k v) (m'.insert k w) := by
  intro k'
  rw [AList.mem_insert, AList.mem_insert, h k']

theorem insert_of_mem (h : SameKeys m m') {k : K} (hk : k ∈ m') (v : V) :
    SameKeys (m.insert k v) m' := by
  intro k'
  rw [AList.mem_insert, h k']
  constructor
  · rintro (rfl | hmem)
    · exact hk
    · exact hmem
  · exact .inr

theorem erase (h : SameKeys m m') (k : K) : SameKeys (m.erase k) (m'.erase k) := by
  intro k'
  rw [AList.mem_erase, AList.mem_erase, h k']

end SameKeys

variable {sidecar : Sidecar Request Model World}

/-- All maps have the same keys, and the models of a key were constructed from its
request. -/
structure ModelStore.IsConsistent (sidecar : Sidecar Request Model World)
    (store : ModelStore Request Model) : Prop where
  keys : ∀ isConsented, SameKeys (store.modelMap isConsented) store.modelDataMap
  countKeys : SameKeys store.perModelInferenceCount store.modelDataMap
  constructed : ∀ isConsented key request model, store.modelDataMap.lookup key = some request →
    (store.modelMap isConsented).lookup key = some model → sidecar.Constructed request model

namespace ModelStore

variable {store : ModelStore Request Model}

theorem modelMap_putModel {key : String} {request : Request} {prodModel consentedModel : Model}
    (isConsented : Bool) :
    (store.putModel key request prodModel consentedModel).modelMap isConsented =
      (store.modelMap isConsented).insert key
        (if isConsented then consentedModel else prodModel) := by
  cases isConsented <;> rfl

theorem modelMap_resetModel_self {key : String} {isConsented : Bool} {model : Model} :
    (store.resetModel key isConsented model).modelMap isConsented =
      (store.modelMap isConsented).insert key model := by
  cases isConsented <;> rfl

theorem modelMap_resetModel_of_ne {key : String} {isConsented other : Bool} {model : Model}
    (hne : other ≠ isConsented) :
    (store.resetModel key isConsented model).modelMap other = store.modelMap other := by
  cases isConsented <;> cases other
  · exact absurd rfl hne
  · rfl
  · rfl
  · exact absurd rfl hne

@[simp] theorem modelDataMap_resetModel {key : String} {isConsented : Bool} {model : Model} :
    (store.resetModel key isConsented model).modelDataMap = store.modelDataMap := by
  cases isConsented <;> rfl

@[simp] theorem perModelInferenceCount_resetModel {key : String} {isConsented : Bool}
    {model : Model} : (store.resetModel key isConsented model).perModelInferenceCount =
      store.perModelInferenceCount := by
  cases isConsented <;> rfl

theorem IsConsistent.putModel (h : store.IsConsistent sidecar) {key : String} {request : Request}
    {prodModel consentedModel : Model} (hprod : sidecar.Constructed request prodModel)
    (hconsented : sidecar.Constructed request consentedModel) :
    (store.putModel key request prodModel consentedModel).IsConsistent sidecar where
  keys isConsented := by
    rw [modelMap_putModel]
    exact (h.keys isConsented).insert key _ _
  countKeys := h.countKeys.insert key _ _
  constructed isConsented key' request' model hrequest hmodel := by
    rw [modelMap_putModel] at hmodel
    by_cases hkey : key' = key
    · subst hkey
      rw [AList.lookup_insert] at hmodel
      rw [show (store.putModel key' request prodModel consentedModel).modelDataMap.lookup key' =
        some request from AList.lookup_insert _] at hrequest
      cases hrequest
      cases hmodel
      cases isConsented
      · exact hprod
      · exact hconsented
    · rw [AList.lookup_insert_ne hkey] at hmodel
      rw [show (store.putModel key request prodModel consentedModel).modelDataMap.lookup key' =
        store.modelDataMap.lookup key' from AList.lookup_insert_ne hkey] at hrequest
      exact h.constructed isConsented key' request' model hrequest hmodel

theorem IsConsistent.resetModel (h : store.IsConsistent sidecar) {key : String}
    {request : Request} (hkey : store.modelDataMap.lookup key = some request)
    (isConsented : Bool) {model : Model} (hmodel : sidecar.Constructed request model) :
    (store.resetModel key isConsented model).IsConsistent sidecar where
  keys other := by
    have hmem : key ∈ store.modelDataMap := AList.lookup_isSome.mp (hkey ▸ rfl)
    rw [modelDataMap_resetModel]
    by_cases hother : other = isConsented
    · rw [hother, modelMap_resetModel_self]
      exact (h.keys isConsented).insert_of_mem hmem model
    · rw [modelMap_resetModel_of_ne hother]
      exact h.keys other
  countKeys := by
    rw [modelDataMap_resetModel, perModelInferenceCount_resetModel]
    exact h.countKeys
  constructed other key' request' model' hrequest hlookup := by
    rw [modelDataMap_resetModel] at hrequest
    by_cases hother : other = isConsented
    · rw [hother, modelMap_resetModel_self] at hlookup
      by_cases hkey' : key' = key
      · subst hkey'
        rw [AList.lookup_insert] at hlookup
        cases hlookup
        cases hkey.symm.trans hrequest
        exact hmodel
      · rw [AList.lookup_insert_ne hkey'] at hlookup
        exact h.constructed isConsented key' request' model' hrequest hlookup
    · rw [modelMap_resetModel_of_ne hother] at hlookup
      exact h.constructed other key' request' model' hrequest hlookup

theorem IsConsistent.deleteModel (h : store.IsConsistent sidecar) {key : String}
    {store' : ModelStore Request Model} (hdelete : store.deleteModel key = .ok store') :
    store'.IsConsistent sidecar := by
  unfold ModelStore.deleteModel at hdelete
  split at hdelete
  · cases hdelete
  · cases hdelete
    refine ⟨?_, h.countKeys.erase key, ?_⟩
    · rintro (_ | _)
      · exact (h.keys false).erase key
      · exact (h.keys true).erase key
    · intro isConsented key' request model hrequest hmodel
      have hne : key' ≠ key := by
        rintro rfl
        rw [show AList.lookup key' (store.modelDataMap.erase key') = none from
          AList.lookup_erase _ _] at hrequest
        cases hrequest
      apply h.constructed isConsented key' request model
      · rwa [← AList.lookup_erase_ne hne]
      · cases isConsented
        · exact (AList.lookup_erase_ne hne).symm.trans hmodel
        · exact (AList.lookup_erase_ne hne).symm.trans hmodel

theorem IsConsistent.setInferenceCount (h : store.IsConsistent sidecar) (key : String)
    (count : ℤ → ℤ) : (store.setInferenceCount key count).IsConsistent sidecar := by
  unfold ModelStore.setInferenceCount
  split
  · exact h
  · rename_i old hold
    have hmem : key ∈ store.modelDataMap :=
      (h.countKeys key).mp (AList.lookup_isSome.mp (hold ▸ rfl))
    exact ⟨h.keys, h.countKeys.insert_of_mem hmem _, h.constructed⟩

@[simp] theorem modelDataMap_setInferenceCount {key : String} {count : ℤ → ℤ} :
    (store.setInferenceCount key count).modelDataMap = store.modelDataMap := by
  unfold ModelStore.setInferenceCount
  split
  · rfl
  · rfl

end ModelStore

/-! ## The sections keep it -/

theorem exists_of_map_eq_ok {ε α β : Type} {result : Except ε α} {f : α → β} {b : β}
    (h : result.map f = .ok b) : ∃ a, result = .ok a ∧ f a = b := by
  cases result with
  | error error => cases h
  | ok a =>
    cases h
    exact ⟨a, rfl, rfl⟩

/-- What a call of `PutModel` holds was constructed from its request. -/
def PutCall.Holds (sidecar : Sidecar Request Model World) (put : PutCall Request Model) : Prop :=
  match put.phase with
  | .constructingProd => True
  | .constructingConsented prodModel => sidecar.Constructed put.request prodModel
  | .committing prodModel consentedModel =>
    sidecar.Constructed put.request prodModel ∧ sidecar.Constructed put.request consentedModel

namespace System

variable {s s' : System Request Model}

structure Invariant (sidecar : Sidecar Request Model World) (s : System Request Model) : Prop where
  store : s.store.IsConsistent sidecar
  puts : ∀ call put, s.puts.lookup call = some put → put.Holds sidecar
  /-- The lock keeps the request that a reset has found. -/
  reset : ∀ call, s.reset = some call →
    s.store.modelDataMap.lookup call.key = some call.request

theorem Invariant.init : Invariant sidecar ({} : System Request Model) where
  store := by
    refine ⟨?_, ?_, ?_⟩
    · rintro (_ | _) key
      · exact iff_of_false (AList.notMem_empty key) (AList.notMem_empty key)
      · exact iff_of_false (AList.notMem_empty key) (AList.notMem_empty key)
    · exact fun key => iff_of_false (AList.notMem_empty key) (AList.notMem_empty key)
    · intro isConsented key request model hrequest
      cases hrequest
  puts call put hput := by cases hput
  reset call hreset := by cases hreset

/-- Sections that write neither the calls of `PutModel` nor the registrations. -/
theorem Invariant.of_store (h : s.Invariant sidecar) {store' : ModelStore Request Model}
    (hstore : store'.IsConsistent sidecar) (hdata : store'.modelDataMap = s.store.modelDataMap)
    (background : Background) :
    Invariant sidecar { s with store := store', background := background } where
  store := hstore
  puts := h.puts
  reset call hreset := by
    show store'.modelDataMap.lookup call.key = some call.request
    rw [hdata]
    exact h.reset call hreset

theorem Invariant.proceed (h : s.Invariant sidecar) (call : ℕ) (key : String) (request : Request)
    {result : Except Status (PutPhase Model)}
    (hphase : ∀ phase, result = .ok phase → (PutCall.mk key request phase).Holds sidecar) :
    (s.proceed call key request result).Invariant sidecar := by
  cases result with
  | error error =>
    refine ⟨h.store, fun call' put hput => ?_, h.reset⟩
    by_cases hcall : call' = call
    · subst hcall
      rw [show (s.proceed call' key request (.error error)).puts.lookup call' = none from
        AList.lookup_erase _ _] at hput
      cases hput
    · exact h.puts call' put ((AList.lookup_erase_ne hcall).symm.trans hput)
  | ok phase =>
    refine ⟨h.store, fun call' put hput => ?_, h.reset⟩
    by_cases hcall : call' = call
    · subst hcall
      rw [show (s.proceed call' key request (.ok phase)).puts.lookup call' =
        some ⟨key, request, phase⟩ from AList.lookup_insert _] at hput
      cases hput
      exact hphase phase rfl
    · exact h.puts call' put ((AList.lookup_insert_ne hcall).symm.trans hput)

theorem Invariant.commitPut (h : s.Invariant sidecar) (hreset : s.reset = none) {call : ℕ}
    {key : String} {request : Request} {prodModel consentedModel : Model}
    (hput : s.puts.lookup call = some ⟨key, request, .committing prodModel consentedModel⟩)
    (cancelled : Bool) :
    (s.commitPut call key request prodModel consentedModel cancelled).Invariant sidecar where
  store := by
    cases cancelled
    · have hholds := h.puts call _ hput
      exact h.store.putModel hholds.1 hholds.2
    · exact h.store
  puts call' put' hput' := by
    have hne : call' ≠ call := by
      rintro rfl
      have hnone : (s.puts.erase call').lookup call' = none := AList.lookup_erase _ _
      cases hnone.symm.trans hput'
    exact h.puts call' put' ((AList.lookup_erase_ne hne).symm.trans hput')
  reset call' hcall' := by cases hreset.symm.trans hcall'

theorem Invariant.deleteModel (h : s.Invariant sidecar) (hreset : s.reset = none) (key : String) :
    (s.deleteModel key).Invariant sidecar := by
  unfold System.deleteModel
  split
  · rename_i store' hdelete
    refine ⟨h.store.deleteModel hdelete, h.puts, fun call hcall => ?_⟩
    cases hreset.symm.trans hcall
  · exact h

theorem Invariant.resetDone (h : s.Invariant sidecar) (inBackground : Bool) :
    (s.resetDone inBackground).Invariant sidecar :=
  ⟨h.store, h.puts, nofun⟩

theorem Invariant.lockReset (h : s.Invariant sidecar) (key : String)
    (isConsented inBackground : Bool) :
    (s.lockReset key isConsented inBackground).Invariant sidecar := by
  unfold System.lockReset
  split
  · exact h.resetDone inBackground
  · rename_i request hrequest
    refine ⟨h.store, h.puts, fun call hcall => ?_⟩
    cases hcall
    exact hrequest

theorem Invariant.constructReset (h : s.Invariant sidecar) {call : ResetCall Request}
    (hcall : s.reset = some call) (world : World) :
    (s.constructReset sidecar call world).Invariant sidecar := by
  unfold System.constructReset
  split
  · rename_i model hmodel
    exact ⟨h.store.resetModel (h.reset call hcall) call.isConsented ⟨world, hmodel⟩, h.puts,
      nofun⟩
  · exact ⟨h.store, h.puts, nofun⟩

theorem step_invariant {event : Event Request World} (h : s.Invariant sidecar)
    (hstep : step sidecar s event = some s') : s'.Invariant sidecar := by
  unfold step at hstep
  split at hstep
  · cases hstep
  · cases event with
    | putModel call key request cancelled =>
      simp only [Option.ite_none_left_eq_some, Option.some.injEq] at hstep
      obtain ⟨-, rfl⟩ := hstep
      refine h.proceed call key request fun phase hphase => ?_
      cases cancelled
      · cases hphase
        trivial
      · cases hphase
    | constructProd call world =>
      simp only at hstep
      split at hstep
      · rename_i key request hput
        cases hstep
        refine h.proceed call key request fun phase hphase => ?_
        obtain ⟨prodModel, hprod, rfl⟩ := exists_of_map_eq_ok hphase
        exact ⟨world, hprod⟩
      · cases hstep
    | constructConsented call world =>
      simp only at hstep
      split at hstep
      · rename_i key request prodModel hput
        cases hstep
        refine h.proceed call key request fun phase hphase => ?_
        obtain ⟨consentedModel, hconsented, rfl⟩ := exists_of_map_eq_ok hphase
        exact ⟨h.puts call _ hput, world, hconsented⟩
      · cases hstep
    | commitPut call cancelled =>
      simp only at hstep
      split at hstep
      · rename_i key request prodModel consentedModel hreset hput
        cases hstep
        exact h.commitPut hreset hput cancelled
      · cases hstep
    | getModel key isConsented =>
      cases hstep
      exact h
    | deleteModel key =>
      simp only [Option.ite_none_left_eq_some, Option.some.injEq, Option.isSome_iff_ne_none,
        not_not] at hstep
      obtain ⟨hreset, rfl⟩ := hstep
      exact h.deleteModel hreset key
    | resetModel key isConsented =>
      simp only [Option.ite_none_left_eq_some, Option.some.injEq] at hstep
      obtain ⟨-, rfl⟩ := hstep
      exact h.lockReset key isConsented false
    | constructReset world =>
      obtain ⟨call, hcall, rfl⟩ := Option.map_eq_some_iff.mp hstep
      exact h.constructReset hcall world
    | incrementModelInferenceCount key =>
      cases hstep
      exact h.of_store (h.store.setInferenceCount key _)
        ModelStore.modelDataMap_setInferenceCount _
    | listModels =>
      simp only at hstep
      split at hstep
      · simp only [Option.ite_none_left_eq_some, Option.some.injEq] at hstep
        obtain ⟨-, rfl⟩ := hstep
        exact h.of_store h.store rfl _
      · cases hstep
    | takeInferenceCount =>
      simp only at hstep
      split at hstep
      · rename_i modelKey models hbackground
        cases hstep
        exact h.of_store (h.store.setInferenceCount modelKey _)
          ModelStore.modelDataMap_setInferenceCount _
      · cases hstep
    | drawReset random =>
      simp only at hstep
      split at hstep
      · cases hstep
        exact h.of_store h.store rfl _
      · cases hstep
    | backgroundReset =>
      simp only at hstep
      split at hstep
      · rename_i modelKey models hreset hbackground
        cases hstep
        exact h.lockReset modelKey false true
      · cases hstep

theorem run_invariant {trace : List (Event Request World)}
    (run : (system sidecar).Run trace s) : s.Invariant sidecar := by
  refine run.invariant (I := fun _ s => s.Invariant sidecar) ?_ ?_
  · rintro _ rfl
    exact .init
  · exact fun _ _ _ _ h _ hstep => step_invariant h hstep

/-- In every reachable state the maps have the same keys, and both models of a key were
constructed from the request that is registered for it. -/
theorem storeIsConsistent {trace : List (Event Request World)}
    (run : (system sidecar).Run trace s) :
    (∀ key, (key ∈ s.store.prodModelMap ↔ key ∈ s.store.modelDataMap) ∧
      (key ∈ s.store.consentedModelMap ↔ key ∈ s.store.modelDataMap) ∧
      (key ∈ s.store.perModelInferenceCount ↔ key ∈ s.store.modelDataMap)) ∧
    ∀ key request, s.store.modelDataMap.lookup key = some request →
      ∃ prodModel consentedModel, s.store.prodModelMap.lookup key = some prodModel ∧
        s.store.consentedModelMap.lookup key = some consentedModel ∧
        sidecar.Constructed request prodModel ∧ sidecar.Constructed request consentedModel := by
  have h := (run_invariant run).store
  constructor
  · exact fun key => ⟨h.keys false key, h.keys true key, h.countKeys key⟩
  · intro key request hrequest
    have hmem : key ∈ s.store.modelDataMap := AList.lookup_isSome.mp (hrequest ▸ rfl)
    obtain ⟨prodModel, hprod⟩ :=
      Option.isSome_iff_exists.mp (AList.lookup_isSome.mpr ((h.keys false key).mpr hmem))
    obtain ⟨consentedModel, hconsented⟩ :=
      Option.isSome_iff_exists.mp (AList.lookup_isSome.mpr ((h.keys true key).mpr hmem))
    exact ⟨prodModel, consentedModel, hprod, hconsented,
      h.constructed false key request prodModel hrequest hprod,
      h.constructed true key request consentedModel hrequest hconsented⟩

section Example

/-- A constructor that keeps its request, and the moment it was called at. -/
def exampleSidecar : Sidecar String (String × ℕ) ℕ where
  modelConstructor request world := .ok (request, world)
  modelResetProbability := 1

/-- A model is put anew while a reset of it has been drawn; another put waits while the
reset constructs, and is cancelled. -/
def exampleEvents : List (Event String ℕ) :=
  [.putModel 0 "m" "a" false, .constructProd 0 1, .constructConsented 0 2, .commitPut 0 false,
    .incrementModelInferenceCount "m", .listModels, .takeInferenceCount,
    .putModel 1 "m" "b" false, .putModel 2 "n" "c" false, .constructProd 1 3, .drawReset 0,
    .constructConsented 1 4, .constructProd 2 5, .commitPut 1 false, .constructConsented 2 6,
    .backgroundReset, .getModel "m" true, .constructReset 7, .commitPut 2 true]

theorem storeIsConsistent_example : ∃ s, exampleEvents.foldlM (step exampleSidecar) {} = some s ∧
    s.store.modelDataMap.lookup "m" = some "b" ∧ s.store.prodModelMap.lookup "m" = some ("b", 7) ∧
    ∀ key, (key ∈ s.store.prodModelMap ↔ key ∈ s.store.modelDataMap) ∧
      (key ∈ s.store.consentedModelMap ↔ key ∈ s.store.modelDataMap) ∧
      (key ∈ s.store.perModelInferenceCount ↔ key ∈ s.store.modelDataMap) := by
  have hlast : ∃ s, exampleEvents.foldlM (step exampleSidecar) {} = some s ∧
      s.store.modelDataMap.lookup "m" = some "b" ∧
      s.store.prodModelMap.lookup "m" = some ("b", 7) := ⟨_, rfl, rfl, rfl⟩
  obtain ⟨s, hs, hdata, hprod⟩ := hlast
  have run := LTS.run_of_foldlM (.start (T := system exampleSidecar) rfl) hs
  exact ⟨s, hs, hdata, hprod, (storeIsConsistent run).1⟩

end Example

end System

end InferenceSidecar

end BiddingAuction
