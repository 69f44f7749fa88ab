import BiddingAuction.Inference.TensorFlow

/-!
# The models that are served

A registration that finds only files of its own names in its directory, and that no other
one writes a different file into, loads exactly its own files, every time. What it was
validated on is then what it serves, after a reset too.
-/

namespace BiddingAuction

open Foundation

namespace Inference

/-! ## Files that are read -/

/-- Apart from the files yet to be written, a directory holds what a request has for it. -/
def Agrees (request : RegisterModelRequest) (pending : List File)
    (ram : RamFileSystem) : Prop :=
  ∀ file, isUnder request.modelPath file = true → file ∉ pending.keys →
    ram.lookup file = request.modelFiles.lookup file

theorem filesUnder_of_agrees {request : RegisterModelRequest} {ram : RamFileSystem}
    (h : Agrees request [] ram) :
    filesUnder request.modelPath ram = filesUnder request.modelPath request.modelFiles := by
  funext file
  unfold filesUnder
  split
  · rename_i hunder
    exact h file hunder (by simp)
  · rfl

/-- A write leaves to a request what it reads exactly if the file is the one of the
request, or yet to be written. -/
theorem agrees_insert_iff {request : RegisterModelRequest} {pending : List File}
    {ram : RamFileSystem} {file : File} (h : Agrees request pending ram) :
    Agrees request pending (ram.insert file.1 file.2) ↔
      (isUnder request.modelPath file.1 = true →
        file.1 ∈ pending.keys ∨ request.modelFiles.lookup file.1 = some file.2) := by
  constructor
  · intro hafter hunder
    by_cases hpending : file.1 ∈ pending.keys
    · exact .inl hpending
    · have hlookup := hafter file.1 hunder hpending
      rw [AList.lookup_insert] at hlookup
      exact .inr hlookup.symm
  · intro hfile other hunder hother
    by_cases hsame : other = file.1
    · subst hsame
      rw [AList.lookup_insert]
      rcases hfile hunder with hpending | hlookup
      · exact absurd hpending hother
      · exact hlookup.symm
    · rw [AList.lookup_insert_ne hsame]
      exact h other hunder hother

theorem Agrees.write_head {request : RegisterModelRequest}
    {file : File} {rest : List File} {ram : RamFileSystem}
    (h : Agrees request (file :: rest) ram)
    (hsuffix : file :: rest <:+ request.modelFiles.entries) :
    Agrees request rest (ram.insert file.1 file.2) := by
  intro other hunder hother
  by_cases hsame : other = file.1
  · subst hsame
    have hmem : file ∈ request.modelFiles.entries := hsuffix.subset List.mem_cons_self
    rw [AList.lookup_insert, ← Option.mem_def.mp (AList.mem_lookup_iff.mpr hmem)]
  · rw [AList.lookup_insert_ne hsame]
    refine h other hunder ?_
    rw [List.keys_cons, List.mem_cons, not_or]
    exact ⟨hsame, hother⟩

namespace TensorFlow

variable (tf : TensorFlow) {request : RegisterModelRequest} {ram ram' : RamFileSystem}

theorem load_congr {path : String} (h : filesUnder path ram = filesUnder path ram') :
    tf.load path ram = tf.load path ram' := by
  unfold load
  rw [h]

theorem modelConstructor_congr
    (h : filesUnder request.modelPath ram = filesUnder request.modelPath ram') :
    tf.modelConstructor request ram = tf.modelConstructor request ram' := by
  unfold modelConstructor
  rw [tf.load_congr h]

theorem isModelAllowed_congr
    (h : filesUnder request.modelPath ram = filesUnder request.modelPath ram') :
    tf.isModelAllowed request ram = tf.isModelAllowed request ram' := by
  unfold isModelAllowed
  rw [tf.load_congr h]

theorem files_of_load {path : String} {model : SavedModelBundle}
    (h : tf.load path ram = .ok model) : model.files = filesUnder path ram := by
  unfold load at h
  split at h
  · cases h
    rfl
  · cases h

theorem files_of_modelConstructor {model : SavedModelBundle}
    (h : tf.modelConstructor request ram = .ok model) :
    model.files = filesUnder request.modelPath ram := by
  unfold modelConstructor at h
  cases hload : tf.load request.modelPath ram with
  | error error =>
    rw [hload] at h
    cases h
  | ok loaded =>
    rw [hload] at h
    have hfiles := tf.files_of_load hload
    dsimp only [bind, Except.bind] at h
    split at h
    · cases h
    · rename_i frozen _
      cases hwarm : tf.warmUpBatch request frozen with
      | error error =>
        rw [hwarm] at h
        cases h
      | ok u =>
        rw [hwarm] at h
        cases h
        exact hfiles

end TensorFlow

/-! ## The invariant -/

def Allowed (tf : TensorFlow) (request : RegisterModelRequest) : Prop :=
  tf.isModelAllowed request request.modelFiles = .ok ()

/-- A model is what is constructed from the files of the request, and no others. -/
def Constructed (tf : TensorFlow) (request : RegisterModelRequest) (model : SavedModelBundle) :
    Prop :=
  tf.modelConstructor request.modelRequest request.modelFiles = .ok model

namespace RegisterCall

def pending (c : RegisterCall) : List File :=
  match c.phase with
  | .creatingDir => c.request.modelFiles.entries
  | .saving files => files
  | _ => []

/-- What a call has validated and constructed so far is of its own files. -/
def Progress (tf : TensorFlow) (c : RegisterCall) : Prop :=
  match c.phase with
  | .creatingDir | .saving _ | .validating => True
  | .constructingProd => Allowed tf c.request
  | .constructingConsented prod => Allowed tf c.request ∧ Constructed tf c.request prod
  | .putting prod consented =>
    Allowed tf c.request ∧ Constructed tf c.request prod ∧ Constructed tf c.request consented

structure Inv (tf : TensorFlow) (ram : RamFileSystem) (c : RegisterCall) : Prop where
  suffix : c.pending <:+ c.request.modelFiles.entries
  agrees : Agrees c.request c.pending ram
  progress : c.Progress tf

end RegisterCall

namespace TensorflowModule

/-- Every call that is under way and every registered request finds its own files; the
store holds models of the registered requests. -/
structure Inv (tf : TensorFlow) (m : TensorflowModule) : Prop where
  calls : m.terminated = false → ∀ call c, m.calls.lookup call = some c → c.Inv tf m.ram
  agrees : m.terminated = false → ∀ key request, m.registrations.lookup key = some request →
    Agrees request [] m.ram
  registered : ∀ key request, m.registrations.lookup key = some request →
    request.modelPath = key ∧ Allowed tf request
  data : ∀ key, m.store.modelDataMap.lookup key =
    (m.registrations.lookup key).map RegisterModelRequest.modelRequest
  models : ∀ isConsented key model, (m.store.modelMap isConsented).lookup key = some model →
    ∃ request, m.registrations.lookup key = some request ∧ Constructed tf request model

/-! ## What a step may do -/

/-- A file may be written where every other request with the directory has the same file,
or has yet to write it. -/
def MeetsWrite (m : TensorflowModule) (file : File) : Prop :=
  (∀ e ∈ m.registrations.entries, isUnder e.2.modelPath file.1 = true →
    e.2.modelFiles.lookup file.1 = some file.2) ∧
  ∀ e ∈ m.calls.entries, isUnder e.2.request.modelPath file.1 = true →
    file.1 ∈ e.2.pending.keys ∨ e.2.request.modelFiles.lookup file.1 = some file.2

/-- A registration starts where the files in its directory are all files of its names. -/
def MeetsStart (m : TensorflowModule) (request : RegisterModelRequest) : Prop :=
  ∀ file ∈ m.ram.keys, isUnder request.modelPath file = true → file ∈ request.modelFiles.keys

def nextFile? (m : TensorflowModule) (call : ℕ) : Option File :=
  (m.calls.lookup call).bind fun c => c.pending.head?

def Meets (m : TensorflowModule) : Event → Prop
  | .registerModel _ request cancelled =>
    (m.checkRegisterModel request cancelled).isOk = true → m.MeetsStart request
  | .writeFile call none => ∀ file ∈ m.nextFile? call, m.MeetsWrite file
  | _ => True

instance (m : TensorflowModule) (file : File) :
    Decidable (m.MeetsWrite file) :=
  inferInstanceAs (Decidable (_ ∧ _))

instance (m : TensorflowModule) (request : RegisterModelRequest) :
    Decidable (m.MeetsStart request) :=
  inferInstanceAs (Decidable (∀ file ∈ m.ram.keys, _ → _))

instance (m : TensorflowModule) : DecidablePred m.Meets
  | .registerModel _ _ _ => inferInstanceAs (Decidable (_ → _))
  | .writeFile call none =>
    inferInstanceAs (Decidable (∀ file ∈ m.nextFile? call, m.MeetsWrite file))
  | .writeFile _ (some _) | .createDir _ _ | .isModelAllowed _ | .constructProd _ _
  | .constructConsented _ | .putModel _ _ | .deleteModel _ _ | .resetModel _ _ | .destroy =>
    .isTrue trivial

/-- Every model that is served was constructed from the files of the request registered
for its path, and no others, and these files are allowed. -/
def Served (tf : TensorFlow) (m : TensorflowModule) : Prop :=
  ∀ key isConsented model, m.store.getModel key isConsented = .ok model →
    ∃ request, m.registrations.lookup key = some request ∧ request.modelPath = key ∧
      tf.modelConstructor request.modelRequest request.modelFiles = .ok model ∧
      model.files = filesUnder key request.modelFiles ∧
      tf.isModelAllowed request request.modelFiles = .ok ()

theorem Inv.served {tf : TensorFlow} {m : TensorflowModule} (h : m.Inv tf) : m.Served tf := by
  intro key isConsented model hmodel
  unfold ModelStore.getModel at hmodel
  split at hmodel
  · rename_i hlookup
    cases hmodel
    obtain ⟨request, hrequest, hconstructed⟩ := h.models isConsented key model hlookup
    obtain ⟨hpath, hallowed⟩ := h.registered key request hrequest
    have hfiles := tf.files_of_modelConstructor hconstructed
    refine ⟨request, hrequest, hpath, hconstructed, ?_, hallowed⟩
    rw [hfiles, ← hpath]
    rfl
  · cases hmodel

/-! ## Steps -/

section Steps

variable {tf : TensorFlow} {m : TensorflowModule} {call : ℕ} {request : RegisterModelRequest}

theorem Inv.setPhase {phase : RegisterPhase} (h : m.Inv tf)
    (hcall : m.terminated = false → RegisterCall.Inv tf m.ram ⟨request, phase⟩) :
    (m.setPhase call request phase).Inv tf := by
  refine { h with calls := ?_ }
  intro hrunning other c hc
  change (m.calls.insert call ⟨request, phase⟩).lookup other = some c at hc
  by_cases hother : other = call
  · subst hother
    rw [AList.lookup_insert] at hc
    cases hc
    exact hcall hrunning
  · rw [AList.lookup_insert_ne hother] at hc
    exact h.calls hrunning other c hc

theorem Inv.answer {result : Except Status Unit} (h : m.Inv tf) :
    (m.answer call result).Inv tf := by
  refine { h with calls := ?_ }
  intro hrunning other c hc
  change (m.calls.erase call).lookup other = some c at hc
  by_cases hother : other = call
  · subst hother
    rw [AList.lookup_erase] at hc
    cases hc
  · rw [AList.lookup_erase_ne hother] at hc
    exact h.calls hrunning other c hc

theorem Inv.proceed {next : Except Status RegisterPhase} (h : m.Inv tf)
    (hnext : ∀ phase, next = .ok phase → m.terminated = false →
      RegisterCall.Inv tf m.ram ⟨request, phase⟩) : (m.proceed call request next).Inv tf := by
  cases next with
  | ok phase => exact h.setPhase (hnext phase rfl)
  | error error => exact h.answer

theorem modelConstructor_of_agrees {ram : RamFileSystem} (h : Agrees request [] ram) :
    tf.modelConstructor request.modelRequest ram =
      tf.modelConstructor request.modelRequest request.modelFiles :=
  tf.modelConstructor_congr (show filesUnder request.modelRequest.modelPath ram = _ from
    filesUnder_of_agrees h)

theorem phase_of_checkRegisterModel {cancelled : Bool} {phase : RegisterPhase}
    (h : m.checkRegisterModel request cancelled = .ok phase) : phase = .creatingDir := by
  unfold checkRegisterModel at h
  split at h
  · cases h
  · split at h
    · cases h
    · split at h
      · cases h
      · cases h
        rfl

/-- With all its files yet to be written, a request agrees with a directory exactly if
there are files of its names only. -/
theorem agrees_entries_iff :
    Agrees request request.modelFiles.entries m.ram ↔ m.MeetsStart request := by
  constructor
  · intro h file hfile hunder
    by_contra hpending
    have hlookup := h file hunder hpending
    rw [AList.lookup_eq_none.mpr fun hmem => hpending (AList.mem_keys.mp hmem)] at hlookup
    exact AList.lookup_eq_none.mp hlookup (AList.mem_keys.mpr hfile)
  · intro h file hunder hpending
    have hram : file ∉ m.ram := fun hmem => hpending (h file (AList.mem_keys.mp hmem) hunder)
    rw [AList.lookup_eq_none.mpr hram]
    exact (AList.lookup_eq_none.mpr fun hmem => hpending (AList.mem_keys.mp hmem)).symm

theorem registerModel_inv {cancelled : Bool} (h : m.Inv tf)
    (hmeets : m.Meets (.registerModel call request cancelled)) :
    (m.registerModel call request cancelled).Inv tf := by
  refine h.proceed fun phase hphase _ => ?_
  have hstart : m.MeetsStart request := hmeets (by rw [hphase]; rfl)
  cases phase_of_checkRegisterModel hphase
  exact ⟨List.suffix_refl _, agrees_entries_iff.mpr hstart, trivial⟩

theorem inv_nextFile {ram : RamFileSystem} {files : List File}
    (hsuffix : files <:+ request.modelFiles.entries) (hagrees : Agrees request files ram) :
    RegisterCall.Inv tf ram ⟨request, nextFile files⟩ := by
  cases files with
  | nil => exact ⟨hsuffix, hagrees, trivial⟩
  | cons file rest => exact ⟨hsuffix, hagrees, trivial⟩

theorem createDir_inv {error : Option Status} (h : m.Inv tf)
    (hcall : m.terminated = false → RegisterCall.Inv tf m.ram ⟨request, .creatingDir⟩) :
    (m.createDir call request error).Inv tf := by
  refine h.proceed fun phase hphase hrunning => ?_
  cases error with
  | some error => cases hphase
  | none =>
    cases hphase
    exact inv_nextFile (hcall hrunning).suffix (hcall hrunning).agrees

theorem Inv.write {file : File} (h : m.Inv tf)
    (hmeets : m.MeetsWrite file) :
    Inv tf { m with ram := m.ram.insert file.1 file.2 } := by
  obtain ⟨hregistered, hcalls⟩ := hmeets
  refine { h with calls := ?_, agrees := ?_ }
  · intro hrunning other c hc
    have hinv := h.calls hrunning other c hc
    have hmem : ⟨other, c⟩ ∈ m.calls.entries := AList.mem_lookup_iff.mp hc
    exact { hinv with agrees := (agrees_insert_iff hinv.agrees).mpr (hcalls ⟨other, c⟩ hmem) }
  · intro hrunning key registered hlookup
    have hmem : ⟨key, registered⟩ ∈ m.registrations.entries := AList.mem_lookup_iff.mp hlookup
    refine (agrees_insert_iff (h.agrees hrunning key registered hlookup)).mpr fun hunder => .inr ?_
    exact hregistered ⟨key, registered⟩ hmem hunder

theorem writeFile_inv {file : File}
    {rest : List File} {error : Option Status} (h : m.Inv tf)
    (hcall : m.terminated = false → RegisterCall.Inv tf m.ram ⟨request, .saving (file :: rest)⟩)
    (hmeets : error = none → m.MeetsWrite file) :
    (m.writeFile call request file rest error).Inv tf := by
  cases error with
  | some error => exact h.answer
  | none =>
    refine (h.write (hmeets rfl)).setPhase fun hrunning => ?_
    have hsuffix := (hcall hrunning).suffix
    exact inv_nextFile ((List.suffix_cons file rest).trans hsuffix)
      ((hcall hrunning).agrees.write_head hsuffix)

theorem isModelAllowed_inv (h : m.Inv tf)
    (hcall : m.terminated = false → RegisterCall.Inv tf m.ram ⟨request, .validating⟩) :
    (m.isModelAllowed tf call request).Inv tf := by
  refine h.proceed fun phase hphase hrunning => ?_
  obtain ⟨hsuffix, hagrees, -⟩ := hcall hrunning
  cases hallowed : tf.isModelAllowed request m.ram with
  | error error =>
    rw [hallowed] at hphase
    cases hphase
  | ok u =>
    rw [hallowed] at hphase
    cases hphase
    refine ⟨hsuffix, hagrees, ?_⟩
    show tf.isModelAllowed request request.modelFiles = .ok ()
    rw [← tf.isModelAllowed_congr (filesUnder_of_agrees hagrees), hallowed]

theorem constructProd_inv {cancelled : Bool} (h : m.Inv tf)
    (hcall : m.terminated = false → RegisterCall.Inv tf m.ram ⟨request, .constructingProd⟩) :
    (m.constructProd tf call request cancelled).Inv tf := by
  refine h.proceed fun phase hphase hrunning => ?_
  obtain ⟨hsuffix, hagrees, hallowed⟩ := hcall hrunning
  cases cancelled with
  | true => cases hphase
  | false =>
    cases hmodel : tf.modelConstructor request.modelRequest m.ram with
    | error error =>
      rw [if_neg Bool.false_ne_true, hmodel] at hphase
      cases hphase
    | ok model =>
      rw [if_neg Bool.false_ne_true, hmodel] at hphase
      cases hphase
      refine ⟨hsuffix, hagrees, hallowed, ?_⟩
      exact (modelConstructor_of_agrees hagrees).symm.trans hmodel

theorem constructConsented_inv {prod : SavedModelBundle} (h : m.Inv tf)
    (hcall : m.terminated = false →
      RegisterCall.Inv tf m.ram ⟨request, .constructingConsented prod⟩) :
    (m.constructConsented tf call request prod).Inv tf := by
  refine h.proceed fun phase hphase hrunning => ?_
  obtain ⟨hsuffix, hagrees, hallowed, hprod⟩ := hcall hrunning
  cases hmodel : tf.modelConstructor request.modelRequest m.ram with
  | error error =>
    rw [hmodel] at hphase
    cases hphase
  | ok model =>
    rw [hmodel] at hphase
    cases hphase
    refine ⟨hsuffix, hagrees, hallowed, hprod, ?_⟩
    exact (modelConstructor_of_agrees hagrees).symm.trans hmodel

theorem putModel_inv {prod consented : SavedModelBundle} {cancelled : Bool} (h : m.Inv tf)
    (hrunning : m.terminated = false)
    (hcall : RegisterCall.Inv tf m.ram ⟨request, .putting prod consented⟩) :
    (m.putModel call request prod consented cancelled).Inv tf := by
  unfold putModel
  split
  · exact h.answer
  · obtain ⟨-, hagrees, hallowed, hprod, hconsented⟩ := hcall
    refine Inv.answer ⟨h.calls, ?_, ?_, ?_, ?_⟩
    · intro _ key registered hlookup
      change (m.registrations.insert request.modelPath request).lookup key = some registered
        at hlookup
      by_cases hkey : key = request.modelPath
      · subst hkey
        rw [AList.lookup_insert] at hlookup
        cases hlookup
        exact hagrees
      · rw [AList.lookup_insert_ne hkey] at hlookup
        exact h.agrees hrunning key registered hlookup
    · intro key registered hlookup
      change (m.registrations.insert request.modelPath request).lookup key = some registered
        at hlookup
      by_cases hkey : key = request.modelPath
      · subst hkey
        rw [AList.lookup_insert] at hlookup
        cases hlookup
        exact ⟨rfl, hallowed⟩
      · rw [AList.lookup_insert_ne hkey] at hlookup
        exact h.registered key registered hlookup
    · intro key
      show (m.store.modelDataMap.insert request.modelPath request.modelRequest).lookup key =
        ((m.registrations.insert request.modelPath request).lookup key).map _
      by_cases hkey : key = request.modelPath
      · subst hkey
        rw [AList.lookup_insert, AList.lookup_insert]
        rfl
      · rw [AList.lookup_insert_ne hkey, AList.lookup_insert_ne hkey]
        exact h.data key
    · intro isConsented key model hlookup
      show ∃ registered, (m.registrations.insert request.modelPath request).lookup key = _ ∧ _
      by_cases hkey : key = request.modelPath
      · subst hkey
        refine ⟨request, AList.lookup_insert _, ?_⟩
        cases isConsented with
        | false =>
          change (m.store.prodModelMap.insert request.modelPath prod).lookup _ = _ at hlookup
          rw [AList.lookup_insert] at hlookup
          cases hlookup
          exact hprod
        | true =>
          change (m.store.consentedModelMap.insert request.modelPath consented).lookup _ = _
            at hlookup
          rw [AList.lookup_insert] at hlookup
          cases hlookup
          exact hconsented
      · rw [AList.lookup_insert_ne hkey]
        refine h.models isConsented key model ?_
        cases isConsented with
        | false =>
          change (m.store.prodModelMap.insert request.modelPath prod).lookup _ = _ at hlookup
          rwa [AList.lookup_insert_ne hkey] at hlookup
        | true =>
          change (m.store.consentedModelMap.insert request.modelPath consented).lookup _ = _
            at hlookup
          rwa [AList.lookup_insert_ne hkey] at hlookup

theorem modelMap_deleteModel {store store' : ModelStore} {key : String}
    (h : store.deleteModel key = .ok store') (isConsented : Bool) :
    store'.modelMap isConsented = (store.modelMap isConsented).erase key := by
  unfold ModelStore.deleteModel at h
  split at h
  · cases h
  · cases h
    cases isConsented <;> rfl

theorem modelDataMap_deleteModel {store store' : ModelStore} {key : String}
    (h : store.deleteModel key = .ok store') :
    store'.modelDataMap = store.modelDataMap.erase key := by
  unfold ModelStore.deleteModel at h
  split at h
  · cases h
  · cases h
    rfl

theorem deleteModel_inv {key : String} {cancelled : Bool} (h : m.Inv tf) :
    (m.deleteModel key cancelled).Inv tf := by
  unfold deleteModel
  split
  · exact { h with }
  · split
    · exact { h with }
    · rename_i store hdelete
      -- what is registered afterwards was registered before, for another path
      have hother : ∀ other registered, (m.registrations.erase key).lookup other = some registered →
          other ≠ key ∧ m.registrations.lookup other = some registered := by
        intro other registered hlookup
        by_cases hsame : other = key
        · subst hsame
          rw [AList.lookup_erase] at hlookup
          cases hlookup
        · rw [AList.lookup_erase_ne hsame] at hlookup
          exact ⟨hsame, hlookup⟩
      refine ⟨h.calls, ?_, ?_, ?_, ?_⟩
      · intro hrunning other registered hlookup
        exact h.agrees hrunning other registered (hother other registered hlookup).2
      · intro other registered hlookup
        exact h.registered other registered (hother other registered hlookup).2
      · intro other
        show store.modelDataMap.lookup other = ((m.registrations.erase key).lookup other).map _
        rw [modelDataMap_deleteModel hdelete]
        by_cases hsame : other = key
        · subst hsame
          rw [AList.lookup_erase, AList.lookup_erase]
          rfl
        · rw [AList.lookup_erase_ne hsame, AList.lookup_erase_ne hsame]
          exact h.data other
      · intro isConsented other model hlookup
        change (store.modelMap isConsented).lookup other = some model at hlookup
        rw [modelMap_deleteModel hdelete] at hlookup
        show ∃ registered, (m.registrations.erase key).lookup other = _ ∧ _
        by_cases hsame : other = key
        · subst hsame
          rw [AList.lookup_erase] at hlookup
          cases hlookup
        · rw [AList.lookup_erase_ne hsame] at hlookup ⊢
          exact h.models isConsented other model hlookup

theorem resetModel_cases {store store' : ModelStore} {ram : RamFileSystem} {key : String}
    {isConsented : Bool} (h : store.resetModel tf ram key isConsented = .ok store') :
    store' = store ∨ ∃ request model, store.modelDataMap.lookup key = some request ∧
      tf.modelConstructor request ram = .ok model ∧ store'.modelDataMap = store.modelDataMap ∧
      store'.modelMap isConsented = (store.modelMap isConsented).insert key model ∧
      store'.modelMap (!isConsented) = store.modelMap (!isConsented) := by
  unfold ModelStore.resetModel at h
  split at h
  · cases h
    exact .inl rfl
  · rename_i request hdata
    cases hmodel : tf.modelConstructor request ram with
    | error error =>
      rw [hmodel] at h
      cases h
    | ok model =>
      rw [hmodel] at h
      refine .inr ⟨request, model, hdata, hmodel, ?_⟩
      cases isConsented with
      | true =>
        cases h
        exact ⟨rfl, rfl, rfl⟩
      | false =>
        cases h
        exact ⟨rfl, rfl, rfl⟩

theorem resetModel_inv {key : String} {isConsented : Bool} (h : m.Inv tf)
    (hrunning : m.terminated = false) : (m.resetModel tf key isConsented).Inv tf := by
  unfold resetModel
  split
  · rename_i store hreset
    rcases resetModel_cases hreset with rfl | ⟨request, model, hdata, hmodel, hsame, hset, hkept⟩
    · exact h
    · -- the request of the store is the registered one, without its files
      rw [h.data key, Option.map_eq_some_iff] at hdata
      obtain ⟨registered, hlookup, rfl⟩ := hdata
      have hagrees := h.agrees hrunning key registered hlookup
      refine ⟨h.calls, h.agrees, h.registered, ?_, ?_⟩
      · intro other
        show store.modelDataMap.lookup other = _
        rw [hsame]
        exact h.data other
      · intro consented other served hserved
        change (store.modelMap consented).lookup other = some served at hserved
        by_cases hconsented : consented = isConsented
        · subst hconsented
          rw [hset] at hserved
          by_cases hkey : other = key
          · subst hkey
            rw [AList.lookup_insert] at hserved
            cases hserved
            exact ⟨registered, hlookup, (modelConstructor_of_agrees hagrees).symm.trans hmodel⟩
          · rw [AList.lookup_insert_ne hkey] at hserved
            exact h.models consented other served hserved
        · rw [Bool.eq_not_of_ne hconsented, hkept] at hserved
          exact h.models _ other served hserved
  · exact ⟨nofun, nofun, h.registered, h.data, h.models⟩

theorem destroy_inv (h : m.Inv tf) : m.destroy.Inv tf :=
  ⟨nofun, nofun, h.registered, h.data, h.models⟩

theorem step_inv {m' : TensorflowModule} {event : Event} (h : m.Inv tf) (hmeets : m.Meets event)
    (hstep : step tf m event = some m') : m'.Inv tf := by
  unfold step at hstep
  split at hstep
  · cases hstep
  · rename_i hrunning
    rw [Bool.not_eq_true] at hrunning
    have hcalls := h.calls hrunning
    cases event with
    | registerModel call request cancelled =>
      dsimp only at hstep
      split at hstep
      · cases hstep
      · cases hstep
        exact registerModel_inv h hmeets
    | createDir call error =>
      dsimp only at hstep
      split at hstep
      · rename_i hlookup
        cases hstep
        exact createDir_inv h fun _ => hcalls _ _ hlookup
      · cases hstep
    | writeFile call error =>
      dsimp only at hstep
      split at hstep
      · rename_i request file rest hlookup
        cases hstep
        refine writeFile_inv h (fun _ => hcalls _ _ hlookup) fun herror => ?_
        subst herror
        refine hmeets file ?_
        show file ∈ (m.calls.lookup call).bind _
        rw [hlookup]
        rfl
      · cases hstep
    | isModelAllowed call =>
      dsimp only at hstep
      split at hstep
      · rename_i hlookup
        cases hstep
        exact isModelAllowed_inv h fun _ => hcalls _ _ hlookup
      · cases hstep
    | constructProd call cancelled =>
      dsimp only at hstep
      split at hstep
      · rename_i hlookup
        cases hstep
        exact constructProd_inv h fun _ => hcalls _ _ hlookup
      · cases hstep
    | constructConsented call =>
      dsimp only at hstep
      split at hstep
      · rename_i hlookup
        cases hstep
        exact constructConsented_inv h fun _ => hcalls _ _ hlookup
      · cases hstep
    | putModel call cancelled =>
      dsimp only at hstep
      split at hstep
      · rename_i hlookup
        cases hstep
        exact putModel_inv h hrunning (hcalls _ _ hlookup)
      · cases hstep
    | deleteModel key cancelled =>
      cases hstep
      exact deleteModel_inv h
    | resetModel key isConsented =>
      cases hstep
      exact resetModel_inv h hrunning
    | destroy =>
      cases hstep
      exact destroy_inv h

end Steps

theorem initial_inv (tf : TensorFlow) : Inv tf {} :=
  ⟨nofun, nofun, nofun, fun _ => rfl, fun isConsented => by cases isConsented <;> exact nofun⟩

theorem run_inv {tf : TensorFlow} {trace : List Event} {m : TensorflowModule}
    (run : (system tf).RunWhere Meets trace m) : m.Inv tf := by
  refine run.invariant (I := fun _ m => m.Inv tf) ?_ ?_
  · rintro m rfl
    exact initial_inv tf
  · intro trace m event m' hinv hmeets hstep
    exact step_inv hinv hmeets hstep

section Example

/-- A loader that takes what a model does from the first byte of its file. -/
def exampleTensorFlow : TensorFlow where
  loadSavedModel path files :=
    match files (path ++ "/saved_model.pb") with
    | some (0 :: _) => .ok { node := [⟨"MatMul"⟩] }
    | some _ => .ok { node := [⟨"WriteFile"⟩] }
    | none => .error "not found"
  freezeSavedModel := .ok
  statefulOps := ["WriteFile"]
  parseJsonInferenceRequest _ := .ok []
  predictPerModelFromJson _ _ := .ok ()

def registration (call : ℕ) (request : RegisterModelRequest) : List Event :=
  [.registerModel call request false, .createDir call none] ++
    request.modelFiles.keys.map (fun _ => .writeFile call none) ++
    [.isModelAllowed call, .constructProd call false, .constructConsented call,
      .putModel call false]

def exampleRequest (path file : String) (bytes : Bytes) : RegisterModelRequest :=
  ⟨path, AList.insert file bytes ∅, ""⟩

/-- Two models, one of them in the directory of no other, are registered, reset and
registered again. -/
def exampleEvents : List Event :=
  registration 0 (exampleRequest "a" "a/saved_model.pb" [0]) ++
    registration 1 (exampleRequest "b" "b/saved_model.pb" [0, 1]) ++
    [.resetModel "a" false, .deleteModel "a" false] ++
    registration 2 (exampleRequest "a" "a/saved_model.pb" [0, 2]) ++
    [.resetModel "a" true]

/-- A registration of another path, for which there is nothing to load in the end, writes a
file into the directory of the first. -/
def overwriteEvents : List Event :=
  registration 0 (exampleRequest "a" "a/saved_model.pb" [0]) ++
    [.registerModel 1 (exampleRequest "b" "a/saved_model.pb" [1]) false, .createDir 1 none,
      .writeFile 1 none, .isModelAllowed 1, .resetModel "a" false]

end Example

end TensorflowModule

end Inference

end BiddingAuction
