import BiddingAuction.Inference.ModelFetcher

/-!
# Eviction and recovery of models

A polling cycle sends no deletion for a model that the configuration lists as it is loaded;
a timer sends one whatever the configuration lists by then. From a state without running
timers a cycle that meets no failure brings the models of the configuration up, apart from
those whose grace period it starts.
-/

namespace BiddingAuction

open Foundation

def ModelMetadata.activeEntry (metadata : ModelMetadata) : ModelEntry where
  checksum := metadata.checksum
  evictionGracePeriodInMs := metadata.evictionGracePeriodInMs
  modelState := .active

def ModelMetadata.Fits (metadata : ModelMetadata) (snapshot : List Blob) : Prop :=
  (metadata.registerModelRequest snapshot).byteSizeLong ≤ kMaxProtoMessageSize

/-- The request was sent although the configuration fetched last lists the model as it is
loaded. -/
def Deletion.OfListedModel (d : Deletion) : Prop :=
  ∃ config, d.config = some config ∧ config.lists d.modelPath d.entry.checksum = true

namespace PeriodicModelFetcher

variable {f : PeriodicModelFetcher} {computeSHA256 : Inference.Bytes → String}

/-! ## The loading pass -/

theorem registerModel_cases (f : PeriodicModelFetcher) (computeSHA256 : Inference.Bytes → String)
    (metadata : ModelMetadata) (snapshot : List Blob) (ok : Bool) :
    f.registerModel computeSHA256 metadata snapshot ok = f ∨
      f.registerModel computeSHA256 metadata snapshot ok =
        { f with modelEntryMap :=
            f.modelEntryMap.insert metadata.modelPath metadata.activeEntry } := by
  unfold registerModel
  split
  · exact .inl rfl
  · split
    · exact .inl rfl
    · split
      · exact .inr rfl
      · exact .inl rfl

theorem registerModel_of_ok {metadata : ModelMetadata} {snapshot : List Blob}
    (hfits : metadata.Fits snapshot)
    (hchecksum : metadata.matchesChecksum computeSHA256 snapshot = true) :
    f.registerModel computeSHA256 metadata snapshot true =
      { f with
        modelEntryMap := f.modelEntryMap.insert metadata.modelPath metadata.activeEntry } := by
  unfold registerModel
  rw [if_neg (Nat.not_lt.mpr hfits), hchecksum]
  rfl

theorem registerModels_frame (snapshot : List Blob) (ok : ℕ → Bool) (i : ℕ)
    (pending : List ModelMetadata) (f : PeriodicModelFetcher) :
    (f.registerModels computeSHA256 snapshot ok i pending).timers = f.timers ∧
      (f.registerModels computeSHA256 snapshot ok i pending).deletions = f.deletions ∧
      (f.registerModels computeSHA256 snapshot ok i pending).latestConfig = f.latestConfig := by
  induction pending generalizing i f with
  | nil => exact ⟨rfl, rfl, rfl⟩
  | cons metadata rest ih =>
    have hrest := ih (i + 1) (f.registerModel computeSHA256 metadata snapshot (ok i))
    rcases registerModel_cases f computeSHA256 metadata snapshot (ok i) with heq | heq
    · rw [heq] at hrest
      unfold registerModels
      rw [heq]
      exact hrest
    · rw [heq] at hrest
      unfold registerModels
      rw [heq]
      exact hrest

theorem lookup_registerModels (computeSHA256 : Inference.Bytes → String) (snapshot : List Blob)
    (ok : ℕ → Bool) (i : ℕ) (pending : List ModelMetadata) (f : PeriodicModelFetcher)
    (modelPath : String) :
    (f.registerModels computeSHA256 snapshot ok i pending).modelEntryMap.lookup modelPath =
        f.modelEntryMap.lookup modelPath ∨
      ∃ metadata ∈ pending, metadata.modelPath = modelPath ∧
        (f.registerModels computeSHA256 snapshot ok i pending).modelEntryMap.lookup modelPath =
          some metadata.activeEntry := by
  induction pending generalizing i f with
  | nil => exact .inl rfl
  | cons metadata rest ih =>
    unfold registerModels
    rcases ih (i + 1) (f.registerModel computeSHA256 metadata snapshot (ok i)) with
      hsame | ⟨metadata', hmem, hpath, hlookup⟩
    · rw [hsame]
      rcases registerModel_cases f computeSHA256 metadata snapshot (ok i) with heq | heq
      · rw [heq]
        exact .inl rfl
      · rw [heq]
        by_cases hpath : modelPath = metadata.modelPath
        · subst hpath
          exact .inr ⟨metadata, List.mem_cons_self, rfl, AList.lookup_insert _⟩
        · exact .inl (AList.lookup_insert_ne hpath)
    · exact .inr ⟨metadata', List.mem_cons_of_mem _ hmem, hpath, hlookup⟩

theorem exists_registered {snapshot : List Blob} {i : ℕ} {pending : List ModelMetadata}
    (hchecksums : ∀ metadata ∈ pending,
      metadata.matchesChecksum computeSHA256 snapshot = true)
    {metadata : ModelMetadata} (hmem : metadata ∈ pending) (hfits : metadata.Fits snapshot)
    {ok : ℕ → Bool} (hok : ∀ i, ok i = true) (f : PeriodicModelFetcher) :
    ∃ metadata' ∈ pending, metadata'.modelPath = metadata.modelPath ∧
      (f.registerModels computeSHA256 snapshot ok i pending).modelEntryMap.lookup
        metadata.modelPath = some metadata'.activeEntry := by
  induction pending generalizing i f with
  | nil => cases hmem
  | cons first rest ih =>
    have hrest : ∀ metadata ∈ rest, metadata.matchesChecksum computeSHA256 snapshot = true :=
      fun metadata h => hchecksums metadata (List.mem_cons_of_mem _ h)
    unfold registerModels
    rcases List.mem_cons.mp hmem with rfl | hmem
    · rw [hok i, registerModel_of_ok hfits (hchecksums metadata List.mem_cons_self)]
      rcases lookup_registerModels computeSHA256 snapshot ok (i + 1) rest
        { f with modelEntryMap := f.modelEntryMap.insert metadata.modelPath metadata.activeEntry }
        metadata.modelPath with hsame | ⟨metadata', hmem', hpath, hlookup⟩
      · exact ⟨metadata, List.mem_cons_self, rfl, hsame.trans (AList.lookup_insert _)⟩
      · exact ⟨metadata', List.mem_cons_of_mem _ hmem', hpath, hlookup⟩
    · obtain ⟨metadata', hmem', hpath, hlookup⟩ := ih hrest hmem
        (f.registerModel computeSHA256 first snapshot (ok i))
      exact ⟨metadata', List.mem_cons_of_mem _ hmem', hpath, hlookup⟩

theorem mem_pendingModelMetadata {config : ModelConfig} {metadata : ModelMetadata} :
    metadata ∈ f.pendingModelMetadata config ↔
      metadata ∈ config ∧ metadata.modelPath ≠ "" ∧ metadata.modelPath ∉ f.modelEntryMap := by
  simp [pendingModelMetadata]

theorem processLoading_frame (config : ModelConfig) (cycle : Cycle) (f : PeriodicModelFetcher) :
    (f.processLoading computeSHA256 config cycle).timers = f.timers ∧
      (f.processLoading computeSHA256 config cycle).deletions = f.deletions ∧
      (f.processLoading computeSHA256 config cycle).latestConfig = f.latestConfig := by
  unfold processLoading
  split
  · exact ⟨rfl, rfl, rfl⟩
  · split
    · exact ⟨rfl, rfl, rfl⟩
    · exact registerModels_frame _ _ _ _ _

/-- What is loaded is left as it is; what is not may be registered from the
configuration. -/
theorem lookup_processLoading (config : ModelConfig) (cycle : Cycle) (f : PeriodicModelFetcher)
    (modelPath : String) :
    (f.processLoading computeSHA256 config cycle).modelEntryMap.lookup modelPath =
        f.modelEntryMap.lookup modelPath ∨
      modelPath ∉ f.modelEntryMap ∧ ∃ metadata ∈ config, metadata.modelPath = modelPath ∧
        (f.processLoading computeSHA256 config cycle).modelEntryMap.lookup modelPath =
          some metadata.activeEntry := by
  unfold processLoading
  split
  · exact .inl rfl
  · split
    · exact .inl rfl
    · rename_i snapshot hsnapshot
      rcases lookup_registerModels computeSHA256 snapshot
        cycle.registerModelOk 0 (f.pendingModelMetadata config) f modelPath with
        hsame | ⟨metadata, hmem, rfl, hlookup⟩
      · exact .inl hsame
      · obtain ⟨hconfig, -, hnot⟩ := mem_pendingModelMetadata.mp hmem
        exact .inr ⟨hnot, metadata, hconfig, rfl, hlookup⟩

/-! ## What a cycle sends -/

theorem mem_order {config : ModelConfig} {cycle : Cycle} {modelPath : String} :
    modelPath ∈ cycle.order (f.garbageCollectableModels config) ↔
      ∃ entry, f.modelEntryMap.lookup modelPath = some entry ∧
        config.lists modelPath entry.checksum = false :=
  ((cycle.order_perm _).mem_iff).trans mem_garbageCollectableModels

theorem nodup_order {config : ModelConfig} {cycle : Cycle} :
    (cycle.order (f.garbageCollectableModels config)).Nodup :=
  (cycle.order_perm _).nodup_iff.mpr nodup_garbageCollectableModels

/-- The configuration fetched last lists the model with the checksum it is loaded with. -/
def ListsAsLoaded (f : PeriodicModelFetcher) (modelPath : String) : Prop :=
  ∃ config, f.latestConfig = some config ∧
    config.lists modelPath (f.modelEntry modelPath).checksum = true

theorem deletions_poll {cycle : Cycle} {d : Deletion}
    (h : d ∈ (f.internalModelFetchAndRegistration computeSHA256 cycle).deletions) :
    d ∈ f.deletions ∨ ¬ d.OfListedModel := by
  unfold internalModelFetchAndRegistration at h
  split at h
  · exact .inl h
  · rename_i config hconfig
    rw [(processLoading_frame _ _ _).2.1] at h
    rcases mem_deletions_deleteModels nodup_order h with hold | ⟨hmem, hentry, hlatest⟩
    · exact .inl hold
    · right
      rintro ⟨config', hconfig', hlists⟩
      cases hlatest.symm.trans hconfig'
      obtain ⟨entry, hloaded, hnot⟩ := mem_order.mp hmem
      have hsame : d.entry = entry := hentry.trans (modelEntry_eq hloaded)
      rw [hsame, hnot] at hlists
      cases hlists

theorem deletions_subset_poll {cycle : Cycle} :
    f.deletions ⊆ (f.internalModelFetchAndRegistration computeSHA256 cycle).deletions := by
  unfold internalModelFetchAndRegistration
  split
  · exact fun _ h => h
  · rename_i config _
    rw [(processLoading_frame _ _ _).2.1]
    exact deletions_subset_deleteModels (f := { f with latestConfig := some config })

theorem deletions_endGracePeriod {modelPath : String} {ok : Bool} :
    (f.endGracePeriod modelPath ok).deletions =
      ⟨modelPath, f.modelEntry modelPath, f.latestConfig⟩ :: f.deletions :=
  rfl

/-- No timer ends the grace period of a model that the configuration fetched last lists
again as it is loaded. -/
def EndsUnlisted (f : PeriodicModelFetcher) : Event → Prop
  | .poll _ => True
  | .timer modelPath _ => ¬ f.ListsAsLoaded modelPath

/-- The model that is deleted is one that the configuration fetched last does not list as
it is loaded, exactly in the runs whose timers end unlisted. -/
theorem deletesNoListedModel_iff {trace : List Event}
    (run : (system computeSHA256).Run trace f) :
    (∀ d ∈ f.deletions, ¬ d.OfListedModel) ↔
      (system computeSHA256).RunWhere EndsUnlisted trace f := by
  refine LTS.holds_iff_runWhere (P := fun f => ∀ d ∈ f.deletions, ¬ d.OfListedModel)
    ?_ ?_ ?_ run
  · rintro _ rfl d hd
    cases hd
  · intro f event g hstep hbefore
    cases event with
    | poll cycle =>
      cases hstep
      refine iff_of_true (fun d hd => ?_) trivial
      rcases deletions_poll hd with hold | hnot
      · exact hbefore d hold
      · exact hnot
    | timer modelPath ok =>
      obtain ⟨-, hg⟩ := Option.ite_none_right_eq_some.mp hstep
      cases hg
      rw [deletions_endGracePeriod, List.forall_mem_cons]
      exact and_iff_left hbefore
  · intro f event g hstep hafter d hd
    cases event with
    | poll cycle =>
      cases hstep
      exact hafter d (deletions_subset_poll hd)
    | timer modelPath ok =>
      obtain ⟨-, hg⟩ := Option.ite_none_right_eq_some.mp hstep
      cases hg
      rw [deletions_endGracePeriod] at hafter
      exact hafter d (List.mem_cons_of_mem _ hd)

section Example

/-- A cycle that meets no failure, in a bucket without files. -/
def exampleCycle (config : ModelConfig) : Cycle where
  config := some config
  deleteModelOk _ := true
  snapshot := some []
  registerModelOk _ := true
  order paths := paths
  order_perm _ := .refl _

def exampleConfig : ModelConfig := [⟨"m", "", "", 1000⟩]

/-- The model is taken out of the configuration, and put back before its grace period
ends. -/
theorem deletesNoListedModel_false : ∃ (trace : List Event) (f : PeriodicModelFetcher),
    (system fun _ => "").Run trace f ∧ ∃ d ∈ f.deletions, d.OfListedModel := by
  have hlast : ∃ f, [Event.poll (exampleCycle exampleConfig), .poll (exampleCycle []),
      .poll (exampleCycle exampleConfig), .timer "m" true].foldlM (step fun _ => "") {} = some f ∧
      f.deletions = [⟨"m", ⟨"", 1000, .inGracePeriod⟩, some exampleConfig⟩] := ⟨_, rfl, rfl⟩
  obtain ⟨f, hf, hdeletions⟩ := hlast
  refine ⟨_, f, LTS.run_of_foldlM (.start (T := system fun _ => "") rfl) hf, ?_⟩
  rw [hdeletions]
  exact ⟨_, List.mem_singleton_self _, exampleConfig, rfl, rfl⟩

/-- The model is left out until it is deleted, and then loaded again. -/
theorem deletesNoListedModel_iff_example : ∃ (trace : List Event) (f : PeriodicModelFetcher),
    (system fun _ => "").RunWhere EndsUnlisted trace f ∧ f.deletions ≠ [] ∧
      ∀ d ∈ f.deletions, ¬ d.OfListedModel := by
  have hlast : ∃ f, [Event.poll (exampleCycle exampleConfig), .poll (exampleCycle []),
      .timer "m" true, .poll (exampleCycle exampleConfig)].foldlM (step fun _ => "") {} = some f ∧
      f.deletions = [⟨"m", ⟨"", 1000, .inGracePeriod⟩, some []⟩] := ⟨_, rfl, rfl⟩
  obtain ⟨f, hf, hdeletions⟩ := hlast
  have hnone : ∀ d ∈ f.deletions, ¬ d.OfListedModel := by
    rw [hdeletions]
    intro d hd
    rw [List.mem_singleton.mp hd]
    rintro ⟨_, hconfig, hlists⟩
    cases hconfig
    cases hlists
  have run := LTS.run_of_foldlM (.start (T := system fun _ => "") rfl) hf
  exact ⟨_, f, (deletesNoListedModel_iff run).mp hnone, by rw [hdeletions]; nofun, hnone⟩

end Example

end PeriodicModelFetcher

/-!
# Recovery of the model fetcher

While no timer runs no model is in its grace period. A cycle that meets no failure then
brings up the models of its configuration; a model whose eviction it defers stays until its
timer ends.
-/

namespace PeriodicModelFetcher

variable {f g : PeriodicModelFetcher} {computeSHA256 : Inference.Bytes → String}

/-! ## The deletion pass -/

theorem lookup_processDeletion (config : ModelConfig) (cycle : Cycle) {modelPath : String}
    {entry : ModelEntry} (h : f.modelEntryMap.lookup modelPath = some entry) :
    (f.processDeletion config cycle).modelEntryMap.lookup modelPath =
      if config.lists modelPath entry.checksum then some entry
      else entry.evicted (cycle.deleteModelOk modelPath) := by
  unfold processDeletion
  split
  · rename_i hlists
    rw [lookup_deleteModels_of_notMem]
    · exact h
    · intro hmem
      obtain ⟨entry', hentry', hnot⟩ := mem_order.mp hmem
      cases h.symm.trans hentry'
      cases hlists.symm.trans hnot
  · rename_i hlists
    have hmem : modelPath ∈ cycle.order (f.garbageCollectableModels config) :=
      mem_order.mpr ⟨entry, h, Bool.not_eq_true _ ▸ hlists⟩
    exact lookup_deleteModels_of_mem nodup_order hmem h

theorem lookup_processDeletion_of_none {config : ModelConfig} {cycle : Cycle} {modelPath : String}
    (h : f.modelEntryMap.lookup modelPath = none) :
    (f.processDeletion config cycle).modelEntryMap.lookup modelPath = none := by
  unfold processDeletion
  rw [lookup_deleteModels_of_notMem]
  · exact h
  · intro hmem
    obtain ⟨entry, hentry, -⟩ := mem_order.mp hmem
    cases h.symm.trans hentry

theorem mem_timers_processDeletion {config : ModelConfig} {cycle : Cycle} {modelPath : String} :
    modelPath ∈ (f.processDeletion config cycle).timers ↔ modelPath ∈ f.timers ∨
      ∃ entry, f.modelEntryMap.lookup modelPath = some entry ∧
        config.lists modelPath entry.checksum = false ∧ entry.Defers := by
  unfold processDeletion
  rw [mem_timers_deleteModels nodup_order, mem_order]
  refine or_congr_right ?_
  constructor
  · rintro ⟨⟨entry, hentry, hlists⟩, hdefers⟩
    have hsame : f.modelEntry modelPath = entry := modelEntry_eq hentry
    exact ⟨entry, hentry, hlists, hsame ▸ hdefers⟩
  · rintro ⟨entry, hentry, hlists, hdefers⟩
    have hsame : f.modelEntry modelPath = entry := modelEntry_eq hentry
    exact ⟨⟨entry, hentry, hlists⟩, hsame.symm ▸ hdefers⟩

/-! ## Grace periods have timers -/

/-- A model in its grace period has a timer that will end it. -/
def GraceHasTimer (f : PeriodicModelFetcher) : Prop :=
  ∀ modelPath entry, f.modelEntryMap.lookup modelPath = some entry →
    entry.modelState = .inGracePeriod → modelPath ∈ f.timers

theorem GraceHasTimer.processDeletion (h : f.GraceHasTimer) (config : ModelConfig)
    (cycle : Cycle) : (f.processDeletion config cycle).GraceHasTimer := by
  intro modelPath entry hentry hgrace
  rw [mem_timers_processDeletion]
  cases hold : f.modelEntryMap.lookup modelPath with
  | none =>
    rw [lookup_processDeletion_of_none hold] at hentry
    cases hentry
  | some old =>
    rw [lookup_processDeletion _ _ hold] at hentry
    split at hentry
    · cases hentry
      exact .inl (h modelPath entry hold hgrace)
    · rename_i hlists
      unfold ModelEntry.evicted at hentry
      split at hentry
      · rename_i hgrace'
        exact .inl (h modelPath old hold hgrace')
      · split at hentry
        · rename_i hdefers
          exact .inr ⟨old, rfl, Bool.not_eq_true _ ▸ hlists, hdefers⟩
        · split at hentry
          · cases hentry
          · cases hentry
            cases hgrace

theorem GraceHasTimer.poll (h : f.GraceHasTimer) (cycle : Cycle) :
    (f.internalModelFetchAndRegistration computeSHA256 cycle).GraceHasTimer := by
  unfold internalModelFetchAndRegistration
  split
  · exact h
  · rename_i config hconfig
    intro modelPath entry hentry hgrace
    rw [(processLoading_frame _ _ _).1]
    rcases lookup_processLoading config cycle (f.processDeletion config cycle) modelPath with
      hsame | ⟨-, metadata, -, -, hactive⟩
    · rw [hsame] at hentry
      exact h.processDeletion config cycle modelPath entry hentry hgrace
    · rw [hactive] at hentry
      cases hentry
      cases hgrace

theorem GraceHasTimer.endGracePeriod (h : f.GraceHasTimer) (modelPath : String) (ok : Bool) :
    (f.endGracePeriod modelPath ok).GraceHasTimer := by
  intro other entry hentry hgrace
  show other ∈ f.timers.erase modelPath
  unfold PeriodicModelFetcher.endGracePeriod at hentry
  by_cases hother : other = modelPath
  · subst hother
    rw [lookup_deleteModel_self] at hentry
    split at hentry
    · cases hentry
    · cases hentry
      cases hgrace
  · rw [lookup_deleteModel_ne hother] at hentry
    exact (List.mem_erase_of_ne hother).mpr (h other entry hentry hgrace)

theorem run_graceHasTimer {trace : List Event} (run : (system computeSHA256).Run trace f) :
    f.GraceHasTimer := by
  refine run.invariant (I := fun _ f => f.GraceHasTimer) ?_ ?_
  · rintro _ rfl modelPath entry hentry
    cases hentry
  · intro trace f event g h _ hstep
    cases event with
    | poll cycle =>
      cases hstep
      exact h.poll cycle
    | timer modelPath ok =>
      obtain ⟨-, hg⟩ := Option.ite_none_right_eq_some.mp hstep
      cases hg
      exact h.endGracePeriod modelPath ok

/-! ## Recovery -/

/-- The cycle fetches a configuration and the blobs of its models, and meets no failure. -/
structure Cycle.Succeeds (computeSHA256 : Inference.Bytes → String) (f : PeriodicModelFetcher)
    (cycle : Cycle) (config : ModelConfig) (snapshot : List Blob) : Prop where
  fetchesConfig : cycle.config = some config
  deletesModels : ∀ modelPath, cycle.deleteModelOk modelPath = true
  fetchesModels : cycle.snapshot = some snapshot
  registersModels : ∀ i, cycle.registerModelOk i = true
  matchesChecksums : ∀ metadata ∈ (f.processDeletion config cycle).pendingModelMetadata config,
    metadata.matchesChecksum computeSHA256 snapshot = true

/-- A deletion of the model has failed, and the configuration lists it again as it was
loaded. -/
def IsListedInDeletion (f : PeriodicModelFetcher) (config : ModelConfig) (modelPath : String) :
    Prop :=
  ∃ entry, f.modelEntryMap.lookup modelPath = some entry ∧ entry.modelState = .inDeletion ∧
    config.lists modelPath entry.checksum = true

def StartsGracePeriod (f : PeriodicModelFetcher) (config : ModelConfig) (modelPath : String) :
    Prop :=
  ∃ entry, f.modelEntryMap.lookup modelPath = some entry ∧ entry.Defers ∧
    config.lists modelPath entry.checksum = false

/-- What a cycle makes of the models: `f` is the fetcher before it and `g` after it. -/
structure Recovers (f : PeriodicModelFetcher) (config : ModelConfig) (snapshot : List Blob)
    (g : PeriodicModelFetcher) : Prop where
  active : ∀ metadata ∈ config, metadata.modelPath ≠ "" → metadata.Fits snapshot →
    ¬ f.StartsGracePeriod config metadata.modelPath →
    ¬ f.IsListedInDeletion config metadata.modelPath →
    ∃ entry, g.modelEntryMap.lookup metadata.modelPath = some entry ∧
      entry.modelState = .active ∧ config.lists metadata.modelPath entry.checksum = true
  inGracePeriod : ∀ modelPath, f.StartsGracePeriod config modelPath →
    (∃ entry, g.modelEntryMap.lookup modelPath = some entry ∧
      entry.modelState = .inGracePeriod) ∧ modelPath ∈ g.timers
  unlisted : ∀ modelPath, (∀ metadata ∈ config, metadata.modelPath ≠ modelPath) →
    modelPath ∈ g.modelEntryMap → f.StartsGracePeriod config modelPath

theorem internalModelFetchAndRegistration_of_config {cycle : Cycle} {config : ModelConfig}
    (h : cycle.config = some config) :
    f.internalModelFetchAndRegistration computeSHA256 cycle =
      (f.processDeletion config cycle).processLoading computeSHA256 config cycle := by
  unfold internalModelFetchAndRegistration
  rw [h]

theorem Cycle.Succeeds.exists_registered {cycle : Cycle} {config : ModelConfig}
    {snapshot : List Blob} (h : cycle.Succeeds computeSHA256 f config snapshot)
    {metadata : ModelMetadata} (hmem : metadata ∈ config) (hpath : metadata.modelPath ≠ "")
    (hfits : metadata.Fits snapshot)
    (hnone : (f.processDeletion config cycle).modelEntryMap.lookup metadata.modelPath = none) :
    ∃ metadata' ∈ config, metadata'.modelPath = metadata.modelPath ∧
      (f.internalModelFetchAndRegistration computeSHA256 cycle).modelEntryMap.lookup
        metadata.modelPath = some metadata'.activeEntry := by
  have hpending : metadata ∈ (f.processDeletion config cycle).pendingModelMetadata config :=
    mem_pendingModelMetadata.mpr ⟨hmem, hpath, AList.lookup_eq_none.mp hnone⟩
  rw [internalModelFetchAndRegistration_of_config h.fetchesConfig]
  unfold processLoading
  rw [if_neg (List.ne_nil_of_mem hpending), h.fetchesModels]
  obtain ⟨metadata', hmem', hpath', hlookup⟩ :=
    PeriodicModelFetcher.exists_registered (i := 0) h.matchesChecksums hpending hfits
      h.registersModels (f.processDeletion config cycle)
  exact ⟨metadata', (mem_pendingModelMetadata.mp hmem').1, hpath', hlookup⟩

theorem Cycle.Succeeds.lookup_of_loaded {cycle : Cycle} {config : ModelConfig}
    {snapshot : List Blob} (h : cycle.Succeeds computeSHA256 f config snapshot)
    {modelPath : String} {entry : ModelEntry}
    (hentry : (f.processDeletion config cycle).modelEntryMap.lookup modelPath = some entry) :
    (f.internalModelFetchAndRegistration computeSHA256 cycle).modelEntryMap.lookup modelPath =
      some entry := by
  rw [internalModelFetchAndRegistration_of_config h.fetchesConfig]
  rcases lookup_processLoading config cycle (f.processDeletion config cycle) modelPath with
    hsame | ⟨hnot, -⟩
  · exact hsame.trans hentry
  · exact absurd (AList.lookup_isSome.mp (hentry ▸ rfl)) hnot

/-- The eviction of a model that is not in its grace period starts it, or removes the
model. -/
theorem evicted_of_not_inGracePeriod {entry : ModelEntry}
    (h : entry.modelState ≠ .inGracePeriod) : entry.evicted true =
      if entry.Defers then some { entry with modelState := .inGracePeriod } else none := by
  unfold ModelEntry.evicted
  rw [if_neg h]
  rfl

section Succeeds

variable {cycle : Cycle} {config : ModelConfig} {snapshot : List Blob}

/-- With no timer running, the models of the configuration end active, but for those whose
grace period starts, those that are too large, and those whose deletion has failed before. -/
theorem Cycle.Succeeds.active (h : cycle.Succeeds computeSHA256 f config snapshot)
    (hgrace : f.GraceHasTimer) (htimers : f.timers = []) {metadata : ModelMetadata}
    (hmem : metadata ∈ config) (hpath : metadata.modelPath ≠ "") (hfits : metadata.Fits snapshot)
    (hstarts : ¬ f.StartsGracePeriod config metadata.modelPath)
    (hdeletion : ¬ f.IsListedInDeletion config metadata.modelPath) :
    ∃ entry, (f.internalModelFetchAndRegistration computeSHA256 cycle).modelEntryMap.lookup
        metadata.modelPath = some entry ∧
      entry.modelState = .active ∧ config.lists metadata.modelPath entry.checksum = true := by
  have hregistered (hnone : (f.processDeletion config cycle).modelEntryMap.lookup
      metadata.modelPath = none) := h.exists_registered hmem hpath hfits hnone
  have hactive (metadata' : ModelMetadata) (hmem' : metadata' ∈ config)
      (hpath' : metadata'.modelPath = metadata.modelPath) :
      config.lists metadata.modelPath metadata'.activeEntry.checksum = true :=
    lists_iff.mpr ⟨metadata', hmem', hpath', rfl⟩
  cases hentry : f.modelEntryMap.lookup metadata.modelPath with
  | none =>
    obtain ⟨metadata', hmem', hpath', hlookup⟩ :=
      hregistered (lookup_processDeletion_of_none hentry)
    exact ⟨_, hlookup, rfl, hactive metadata' hmem' hpath'⟩
  | some entry =>
    have hnotGrace : entry.modelState ≠ .inGracePeriod := by
      intro hstate
      have := hgrace metadata.modelPath entry hentry hstate
      rw [htimers] at this
      cases this
    have hpass := lookup_processDeletion config cycle hentry
    cases hlists : config.lists metadata.modelPath entry.checksum with
    | true =>
      -- the entry is spared, and is neither in its grace period nor in deletion
      rw [if_pos hlists] at hpass
      refine ⟨entry, h.lookup_of_loaded hpass, ?_, hlists⟩
      cases hstate : entry.modelState with
      | active => rfl
      | inGracePeriod => exact absurd hstate hnotGrace
      | inDeletion => exact absurd ⟨entry, hentry, hstate, hlists⟩ hdeletion
    | false =>
      -- the entry is deleted, and the model is pending
      have hdefers : ¬ entry.Defers := fun hdefers => hstarts ⟨entry, hentry, hdefers, hlists⟩
      rw [if_neg (by simp [hlists]), h.deletesModels, evicted_of_not_inGracePeriod hnotGrace,
        if_neg hdefers] at hpass
      obtain ⟨metadata', hmem', hpath', hlookup⟩ := hregistered hpass
      exact ⟨_, hlookup, rfl, hactive metadata' hmem' hpath'⟩

theorem Cycle.Succeeds.inGracePeriod (h : cycle.Succeeds computeSHA256 f config snapshot)
    {modelPath : String} (hstarts : f.StartsGracePeriod config modelPath) :
    (∃ entry, (f.internalModelFetchAndRegistration computeSHA256 cycle).modelEntryMap.lookup
        modelPath = some entry ∧ entry.modelState = .inGracePeriod) ∧
      modelPath ∈ (f.internalModelFetchAndRegistration computeSHA256 cycle).timers := by
  obtain ⟨entry, hentry, hdefers, hlists⟩ := hstarts
  have hnotGrace : entry.modelState ≠ .inGracePeriod := by
    rw [hdefers.1]
    nofun
  have hpass := lookup_processDeletion config cycle hentry
  rw [if_neg (by simp [hlists]), h.deletesModels, evicted_of_not_inGracePeriod hnotGrace,
    if_pos hdefers] at hpass
  refine ⟨⟨_, h.lookup_of_loaded hpass, rfl⟩, ?_⟩
  rw [internalModelFetchAndRegistration_of_config h.fetchesConfig, (processLoading_frame _ _ _).1,
    mem_timers_processDeletion]
  exact .inr ⟨entry, hentry, hlists, hdefers⟩

theorem Cycle.Succeeds.unlisted (h : cycle.Succeeds computeSHA256 f config snapshot)
    (hgrace : f.GraceHasTimer) (htimers : f.timers = []) {modelPath : String}
    (hunlisted : ∀ metadata ∈ config, metadata.modelPath ≠ modelPath)
    (hmem : modelPath ∈
      (f.internalModelFetchAndRegistration computeSHA256 cycle).modelEntryMap) :
    f.StartsGracePeriod config modelPath := by
  obtain ⟨left, hleft⟩ := Option.isSome_iff_exists.mp (AList.lookup_isSome.mpr hmem)
  rw [internalModelFetchAndRegistration_of_config h.fetchesConfig] at hleft
  rcases lookup_processLoading config cycle (f.processDeletion config cycle) modelPath with
    hsame | ⟨-, metadata, hconfig, hpath, -⟩
  · rw [hsame] at hleft
    cases hentry : f.modelEntryMap.lookup modelPath with
    | none =>
      rw [lookup_processDeletion_of_none hentry] at hleft
      cases hleft
    | some entry =>
      have hlists : config.lists modelPath entry.checksum = false := by
        rw [Bool.eq_false_iff]
        intro hlists
        obtain ⟨metadata, hconfig, hpath, -⟩ := lists_iff.mp hlists
        exact hunlisted metadata hconfig hpath
      have hnotGrace : entry.modelState ≠ .inGracePeriod := by
        intro hstate
        have := hgrace modelPath entry hentry hstate
        rw [htimers] at this
        cases this
      rw [lookup_processDeletion _ _ hentry, if_neg (by simp [hlists]), h.deletesModels,
        evicted_of_not_inGracePeriod hnotGrace] at hleft
      split at hleft
      · rename_i hdefers
        exact ⟨entry, hentry, hdefers, hlists⟩
      · cases hleft
  · exact absurd hpath (hunlisted metadata hconfig)

/-- From every reachable state without a running timer, a cycle that meets no failure
recovers the models. -/
theorem recovers {trace : List Event} (run : (system computeSHA256).Run trace f)
    (htimers : f.timers = []) (h : cycle.Succeeds computeSHA256 f config snapshot) :
    f.Recovers config snapshot (f.internalModelFetchAndRegistration computeSHA256 cycle) where
  active _ hmem hpath hfits hstarts hdeletion :=
    h.active (run_graceHasTimer run) htimers hmem hpath hfits hstarts hdeletion
  inGracePeriod _ hstarts := h.inGracePeriod hstarts
  unlisted _ hunlisted hmem := h.unlisted (run_graceHasTimer run) htimers hunlisted hmem

end Succeeds

section Example

def exampleRun (configs : List ModelConfig) : PeriodicModelFetcher :=
  configs.foldl (fun f config =>
    f.internalModelFetchAndRegistration (fun _ => "") (exampleCycle config)) {}

theorem run_exampleRun (configs : List ModelConfig) :
    ∃ trace, (system fun _ => "").Run trace (exampleRun configs) := by
  induction configs using List.reverseRecOn with
  | nil => exact ⟨[], .start rfl⟩
  | append_singleton configs config ih =>
    obtain ⟨trace, run⟩ := ih
    have hstep : (system fun _ => "").step (exampleRun configs) (.poll (exampleCycle config))
        (exampleRun (configs ++ [config])) := by
      show some _ = some _
      unfold exampleRun
      rw [List.foldl_append]
      rfl
    exact ⟨_, run.next trivial hstep⟩

/-- A model without a grace period gives way to another one. -/
theorem recovers_example : (exampleRun [[⟨"m", "", "", 0⟩]]).Recovers [⟨"n", "", "", 0⟩] []
    (exampleRun [[⟨"m", "", "", 0⟩], [⟨"n", "", "", 0⟩]]) := by
  obtain ⟨trace, run⟩ := run_exampleRun [[⟨"m", "", "", 0⟩]]
  have hsucceeds : (exampleCycle [⟨"n", "", "", 0⟩]).Succeeds (fun _ => "")
      (exampleRun [[⟨"m", "", "", 0⟩]]) [⟨"n", "", "", 0⟩] [] := by
    refine ⟨rfl, fun _ => rfl, rfl, fun _ => rfl, ?_⟩
    intro metadata hmem
    obtain ⟨hconfig, -, -⟩ := mem_pendingModelMetadata.mp hmem
    rw [List.mem_singleton.mp hconfig]
    rfl
  exact recovers run rfl hsucceeds

/-- The configuration lists no model any more: one with a grace period is there still when
the cycle ends. -/
theorem recovers_false : ¬ ∀ (computeSHA256 : Inference.Bytes → String) (trace : List Event)
    (f : PeriodicModelFetcher) (cycle : Cycle) (config : ModelConfig) (snapshot : List Blob),
    (system computeSHA256).Run trace f → f.timers = [] →
    cycle.Succeeds computeSHA256 f config snapshot →
    (∀ metadata ∈ config, metadata.modelPath ≠ "" → ∃ entry,
      (f.internalModelFetchAndRegistration computeSHA256 cycle).modelEntryMap.lookup
        metadata.modelPath = some entry ∧
      entry.modelState = .active ∧ config.lists metadata.modelPath entry.checksum = true) ∧
    ∀ modelPath ∈ (f.internalModelFetchAndRegistration computeSHA256 cycle).modelEntryMap,
      ∃ metadata ∈ config, metadata.modelPath = modelPath := by
  intro h
  obtain ⟨trace, run⟩ := run_exampleRun [exampleConfig]
  have hsucceeds : (exampleCycle []).Succeeds (fun _ => "") (exampleRun [exampleConfig]) [] [] := by
    refine ⟨rfl, fun _ => rfl, rfl, fun _ => rfl, ?_⟩
    intro metadata hmem
    cases (mem_pendingModelMetadata.mp hmem).1
  obtain ⟨metadata, hmem, -⟩ := (h _ trace _ _ [] [] run rfl hsucceeds).2 "m"
    (AList.lookup_isSome.mp rfl)
  cases hmem

end Example

end PeriodicModelFetcher

end BiddingAuction
