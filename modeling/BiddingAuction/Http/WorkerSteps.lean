import BiddingAuction.Http.FetcherAsync

/-!
# What a step of a worker does

A worker keeps each request it owns in one place, or lets go of it. Requests are
dropped only where an event loop is shut down over events that have not run or
transfers that are not done, or where a handle that libcurl refused is taken for added.
-/

namespace BiddingAuction

open Foundation

/-! ## The steps -/

namespace CurlRequestWorker

/-- The steps of a worker, with what of their guards the proofs go back to. -/
inductive Stepped (lib : LibCurl) (w : CurlRequestWorker) :
    WorkerEvent → CurlRequestWorker × CurlEffects → Prop
  | dequeue {queue : CurlRequestQueue} {request : CurlRequestData} :
      w.shutdownComplete = false → w.request = none →
      w.queue.dequeue = some (queue, request) →
      Stepped lib w .dequeue ({ w with queue, request := some request.id }, {})
  | startProcessing {id : ℕ} : w.request = some id →
      Stepped lib w .startProcessing
        ({ w with request := none, manager := w.manager.startProcessing id }, {})
  | leaveLoop : w.shutdownComplete = false → w.request = none →
      Stepped lib w .leaveLoop ({ w with shutdownComplete := true }, {})
  | onProcessingStarted {k : ℕ} {mc : CURLMcode} {manager : MultiCurlRequestManager}
      {effects : CurlEffects} :
      w.manager.shutdownComplete = false →
      w.manager.onProcessingStarted lib k mc = some (manager, effects) →
      Stepped lib w (.onProcessingStarted k mc) ({ w with manager }, effects)
  | transferDone {k : ℕ} {msg : CURLMsg} {manager : MultiCurlRequestManager} :
      w.manager.shutdownComplete = false → w.manager.transferDone k msg = some manager →
      Stepped lib w (.transferDone k msg) ({ w with manager }, {})
  | performCurlUpdate : w.manager.shutdownComplete = false →
      Stepped lib w .performCurlUpdate
        ({ w with manager := (w.manager.performCurlUpdate lib).1 },
          (w.manager.performCurlUpdate lib).2)
  | removeExpiredEntries {now : ℤ} : w.queue.shutdownCompleted = false →
      Stepped lib w (.removeExpiredEntries now)
        ({ w with queue := (w.queue.removeExpiredEntries now).1 },
          (w.queue.removeExpiredEntries now).2)
  | requestShutdown : w.shutdownRequested = false →
      Stepped lib w .requestShutdown ({ w with shutdownRequested := true }, {})
  | shutdownEventLoop : w.shutdownComplete = true → w.manager.shutdownComplete = false →
      Stepped lib w .shutdownEventLoop
        ({ w with manager := (w.manager.shutdownEventLoop lib).1 },
          (w.manager.shutdownEventLoop lib).2)
  | shutDownQueue : w.manager.shutdownComplete = true → w.queue.shuttingDown = false →
      Stepped lib w .shutDownQueue
        ({ w with queue := { w.queue with shuttingDown := true } }, {})

variable {lib : LibCurl} {w : CurlRequestWorker}

theorem stepped_of_step {e : WorkerEvent} {after : CurlRequestWorker × CurlEffects}
    (h : w.step lib e = some after) : Stepped lib w e after := by
  cases e with
  | dequeue =>
    simp only [step] at h
    split at h
    · cases h
    · rename_i hguard
      simp only [Bool.or_eq_true, not_or, Bool.not_eq_true, Option.isSome_eq_false_iff,
        Option.isNone_iff_eq_none] at hguard
      split at h
      · cases h
      · rename_i hdequeue
        cases h
        exact .dequeue hguard.1.2 hguard.2 hdequeue
  | startProcessing =>
    simp only [step] at h
    split at h
    · cases h
    · rename_i hrequest
      cases h
      exact .startProcessing hrequest
  | leaveLoop =>
    simp only [step] at h
    split at h
    · cases h
    · rename_i hguard
      simp only [Bool.or_eq_true, not_or, Bool.not_eq_true, Option.isSome_eq_false_iff,
        Option.isNone_iff_eq_none] at hguard
      cases h
      exact .leaveLoop hguard.1.2 hguard.2
  | onProcessingStarted k mc =>
    simp only [step] at h
    split at h
    · cases h
    · rename_i hguard
      split at h
      · cases h
      · rename_i hstarted
        cases h
        exact .onProcessingStarted (Bool.eq_false_iff.mpr hguard) hstarted
  | transferDone k msg =>
    simp only [step] at h
    split at h
    · cases h
    · rename_i hguard
      split at h
      · cases h
      · rename_i hdone
        cases h
        exact .transferDone (Bool.eq_false_iff.mpr hguard) hdone
  | performCurlUpdate =>
    simp only [step] at h
    split at h
    · cases h
    · rename_i hguard
      cases h
      exact .performCurlUpdate (Bool.eq_false_iff.mpr hguard)
  | removeExpiredEntries now =>
    simp only [step] at h
    split at h
    · cases h
    · rename_i hguard
      cases h
      exact .removeExpiredEntries (Bool.eq_false_iff.mpr hguard)
  | requestShutdown =>
    simp only [step] at h
    split at h
    · cases h
    · rename_i hguard
      cases h
      exact .requestShutdown (Bool.eq_false_iff.mpr hguard)
  | shutdownEventLoop =>
    simp only [step] at h
    split at h
    · cases h
    · rename_i hguard
      simp only [Bool.or_eq_true, not_or, Bool.not_eq_true, Bool.not_eq_eq_eq_not,
        Bool.not_true, Bool.not_eq_false] at hguard
      cases h
      exact .shutdownEventLoop hguard.1 hguard.2
  | shutDownQueue =>
    simp only [step] at h
    split at h
    · cases h
    · rename_i hguard
      simp only [Bool.or_eq_true, not_or, Bool.not_eq_true, Bool.not_eq_eq_eq_not,
        Bool.not_true, Bool.not_eq_false] at hguard
      cases h
      exact .shutDownQueue hguard.1 hguard.2

end CurlRequestWorker

/-! ## Where the requests are -/

namespace CurlRequestQueue

variable (q : CurlRequestQueue)

def ids : List ℕ := q.requests.map CurlRequestData.id

theorem dequeue_spec {q q' : CurlRequestQueue} {request : CurlRequestData}
    (h : q.dequeue = some (q', request)) :
    q' = { q with requests := q'.requests } ∧ q.requests = q'.requests ++ [request] := by
  unfold dequeue at h
  split at h
  · cases h
  · rename_i hlast
    cases h
    exact ⟨rfl, (List.dropLast_append_getLast? _ hlast).symm⟩

theorem removeExpiredEntries_ids (now : ℤ) :
    ((q.removeExpiredEntries now).1.ids ++ (q.removeExpiredEntries now).2.ids).Perm q.ids := by
  unfold removeExpiredEntries
  split
  · simp only [ids, CurlEffects.ids, List.map_nil, List.map_map, List.nil_append,
      List.append_nil, List.map_reverse]
    exact List.reverse_perm _
  · simp only [ids, CurlEffects.ids, removeExpired, List.map_nil, List.append_nil, List.map_map]
    refine List.perm_append_comm.trans ?_
    show ((q.requests.takeWhile _).map CurlRequestData.id ++ _).Perm _
    rw [← List.map_append, List.takeWhile_append_dropWhile]

end CurlRequestQueue

namespace MultiCurlRequestManager

variable (m : MultiCurlRequestManager) (lib : LibCurl)

/-- The requests that the event loop is to start or has started. -/
def ids : List ℕ := m.events ++ m.easyCurlRequestData.map CurlTransfer.id

/-- What `OnProcessingStarted` does to the two places. -/
theorem onProcessingStarted_spec {m m' : MultiCurlRequestManager} {effects : CurlEffects} {k : ℕ}
    {mc : CURLMcode} (h : m.onProcessingStarted lib k mc = some (m', effects)) :
    ∃ id, m.events[k]? = some id ∧ m'.events = m.events.eraseIdx k ∧
      m'.shutdownComplete = m.shutdownComplete ∧
      (mc.isTakenAsAdded = true ∧ effects = {} ∧
          m'.easyCurlRequestData = m.easyCurlRequestData ++
            [⟨id, if mc.isAdded then .running else .refused⟩] ∨
        mc.isTakenAsAdded = false ∧ effects = { scheduled := [⟨id, lib.addError mc⟩] } ∧
          m'.easyCurlRequestData = m.easyCurlRequestData) := by
  unfold onProcessingStarted at h
  split at h
  · cases h
  · rename_i id hid
    refine ⟨id, hid, ?_⟩
    dsimp only at h
    split at h
    · rename_i htaken
      cases h
      exact ⟨rfl, rfl, .inl ⟨htaken, rfl, rfl⟩⟩
    · rename_i hnot
      cases h
      exact ⟨rfl, rfl, .inr ⟨Bool.eq_false_iff.mpr hnot, rfl, rfl⟩⟩

theorem onProcessingStarted_ids {m m' : MultiCurlRequestManager} {effects : CurlEffects} {k : ℕ}
    {mc : CURLMcode} (h : m.onProcessingStarted lib k mc = some (m', effects)) :
    (m'.ids ++ effects.ids).Perm m.ids := by
  obtain ⟨id, hid, hevents, -, hcase⟩ := onProcessingStarted_spec lib h
  obtain ⟨hk, rfl⟩ := List.getElem?_eq_some_iff.mp hid
  have herase : (m.events[k] :: m.events.eraseIdx k).Perm m.events :=
    List.getElem_cons_eraseIdx_perm hk
  have hmoved : (m.events.eraseIdx k ++ (m.easyCurlRequestData.map CurlTransfer.id ++
      [m.events[k]])).Perm m.ids := by
    rw [← List.append_assoc]
    refine (List.perm_append_singleton _ _).trans ?_
    exact herase.append_right _
  rcases hcase with ⟨-, rfl, htransfers⟩ | ⟨-, rfl, htransfers⟩
  · simpa [ids, CurlEffects.ids, hevents, htransfers] using hmoved
  · simpa [ids, CurlEffects.ids, hevents, htransfers] using hmoved

theorem transferDone_spec {m m' : MultiCurlRequestManager} {k : ℕ} {msg : CURLMsg}
    (h : m.transferDone k msg = some m') :
    ∃ id, m.easyCurlRequestData[k]? = some ⟨id, .running⟩ ∧
      m' = { m with easyCurlRequestData := m.easyCurlRequestData.set k ⟨id, .done msg⟩ } := by
  unfold transferDone at h
  split at h
  · rename_i id hid
    cases h
    exact ⟨id, hid, rfl⟩
  · cases h

theorem transferDone_ids {m m' : MultiCurlRequestManager} {k : ℕ} {msg : CURLMsg}
    (h : m.transferDone k msg = some m') : m'.ids = m.ids := by
  obtain ⟨id, hid, rfl⟩ := transferDone_spec h
  obtain ⟨hk, hget⟩ := List.getElem?_eq_some_iff.mp hid
  have hmap : (m.easyCurlRequestData.set k ⟨id, .done msg⟩).map CurlTransfer.id =
      m.easyCurlRequestData.map CurlTransfer.id := by
    rw [List.map_set]
    have hlt : k < (m.easyCurlRequestData.map CurlTransfer.id).length := by simpa using hk
    have hown : id = (m.easyCurlRequestData.map CurlTransfer.id)[k] := by
      rw [List.getElem_map, hget]
    rw [hown, List.set_getElem_self]
  simp [ids, hmap]

theorem scheduled_ids (transfers : List CurlTransfer) :
    (transfers.filterMap (CurlTransfer.doneCall? lib)).map DoneCall.id =
      (transfers.filter fun t => t.phase.isDone).map CurlTransfer.id := by
  induction transfers with
  | nil => rfl
  | cons t rest ih =>
    obtain ⟨id, phase⟩ := t
    cases phase with
    | refused => exact ih
    | running => exact ih
    | done msg => exact congrArg (id :: ·) ih

theorem performCurlUpdate_ids :
    ((m.performCurlUpdate lib).1.ids ++ (m.performCurlUpdate lib).2.ids).Perm m.ids := by
  simp only [performCurlUpdate, ids, CurlEffects.ids, scheduled_ids, List.map_nil,
    List.append_nil, List.append_assoc]
  refine List.Perm.append_left _ ?_
  rw [← List.map_append]
  refine List.Perm.map _ ?_
  refine List.perm_append_comm.trans ?_
  exact List.filter_append_perm _ _

theorem shutdownEventLoop_ids :
    ((m.shutdownEventLoop lib).1.ids ++ (m.shutdownEventLoop lib).2.ids).Perm m.ids := by
  refine List.Perm.trans ?_ (m.performCurlUpdate_ids lib)
  simp only [shutdownEventLoop, ids, CurlEffects.ids, List.map_nil, List.nil_append]
  rw [show (m.performCurlUpdate lib).2.invoked = [] from rfl,
    show (m.performCurlUpdate lib).2.dropped = [] from rfl]
  simp only [List.map_nil, List.append_nil]
  exact List.perm_append_comm

end MultiCurlRequestManager

/-! ## One worker -/

namespace CurlRequestWorker

variable (w : CurlRequestWorker) (lib : LibCurl)

def ids : List ℕ := w.queue.ids ++ w.request.toList ++ w.manager.ids

theorem schedule_ids (id : ℕ) (now : ℤ) :
    ((w.schedule id now).1.ids ++ (w.schedule id now).2.ids).Perm (id :: w.ids) := by
  unfold schedule
  split
  · simp [CurlEffects.ids, List.perm_append_singleton]
  · unfold CurlRequestQueue.enqueue
    split
    · simp [CurlEffects.ids, List.perm_append_singleton]
    · simp [ids, CurlEffects.ids, CurlRequestQueue.ids]

variable {w lib} {e : WorkerEvent} {after : CurlRequestWorker × CurlEffects}

theorem Stepped.ids (h : Stepped lib w e after) :
    (after.1.ids ++ after.2.ids).Perm w.ids := by
  cases h with
  | @dequeue queue request hleft hnone hdequeue =>
    obtain ⟨-, hrequests⟩ := CurlRequestQueue.dequeue_spec hdequeue
    simp [CurlRequestWorker.ids, CurlRequestQueue.ids, CurlEffects.ids, hnone, hrequests]
  | @startProcessing id hrequest =>
    simp only [CurlRequestWorker.ids, MultiCurlRequestManager.ids, CurlEffects.ids, hrequest,
      MultiCurlRequestManager.startProcessing, Option.toList_some, Option.toList_none,
      List.map_nil, List.append_nil, List.append_assoc]
    refine List.Perm.append_left _ ?_
    exact List.perm_middle
  | leaveLoop => simp [CurlRequestWorker.ids, CurlEffects.ids]
  | onProcessingStarted hlive hstarted =>
    have hmanager := MultiCurlRequestManager.onProcessingStarted_ids lib hstarted
    simp only [CurlRequestWorker.ids, List.append_assoc] at hmanager ⊢
    exact (hmanager.append_left _).append_left _
  | transferDone hlive hdone =>
    have hmanager := MultiCurlRequestManager.transferDone_ids hdone
    simp [CurlRequestWorker.ids, CurlEffects.ids, hmanager]
  | performCurlUpdate hlive =>
    have hmanager := w.manager.performCurlUpdate_ids lib
    simp only [CurlRequestWorker.ids, List.append_assoc] at hmanager ⊢
    exact (hmanager.append_left _).append_left _
  | @removeExpiredEntries now hlive =>
    have hqueue := w.queue.removeExpiredEntries_ids now
    simp only [CurlRequestWorker.ids, List.append_assoc]
    rw [← List.append_assoc w.request.toList]
    refine (List.perm_append_comm.append_left _).trans ?_
    rw [← List.append_assoc]
    exact hqueue.append_right _
  | requestShutdown => simp [CurlRequestWorker.ids, CurlEffects.ids]
  | shutdownEventLoop hleft hlive =>
    have hmanager := w.manager.shutdownEventLoop_ids lib
    simp only [CurlRequestWorker.ids, List.append_assoc] at hmanager ⊢
    exact (hmanager.append_left _).append_left _
  | shutDownQueue => simp [CurlRequestWorker.ids, CurlEffects.ids, CurlRequestQueue.ids]

/-- What has been shut down owns nothing, and a queue outlives its worker. -/
structure Ordered (w : CurlRequestWorker) : Prop where
  left : w.shutdownComplete = true → w.request = none
  stopped : w.manager.shutdownComplete = true →
    w.shutdownComplete = true ∧ w.manager.events = [] ∧ w.manager.easyCurlRequestData = []
  shuttingDown : w.queue.shuttingDown = true → w.manager.shutdownComplete = true
  drained : w.queue.shutdownCompleted = true →
    w.queue.shuttingDown = true ∧ w.queue.requests = []

theorem Ordered.ids_eq_nil (h : w.Ordered) (hcompleted : w.queue.shutdownCompleted = true) :
    w.ids = [] := by
  obtain ⟨hshutting, hrequests⟩ := h.drained hcompleted
  obtain ⟨hleft, hevents, htransfers⟩ := h.stopped (h.shuttingDown hshutting)
  simp [CurlRequestWorker.ids, CurlRequestQueue.ids, MultiCurlRequestManager.ids, hrequests,
    h.left hleft, hevents, htransfers]

theorem Ordered.schedule (h : w.Ordered) (id : ℕ) (now : ℤ) : (w.schedule id now).1.Ordered := by
  unfold CurlRequestWorker.schedule
  split
  · exact h
  · unfold CurlRequestQueue.enqueue
    split
    · exact h
    · rename_i hnot
      refine ⟨h.left, h.stopped, h.shuttingDown, fun hcompleted => ?_⟩
      exact absurd (h.drained hcompleted).1 hnot

theorem Ordered.of_live {w' : CurlRequestWorker} (h : w.Ordered)
    (hlive : w.manager.shutdownComplete = false) (hqueue : w'.queue = w.queue)
    (hmanager : w'.manager.shutdownComplete = false)
    (hrequest : w'.shutdownComplete = true → w'.request = none) : w'.Ordered := by
  have hnot : w.queue.shuttingDown ≠ true := by
    intro hshutting
    have hstopped := h.shuttingDown hshutting
    rw [hlive] at hstopped
    cases hstopped
  refine ⟨hrequest, ?_, ?_, ?_⟩
  · intro hstopped
    rw [hmanager] at hstopped
    cases hstopped
  · intro hshutting
    rw [hqueue] at hshutting
    exact absurd hshutting hnot
  · intro hcompleted
    rw [hqueue] at hcompleted
    exact absurd (h.drained hcompleted).1 hnot

theorem Ordered.live_of_running (h : w.Ordered) (hrunning : w.shutdownComplete = false) :
    w.manager.shutdownComplete = false := by
  by_contra hstopped
  rw [Bool.not_eq_false] at hstopped
  rw [(h.stopped hstopped).1] at hrunning
  cases hrunning

theorem Stepped.ordered (hstep : Stepped lib w e after) (h : w.Ordered) : after.1.Ordered := by
  cases hstep with
  | @dequeue queue request hrunning hnone hdequeue =>
    have hlive := h.live_of_running hrunning
    obtain ⟨hqueue, -⟩ := CurlRequestQueue.dequeue_spec hdequeue
    have hnot : w.queue.shuttingDown ≠ true := by
      intro hshutting
      rw [h.shuttingDown hshutting] at hlive
      cases hlive
    refine ⟨?_, ?_, ?_, ?_⟩
    · intro hleft
      rw [show w.shutdownComplete = true from hleft] at hrunning
      cases hrunning
    · exact h.stopped
    · intro hshutting
      rw [hqueue] at hshutting
      exact absurd hshutting hnot
    · intro hcompleted
      rw [hqueue] at hcompleted
      exact absurd (h.drained hcompleted).1 hnot
  | @startProcessing id hrequest =>
    have hrunning : w.shutdownComplete = false := by
      by_contra hleft
      rw [h.left (Bool.not_eq_false _ ▸ hleft)] at hrequest
      cases hrequest
    have hlive := h.live_of_running hrunning
    exact h.of_live hlive rfl hlive fun _ => rfl
  | leaveLoop hrunning hnone =>
    have hlive := h.live_of_running hrunning
    exact h.of_live hlive rfl hlive fun _ => hnone
  | onProcessingStarted hlive hstarted =>
    obtain ⟨-, -, -, hstays, -⟩ := MultiCurlRequestManager.onProcessingStarted_spec lib hstarted
    exact h.of_live hlive rfl (hstays.trans hlive) h.left
  | transferDone hlive hdone =>
    obtain ⟨id, -, rfl⟩ := MultiCurlRequestManager.transferDone_spec hdone
    exact h.of_live hlive rfl hlive h.left
  | performCurlUpdate hlive => exact h.of_live hlive rfl hlive h.left
  | @removeExpiredEntries now hcompleted =>
    unfold CurlRequestQueue.removeExpiredEntries
    split
    · rename_i hshutting
      exact ⟨h.left, h.stopped, h.shuttingDown, fun _ => ⟨hshutting, rfl⟩⟩
    · refine ⟨h.left, h.stopped, h.shuttingDown, fun hdone => ?_⟩
      rw [show w.queue.shutdownCompleted = true from hdone] at hcompleted
      cases hcompleted
  | requestShutdown => exact ⟨h.left, h.stopped, h.shuttingDown, h.drained⟩
  | shutdownEventLoop hleft hlive =>
    refine ⟨h.left, fun _ => ⟨hleft, rfl, rfl⟩, fun _ => rfl, h.drained⟩
  | shutDownQueue hstopped hnot =>
    refine ⟨h.left, h.stopped, fun _ => hstopped, fun hcompleted => ?_⟩
    exact ⟨rfl, (h.drained hcompleted).2⟩

/-! ### What is dropped -/

def refused (w : CurlRequestWorker) : ℕ :=
  w.manager.easyCurlRequestData.countP fun t => t.phase = .refused

/-- The step drops no request: a handle taken for added was added, and an event loop is
shut down with all events run and all transfers done. -/
def IsClean (w : CurlRequestWorker) : WorkerEvent → Prop
  | .onProcessingStarted _ mc => mc.isTakenAsAdded = true → mc.isAdded = true
  | .shutdownEventLoop =>
    w.manager.events = [] ∧ ∀ t ∈ w.manager.easyCurlRequestData, t.phase.isDone = true
  | _ => True

theorem refused_schedule (id : ℕ) (now : ℤ) :
    (w.schedule id now).1.refused = w.refused ∧ (w.schedule id now).2.dropped = [] := by
  unfold schedule
  split
  · exact ⟨rfl, rfl⟩
  · unfold CurlRequestQueue.enqueue
    split <;> exact ⟨rfl, rfl⟩

/-- What `OnProcessingStarted` adds to the refused transfers. -/
theorem refused_onProcessingStarted {k : ℕ} {mc : CURLMcode} {manager : MultiCurlRequestManager}
    {effects : CurlEffects} (h : w.manager.onProcessingStarted lib k mc = some (manager, effects)) :
    ({ w with manager } : CurlRequestWorker).refused =
        w.refused + (if mc.isTakenAsAdded = true ∧ mc.isAdded = false then 1 else 0) ∧
      effects.dropped = [] := by
  obtain ⟨id, -, -, -, ⟨htaken, rfl, htransfers⟩ | ⟨htaken, rfl, htransfers⟩⟩ :=
    MultiCurlRequestManager.onProcessingStarted_spec lib h
  · refine ⟨?_, rfl⟩
    simp only [refused, htransfers, List.countP_append, htaken, true_and]
    cases mc.isAdded <;> rfl
  · refine ⟨?_, rfl⟩
    simp [refused, htransfers, htaken]

theorem refused_transferDone {k : ℕ} {msg : CURLMsg} {manager : MultiCurlRequestManager}
    (h : w.manager.transferDone k msg = some manager) :
    ({ w with manager } : CurlRequestWorker).refused = w.refused := by
  obtain ⟨id, hid, rfl⟩ := MultiCurlRequestManager.transferDone_spec h
  obtain ⟨hk, hget⟩ := List.getElem?_eq_some_iff.mp hid
  simp [refused, List.countP_set hk, hget]

theorem refused_performCurlUpdate :
    ({ w with manager := (w.manager.performCurlUpdate lib).1 } : CurlRequestWorker).refused =
      w.refused := by
  simp only [refused, MultiCurlRequestManager.performCurlUpdate, List.countP_filter]
  refine List.countP_congr fun t _ => ?_
  obtain ⟨id, phase⟩ := t
  cases phase <;> simp [TransferPhase.isDone]

theorem refused_le_dropped :
    w.refused ≤ (w.manager.shutdownEventLoop lib).2.dropped.length := by
  show _ ≤ (w.manager.events ++ List.map _ (List.filter _ _)).length
  rw [List.length_append, List.length_map, ← List.countP_eq_length_filter]
  refine Nat.le_add_left_of_le (List.countP_mono_left fun t _ hrefused => ?_)
  rw [of_decide_eq_true hrefused]
  rfl

theorem dropped_shutdownEventLoop (lib : LibCurl) :
    (w.manager.shutdownEventLoop lib).2.dropped = [] ↔ w.IsClean .shutdownEventLoop := by
  show (w.manager.events ++ List.map _ (List.filter _ _)) = [] ↔ _
  simp [IsClean]

theorem Stepped.refused_le (h : Stepped lib w e after) :
    w.refused ≤ after.1.refused + after.2.dropped.length := by
  cases h with
  | onProcessingStarted _ hstarted =>
    rw [(refused_onProcessingStarted hstarted).1]
    omega
  | transferDone _ hdone =>
    rw [refused_transferDone hdone]
    omega
  | performCurlUpdate =>
    rw [refused_performCurlUpdate]
    omega
  | shutdownEventLoop => exact Nat.le_add_left_of_le refused_le_dropped
  | dequeue | startProcessing | leaveLoop | removeExpiredEntries | requestShutdown
  | shutDownQueue => exact Nat.le_add_right _ _

theorem Stepped.clean_iff (h : Stepped lib w e after) (hnone : w.refused = 0) :
    after.1.refused + after.2.dropped.length = 0 ↔ w.IsClean e := by
  have hsame : ∀ w' : CurlRequestWorker, w'.refused = w.refused →
      (w'.refused + ([] : List ℕ).length = 0 ↔ True) := by
    intro w' hrefused
    simp [hrefused, hnone]
  cases h with
  | @onProcessingStarted k mc manager effects _ hstarted =>
    obtain ⟨hrefused, hdropped⟩ := refused_onProcessingStarted hstarted
    rw [hrefused, hdropped, hnone]
    cases htaken : mc.isTakenAsAdded <;> cases hadded : mc.isAdded <;>
      simp [IsClean, htaken, hadded]
  | transferDone _ hdone => exact hsame _ (refused_transferDone hdone)
  | performCurlUpdate => exact hsame _ refused_performCurlUpdate
  | shutdownEventLoop =>
    rw [← dropped_shutdownEventLoop lib]
    simp [refused, MultiCurlRequestManager.shutdownEventLoop]
  | removeExpiredEntries =>
    unfold CurlRequestQueue.removeExpiredEntries
    split <;> exact hsame _ rfl
  | dequeue | startProcessing | leaveLoop | requestShutdown | shutDownQueue =>
    exact hsame _ rfl

/-! ### Progress -/

def stepsLeft (t : CurlTransfer) : ℕ := if t.phase.isDone then 2 else 3

/-- How many steps a worker can take, at most, if nothing is scheduled on its queue. -/
def rank (w : CurlRequestWorker) : ℕ :=
  6 * w.queue.requests.length + 5 * w.request.toList.length + 4 * w.manager.events.length +
    total stepsLeft w.manager.easyCurlRequestData + (!w.shutdownRequested).toNat +
    (!w.shutdownComplete).toNat + (!w.manager.shutdownComplete).toNat +
    (!w.queue.shuttingDown).toNat + (!w.queue.shutdownCompleted).toNat

theorem total_performCurlUpdate (lib : LibCurl) (transfers : List CurlTransfer) :
    total stepsLeft (transfers.filter fun t => !t.phase.isDone) +
        2 * (transfers.filterMap (CurlTransfer.doneCall? lib)).length =
      total stepsLeft transfers := by
  induction transfers with
  | nil => rfl
  | cons t rest ih =>
    obtain ⟨id, phase⟩ := t
    cases phase with
    | refused =>
      show 3 + total stepsLeft (rest.filter _) + 2 * (rest.filterMap _).length =
        3 + total stepsLeft rest
      omega
    | running =>
      show 3 + total stepsLeft (rest.filter _) + 2 * (rest.filterMap _).length =
        3 + total stepsLeft rest
      omega
    | done msg =>
      show total stepsLeft (rest.filter _) + 2 * ((rest.filterMap _).length + 1) =
        2 + total stepsLeft rest
      omega

theorem performCurlUpdate_idle {m : MultiCurlRequestManager}
    (h : (m.performCurlUpdate lib).2.scheduled.length = 0) : m.performCurlUpdate lib = (m, {}) := by
  have hscheduled := List.eq_nil_of_length_eq_zero h
  have hall : ∀ t ∈ m.easyCurlRequestData, (!t.phase.isDone) = true := by
    intro t ht
    have hnone := List.filterMap_eq_nil_iff.mp hscheduled t ht
    obtain ⟨id, phase⟩ := t
    cases phase with
    | done msg => cases hnone
    | refused | running => rfl
  simp only [MultiCurlRequestManager.performCurlUpdate] at hscheduled ⊢
  rw [hscheduled, List.filter_eq_self.mpr hall]

theorem removeExpired_idle {q : CurlRequestQueue} {now : ℤ}
    (h : (q.removeExpired now).2.scheduled.length = 0) : q.removeExpired now = (q, {}) := by
  simp only [CurlRequestQueue.removeExpired, List.length_map] at h ⊢
  have hnone := List.eq_nil_of_length_eq_zero h
  have hsplit := List.takeWhile_append_dropWhile (p := q.isExpired now) (l := q.requests)
  rw [hnone, List.nil_append] at hsplit
  rw [hnone, hsplit]
  rfl

theorem removeExpired_length (q : CurlRequestQueue) (now : ℤ) :
    (q.removeExpired now).1.requests.length + (q.removeExpired now).2.scheduled.length =
      q.requests.length := by
  have hsplit := congrArg List.length
    (List.takeWhile_append_dropWhile (p := q.isExpired now) (l := q.requests))
  rw [List.length_append] at hsplit
  simp only [CurlRequestQueue.removeExpired, List.length_map]
  omega

theorem Stepped.rank_lt (h : Stepped lib w e after) (hactive : after ≠ (w, {})) :
    after.1.rank + after.2.scheduled.length < w.rank := by
  cases h with
  | @dequeue queue request hrunning hnone hdequeue =>
    obtain ⟨hqueue, hrequests⟩ := CurlRequestQueue.dequeue_spec hdequeue
    rw [hqueue]
    simp only [rank, hrequests, hnone, List.length_append, List.length_singleton,
      Option.toList_some, Option.toList_none, List.length_nil]
    omega
  | @startProcessing id hrequest =>
    simp only [rank, hrequest, MultiCurlRequestManager.startProcessing, List.length_append,
      List.length_singleton, Option.toList_some, Option.toList_none, List.length_nil]
    omega
  | leaveLoop hrunning =>
    simp only [rank, hrunning, Bool.not_true, Bool.not_false, Bool.toNat_true, Bool.toNat_false,
      List.length_nil]
    omega
  | @onProcessingStarted k mc manager effects hlive hstarted =>
    obtain ⟨id, hid, hevents, hstays, hcase⟩ :=
      MultiCurlRequestManager.onProcessingStarted_spec lib hstarted
    obtain ⟨hk, -⟩ := List.getElem?_eq_some_iff.mp hid
    have hlength := List.length_eraseIdx_of_lt hk
    rcases hcase with ⟨-, rfl, htransfers⟩ | ⟨-, rfl, htransfers⟩
    · have hweight : stepsLeft ⟨id, if mc.isAdded then .running else .refused⟩ = 3 := by
        cases mc.isAdded <;> rfl
      simp only [rank, hevents, hstays, htransfers, hlength, total, List.map_append,
        List.sum_append, List.map_cons, List.map_nil, List.sum_cons, List.sum_nil, hweight,
        List.length_nil]
      omega
    · simp only [rank, hevents, hstays, htransfers, hlength, List.length_singleton]
      omega
  | @transferDone k msg manager hlive hdone =>
    obtain ⟨id, hid, rfl⟩ := MultiCurlRequestManager.transferDone_spec hdone
    have htotal := total_set stepsLeft hid ⟨id, .done msg⟩
    rw [show stepsLeft ⟨id, .running⟩ = 3 from rfl,
      show stepsLeft ⟨id, .done msg⟩ = 2 from rfl] at htotal
    simp only [rank, List.length_nil]
    omega
  | performCurlUpdate hlive =>
    have htotal := total_performCurlUpdate lib w.manager.easyCurlRequestData
    have hscheduled : (w.manager.performCurlUpdate lib).2.scheduled.length ≠ 0 := by
      intro hzero
      rw [performCurlUpdate_idle hzero] at hactive
      exact hactive rfl
    simp only [rank, MultiCurlRequestManager.performCurlUpdate] at hscheduled ⊢
    omega
  | @removeExpiredEntries now hcompleted =>
    unfold CurlRequestQueue.removeExpiredEntries at hactive ⊢
    split
    · rename_i hshutting
      simp only [rank, hcompleted, List.length_nil, Bool.not_true, Bool.not_false,
        Bool.toNat_true, Bool.toNat_false]
      omega
    · rename_i hnot
      rw [if_neg hnot] at hactive
      have hlength := removeExpired_length w.queue now
      have hscheduled : (w.queue.removeExpired now).2.scheduled.length ≠ 0 := by
        intro hzero
        rw [removeExpired_idle hzero] at hactive
        exact hactive rfl
      show _ < _
      simp only [rank]
      simp only [CurlRequestQueue.removeExpired] at hlength hscheduled ⊢
      omega
  | requestShutdown hnot =>
    simp only [rank, hnot, Bool.not_true, Bool.not_false, Bool.toNat_true, Bool.toNat_false,
      List.length_nil]
    omega
  | shutdownEventLoop hleft hlive =>
    have htotal := total_performCurlUpdate lib w.manager.easyCurlRequestData
    simp only [rank, MultiCurlRequestManager.shutdownEventLoop,
      MultiCurlRequestManager.performCurlUpdate, hlive, List.length_nil, total_nil,
      Bool.not_true, Bool.not_false, Bool.toNat_true, Bool.toNat_false]
    omega
  | shutDownQueue hstopped hnot =>
    simp only [rank, hnot, Bool.not_true, Bool.not_false, Bool.toNat_true, Bool.toNat_false,
      List.length_nil]
    omega

theorem exists_expiring {q : CurlRequestQueue} (hrequests : q.requests ≠ []) :
    ∃ now, (q.removeExpiredEntries now).1 ≠ q := by
  cases hlist : q.requests with
  | nil => exact absurd hlist hrequests
  | cons first rest =>
    refine ⟨first.startTime + q.maxWait, fun hsame => ?_⟩
    have hlength := congrArg (fun q => q.requests.length) hsame
    have hexpired : q.isExpired (first.startTime + q.maxWait) first = true := by
      simp [CurlRequestQueue.isExpired]
    have hshorter := (List.dropWhile_suffix (l := rest)
      (q.isExpired (first.startTime + q.maxWait))).length_le
    unfold CurlRequestQueue.removeExpiredEntries at hlength
    split at hlength
    · simp [hlist] at hlength
    · simp only [CurlRequestQueue.removeExpired, hlist, List.dropWhile_cons_of_pos hexpired,
        List.length_cons] at hlength
      omega

theorem exists_manager_step (hlive : w.manager.shutdownComplete = false) (hnone : w.refused = 0)
    (howns : w.manager.ids ≠ []) (lib : LibCurl) :
    ∃ e after, (∀ s : FetcherAsync, s.mayRun e = true) ∧ w.IsClean e ∧
      w.step lib e = some after ∧ after.1 ≠ w := by
  cases hevents : w.manager.events with
  | cons id rest =>
    refine ⟨.onProcessingStarted 0 .ok,
      ({ w with manager := { w.manager with
          events := rest
          easyCurlRequestData := w.manager.easyCurlRequestData ++ [⟨id, .running⟩] } }, {}),
      fun _ => rfl, fun _ => rfl, ?_, ?_⟩
    · simp [step, hlive, MultiCurlRequestManager.onProcessingStarted, hevents,
        CURLMcode.isTakenAsAdded, CURLMcode.isAdded]
    · intro hsame
      have := congrArg (fun w => w.manager.events.length) hsame
      simp [hevents] at this
  | nil =>
    cases htransfers : w.manager.easyCurlRequestData with
    | nil => exact absurd (by simp [MultiCurlRequestManager.ids, hevents, htransfers]) howns
    | cons t rest =>
      obtain ⟨id, phase⟩ := t
      cases phase with
      | refused => simp [refused, htransfers] at hnone
      | running =>
        refine ⟨.transferDone 0 ⟨.ok, 200, ""⟩,
          ({ w with manager := { w.manager with
              easyCurlRequestData := ⟨id, .done ⟨.ok, 200, ""⟩⟩ :: rest } }, {}),
          fun _ => rfl, trivial, ?_, ?_⟩
        · simp [step, hlive, MultiCurlRequestManager.transferDone, htransfers]
        · intro hsame
          have := congrArg (fun w => w.manager.easyCurlRequestData) hsame
          simp [htransfers] at this
      | done msg =>
        refine ⟨.performCurlUpdate,
          ({ w with manager := (w.manager.performCurlUpdate lib).1 },
            (w.manager.performCurlUpdate lib).2), fun _ => rfl, trivial, ?_, ?_⟩
        · simp [step, hlive]
        · intro hsame
          have hlength := congrArg (fun w => w.manager.easyCurlRequestData.length) hsame
          have hshorter := List.length_filter_le (fun t : CurlTransfer => !t.phase.isDone) rest
          simp only [MultiCurlRequestManager.performCurlUpdate, htransfers,
            List.length_cons] at hlength
          rw [List.filter_cons_of_neg (by simp [TransferPhase.isDone])] at hlength
          omega

theorem Ordered.exists_step (h : w.Ordered) (hnone : w.refused = 0) (howns : w.ids ≠ [])
    (lib : LibCurl) :
    ∃ e after, (∀ s : FetcherAsync, s.mayRun e = true) ∧ w.IsClean e ∧
      w.step lib e = some after ∧ after.1 ≠ w := by
  cases hrequest : w.request with
  | some id =>
    refine ⟨.startProcessing,
      ({ w with request := none, manager := w.manager.startProcessing id }, {}),
      fun _ => rfl, trivial, by simp [step, hrequest], ?_⟩
    intro hsame
    have := congrArg CurlRequestWorker.request hsame
    rw [hrequest] at this
    cases this
  | none =>
    by_cases hqueue : w.queue.requests = []
    · have hmanager : w.manager.ids ≠ [] := by
        intro hnil
        exact howns (by simp [CurlRequestWorker.ids, CurlRequestQueue.ids, hqueue, hrequest, hnil])
      have hlive : w.manager.shutdownComplete = false := by
        by_contra hstopped
        rw [Bool.not_eq_false] at hstopped
        obtain ⟨-, hevents, htransfers⟩ := h.stopped hstopped
        exact hmanager (by simp [MultiCurlRequestManager.ids, hevents, htransfers])
      exact exists_manager_step hlive hnone hmanager lib
    · obtain ⟨now, hactive⟩ := exists_expiring hqueue
      have hcompleted : w.queue.shutdownCompleted = false := by
        by_contra hdone
        rw [Bool.not_eq_false] at hdone
        exact hqueue (h.drained hdone).2
      refine ⟨.removeExpiredEntries now,
        ({ w with queue := (w.queue.removeExpiredEntries now).1 },
          (w.queue.removeExpiredEntries now).2), fun _ => rfl, trivial, ?_, ?_⟩
      · simp [step, hcompleted]
      · intro hsame
        exact hactive (congrArg CurlRequestWorker.queue hsame)

end CurlRequestWorker

end BiddingAuction
