import BiddingAuction.Http.WorkerSteps

/-!
# Requests answered once

Nothing copies a request: wherever it is, it is in one place. So it is answered at
most once, and exactly once unless a worker drops it.
-/

namespace BiddingAuction

open Foundation

namespace FetcherAsync

variable {s s' : FetcherAsync} {lib : LibCurl}

theorem step_schedule {i : ℕ} {now : ℤ} (h : s.step lib (.schedule i now) = some s') :
    ∃ w, s.workers[i]? = some w ∧
      s' = { s.update i (w.schedule s.submitted now).1 (w.schedule s.submitted now).2 with
        submitted := s.submitted + 1 } := by
  simp only [step] at h
  split at h
  · cases h
  · rename_i w hw
    cases h
    exact ⟨w, hw, rfl⟩

theorem step_worker {i : ℕ} {e : WorkerEvent} (h : s.step lib (.worker i e) = some s') :
    ∃ w after, s.workers[i]? = some w ∧ CurlRequestWorker.Stepped lib w e after ∧
      s' = s.update i after.1 after.2 := by
  simp only [step] at h
  split at h
  · cases h
  · rename_i w hw
    split at h
    · cases h
    · split at h
      · cases h
      · rename_i w' effects hstep
        cases h
        exact ⟨w, (w', effects), hw, CurlRequestWorker.stepped_of_step hstep, rfl⟩

theorem step_runClosure {k : ℕ} (h : s.step lib (.runClosure k) = some s') :
    ∃ call, s.closures[k]? = some call ∧
      s' = { s with closures := s.closures.eraseIdx k, invoked := s.invoked ++ [call] } := by
  simp only [step] at h
  split at h
  · cases h
  · rename_i call hcall
    cases h
    exact ⟨call, hcall, rfl⟩

theorem step_destruct (h : s.step lib .destruct = some s') :
    s.destructing = false ∧ s' = { s with destructing := true } := by
  simp only [step] at h
  split at h
  · cases h
  · rename_i hnot
    cases h
    exact ⟨Bool.eq_false_iff.mpr hnot, rfl⟩

/-! ### Every request is in one place -/

/-- How often a request is found, over all the places it can be in. -/
def places (s : FetcherAsync) (id : ℕ) : ℕ :=
  total (fun w => w.ids.count id) s.workers + (s.closures.map DoneCall.id).count id +
    s.calls id + s.dropped.count id

/-- Each submitted request is in one place, and no other request anywhere. -/
structure Accounted (s : FetcherAsync) : Prop where
  ordered : ∀ w ∈ s.workers, w.Ordered
  once : ∀ id, s.places id = if id < s.submitted then 1 else 0

theorem places_update {i : ℕ} {w : CurlRequestWorker} (hw : s.workers[i]? = some w)
    (w' : CurlRequestWorker) (effects : CurlEffects) (id : ℕ) :
    (s.update i w' effects).places id + w.ids.count id =
      s.places id + (w'.ids ++ effects.ids).count id := by
  have htotal := total_set (fun w => w.ids.count id) hw w'
  simp only [places, calls, callsOf, update, CurlEffects.ids, List.map_append, List.count_append]
  omega

theorem accounted_new (numCurlWorkers curlQueueLength : ℕ) (curlMaxWaitTime : ℤ) :
    (new numCurlWorkers curlQueueLength curlMaxWaitTime).Accounted := by
  refine ⟨?_, ?_⟩
  · intro w hw
    rw [List.eq_of_mem_replicate hw]
    exact ⟨fun _ => rfl, fun h => (by cases h), fun h => (by cases h), fun h => (by cases h)⟩
  · intro id
    have hnone : total (fun w => w.ids.count id)
        (new numCurlWorkers curlQueueLength curlMaxWaitTime).workers = 0 := by
      rw [total_eq_zero]
      intro w hw
      rw [List.eq_of_mem_replicate hw]
      rfl
    show total _ _ + 0 + 0 + 0 = 0
    rw [hnone]

theorem accounted_step {e : Event} (h : s.step lib e = some s') (hs : s.Accounted) :
    s'.Accounted := by
  cases e with
  | schedule i now =>
    obtain ⟨w, hw, rfl⟩ := step_schedule h
    have hordered := hs.ordered w (List.mem_of_getElem? hw)
    refine ⟨forall_mem_set hs.ordered (hordered.schedule s.submitted now), fun id => ?_⟩
    have hplaces := places_update hw (w.schedule s.submitted now).1
      (w.schedule s.submitted now).2 id
    have hids := (w.schedule_ids s.submitted now).count_eq id
    have honce := hs.once id
    show (s.update i _ _).places id = if id < s.submitted + 1 then 1 else 0
    rw [List.count_cons] at hids
    simp only [beq_iff_eq] at hids
    split at honce <;> split at hids <;> split <;> omega
  | worker i e =>
    obtain ⟨w, after, hw, hstep, rfl⟩ := step_worker h
    have hordered := hs.ordered w (List.mem_of_getElem? hw)
    refine ⟨forall_mem_set hs.ordered (hstep.ordered hordered), fun id => ?_⟩
    have hplaces := places_update hw after.1 after.2 id
    have hids := hstep.ids.count_eq id
    have honce := hs.once id
    show (s.update i _ _).places id = if id < s.submitted then 1 else 0
    omega
  | runClosure k =>
    obtain ⟨call, hcall, rfl⟩ := step_runClosure h
    refine ⟨hs.ordered, fun id => ?_⟩
    obtain ⟨hk, rfl⟩ := List.getElem?_eq_some_iff.mp hcall
    have hperm := ((List.getElem_cons_eraseIdx_perm hk).map DoneCall.id).count_eq id
    have honce := hs.once id
    show _ = if id < s.submitted then 1 else 0
    rw [← honce]
    simp only [places, calls, callsOf, List.map_append, List.map_cons, List.map_nil,
      List.count_append, List.count_cons, List.count_nil] at hperm ⊢
    omega
  | destruct =>
    obtain ⟨-, rfl⟩ := step_destruct h
    exact ⟨hs.ordered, hs.once⟩

theorem accounted_of_run {C : FetcherAsync → Event → Prop} {trace : List Event}
    (run : (system lib).RunWhere C trace s) : s.Accounted := by
  refine run.invariant (I := fun _ s => s.Accounted) ?_ ?_
  · rintro s ⟨numCurlWorkers, curlQueueLength, curlMaxWaitTime, rfl⟩
    exact accounted_new _ _ _
  · intro _ s e s' hs _ hstep
    exact accounted_step hstep hs

/-! ### What is dropped -/

/-- How many requests were dropped, or will never be answered. -/
def lost (s : FetcherAsync) : ℕ := total CurlRequestWorker.refused s.workers + s.dropped.length

def IsClean (s : FetcherAsync) : Event → Prop
  | .worker i e => ∀ w, s.workers[i]? = some w → w.IsClean e
  | _ => True

theorem lost_update {i : ℕ} {w : CurlRequestWorker} (hw : s.workers[i]? = some w)
    (w' : CurlRequestWorker) (effects : CurlEffects) :
    (s.update i w' effects).lost + w.refused =
      s.lost + (w'.refused + effects.dropped.length) := by
  have htotal := total_set CurlRequestWorker.refused hw w'
  simp only [lost, update, List.length_append]
  omega

theorem lost_schedule {i : ℕ} {now : ℤ} (h : s.step lib (.schedule i now) = some s') :
    s'.lost = s.lost := by
  obtain ⟨w, hw, rfl⟩ := step_schedule h
  have hlost := lost_update hw (w.schedule s.submitted now).1
    (w.schedule s.submitted now).2
  obtain ⟨hrefused, hdropped⟩ := w.refused_schedule s.submitted now
  rw [hrefused, hdropped, List.length_nil] at hlost
  show (s.update i _ _).lost = s.lost
  omega

theorem lost_le {e : Event} (h : s.step lib e = some s') : s.lost ≤ s'.lost := by
  cases e with
  | schedule i now => exact (lost_schedule h).ge
  | worker i e =>
    obtain ⟨w, after, hw, hstep, rfl⟩ := step_worker h
    have hlost := lost_update hw after.1 after.2
    have := hstep.refused_le
    omega
  | runClosure k =>
    obtain ⟨call, -, rfl⟩ := step_runClosure h
    exact le_rfl
  | destruct =>
    obtain ⟨-, rfl⟩ := step_destruct h
    exact le_rfl

theorem lost_eq_zero_iff {e : Event} (h : s.step lib e = some s') (hs : s.lost = 0) :
    s'.lost = 0 ↔ s.IsClean e := by
  cases e with
  | schedule i now =>
    rw [lost_schedule h, hs]
    exact iff_of_true rfl trivial
  | worker i e =>
    obtain ⟨w, after, hw, hstep, rfl⟩ := step_worker h
    have hlost := lost_update hw after.1 after.2
    have hnone : w.refused = 0 :=
      (total_eq_zero _).mp (Nat.eq_zero_of_add_eq_zero_right hs) w (List.mem_of_getElem? hw)
    have hclean := hstep.clean_iff hnone
    have hworker : s.IsClean (.worker i e) ↔ w.IsClean e := by
      simp [IsClean, hw]
    rw [hworker, ← hclean]
    omega
  | runClosure k =>
    obtain ⟨call, -, rfl⟩ := step_runClosure h
    exact iff_of_true hs trivial
  | destruct =>
    obtain ⟨-, rfl⟩ := step_destruct h
    exact iff_of_true hs trivial

theorem lost_new (numCurlWorkers curlQueueLength : ℕ) (curlMaxWaitTime : ℤ) :
    (new numCurlWorkers curlQueueLength curlMaxWaitTime).lost = 0 := by
  have hnone : total CurlRequestWorker.refused
      (new numCurlWorkers curlQueueLength curlMaxWaitTime).workers = 0 := by
    rw [total_eq_zero]
    intro w hw
    rw [List.eq_of_mem_replicate hw]
    rfl
  show total _ _ + 0 = 0
  rw [hnone]

theorem lost_eq_zero_iff_clean {trace : List Event} (run : (system lib).Run trace s) :
    s.lost = 0 ↔ (system lib).RunWhere IsClean trace s := by
  refine LTS.holds_iff_runWhere (P := fun s => s.lost = 0) ?_ ?_ ?_ run
  · rintro s ⟨numCurlWorkers, curlQueueLength, curlMaxWaitTime, rfl⟩
    exact lost_new _ _ _
  · intro s e s' hstep hs
    exact lost_eq_zero_iff hstep hs
  · intro s e s' hstep hs
    have := lost_le hstep
    omega

/-! ### The answers -/

theorem calls_add_dropped (hs : s.Accounted) (hsettled : s.IsSettled) (id : ℕ) :
    s.calls id + s.dropped.count id = if id < s.submitted then 1 else 0 := by
  have hnone : total (fun w => w.ids.count id) s.workers = 0 := by
    rw [total_eq_zero]
    intro w hw
    rw [(hs.ordered w hw).ids_eq_nil (hsettled.1 w hw), List.count_nil]
  have honce := hs.once id
  rw [places, hnone, hsettled.2, List.map_nil, List.count_nil] at honce
  omega

theorem lost_of_settled (hs : s.Accounted) (hsettled : s.IsSettled) :
    s.lost = s.dropped.length := by
  have hnone : total CurlRequestWorker.refused s.workers = 0 := by
    rw [total_eq_zero]
    intro w hw
    have hids := (hs.ordered w hw).ids_eq_nil (hsettled.1 w hw)
    have htransfers : w.manager.easyCurlRequestData = [] := by
      simp only [CurlRequestWorker.ids, MultiCurlRequestManager.ids, List.append_eq_nil_iff,
        List.map_eq_nil_iff] at hids
      exact hids.2.2
    rw [CurlRequestWorker.refused, htransfers, List.countP_nil]
  rw [lost, hnone, Nat.zero_add]

theorem answered_iff_lost (hs : s.Accounted) (hsettled : s.IsSettled) :
    (∀ id < s.submitted, s.calls id = 1) ↔ s.lost = 0 := by
  rw [lost_of_settled hs hsettled, List.length_eq_zero_iff]
  constructor
  · intro hanswered
    refine List.eq_nil_iff_forall_not_mem.mpr fun id hdropped => ?_
    have hcount := List.count_pos_iff.mpr hdropped
    have hsum := calls_add_dropped hs hsettled id
    split at hsum
    · rename_i hid
      have := hanswered id hid
      omega
    · omega
  · intro hnone id hid
    have hsum := calls_add_dropped hs hsettled id
    rw [hnone, List.count_nil, if_pos hid] at hsum
    exact hsum

/-! ### Progress -/

/-- A clean step that changes something, and schedules nothing more. -/
structure IsDraining (lib : LibCurl) (s : FetcherAsync) (e : Event) : Prop where
  schedulesNothing : ∀ i now, e ≠ .schedule i now
  clean : s.IsClean e
  active : s.step lib e ≠ some s

def rank (s : FetcherAsync) : ℕ :=
  total CurlRequestWorker.rank s.workers + s.closures.length + (!s.destructing).toNat

theorem rank_lt {e : Event} (he : s.IsDraining lib e) (hstep : s.step lib e = some s') :
    s'.rank < s.rank := by
  obtain ⟨hnot, -, hactive⟩ := he
  rw [hstep] at hactive
  cases e with
  | schedule i now => exact absurd rfl (hnot i now)
  | worker i e =>
    obtain ⟨w, after, hw, hworker, rfl⟩ := step_worker hstep
    have hchanged : after ≠ (w, {}) := by
      rintro rfl
      refine hactive (congrArg some ?_)
      obtain ⟨hi, rfl⟩ := List.getElem?_eq_some_iff.mp hw
      simp [update]
    have htotal := total_set CurlRequestWorker.rank hw after.1
    have := hworker.rank_lt hchanged
    simp only [rank, update, List.length_append]
    omega
  | runClosure k =>
    obtain ⟨call, hcall, rfl⟩ := step_runClosure hstep
    obtain ⟨hk, -⟩ := List.getElem?_eq_some_iff.mp hcall
    have hlength := List.length_eraseIdx_of_lt hk
    simp only [rank, hlength]
    omega
  | destruct =>
    obtain ⟨hnot, rfl⟩ := step_destruct hstep
    simp only [rank, hnot, Bool.not_true, Bool.not_false, Bool.toNat_true, Bool.toNat_false]
    omega

theorem exists_draining (hs : s.Accounted) (hlost : s.lost = 0) {id : ℕ}
    (hid : id < s.submitted) (hcalls : s.calls id ≠ 1) :
    ∃ e s', s.IsDraining lib e ∧ s.step lib e = some s' := by
  have honce := hs.once id
  have hdropped : s.dropped = [] :=
    List.eq_nil_of_length_eq_zero (Nat.eq_zero_of_add_eq_zero_left hlost)
  rw [if_pos hid, places, hdropped, List.count_nil] at honce
  cases hclosures : s.closures with
  | cons call rest =>
    have hstep : s.step lib (.runClosure 0) =
        some { s with closures := rest, invoked := s.invoked ++ [call] } := by
      simp [step, hclosures]
    refine ⟨.runClosure 0, _, ⟨fun _ _ h => (by cases h), trivial, ?_⟩, hstep⟩
    rw [hstep]
    intro hsame
    have := congrArg (fun s => s.closures.length) (Option.some.inj hsame)
    simp [hclosures] at this
  | nil =>
    rw [hclosures, List.map_nil, List.count_nil] at honce
    have howned : total (fun w => w.ids.count id) s.workers ≠ 0 := by omega
    obtain ⟨w, hw, hcount⟩ : ∃ w ∈ s.workers, w.ids.count id ≠ 0 := by
      by_contra hnone
      push Not at hnone
      exact howned ((total_eq_zero _).mpr hnone)
    have howns : w.ids ≠ [] := by
      intro hnil
      rw [hnil] at hcount
      exact hcount rfl
    have hrefused : w.refused = 0 :=
      (total_eq_zero _).mp (Nat.eq_zero_of_add_eq_zero_right hlost) w hw
    obtain ⟨e, after, hmay, hclean, hworker, hne⟩ :=
      (hs.ordered w hw).exists_step hrefused howns lib
    obtain ⟨i, hi, hget⟩ := List.getElem_of_mem hw
    have hw? : s.workers[i]? = some w := List.getElem?_eq_some_iff.mpr ⟨hi, hget⟩
    have hstep : s.step lib (.worker i e) = some (s.update i after.1 after.2) := by
      simp [step, hw?, hmay s, hworker]
    refine ⟨.worker i e, _, ⟨fun _ _ h => (by cases h), ?_, ?_⟩, hstep⟩
    · intro w' hw'
      rw [hw?] at hw'
      cases hw'
      exact hclean
    · rw [hstep]
      intro hsame
      have hworkers := congrArg (fun s => s.workers[i]?) (Option.some.inj hsame)
      simp only [update, List.getElem?_set_self hi, hw?] at hworkers
      exact hne (Option.some.inj hworkers)

/-- Once nothing more is scheduled, the clean steps of a fetcher that has lost nothing lead
to every request answered. -/
theorem leads_to_answered (hs : s.Accounted) (hlost : s.lost = 0) :
    ((system lib).restrict (IsDraining lib)).Leads (fun s => ∀ id < s.submitted, s.calls id = 1)
      s := by
  refine LTS.leads_of_rank (I := fun s => s.Accounted ∧ s.lost = 0) (μ := rank) ?_ ?_ ?_
    ⟨hs, hlost⟩
  · intro s e s' hs he hstep
    exact ⟨accounted_step hstep hs.1, (lost_eq_zero_iff hstep hs.2).mpr he.clean⟩
  · intro s hs
    by_cases hanswered : ∀ id < s.submitted, s.calls id = 1
    · exact .inl hanswered
    · push Not at hanswered
      obtain ⟨id, hid, hcalls⟩ := hanswered
      exact .inr (exists_draining hs.1 hs.2 hid hcalls)
  · intro s e s' _ he hstep
    exact rank_lt he hstep

/-- No callback is ever invoked twice, and that of several requests exactly if each of
them was answered. When the destructor and the executor are done, every submitted
request was answered exactly if every step of the run was clean; and after clean steps
every request is still going to be answered. -/
theorem answeredOnce_iff {trace : List Event} (run : (system lib).Run trace s) :
    (∀ id, s.calls id ≤ if id < s.submitted then 1 else 0) ∧
      (∀ requests : List ℕ, requests.Nodup → (s.fetchUrls requests).allDone.length =
        if ∀ id ∈ requests, s.calls id = 1 then 1 else 0) ∧
      (s.IsSettled → ((∀ id < s.submitted, s.calls id = 1) ↔
        (system lib).RunWhere IsClean trace s)) ∧
      ((system lib).RunWhere IsClean trace s →
        ((system lib).restrict (IsDraining lib)).Leads
          (fun s => ∀ id < s.submitted, s.calls id = 1) s) := by
  have hs := accounted_of_run run
  have honce : ∀ id, s.calls id ≤ if id < s.submitted then 1 else 0 := by
    intro id
    have honce := hs.once id
    rw [places] at honce
    omega
  refine ⟨honce, ?_, ?_, ?_⟩
  · intro requests hnodup
    have hle : ∀ id ∈ requests, s.calls id ≤ 1 := by
      intro id _
      have := honce id
      split at this <;> omega
    exact FetchUrlsLifetime.after_allDone_of_le_one hnodup hle
  · intro hsettled
    exact (answered_iff_lost hs hsettled).trans (lost_eq_zero_iff_clean run)
  · intro hclean
    exact leads_to_answered hs ((lost_eq_zero_iff_clean run).mpr hclean)

section Shutdown

def withoutTexts : LibCurl where
  easyStrerror _ := ""
  multiStrerror _ := ""

def started : List Event :=
  [.schedule 0 0, .worker 0 .dequeue, .worker 0 .startProcessing,
    .worker 0 (.onProcessingStarted 0 .ok)]

def destructed : List Event :=
  [.destruct, .worker 0 .requestShutdown, .worker 0 .leaveLoop, .worker 0 .shutdownEventLoop,
    .worker 0 .shutDownQueue, .worker 0 (.removeExpiredEntries 0)]

/-- A fetcher is destroyed with a request under way, which is never answered. -/
theorem unanswered_in_flight :
    ∃ trace s, (system withoutTexts).Run trace s ∧ s.IsSettled ∧ 0 < s.submitted ∧
      s.calls 0 = 0 := by
  have hrun : ((started ++ destructed).foldlM
      (fun (s : FetcherAsync) e => s.step withoutTexts e) (new 1 1 0)).map
        (fun s => (s.workers.all fun w => w.queue.shutdownCompleted, s.closures, s.submitted,
          s.calls 0)) = some (true, [], 1, 0) := by
    decide +kernel
  obtain ⟨s, hs, hstate⟩ := Option.map_eq_some_iff.mp hrun
  simp only [Prod.mk.injEq, List.all_eq_true] at hstate
  obtain ⟨hcompleted, hclosures, hsubmitted, hcalls⟩ := hstate
  refine ⟨_, s, LTS.run_of_foldlM (.start ⟨1, 1, 0, rfl⟩) hs, ⟨hcompleted, hclosures⟩, ?_, hcalls⟩
  omega

/-- The same request, done when the destructor begins, is answered. -/
theorem answered_when_done :
    ∃ trace s, (system withoutTexts).RunWhere IsClean trace s ∧ s.IsSettled ∧ s.submitted = 1 ∧
      s.calls 0 = 1 := by
  have hrun : ((started ++ Event.worker 0 (.transferDone 0 ⟨.ok, 200, ""⟩) ::
      (destructed ++ [.runClosure 0])).foldlM
      (fun (s : FetcherAsync) e => s.step withoutTexts e) (new 1 1 0)).map
        (fun s => (s.workers.all fun w => w.queue.shutdownCompleted, s.closures, s.submitted,
          s.calls 0)) = some (true, [], 1, 1) := by
    decide +kernel
  obtain ⟨s, hs, hstate⟩ := Option.map_eq_some_iff.mp hrun
  simp only [Prod.mk.injEq, List.all_eq_true] at hstate
  obtain ⟨hcompleted, hclosures, hsubmitted, hcalls⟩ := hstate
  have hsettled : s.IsSettled := ⟨hcompleted, hclosures⟩
  have hanswers := answeredOnce_iff (LTS.run_of_foldlM (.start ⟨1, 1, 0, rfl⟩) hs)
  refine ⟨_, s, (hanswers.2.2.1 hsettled).mp ?_, hsettled, hsubmitted, hcalls⟩
  intro id hid
  rw [hsubmitted] at hid
  rw [Nat.lt_one_iff.mp hid]
  exact hcalls

end Shutdown

end FetcherAsync

end BiddingAuction
