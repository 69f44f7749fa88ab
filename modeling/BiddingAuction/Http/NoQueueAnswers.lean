import BiddingAuction.Http.NoQueue

/-!
# Requests answered once without a queue

A transfer that finishes before its handle is in the set is erased from the set too
early, and stays in it for good. A caller that is between its check for shutdown and
the set when the destructor looks at the set is overlooked. In the runs without either,
a handle is in the set exactly from when its caller put it there until the event loop
is done with it.
-/

namespace BiddingAuction

open Foundation

namespace NoQueue

/-! ## One request -/

namespace Request

variable {lib : LibCurl} {r r' : Request} {e : RequestEvent} {result : Option HTTPResult}

/-- libcurl has the handles taken for added, and the event loop erases only handles
that the caller has put into the set. -/
def IsClean (r : Request) : RequestEvent → Prop
  | .add mc => mc.isTakenAsAdded = true → mc.isAdded = true
  | .removeFromSet => r.inHandleSet = true
  | _ => True

instance (r : Request) : (e : RequestEvent) → Decidable (r.IsClean e)
  | .add mc => inferInstanceAs (Decidable (mc.isTakenAsAdded = true → mc.isAdded = true))
  | .removeFromSet => inferInstanceAs (Decidable (r.inHandleSet = true))
  | .record | .release | .transferDone _ | .getUpdate | .removeFromMulti | .run | .runClosure =>
    inferInstanceAs (Decidable True)

/-- The data is freed when the request is over, and the handle is in the set while the
request is neither the caller's nor the executor's. -/
structure Sound (r : Request) : Prop where
  released : r.releases = if r.handle = .ended then 1 else 0
  listed : r.inHandleSet = true ↔ r.caller.isOut = true ∧ r.handle.isListed = true
  fresh : r.handle = .fresh ↔ r.caller = .checked
  unrecorded : r.caller = .added → r.handle.isListed = true
  accepted : r.handle ≠ .refused

theorem sound_checked : Sound { caller := .checked, handle := .fresh } where
  released := rfl
  listed := by simp [CallerPhase.isOut]
  fresh := by simp
  unrecorded := by simp
  accepted := by simp

theorem sound_rejected (r : Request) (h : r.inHandleSet = false) (hreleases : r.releases = 0) :
    Sound { r with caller := .returned, handle := .ended, releases := r.releases + 1 } where
  released := by simp [hreleases]
  listed := by simp [h, HandlePhase.isListed]
  fresh := by simp
  unrecorded := by simp
  accepted := by simp

theorem Sound.advance (hr : r.Sound) {handle : HandlePhase} (hold : r.handle.isListed = true)
    (hnew : handle.isListed = true) : Sound { r with handle } := by
  obtain ⟨hreleased, hlisted, hfresh, -, -⟩ := hr
  have hchecked : r.caller ≠ .checked := by
    intro hcaller
    rw [hfresh.mpr hcaller] at hold
    cases hold
  refine ⟨?_, ?_, ?_, fun _ => hnew, ?_⟩
  · rw [hreleased, if_neg, if_neg]
    · rintro rfl
      cases hnew
    · intro hover
      rw [hover] at hold
      cases hold
  · rw [hlisted, hold, hnew]
  · refine iff_of_false ?_ hchecked
    rintro rfl
    cases hnew
  · rintro rfl
    cases hnew

theorem sound_step (h : r.step lib e = some (r', result)) (hr : r.Sound) (hclean : r.IsClean e) :
    r'.Sound := by
  obtain ⟨hreleased, hlisted, hfresh, hunrecorded, haccepted⟩ := id hr
  cases e with
  | add mc =>
    simp only [step] at h
    split at h
    · rename_i hcaller
      have hhandle := hfresh.mpr hcaller
      have hout : r.inHandleSet = false := by
        rw [← Bool.not_eq_true, hlisted, hcaller]
        simp [CallerPhase.isOut]
      rw [hhandle] at hreleased
      split at h
      · rename_i htaken
        cases h
        rw [hclean htaken]
        exact ⟨hreleased, by simp [hout, CallerPhase.isOut], by simp, fun _ => rfl, by simp⟩
      · cases h
        exact sound_rejected r hout hreleased
    · cases h
  | record =>
    simp only [step] at h
    split at h
    · rename_i hcaller
      cases h
      have hhandle := hunrecorded hcaller
      refine ⟨hreleased, ?_, ?_, by simp, haccepted⟩
      · exact iff_of_true rfl ⟨rfl, hhandle⟩
      · simp only [hfresh, hcaller, reduceCtorEq]
    · cases h
  | release =>
    simp only [step] at h
    split at h
    · rename_i hcaller
      cases h
      rw [hcaller] at hlisted hfresh
      refine ⟨hreleased, hlisted, ?_, by simp, haccepted⟩
      simp only [hfresh, reduceCtorEq]
    · cases h
  | transferDone msg =>
    simp only [step] at h
    split at h
    · rename_i hhandle
      cases h
      exact hr.advance (by rw [hhandle]; rfl) rfl
    · cases h
  | getUpdate =>
    simp only [step] at h
    split at h
    · rename_i hhandle
      cases h
      exact hr.advance (by rw [hhandle]; rfl) rfl
    · cases h
  | removeFromMulti =>
    simp only [step] at h
    split at h
    · rename_i hhandle
      cases h
      exact hr.advance (by rw [hhandle]; rfl) rfl
    · cases h
  | removeFromSet =>
    simp only [step] at h
    split at h
    · rename_i hhandle
      cases h
      have hrecorded := (hlisted.mp hclean).1
      rw [hhandle] at hreleased hfresh
      refine ⟨hreleased, by simp [HandlePhase.isListed], by simpa using hfresh, ?_, by simp⟩
      intro hcaller
      rw [show r.caller = .added from hcaller] at hrecorded
      cases hrecorded
    · cases h
  | run =>
    simp only [step] at h
    split at h
    · rename_i hhandle
      cases h
      rw [hhandle] at hreleased hlisted hfresh hunrecorded
      refine ⟨hreleased, hlisted, by simpa using hfresh, ?_, by simp⟩
      exact fun hcaller => (hunrecorded hcaller)
    · cases h
  | runClosure =>
    simp only [step] at h
    split at h
    · rename_i hhandle
      cases h
      rw [hhandle] at hreleased hlisted hfresh hunrecorded
      refine ⟨?_, hlisted, by simpa using hfresh, ?_, by simp⟩
      · show r.releases + 1 = 1
        rw [hreleased]
        rfl
      · exact fun hcaller => (hunrecorded hcaller)
    · cases h

theorem releases_step (h : r.step lib e = some (r', result)) :
    r'.releases = r.releases + result.toList.length := by
  cases e <;> simp only [step] at h <;> split at h
  all_goals first
    | cases h; rfl
    | cases h
    | (split at h <;> cases h <;> rfl)

/-- What the destructor makes of a request whose caller is out and which the event loop
is not in the middle of. -/
theorem sound_destroy (hr : r.Sound) (hout : r.caller.isOut = true)
    (hloop : r.handle.isInLoop = false) :
    r.destroy.Sound ∧ r.destroy.handle.isHandedOn = true := by
  obtain ⟨hreleased, hlisted, hfresh, hunrecorded, haccepted⟩ := hr
  have hchecked : r.caller ≠ .checked := by
    intro hcaller
    rw [hcaller] at hout
    cases hout
  have hadded : r.caller ≠ .added := by
    intro hcaller
    rw [hcaller] at hout
    cases hout
  unfold destroy
  split
  · rename_i hset
    have hhandle := (hlisted.mp hset).2
    have hnot : r.handle.isScheduled = false := by
      cases hphase : r.handle <;> rw [hphase] at hhandle <;> first | rfl | cases hhandle
    have hover : r.handle ≠ .ended := by
      intro hover
      rw [hover] at hhandle
      cases hhandle
    rw [hnot]
    refine ⟨⟨?_, ?_, ?_, ?_, ?_⟩, rfl⟩
    · rw [if_neg hover] at hreleased
      simp [hreleased]
    · simp [HandlePhase.isListed]
    · simpa using hchecked
    · exact fun hcaller => absurd hcaller hadded
    · simp
  · rename_i hset
    refine ⟨⟨hreleased, hlisted, hfresh, hunrecorded, haccepted⟩, ?_⟩
    have hlist : r.handle.isListed = false := by
      by_contra hlist
      exact hset (hlisted.mpr ⟨hout, Bool.not_eq_false _ ▸ hlist⟩)
    have hfresh' : r.handle ≠ .fresh := fun h => hchecked (hfresh.mp h)
    cases hphase : r.handle with
    | fresh => exact absurd hphase hfresh'
    | refused => exact absurd hphase haccepted
    | running | done msg =>
      rw [hphase] at hlist
      cases hlist
    | read result | removed result | erased result =>
      rw [hphase] at hloop
      cases hloop
    | scheduled result | ended => rfl

theorem Sound.not_released (hr : r.Sound) (hset : r.inHandleSet = true) : r.releases = 0 := by
  have hhandle := (hr.listed.mp hset).2
  rw [hr.released, if_neg]
  intro hover
  rw [hover] at hhandle
  cases hhandle

end Request

namespace RequestEvent

def needsLoop : RequestEvent → Bool
  | .transferDone _ | .getUpdate | .removeFromMulti | .removeFromSet | .run => true
  | _ => false

def needsFetcher : RequestEvent → Bool
  | .add _ | .record => true
  | _ => false

end RequestEvent

namespace Request

variable {lib : LibCurl} {r r' : Request} {e : RequestEvent} {result : Option HTTPResult}

theorem isInLoop_step (h : r.step lib e = some (r', result)) (he : e.needsLoop = false)
    (hr : r.handle.isInLoop = false) : r'.handle.isInLoop = false := by
  cases e with
  | transferDone | getUpdate | removeFromMulti | removeFromSet | run => cases he
  | add mc =>
    simp only [step] at h
    split at h
    · split at h
      · cases h
        cases mc.isAdded <;> rfl
      · cases h
        rfl
    · cases h
  | record | release | runClosure =>
    simp only [step] at h
    split at h
    · cases h
      first | exact hr | rfl
    · cases h

theorem isHandedOn_step (h : r.step lib e = some (r', result)) (he : e.needsLoop = false)
    (he' : e.needsFetcher = false) (hr : r.handle.isHandedOn = true) :
    r'.handle.isHandedOn = true := by
  cases e with
  | transferDone | getUpdate | removeFromMulti | removeFromSet | run => cases he
  | add | record => cases he'
  | release | runClosure =>
    simp only [step] at h
    split at h
    · cases h
      first | exact hr | rfl
    · cases h

end Request

/-! ## The fetcher -/

namespace Fetcher

variable {lib : LibCurl} {s s' : Fetcher}

theorem needsLoop_of_mayRun {e : RequestEvent} (h : s.mayRun e = true)
    (hstopped : s.shutdownComplete = true) : e.needsLoop = false := by
  cases e with
  | add | record | release | runClosure => rfl
  | getUpdate | transferDone | removeFromMulti | removeFromSet | run =>
    simp [mayRun, hstopped] at h

theorem needsFetcher_of_mayRun {e : RequestEvent} (h : s.mayRun e = true)
    (hdestroyed : s.destroyed = true) : e.needsFetcher = false := by
  cases e with
  | release | runClosure | getUpdate | transferDone | removeFromMulti | removeFromSet | run => rfl
  | add | record => simp [mayRun, hdestroyed] at h

theorem step_submit (h : s.step lib .submit = some s') :
    s.destroyed = false ∧
      (s' = { s with
          requests := s.requests ++ [{ caller := .returned, handle := .ended, releases := 1 }]
          invoked := s.invoked ++
            [⟨s.requests.length, .internalError "Client is shutting down."⟩] } ∨
        s' = { s with requests := s.requests ++ [{ caller := .checked, handle := .fresh }] }) := by
  simp only [step] at h
  split at h
  · cases h
  · rename_i hdestroyed
    refine ⟨Bool.eq_false_iff.mpr hdestroyed, ?_⟩
    split at h
    · cases h
      exact .inl rfl
    · cases h
      exact .inr rfl

theorem step_request {i : ℕ} {e : RequestEvent} (h : s.step lib (.request i e) = some s') :
    ∃ r r' result, s.requests[i]? = some r ∧ s.mayRun e = true ∧
      r.step lib e = some (r', result) ∧
      s' = { s with
        requests := s.requests.set i r'
        invoked := s.invoked ++ (result.map (DoneCall.mk i)).toList } := by
  simp only [step] at h
  split at h
  · cases h
  · rename_i r hr
    split at h
    · cases h
    · rename_i hmay
      rw [Bool.not_eq_true', Bool.not_eq_false] at hmay
      split at h
      · cases h
      · rename_i r' result hstep
        cases h
        exact ⟨r, r', result, hr, hmay, hstep, rfl⟩

theorem step_requestShutdown (h : s.step lib .requestShutdown = some s') :
    s' = { s with shutdownRequested := true } := by
  simp only [step] at h
  split at h
  · cases h
  · cases h
    rfl

theorem step_shutdownEventLoop (h : s.step lib .shutdownEventLoop = some s') :
    s.shutdownComplete = false ∧ s.inLoop = false ∧ s' = { s with shutdownComplete := true } := by
  simp only [step] at h
  split at h
  · cases h
  · rename_i hguard
    simp only [Bool.or_eq_true, not_or, Bool.not_eq_true] at hguard
    cases h
    exact ⟨hguard.1.2, hguard.2, rfl⟩

theorem step_destroy (h : s.step lib .destroy = some s') :
    s.shutdownComplete = true ∧ s.destroyed = false ∧
      s' = { s with
        requests := s.requests.map Request.destroy
        invoked := s.invoked ++ s.cancelled
        destroyed := true } := by
  simp only [step] at h
  split at h
  · cases h
  · rename_i hguard
    simp only [Bool.or_eq_true, not_or, Bool.not_eq_true, Bool.not_eq_eq_eq_not, Bool.not_true,
      Bool.not_eq_false] at hguard
    cases h
    exact ⟨hguard.1, hguard.2, rfl⟩

/-! ### The answers counted -/

theorem cancel?_id {r : Request} {i : ℕ} {call : DoneCall} (h : r.cancel? i = some call) :
    call.id = i := by
  unfold Request.cancel? at h
  split at h
  · cases h
    rfl
  · cases h

theorem callsOf_cancel? (r : Request) (i j : ℕ) :
    callsOf (r.cancel? i).toList j = if i = j then r.inHandleSet.toNat else 0 := by
  unfold Request.cancel?
  split
  · rename_i hset
    simp [callsOf_cons, hset]
  · rename_i hset
    simp [Bool.eq_false_iff.mpr hset]

theorem callsOf_cancelled_from (requests : List Request) (k i : ℕ) :
    callsOf ((requests.zipIdx k).filterMap fun entry => entry.1.cancel? entry.2) (k + i) =
      (requests[i]?).elim 0 fun r => r.inHandleSet.toNat := by
  induction requests generalizing k i with
  | nil => rfl
  | cons r rest ih =>
    have hfirst : ((r :: rest).zipIdx k).filterMap (fun entry => entry.1.cancel? entry.2) =
        (r.cancel? k).toList ++
          (rest.zipIdx (k + 1)).filterMap fun entry => entry.1.cancel? entry.2 := by
      rw [List.zipIdx_cons, List.filterMap_cons]
      cases r.cancel? k <;> rfl
    rw [hfirst, callsOf_append, callsOf_cancel?]
    cases i with
    | zero =>
      have hrest : callsOf ((rest.zipIdx (k + 1)).filterMap fun entry =>
          entry.1.cancel? entry.2) k = 0 := by
        rw [callsOf, List.count_eq_zero]
        intro hmem
        obtain ⟨call, hcall, hid⟩ := List.mem_map.mp hmem
        obtain ⟨⟨r', j⟩, hj, hsome⟩ := List.mem_filterMap.mp hcall
        have hle := (List.mem_zipIdx hj).1
        have := cancel?_id hsome
        omega
      rw [Nat.add_zero, hrest, if_pos rfl]
      rfl
    | succ i =>
      have hrest := ih (k + 1) i
      rw [show k + 1 + i = k + (i + 1) by omega] at hrest
      rw [hrest, if_neg (by omega), Nat.zero_add, List.getElem?_cons_succ]

theorem callsOf_cancelled (s : Fetcher) (i : ℕ) :
    callsOf s.cancelled i = (s.requests[i]?).elim 0 fun r => r.inHandleSet.toNat := by
  have := callsOf_cancelled_from s.requests 0 i
  rwa [Nat.zero_add] at this

theorem releases_destroy (r : Request) : r.destroy.releases = r.releases + r.inHandleSet.toNat := by
  unfold Request.destroy
  split
  · rename_i hset
    rw [hset]
    rfl
  · rename_i hset
    rw [Bool.eq_false_iff.mpr hset]
    rfl

/-- The callback of a request is invoked whenever its data is freed. -/
def Answered (s : Fetcher) : Prop :=
  ∀ i, s.calls i = (s.requests[i]?).elim 0 Request.releases

/-- Whatever the interleaving, the data of a request is freed as often as its callback is
invoked. -/
theorem answered_step {e : Event} (h : s.step lib e = some s') (hs : s.Answered) :
    s'.Answered := by
  intro i
  have hi := hs i
  simp only [calls] at hi ⊢
  cases e with
  | submit =>
    obtain ⟨-, rfl | rfl⟩ := step_submit h
    · rw [callsOf_append, hi, callsOf_cons, callsOf_nil, Nat.zero_add]
      rcases Nat.lt_trichotomy i s.requests.length with hlt | rfl | hgt
      · rw [if_neg (by dsimp only; omega), List.getElem?_append_left hlt, Nat.add_zero]
      · simp
      · rw [if_neg (by dsimp only; omega), List.getElem?_eq_none (by omega),
          List.getElem?_eq_none (by simp; omega)]
        rfl
    · rw [hi]
      rcases Nat.lt_trichotomy i s.requests.length with hlt | rfl | hgt
      · rw [List.getElem?_append_left hlt]
      · simp
      · rw [List.getElem?_eq_none (by omega), List.getElem?_eq_none (by simp; omega)]
  | request j e =>
    obtain ⟨r, r', result, hr, -, hstep, rfl⟩ := step_request h
    obtain ⟨hj, rfl⟩ := List.getElem?_eq_some_iff.mp hr
    have hreleases := Request.releases_step hstep
    rw [callsOf_append, hi]
    by_cases hij : j = i
    · subst hij
      rw [hr, List.getElem?_set_self hj]
      cases result <;> simp_all [callsOf_cons]
    · rw [List.getElem?_set_ne hij]
      cases result <;> simp [callsOf_cons, hij]
  | requestShutdown =>
    rw [step_requestShutdown h]
    exact hi
  | shutdownEventLoop =>
    obtain ⟨-, -, rfl⟩ := step_shutdownEventLoop h
    exact hi
  | destroy =>
    obtain ⟨-, -, rfl⟩ := step_destroy h
    rw [callsOf_append, hi, callsOf_cancelled, List.getElem?_map]
    cases s.requests[i]? with
    | none => rfl
    | some r => exact (releases_destroy r).symm

/-! ### Clean runs -/

/-- The destructor looks at the set when no caller is on its way to it. -/
def IsClean (s : Fetcher) : Event → Prop
  | .request i e => ∀ r ∈ s.requests[i]?, r.IsClean e
  | .destroy => ∀ r ∈ s.requests, r.caller.isOut = true
  | _ => True

instance (s : Fetcher) : (e : Event) → Decidable (s.IsClean e)
  | .request i e => inferInstanceAs (Decidable (∀ r ∈ s.requests[i]?, r.IsClean e))
  | .destroy => inferInstanceAs (Decidable (∀ r ∈ s.requests, r.caller.isOut = true))
  | .submit | .requestShutdown | .shutdownEventLoop => inferInstanceAs (Decidable True)

/-- Every request is sound, and what was stopped holds none. -/
structure Accounted (s : Fetcher) : Prop where
  sound : ∀ r ∈ s.requests, r.Sound
  answered : s.Answered
  stopped : s.shutdownComplete = true → ∀ r ∈ s.requests, r.handle.isInLoop = false
  handedOn : s.destroyed = true →
    s.shutdownComplete = true ∧ ∀ r ∈ s.requests, r.handle.isHandedOn = true

theorem inLoop_eq_false : s.inLoop = false ↔ ∀ r ∈ s.requests, r.handle.isInLoop = false := by
  simp [inLoop]

theorem accounted_step {e : Event} (h : s.step lib e = some s') (hs : s.Accounted)
    (hclean : s.IsClean e) : s'.Accounted := by
  have hanswered := answered_step h hs.answered
  cases e with
  | submit =>
    obtain ⟨hlive, hs' | hs'⟩ := step_submit h
    · subst hs'
      refine ⟨?_, hanswered, ?_, fun hdestroyed => ?_⟩
      · exact List.forall_mem_append.mpr ⟨hs.sound, List.forall_mem_singleton.mpr
          (Request.sound_rejected { caller := .returned, handle := .ended } rfl rfl)⟩
      · exact fun hstopped => List.forall_mem_append.mpr
          ⟨hs.stopped hstopped, List.forall_mem_singleton.mpr rfl⟩
      · rw [show s.destroyed = true from hdestroyed] at hlive
        cases hlive
    · subst hs'
      refine ⟨?_, hanswered, ?_, fun hdestroyed => ?_⟩
      · exact List.forall_mem_append.mpr ⟨hs.sound, List.forall_mem_singleton.mpr
          Request.sound_checked⟩
      · exact fun hstopped => List.forall_mem_append.mpr
          ⟨hs.stopped hstopped, List.forall_mem_singleton.mpr rfl⟩
      · rw [show s.destroyed = true from hdestroyed] at hlive
        cases hlive
  | request i e =>
    obtain ⟨r, r', result, hr, hmay, hstep, hs'⟩ := step_request h
    have hmem := List.mem_of_getElem? hr
    subst hs'
    refine ⟨?_, hanswered, ?_, ?_⟩
    · exact forall_mem_set hs.sound (Request.sound_step hstep (hs.sound r hmem) (hclean r hr))
    · intro hstopped
      exact forall_mem_set (hs.stopped hstopped) (Request.isInLoop_step hstep
        (needsLoop_of_mayRun hmay hstopped) (hs.stopped hstopped r hmem))
    · intro hdestroyed
      obtain ⟨hstopped, hall⟩ := hs.handedOn hdestroyed
      exact ⟨hstopped, forall_mem_set hall (Request.isHandedOn_step hstep
        (needsLoop_of_mayRun hmay hstopped) (needsFetcher_of_mayRun hmay hdestroyed)
        (hall r hmem))⟩
  | requestShutdown =>
    have hs' := step_requestShutdown h
    subst hs'
    exact ⟨hs.sound, hanswered, hs.stopped, hs.handedOn⟩
  | shutdownEventLoop =>
    obtain ⟨-, hidle, hs'⟩ := step_shutdownEventLoop h
    subst hs'
    exact ⟨hs.sound, hanswered, fun _ => inLoop_eq_false.mp hidle,
      fun hdestroyed => ⟨rfl, (hs.handedOn hdestroyed).2⟩⟩
  | destroy =>
    obtain ⟨hstopped, -, hs'⟩ := step_destroy h
    have hdestroy : ∀ r ∈ s.requests, r.destroy.Sound ∧ r.destroy.handle.isHandedOn = true :=
      fun r hr => Request.sound_destroy (hs.sound r hr) (hclean r hr) (hs.stopped hstopped r hr)
    subst hs'
    refine ⟨?_, hanswered, fun _ => ?_, fun _ => ⟨hstopped, ?_⟩⟩
    · exact List.forall_mem_map.mpr fun r hr => (hdestroy r hr).1
    · refine List.forall_mem_map.mpr fun r hr => ?_
      have hphase := (hdestroy r hr).2
      cases hhandle : r.destroy.handle <;> rw [hhandle] at hphase <;> first | rfl | cases hphase
    · exact List.forall_mem_map.mpr fun r hr => (hdestroy r hr).2

theorem accounted_of_run {trace : List Event} (run : (system lib).RunWhere IsClean trace s) :
    s.Accounted := by
  refine run.invariant (I := fun _ s => s.Accounted) ?_ ?_
  · rintro s rfl
    exact ⟨by simp, fun _ => rfl, by simp, by simp⟩
  · intro _ s e s' hs hclean hstep
    exact accounted_step hstep hs hclean

/-! ### Progress -/

def stepsLeft (r : Request) : ℕ :=
  (match r.caller with
    | .checked => 9
    | .added => 2
    | .recorded => 1
    | .returned => 0) +
  match r.handle with
  | .fresh => 0
  | .refused | .running => 6
  | .done _ => 5
  | .read _ => 4
  | .removed _ => 3
  | .erased _ => 2
  | .scheduled _ => 1
  | .ended => 0

theorem stepsLeft_lt {r r' : Request} {e : RequestEvent} {result : Option HTTPResult}
    (h : r.step lib e = some (r', result)) (hr : r.handle = .fresh ↔ r.caller = .checked) :
    stepsLeft r' < stepsLeft r := by
  obtain ⟨caller, handle, inHandleSet, releases⟩ := r
  cases e with
  | add mc =>
    simp only [Request.step] at h
    split at h
    · have hfresh : handle = .fresh := hr.mpr rfl
      subst hfresh
      split at h
      · cases h
        cases mc.isAdded <;> exact (by omega : 2 + 6 < 9 + 0)
      · cases h
        exact (by omega : 0 + 0 < 9 + 0)
    · cases h
  | record | release | transferDone | getUpdate | removeFromMulti | removeFromSet | run
  | runClosure =>
    simp only [Request.step] at h
    split at h
    · cases h
      simp only [stepsLeft]
      omega
    · cases h

theorem stepsLeft_destroy_le (r : Request) : stepsLeft r.destroy ≤ stepsLeft r := by
  unfold Request.destroy
  split
  · split
    · exact le_rfl
    · exact Nat.add_le_add_left (Nat.zero_le _) _
  · exact le_rfl

theorem total_destroy_le (requests : List Request) :
    total stepsLeft (requests.map Request.destroy) ≤ total stepsLeft requests := by
  induction requests with
  | nil => exact le_rfl
  | cons r rest ih =>
    rw [List.map_cons, total_cons, total_cons]
    exact Nat.add_le_add (stepsLeft_destroy_le r) ih

/-- A clean step that submits nothing more and begins no destructor. -/
structure IsDraining (s : Fetcher) (e : Event) : Prop where
  submitsNothing : e ≠ .submit
  goesOn : e ≠ .requestShutdown
  clean : s.IsClean e

def rank (s : Fetcher) : ℕ :=
  total stepsLeft s.requests + (!s.shutdownComplete).toNat + (!s.destroyed).toNat

theorem rank_lt {e : Event} (hs : s.Accounted) (he : s.IsDraining e)
    (hstep : s.step lib e = some s') : s'.rank < s.rank := by
  obtain ⟨hsubmit, hshutdown, -⟩ := he
  cases e with
  | submit => exact absurd rfl hsubmit
  | requestShutdown => exact absurd rfl hshutdown
  | request i e =>
    obtain ⟨r, r', result, hr, -, hrequest, rfl⟩ := step_request hstep
    have hlt := stepsLeft_lt hrequest (hs.sound r (List.mem_of_getElem? hr)).fresh
    have htotal := total_set stepsLeft hr r'
    simp only [rank]
    omega
  | shutdownEventLoop =>
    obtain ⟨hlive, -, rfl⟩ := step_shutdownEventLoop hstep
    simp only [rank, hlive, Bool.not_true, Bool.not_false, Bool.toNat_true, Bool.toNat_false]
    omega
  | destroy =>
    obtain ⟨-, hlive, rfl⟩ := step_destroy hstep
    have := total_destroy_le s.requests
    simp only [rank, hlive, Bool.not_true, Bool.not_false, Bool.toNat_true, Bool.toNat_false]
    omega

theorem draining_request {i : ℕ} {r : Request} {e : RequestEvent} (hr : s.requests[i]? = some r)
    (hmay : s.mayRun e = true) (hclean : r.IsClean e) (hstep : (r.step lib e).isSome = true) :
    ∃ e s', s.IsDraining e ∧ s.step lib e = some s' := by
  obtain ⟨⟨r', result⟩, hafter⟩ := Option.isSome_iff_exists.mp hstep
  refine ⟨.request i e,
    { s with
      requests := s.requests.set i r'
      invoked := s.invoked ++ (result.map (DoneCall.mk i)).toList },
    ⟨fun h => (by cases h), fun h => (by cases h), ?_⟩, ?_⟩
  · intro r' hr'
    rw [hr] at hr'
    cases hr'
    exact hclean
  · simp [step, hr, hmay, hafter]

theorem exists_draining_of_caller {i : ℕ} {r : Request} (hr : s.requests[i]? = some r)
    (hcaller : r.caller.isOut = false) (hlive : s.destroyed = false) :
    ∃ e s', s.IsDraining e ∧ s.step lib e = some s' := by
  cases hphase : r.caller with
  | checked =>
    refine draining_request (e := .add .ok) hr (by simp [mayRun, hlive]) (fun _ => rfl) ?_
    simp [Request.step, hphase, CURLMcode.isTakenAsAdded]
  | added =>
    refine draining_request (e := .record) hr (by simp [mayRun, hlive]) trivial ?_
    simp [Request.step, hphase]
  | recorded | returned =>
    rw [hphase] at hcaller
    cases hcaller

/-- The event loop gets on with the request it is in the middle of, or its caller with
putting the handle into the set. -/
theorem exists_draining_of_inLoop (hs : s.Accounted) {i : ℕ} {r : Request}
    (hr : s.requests[i]? = some r) (hloop : r.handle.isInLoop = true) :
    ∃ e s', s.IsDraining e ∧ s.step lib e = some s' := by
  have hsound := hs.sound r (List.mem_of_getElem? hr)
  have hrunning : s.shutdownComplete = false := by
    by_contra hstopped
    rw [Bool.not_eq_false] at hstopped
    rw [hs.stopped hstopped r (List.mem_of_getElem? hr)] at hloop
    cases hloop
  have hlive : s.destroyed = false := by
    by_contra hdestroyed
    rw [Bool.not_eq_false] at hdestroyed
    rw [(hs.handedOn hdestroyed).1] at hrunning
    cases hrunning
  cases hphase : r.handle with
  | read result =>
    refine draining_request (e := .removeFromMulti) hr (by simp [mayRun, hrunning]) trivial ?_
    simp [Request.step, hphase]
  | removed result =>
    cases hout : r.caller.isOut with
    | false => exact exists_draining_of_caller hr hout hlive
    | true =>
      have hset : r.inHandleSet = true := hsound.listed.mpr ⟨hout, by rw [hphase]; rfl⟩
      refine draining_request (e := .removeFromSet) hr (by simp [mayRun, hrunning]) hset ?_
      simp [Request.step, hphase]
  | erased result =>
    refine draining_request (e := .run) hr (by simp [mayRun, hrunning]) trivial ?_
    simp [Request.step, hphase]
  | fresh | refused | running | done msg | scheduled result | ended =>
    rw [hphase] at hloop
    cases hloop

theorem exists_draining_of_stopped (hstopped : s.shutdownComplete = true)
    (hlive : s.destroyed = false) : ∃ e s', s.IsDraining e ∧ s.step lib e = some s' := by
  by_cases hall : ∀ r ∈ s.requests, r.caller.isOut = true
  · refine ⟨.destroy, { s with
      requests := s.requests.map Request.destroy
      invoked := s.invoked ++ s.cancelled
      destroyed := true }, ⟨fun h => (by cases h), fun h => (by cases h), hall⟩, ?_⟩
    simp [step, hstopped, hlive]
  · push Not at hall
    obtain ⟨r, hr, hout⟩ := hall
    obtain ⟨i, hi, hget⟩ := List.getElem_of_mem hr
    exact exists_draining_of_caller (List.getElem?_eq_some_iff.mpr ⟨hi, hget⟩)
      (Bool.eq_false_iff.mpr hout) hlive

theorem exists_draining (hs : s.Accounted) {i : ℕ} {r : Request} (hr : s.requests[i]? = some r)
    (hover : r.handle ≠ .ended) : ∃ e s', s.IsDraining e ∧ s.step lib e = some s' := by
  have hmem := List.mem_of_getElem? hr
  have hsound := hs.sound r hmem
  have hlive : r.handle.isHandedOn = false → s.destroyed = false := by
    intro hnot
    by_contra hdestroyed
    rw [Bool.not_eq_false] at hdestroyed
    rw [(hs.handedOn hdestroyed).2 r hmem] at hnot
    cases hnot
  cases hphase : r.handle with
  | ended => exact absurd hphase hover
  | refused => exact absurd hphase hsound.accepted
  | scheduled result =>
    refine draining_request (e := .runClosure) hr rfl trivial ?_
    simp [Request.step, hphase]
  | fresh =>
    refine exists_draining_of_caller hr ?_ (hlive (by rw [hphase]; rfl))
    rw [hsound.fresh.mp hphase]
    rfl
  | read result | removed result | erased result =>
    exact exists_draining_of_inLoop hs hr (by rw [hphase]; rfl)
  | running =>
    cases hstopped : s.shutdownComplete with
    | true => exact exists_draining_of_stopped hstopped (hlive (by rw [hphase]; rfl))
    | false =>
      refine draining_request (e := .transferDone ⟨.ok, 200, ""⟩) hr
        (by simp [mayRun, hstopped]) trivial ?_
      simp [Request.step, hphase]
  | done msg =>
    cases hstopped : s.shutdownComplete with
    | true => exact exists_draining_of_stopped hstopped (hlive (by rw [hphase]; rfl))
    | false =>
      cases hloop : s.inLoop with
      | false =>
        refine draining_request (e := .getUpdate) hr (by simp [mayRun, hstopped, hloop]) trivial ?_
        simp [Request.step, hphase]
      | true =>
        -- the event loop finishes the message it has read first
        obtain ⟨other, hother, hin⟩ := List.any_eq_true.mp hloop
        obtain ⟨j, hj, hget⟩ := List.getElem_of_mem hother
        exact exists_draining_of_inLoop hs (List.getElem?_eq_some_iff.mpr ⟨hj, hget⟩) hin

/-- The callback of each request was invoked once, and its data freed once. -/
def AllAnswered (s : Fetcher) : Prop :=
  ∀ i (r : Request), s.requests[i]? = some r → s.calls i = 1 ∧ r.releases = 1

theorem calls_eq_releases (hs : s.Accounted) {i : ℕ} {r : Request}
    (hr : s.requests[i]? = some r) : s.calls i = r.releases := by
  rw [hs.answered i, hr]
  rfl

theorem answered_of_over (hs : s.Accounted) {i : ℕ} {r : Request} (hr : s.requests[i]? = some r)
    (hover : r.handle = .ended) : s.calls i = 1 ∧ r.releases = 1 := by
  have hreleased := (hs.sound r (List.mem_of_getElem? hr)).released
  rw [if_pos hover] at hreleased
  exact ⟨(calls_eq_releases hs hr).trans hreleased, hreleased⟩

theorem leads_to_answered (hs : s.Accounted) :
    ((system lib).restrict IsDraining).Leads AllAnswered s := by
  refine LTS.leads_of_rank (I := Accounted) (μ := rank) ?_ ?_ ?_ hs
  · intro s e s' hs he hstep
    exact accounted_step hstep hs he.clean
  · intro s hs
    by_cases hall : ∀ r ∈ s.requests, r.handle = .ended
    · exact .inl fun i r hr => answered_of_over hs hr (hall r (List.mem_of_getElem? hr))
    · push Not at hall
      obtain ⟨r, hr, hover⟩ := hall
      obtain ⟨i, hi, hget⟩ := List.getElem_of_mem hr
      exact .inr (exists_draining hs (List.getElem?_eq_some_iff.mpr ⟨hi, hget⟩) hover)
  · intro s e s' hs he hstep
    exact rank_lt hs he hstep

/-- In a clean run no callback is invoked twice and no data freed twice, and that of
several requests is invoked exactly if each of them is answered; the data of the handles
in the set is not freed. When the destructor and the executor are done each request was
answered once, and on the way there every request is still going to be. -/
theorem answeredOnce_of_clean {trace : List Event}
    (run : (system lib).RunWhere IsClean trace s) :
    (∀ i (r : Request), s.requests[i]? = some r → s.calls i ≤ 1 ∧ r.releases ≤ 1 ∧
        (r.inHandleSet = true → r.releases = 0)) ∧
      (∀ requests : List ℕ, requests.Nodup → (s.fetchUrls requests).allDone.length =
        if ∀ i ∈ requests, s.calls i = 1 then 1 else 0) ∧
      (s.IsSettled → s.AllAnswered) ∧
      ((system lib).restrict IsDraining).Leads AllAnswered s := by
  have hs := accounted_of_run run
  have hreleases : ∀ (i : ℕ) (r : Request), s.requests[i]? = some r → r.releases ≤ 1 := by
    intro i r hr
    rw [(hs.sound r (List.mem_of_getElem? hr)).released]
    split <;> omega
  have hcalls : ∀ i, s.calls i ≤ 1 := by
    intro i
    rw [hs.answered i]
    cases hr : s.requests[i]? with
    | none => exact Nat.zero_le 1
    | some r => exact hreleases i r hr
  refine ⟨?_, ?_, ?_, leads_to_answered hs⟩
  · intro i r hr
    exact ⟨hcalls i, hreleases i r hr, (hs.sound r (List.mem_of_getElem? hr)).not_released⟩
  · intro requests hnodup
    exact FetchUrlsLifetime.after_allDone_of_le_one hnodup fun i _ => hcalls i
  · intro hsettled i r hr
    have hmem := List.mem_of_getElem? hr
    refine answered_of_over hs hr ?_
    have hhanded := (hs.handedOn hsettled.1).2 r hmem
    have hnot := hsettled.2 r hmem
    cases hphase : r.handle with
    | ended => rfl
    | scheduled result =>
      rw [hphase] at hnot
      cases hnot
    | fresh | refused | running | done msg | read result | removed result | erased result =>
      rw [hphase] at hhanded
      cases hhanded

section Race

def withoutTexts : LibCurl where
  easyStrerror _ := ""
  multiStrerror _ := ""

/-- A transfer is done before its caller has put the handle into the set, and the
fetcher is destroyed later. -/
def doneBeforeRecorded : List Event :=
  [.submit, .request 0 (.add .ok), .request 0 (.transferDone ⟨.ok, 200, ""⟩),
    .request 0 .getUpdate, .request 0 .removeFromMulti, .request 0 .removeFromSet,
    .request 0 .run, .request 0 .record, .request 0 .release, .request 0 .runClosure,
    .requestShutdown, .shutdownEventLoop, .destroy]

/-- Its callback is invoked and its data freed by the executor and by the destructor,
which finds the handle of the freed data in the set. -/
theorem answered_twice :
    ∃ trace s, (system withoutTexts).Run trace s ∧ s.calls 0 = 2 ∧
      ∃ r : Request, s.requests[0]? = some r ∧ r.releases = 2 := by
  have hrun : (doneBeforeRecorded.foldlM (fun (s : Fetcher) e => s.step withoutTexts e) {}).map
      (fun s => (s.calls 0, s.requests[0]?.map Request.releases)) = some (2, some 2) := by
    decide +kernel
  obtain ⟨s, hs, hstate⟩ := Option.map_eq_some_iff.mp hrun
  simp only [Prod.mk.injEq] at hstate
  obtain ⟨hcalls, hreleases⟩ := hstate
  obtain ⟨r, hr, hreleased⟩ := Option.map_eq_some_iff.mp hreleases
  exact ⟨_, s, LTS.run_of_foldlM (.start rfl) hs, hcalls, r, hr, hreleased⟩

/-- The same request with its handle recorded first, in flight when the fetcher is
destroyed. -/
def cancelledAtShutdown : List Event :=
  [.submit, .request 0 (.add .ok), .request 0 .record, .request 0 .release, .requestShutdown,
    .shutdownEventLoop, .destroy]

theorem answered_at_shutdown :
    ∃ trace s, (system withoutTexts).RunWhere IsClean trace s ∧ s.requests.length = 1 ∧
      s.AllAnswered := by
  have hrun : (cancelledAtShutdown.foldlM
      (fun (s : Fetcher) e => if s.IsClean e then s.step withoutTexts e else none) {}).map
      (fun s => (s.requests.length, s.destroyed, s.requests.all fun r => !r.handle.isScheduled)) =
        some (1, true, true) := by
    decide +kernel
  obtain ⟨s, hs, hstate⟩ := Option.map_eq_some_iff.mp hrun
  simp only [Prod.mk.injEq, List.all_eq_true, Bool.not_eq_true'] at hstate
  obtain ⟨hlength, hdestroyed, hscheduled⟩ := hstate
  have run : (system withoutTexts).RunWhere IsClean _ s := LTS.runWhere_of_foldlM (.start rfl) hs
  exact ⟨_, s, run, hlength, (answeredOnce_of_clean run).2.2.1 ⟨hdestroyed, hscheduled⟩⟩

end Race

end Fetcher

end NoQueue

end BiddingAuction
