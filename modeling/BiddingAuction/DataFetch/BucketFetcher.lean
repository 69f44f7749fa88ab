import BiddingAuction.Foundation.Runs
import Mathlib.Data.Int.Notation
import Mathlib.Tactic.Common

/-!
# `PeriodicBucketFetcher`

A cycle lists the blobs of a bucket, asks for each, and waits on a counter that the
callbacks count down. The client that gets the blobs is not modelled: a call may be
answered later, or before it returns, or fail without ever being answered.
-/

namespace BiddingAuction

open Foundation

/-- The error of a blob that was not loaded. -/
inductive FetchError where
  | invalidArgument (message : String)
  | notFound (message : String)
  | load (message : String)
deriving DecidableEq, Repr

def kMissingBucketName := "Missing bucket name."
def kMissingBlobName := "Missing blob name."

def getBucketBlobVersion (bucketName blobName : String) : Except FetchError String :=
  if bucketName = "" then .error (.invalidArgument kMissingBucketName)
  else if blobName = "" then .error (.invalidArgument kMissingBlobName)
  else .ok (bucketName ++ "/" ++ blobName)

/-- The answer to a `GetBlob`, and what `LoadSync` will say to the code in it. -/
structure GetBlobResponse where
  /-- The text of `context.result`, where it is not a success. -/
  failure : Option String := none
  /-- The data, if there is a blob. -/
  data : Option String := none
  /-- The error of `LoadSync`, if it fails. -/
  loadError : Option String := none
deriving DecidableEq, Repr

/-- `PeriodicBucketCodeFetcher::OnFetch`, with the version and the code it loads. -/
def onBlobFetch (wrapCode : List String → String) (bucketName blobName : String)
    (response : GetBlobResponse) : Except FetchError (String × String) := do
  let version ← getBucketBlobVersion bucketName blobName
  match response.failure with
  | some message => throw (.invalidArgument ("Failed to fetch blob: " ++ version ++ message))
  | none =>
    let data := response.data.getD ""
    if data = "" then throw (.notFound ("Blob missing data: " ++ version))
    match response.loadError with
    | some message => throw (.load ("Roma failed to load blob." ++ message))
    | none => return (version, wrapCode [data])

/-- How a call of `GetBlob` goes. -/
inductive GetBlobStart where
  /-- The callback comes later. -/
  | started
  /-- The callback comes before the call returns, whatever it returns. -/
  | finished (response : GetBlobResponse)
  /-- The call fails, and the callback never comes. -/
  | failed
deriving DecidableEq, Repr

structure BucketFetcher where
  bucketName : String
  listed : Bool := false
  /-- The blobs that the loop has yet to ask for. -/
  toFetch : List String := []
  /-- The blobs asked for whose callback is to come. -/
  inFlight : List String := []
  /-- The blobs whose callback will never come. -/
  unanswered : List String := []
  blobsRemaining : ℤ := 0
  someLoadSuccess : Bool := false
  loaded : List (String × String) := []
  /-- How often the next cycle was scheduled. -/
  scheduled : ℕ := 0
deriving DecidableEq, Repr

namespace BucketFetcher

variable (f : BucketFetcher) (wrapCode : List String → String)

/-- The callback of a `GetBlob`. -/
def onGetBlobDone (blobName : String) (response : GetBlobResponse) : BucketFetcher :=
  let f :=
    match onBlobFetch wrapCode f.bucketName blobName response with
    | .ok code => { f with someLoadSuccess := true, loaded := f.loaded ++ [code] }
    | .error _ => f
  { f with blobsRemaining := f.blobsRemaining - 1 }

inductive Event where
  /-- The list, or its error. -/
  | listBlobs (blobList : Except String (List String))
  /-- The loop comes to the next blob. -/
  | getBlob (start : GetBlobStart)
  /-- The `k`-th outstanding callback. -/
  | callback (k : ℕ) (response : GetBlobResponse)
  /-- `blobs_remaining.Wait()` returns. -/
  | waited
deriving DecidableEq, Repr

/-- One step of a cycle; `none` for what cannot happen now. -/
def step : Event → Option BucketFetcher
  | .listBlobs blobList =>
    if f.listed then none
    else
      match blobList with
      | .error _ => some { f with listed := true, scheduled := f.scheduled + 1 }
      | .ok blobs =>
        some { f with listed := true, toFetch := blobs, blobsRemaining := blobs.length }
  | .getBlob start =>
    match f.toFetch with
    | [] => none
    | blobName :: toFetch =>
      let f := { f with toFetch }
      match start with
      | .started => some { f with inFlight := f.inFlight ++ [blobName] }
      | .finished response => some (f.onGetBlobDone wrapCode blobName response)
      | .failed => some { f with unanswered := f.unanswered ++ [blobName] }
  | .callback k response =>
    match f.inFlight[k]? with
    | none => none
    | some blobName =>
      some (({ f with inFlight := f.inFlight.eraseIdx k } : BucketFetcher).onGetBlobDone wrapCode
        blobName response)
  | .waited =>
    if f.listed ∧ f.toFetch = [] ∧ f.blobsRemaining = 0 ∧ f.scheduled = 0 then
      some { f with scheduled := 1 }
    else none

def system (bucketName : String) : LTS BucketFetcher Event :=
  LTS.ofStep (fun f => ∃ someLoadSuccess, f = { bucketName, someLoadSuccess })
    (fun f event => f.step wrapCode event)

/-- The cycle is over with the counter at zero, and the next one is scheduled. -/
def Ended : Prop := f.blobsRemaining = 0 ∧ f.scheduled = 1

def IsClean (_ : BucketFetcher) : Event → Prop
  | .getBlob start => start ≠ .failed
  | _ => True

/-! ## The counter -/

/-- The counter is what is yet to be asked for and to be answered, and what never will. -/
structure Counted : Prop where
  remaining : f.blobsRemaining = f.toFetch.length + f.inFlight.length + f.unanswered.length
  unlisted : f.listed = false → f.toFetch = [] ∧ f.inFlight = [] ∧ f.unanswered = [] ∧
    f.scheduled = 0
  once : f.scheduled = 0 ∨ f.scheduled = 1 ∧ f.toFetch = [] ∧ f.blobsRemaining = 0

variable {f wrapCode}

theorem onGetBlobDone_spec (f : BucketFetcher) (wrapCode : List String → String)
    (blobName : String) (response : GetBlobResponse) :
    ∃ someLoadSuccess loaded, f.onGetBlobDone wrapCode blobName response =
      { f with someLoadSuccess, loaded, blobsRemaining := f.blobsRemaining - 1 } := by
  unfold onGetBlobDone
  split
  · exact ⟨true, _, rfl⟩
  · exact ⟨f.someLoadSuccess, f.loaded, rfl⟩

inductive Stepped (f : BucketFetcher) : Event → BucketFetcher → Prop
  | listFailed {message : String} : f.listed = false →
      Stepped f (.listBlobs (.error message))
        { f with listed := true, scheduled := f.scheduled + 1 }
  | listed {blobs : List String} : f.listed = false →
      Stepped f (.listBlobs (.ok blobs))
        { f with listed := true, toFetch := blobs, blobsRemaining := blobs.length }
  | started {blobName : String} {toFetch : List String} : f.toFetch = blobName :: toFetch →
      Stepped f (.getBlob .started) { f with toFetch, inFlight := f.inFlight ++ [blobName] }
  | finished {blobName : String} {toFetch : List String} {response : GetBlobResponse}
      {someLoadSuccess : Bool} {loaded : List (String × String)} :
      f.toFetch = blobName :: toFetch →
      Stepped f (.getBlob (.finished response))
        { f with toFetch, someLoadSuccess, loaded, blobsRemaining := f.blobsRemaining - 1 }
  | failed {blobName : String} {toFetch : List String} : f.toFetch = blobName :: toFetch →
      Stepped f (.getBlob .failed) { f with toFetch, unanswered := f.unanswered ++ [blobName] }
  | callback {k : ℕ} {response : GetBlobResponse} {someLoadSuccess : Bool}
      {loaded : List (String × String)} : k < f.inFlight.length →
      Stepped f (.callback k response)
        { f with
          inFlight := f.inFlight.eraseIdx k, someLoadSuccess, loaded
          blobsRemaining := f.blobsRemaining - 1 }
  | waited : f.listed = true → f.toFetch = [] → f.blobsRemaining = 0 → f.scheduled = 0 →
      Stepped f .waited { f with scheduled := 1 }

theorem stepped_of_step {e : Event} {f' : BucketFetcher} (h : f.step wrapCode e = some f') :
    Stepped f e f' := by
  cases e with
  | listBlobs blobList =>
    simp only [step] at h
    split at h
    · cases h
    · rename_i hlisted
      split at h
      · cases h
        exact .listFailed (Bool.eq_false_iff.mpr hlisted)
      · cases h
        exact .listed (Bool.eq_false_iff.mpr hlisted)
  | getBlob start =>
    simp only [step] at h
    split at h
    · cases h
    · rename_i blobName toFetch hnext
      cases start with
      | started =>
        cases h
        exact .started hnext
      | finished response =>
        obtain ⟨someLoadSuccess, loaded, hdone⟩ :=
          onGetBlobDone_spec { f with toFetch } wrapCode blobName response
        cases h
        rw [hdone]
        exact .finished hnext
      | failed =>
        cases h
        exact .failed hnext
  | callback k response =>
    simp only [step] at h
    split at h
    · cases h
    · rename_i blobName hblob
      obtain ⟨hk, -⟩ := List.getElem?_eq_some_iff.mp hblob
      obtain ⟨someLoadSuccess, loaded, hdone⟩ :=
        onGetBlobDone_spec { f with inFlight := f.inFlight.eraseIdx k } wrapCode blobName
          response
      cases h
      rw [hdone]
      exact .callback hk
  | waited =>
    simp only [step] at h
    split at h
    · rename_i hguard
      cases h
      exact .waited hguard.1 hguard.2.1 hguard.2.2.1 hguard.2.2.2
    · cases h

theorem counted_step {e : Event} {f' : BucketFetcher} (h : Stepped f e f') (hf : f.Counted) :
    f'.Counted := by
  obtain ⟨hremaining, hunlisted, honce⟩ := hf
  cases h with
  | listFailed hlisted =>
    obtain ⟨htoFetch, hinFlight, hunanswered, hscheduled⟩ := hunlisted hlisted
    refine ⟨hremaining, fun h => (by cases h), .inr ⟨by rw [hscheduled], htoFetch, ?_⟩⟩
    rw [htoFetch, hinFlight, hunanswered] at hremaining
    exact hremaining
  | @listed blobs hlisted =>
    obtain ⟨-, hinFlight, hunanswered, hscheduled⟩ := hunlisted hlisted
    refine ⟨?_, fun h => (by cases h), .inl hscheduled⟩
    simp [hinFlight, hunanswered]
  | @started blobName toFetch hnext =>
    rw [hnext] at hremaining honce
    refine ⟨?_, fun hlisted => ?_, ?_⟩
    · simp only [List.length_cons, List.length_append, List.length_nil] at hremaining ⊢
      omega
    · rw [(hunlisted hlisted).1] at hnext
      cases hnext
    · exact honce.imp_right fun h => (by cases h.2.1)
  | @finished blobName toFetch response someLoadSuccess loaded hnext =>
    rw [hnext] at hremaining honce
    refine ⟨?_, fun hlisted => ?_, ?_⟩
    · simp only [List.length_cons] at hremaining ⊢
      omega
    · rw [(hunlisted hlisted).1] at hnext
      cases hnext
    · exact honce.imp_right fun h => (by cases h.2.1)
  | @failed blobName toFetch hnext =>
    rw [hnext] at hremaining honce
    refine ⟨?_, fun hlisted => ?_, ?_⟩
    · simp only [List.length_cons, List.length_append, List.length_nil] at hremaining ⊢
      omega
    · rw [(hunlisted hlisted).1] at hnext
      cases hnext
    · exact honce.imp_right fun h => (by cases h.2.1)
  | @callback k response someLoadSuccess loaded hk =>
    have hlength := List.length_eraseIdx_of_lt hk
    refine ⟨?_, fun hlisted => ?_, ?_⟩
    · simp only [hlength]
      omega
    · rw [(hunlisted hlisted).2.1] at hk
      cases hk
    · refine honce.imp_right fun h => ?_
      rw [h.2.1, h.2.2] at hremaining
      simp only [List.length_nil] at hremaining
      omega
  | waited hlisted htoFetch hzero hscheduled =>
    refine ⟨hremaining, fun h => ?_, .inr ⟨rfl, htoFetch, hzero⟩⟩
    rw [show f.listed = false from h] at hlisted
    cases hlisted

theorem counted_of_run {bucketName : String} {C : BucketFetcher → Event → Prop}
    {trace : List Event} (run : (system wrapCode bucketName).RunWhere C trace f) : f.Counted := by
  refine run.invariant (I := fun _ f => f.Counted) ?_ ?_
  · rintro f ⟨someLoadSuccess, rfl⟩
    exact ⟨rfl, fun _ => ⟨rfl, rfl, rfl, rfl⟩, .inl rfl⟩
  · intro _ f e f' hf _ hstep
    exact counted_step (stepped_of_step hstep) hf

theorem unanswered_iff {e : Event} {f' : BucketFetcher} (h : Stepped f e f')
    (hnone : f.unanswered = []) : f'.unanswered = [] ↔ f.IsClean e := by
  cases h with
  | failed => simp [IsClean]
  | listFailed | listed | callback | waited => exact iff_of_true hnone trivial
  | started | finished => exact iff_of_true hnone (by simp [IsClean])

theorem unanswered_mono {e : Event} {f' : BucketFetcher} (h : Stepped f e f')
    (hnone : f'.unanswered = []) : f.unanswered = [] := by
  cases h with
  | failed => exact (List.append_eq_nil_iff.mp hnone).1
  | listFailed | listed | callback | waited | started | finished => exact hnone

theorem unanswered_iff_clean {bucketName : String} {trace : List Event}
    (run : (system wrapCode bucketName).Run trace f) :
    f.unanswered = [] ↔ (system wrapCode bucketName).RunWhere IsClean trace f := by
  refine LTS.holds_iff_runWhere (P := fun f => f.unanswered = []) ?_ ?_ ?_ run
  · rintro f ⟨someLoadSuccess, rfl⟩
    rfl
  · intro f e f' hstep hnone
    exact unanswered_iff (stepped_of_step hstep) hnone
  · intro f e f' hstep hnone
    exact unanswered_mono (stepped_of_step hstep) hnone

/-! ## The end of a cycle -/

def rank (f : BucketFetcher) : ℕ :=
  2 * f.toFetch.length + f.inFlight.length + if f.scheduled = 0 then 1 else 0

theorem rank_lt {e : Event} {f' : BucketFetcher} (h : Stepped f e f') (hlisted : f.listed = true) :
    f'.rank < f.rank := by
  cases h with
  | listFailed hnot | listed hnot =>
    rw [hlisted] at hnot
    cases hnot
  | started hnext | finished hnext | failed hnext =>
    simp only [rank, hnext, List.length_cons, List.length_append, List.length_nil]
    omega
  | callback hk =>
    have hlength := List.length_eraseIdx_of_lt hk
    simp only [rank, hlength]
    omega
  | waited _ _ _ hscheduled =>
    simp only [rank]
    rw [if_pos hscheduled, if_neg Nat.one_ne_zero]
    omega

theorem ended_or_exists_step (hf : f.Counted) (hlisted : f.listed = true)
    (hnone : f.unanswered = []) :
    f.Ended ∨ ∃ e f', f.IsClean e ∧ f.step wrapCode e = some f' := by
  have hremaining := hf.remaining
  rw [hnone, List.length_nil] at hremaining
  cases htoFetch : f.toFetch with
  | cons blobName toFetch =>
    refine .inr ⟨.getBlob .started, { f with toFetch, inFlight := f.inFlight ++ [blobName] },
      by simp [IsClean], ?_⟩
    simp [step, htoFetch]
  | nil =>
    cases hinFlight : f.inFlight with
    | cons blobName inFlight =>
      refine .inr ⟨.callback 0 {}, ({ f with inFlight } : BucketFetcher).onGetBlobDone wrapCode
        blobName {}, trivial, ?_⟩
      simp [step, hinFlight]
    | nil =>
      have hzero : f.blobsRemaining = 0 := by
        rw [hremaining, htoFetch, hinFlight]
        rfl
      rcases hf.once with hscheduled | ⟨hscheduled, -, -⟩
      · refine .inr ⟨.waited, { f with scheduled := 1 }, trivial, ?_⟩
        simp [step, hlisted, htoFetch, hzero, hscheduled]
      · exact .inl ⟨hzero, hscheduled⟩

theorem listed_mono {e : Event} {f' : BucketFetcher} (h : Stepped f e f')
    (hlisted : f.listed = true) : f'.listed = true := by
  cases h with
  | listFailed | listed => rfl
  | started | finished | failed | callback | waited => exact hlisted

theorem leads_to_end_of_listed {bucketName : String} (hf : f.Counted) (hlisted : f.listed = true)
    (hnone : f.unanswered = []) :
    ((system wrapCode bucketName).restrict IsClean).Leads Ended f := by
  refine LTS.leads_of_rank
    (I := fun f => f.Counted ∧ f.listed = true ∧ f.unanswered = []) (μ := rank) ?_ ?_ ?_
    ⟨hf, hlisted, hnone⟩
  · rintro f e f' ⟨hf, hlisted, hnone⟩ hclean hstep
    have hstepped := stepped_of_step hstep
    exact ⟨counted_step hstepped hf, listed_mono hstepped hlisted,
      (unanswered_iff hstepped hnone).mpr hclean⟩
  · rintro f ⟨hf, hlisted, hnone⟩
    exact ended_or_exists_step hf hlisted hnone
  · rintro f e f' ⟨-, hlisted, -⟩ _ hstep
    exact rank_lt (stepped_of_step hstep) hlisted

theorem leads_to_end {bucketName : String} (hf : f.Counted) (hnone : f.unanswered = []) :
    ((system wrapCode bucketName).restrict IsClean).Leads Ended f := by
  cases hlisted : f.listed with
  | true => exact leads_to_end_of_listed hf hlisted hnone
  | false =>
    refine .later ⟨.listBlobs (.error ""),
      { f with listed := true, scheduled := f.scheduled + 1 }, trivial, ?_⟩ ?_
    · show f.step wrapCode (.listBlobs (.error "")) = _
      simp [step, hlisted]
    · rintro e f' - ⟨hclean, hstep⟩
      have hstepped := stepped_of_step hstep
      refine leads_to_end_of_listed (counted_step hstepped hf) ?_
        ((unanswered_iff hstepped hnone).mpr hclean)
      obtain ⟨htoFetch, hinFlight, -, -⟩ := hf.unlisted hlisted
      cases hstepped with
      | listFailed | listed => rfl
      | started hnext | finished hnext | failed hnext =>
        rw [htoFetch] at hnext
        cases hnext
      | callback hk =>
        rw [hinFlight] at hk
        cases hk
      | waited hlist =>
        rw [hlisted] at hlist
        cases hlist

theorem unanswered_of_leads {bucketName : String} (hf : f.Counted)
    (hleads : ((system wrapCode bucketName).restrict IsClean).Leads Ended f) :
    f.unanswered = [] := by
  by_contra hsome
  have hkeeps : ∀ (f : BucketFetcher) (e : Event) (f' : BucketFetcher),
      f.Counted ∧ f.unanswered ≠ [] →
        ((system wrapCode bucketName).restrict IsClean).step f e f' →
          f'.Counted ∧ f'.unanswered ≠ [] := by
    rintro f e f' ⟨hf, hsome⟩ ⟨-, hstep⟩
    have hstepped := stepped_of_step hstep
    exact ⟨counted_step hstepped hf, fun hnone => hsome (unanswered_mono hstepped hnone)⟩
  obtain ⟨last, ⟨hlast, hlost⟩, hzero, -⟩ := hleads.exists_of_invariant hkeeps ⟨hf, hsome⟩
  have hremaining := hlast.remaining
  have hpositive := List.length_pos_iff.mpr hlost
  omega

/-- The counter is never negative, and the next cycle is scheduled once, with the counter
at zero. The cycle comes to its end whichever way it goes on exactly if every call that
failed was answered nevertheless. -/
theorem ends_iff {bucketName : String} {trace : List Event}
    (run : (system wrapCode bucketName).Run trace f) :
    0 ≤ f.blobsRemaining ∧ (f.scheduled = 0 ∨ f.Ended) ∧
      (((system wrapCode bucketName).restrict IsClean).Leads Ended f ↔
        (system wrapCode bucketName).RunWhere IsClean trace f) := by
  have hf := counted_of_run run
  refine ⟨?_, ?_, ?_⟩
  · have := hf.remaining
    omega
  · exact hf.once.imp_right fun h => ⟨h.2.2, h.1⟩
  · rw [← unanswered_iff_clean run]
    exact ⟨unanswered_of_leads hf, leads_to_end hf⟩

end BucketFetcher

end BiddingAuction
