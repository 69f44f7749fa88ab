import BiddingAuction.DataFetch.BucketFetcher
import BiddingAuction.Foundation.Remembered
import Mathlib.Data.List.Induction

/-!
# `PeriodicUrlFetcher`

Each fetch is compared with the last one, and loaded where it differs.
-/

namespace BiddingAuction

open Foundation

/-- `PeriodicUrlFetcher`, with what `OnFetch` was called with so far, latest first, and
whether the code was loaded, and how often the next fetch was scheduled. -/
structure UrlFetcher where
  cbResultsValue : List String := []
  someLoadSuccess : Bool := false
  loads : List (List String × Bool) := []
  scheduled : ℕ := 0
deriving DecidableEq, Repr

/-- What comes of a fetch: a result or an error for each URL, and what `LoadSync` would
say to the code. -/
structure UrlFetch where
  results : List (Except String String)
  loadSucceeds : Bool

namespace UrlFetch

def resultsValue? (fetch : UrlFetch) : Option (List String) :=
  fetch.results.mapM Except.toOption

end UrlFetch

namespace UrlFetcher

def periodicUrlFetchSync (f : UrlFetcher) (fetch : UrlFetch) : UrlFetcher :=
  let f :=
    match fetch.resultsValue? with
    | none => f
    | some resultsValue =>
      if f.cbResultsValue ≠ resultsValue then
        { f with
          cbResultsValue := resultsValue
          someLoadSuccess := fetch.loadSucceeds
          loads := (resultsValue, fetch.loadSucceeds) :: f.loads }
      else f
  { f with scheduled := f.scheduled + 1 }

def after (history : List UrlFetch) : UrlFetcher := history.foldl periodicUrlFetchSync {}

def remembered (f : UrlFetcher) : Remembered (List String) := ⟨f.cbResultsValue, f.loads⟩

theorem remembered_fetch (f : UrlFetcher) (fetch : UrlFetch) :
    (f.periodicUrlFetchSync fetch).remembered =
      fetch.resultsValue?.elim f.remembered fun code =>
        f.remembered.offer code fetch.loadSucceeds := by
  unfold periodicUrlFetchSync
  cases fetch.resultsValue? with
  | none => rfl
  | some code =>
    show Remembered.mk _ _ = f.remembered.offer code fetch.loadSucceeds
    unfold Remembered.offer
    by_cases hsame : f.cbResultsValue = code
    · simp [remembered, hsame]
    · simp [remembered, hsame]

theorem scheduled_fetch (f : UrlFetcher) (fetch : UrlFetch) :
    (f.periodicUrlFetchSync fetch).scheduled = f.scheduled + 1 := by
  unfold periodicUrlFetchSync
  dsimp only
  split
  · rfl
  · split <;> rfl

theorem after_append (history : List UrlFetch) (fetch : UrlFetch) :
    after (history ++ [fetch]) = (after history).periodicUrlFetchSync fetch := List.foldl_append

theorem scheduled_after (history : List UrlFetch) : (after history).scheduled = history.length := by
  induction history using List.reverseRecOn with
  | nil => rfl
  | append_singleton history fetch ih =>
    rw [after_append, scheduled_fetch, ih, List.length_append, List.length_singleton]

/-- The fetched code is loaded, or is the last one to have been loaded. -/
def Attempts (history : List UrlFetch) (code : List String) (fetch : UrlFetch) : Prop :=
  (after (history ++ [fetch])).loads = (code, fetch.loadSucceeds) :: (after history).loads ∨
    (after history).remembered.lastLoaded = some code

theorem cbResultsValue_after (history : List UrlFetch) :
    (after history).cbResultsValue = (after history).remembered.lastAttempted [] := by
  induction history using List.reverseRecOn with
  | nil => rfl
  | append_singleton history fetch ih =>
    show (after (history ++ [fetch])).remembered.content = _
    rw [after_append, remembered_fetch]
    cases fetch.resultsValue? with
    | none => exact ih
    | some code => exact Remembered.content_offer ih code fetch.loadSucceeds

/-- A fetched code is neither loaded nor the last to have been loaded exactly if it was
attempted last, and without success. -/
theorem attempts_iff {history : List UrlFetch} {code : List String} {fetch : UrlFetch}
    (hfetch : fetch.resultsValue? = some code) :
    Attempts history code fetch ↔ ((after history).remembered.lastAttempted [] = code →
      (after history).remembered.lastLoaded = some code) := by
  have hlast : (after (history ++ [fetch])).loads =
      ((after history).remembered.offer code fetch.loadSucceeds).loads := by
    have hstep := remembered_fetch (after history) fetch
    rw [hfetch, Option.elim_some] at hstep
    rw [after_append, ← hstep]
    rfl
  rw [Attempts, hlast, ← cbResultsValue_after]
  exact Remembered.loads_or_lastLoaded_iff _ _ _

end UrlFetcher

/-! ## Code fetching -/

section Stalls

variable (wrapCode : List String → String) (bucketName : String)

/-- A cycle of the bucket fetcher comes to its end exactly if no call fails unanswered.
The URL fetcher schedules each next fetch, and loads fetched code that is not loaded yet
exactly if it is not the code whose load was attempted last. -/
theorem codeFetching_goesOn_iff :
    (∀ trace f, (BucketFetcher.system wrapCode bucketName).Run trace f →
      0 ≤ f.blobsRemaining ∧ (f.scheduled = 0 ∨ f.Ended) ∧
      (((BucketFetcher.system wrapCode bucketName).restrict BucketFetcher.IsClean).Leads
          BucketFetcher.Ended f ↔
        (BucketFetcher.system wrapCode bucketName).RunWhere BucketFetcher.IsClean trace f)) ∧
    ∀ history : List UrlFetch, (UrlFetcher.after history).scheduled = history.length ∧
      ∀ (fetch : UrlFetch) (code : List String), fetch.resultsValue? = some code →
        (UrlFetcher.Attempts history code fetch ↔
          ((UrlFetcher.after history).remembered.lastAttempted [] = code →
            (UrlFetcher.after history).remembered.lastLoaded = some code)) := by
  refine ⟨?_, ?_⟩
  · intro trace f run
    exact BucketFetcher.ends_iff run
  · intro history
    refine ⟨UrlFetcher.scheduled_after history, ?_⟩
    intro fetch code hfetch
    exact UrlFetcher.attempts_iff hfetch

end Stalls

/-- Code is fetched twice, and its load fails the first time. -/
def codeFetch (loadSucceeds : Bool) : UrlFetch where
  results := [.ok "function test(){}"]
  loadSucceeds := loadSucceeds

theorem notAttempted_after_failure :
    ¬ ∀ (history : List UrlFetch) (fetch : UrlFetch) (code : List String),
      fetch.resultsValue? = some code → UrlFetcher.Attempts history code fetch := by
  intro hattempts
  rcases hattempts [codeFetch false] (codeFetch true) ["function test(){}"] rfl with hload | hlast
  · cases hload
  · cases hlast

/-- A cycle with one blob, whose call fails and is answered, and code whose first load
succeeded. -/
theorem codeFetching_goesOn :
    (∃ f : BucketFetcher, f.Ended ∧ (BucketFetcher.system String.join "bucket").RunWhere
      BucketFetcher.IsClean
      [.waited, .getBlob (.finished { failure := some "error" }), .listBlobs (.ok ["blob"])] f) ∧
    UrlFetcher.Attempts [codeFetch true] ["function test(){}"] (codeFetch true) := by
  obtain ⟨hbucket, hurl⟩ := codeFetching_goesOn_iff String.join "bucket"
  refine ⟨?_, ((hurl [codeFetch true]).2 (codeFetch true) ["function test(){}"] rfl).mpr ?_⟩
  · have hrun : ([.listBlobs (.ok ["blob"]), .getBlob (.finished { failure := some "error" }),
        .waited].foldlM (fun (f : BucketFetcher) e => f.step String.join e)
        { bucketName := "bucket" }).map (fun f => (f.blobsRemaining, f.scheduled)) =
          some (0, 1) := by
      decide +kernel
    obtain ⟨f, hf, hstate⟩ := Option.map_eq_some_iff.mp hrun
    simp only [Prod.mk.injEq] at hstate
    have run : (BucketFetcher.system String.join "bucket").Run _ f :=
      LTS.run_of_foldlM (.start ⟨false, rfl⟩) hf
    exact ⟨f, hstate, (hbucket _ f run).2.2.mp (.now hstate)⟩
  · intro _
    rfl

end BiddingAuction
