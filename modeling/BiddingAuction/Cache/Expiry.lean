import BiddingAuction.Cache.Invariant

/-!
# Expiry and fresh entries

The work a fired timer queues names a key, not an incarnation of its entry.
Between firing and running, `Insert` may refresh the entry or bring the key
back, and the work then removes an entry that is still fresh. Runs in which no
batch names a key with queued expiry work are safe.
-/

namespace BiddingAuction

open Foundation Cache

variable {K V : Type} [DecidableEq K]

/-- No expiry work is queued for a key of an inserted batch. -/
def NoQueuedExpiry (s : CacheSystem K V) : CacheAction K V → Prop
  | .insert entries => ∀ k ∈ entries.keys, ⟨k, .timeout⟩ ∉ s.cache.executor
  | _ => True

/-- Expiry work run in `s` removes only entries that were last inserted or
refreshed at least `ttl` ago. -/
def ExpiresOnlyStale (ttl : ℕ) (trace : List (CacheAction K V)) (s : CacheSystem K V) : Prop :=
  ∀ i s', s.exec (.run i) = some s' → ∀ k ∈ s.cache.hashToNode, k ∉ s'.cache.hashToNode →
    ∃ t, lastInsert k trace = some t ∧ t + ttl ≤ clock trace

/-- The entries with queued expiry work are past their deadline. -/
def QueuedIsDue (ttl : ℕ) (s : CacheSystem K V) (es : List (CacheHashData K V)) : Prop :=
  ∀ d ∈ es, ⟨d.key, .timeout⟩ ∈ s.cache.executor → d.timerEvent.addedAt + ttl ≤ s.now

theorem QueuedIsDue.effect {cap : ℤ} {ttl : ℕ} {trace : List (CacheAction K V)}
    {s s' : CacheSystem K V} {es es' : List (CacheHashData K V)}
    (inv : CacheInv cap ttl trace s es) (due : QueuedIsDue ttl s es) {a : CacheAction K V}
    (hadmitted : NoQueuedExpiry s a) (heffect : CacheEffect cap s es a s' es') :
    QueuedIsDue ttl s' es' := by
  cases heffect with
  | insert entries cache hframe =>
    intro d hd hqueued
    rw [hframe.timeouts] at hqueued
    rcases mem_afterInsert entries.nodupKeys hd with ⟨hin, -⟩ | ⟨-, hold⟩
    · -- a key of the batch, whose timer starts anew, has no queued work
      exact absurd hqueued (hadmitted d.key hin)
    · exact due d hold hqueued
  | query keys cache hframe =>
    intro d hd hqueued
    rw [hframe.timeouts] at hqueued
    exact due d (mem_of_mem_promoted hd) hqueued
  | advance duration =>
    intro d hd hqueued
    exact (due d hd hqueued).trans (Nat.le_add_right ..)
  | fire node cache pre post d heq hdue hcapacity hexpiry hexecutor =>
    -- the timer that went off was past its deadline; the other queued ones are as before
    subst heq
    have hdistinct := inv.stores.keys_nodup
    intro e he hqueued
    rw [hexecutor, List.mem_append, List.mem_singleton, ExpiryWork.mk.injEq] at hqueued
    have hold : ∃ e' ∈ pre ++ d :: post, e'.key = e.key ∧
        e'.timerEvent.addedAt = e.timerEvent.addedAt := by
      simp only [List.mem_append, List.mem_cons] at he ⊢
      rcases he with he | rfl | he
      · exact ⟨e, .inl he, rfl, rfl⟩
      · exact ⟨d, .inr (.inl rfl), rfl, rfl⟩
      · exact ⟨e, .inr (.inr he), rfl, rfl⟩
    obtain ⟨e', he', hkey, hadded⟩ := hold
    rw [← hadded]
    rcases hqueued with hqueued | ⟨hfired, -⟩
    · exact due e' he' (hkey ▸ hqueued)
    · have hsame : e' = d := List.inj_on_of_nodup_map hdistinct he' (by simp) (hkey.trans hfired)
      rw [hsame, ← inv.expiry]
      exact hdue
  | run i w cache hw hframe =>
    -- work leaves the queue and none joins it
    intro d hd hqueued
    have hold : ⟨d.key, .timeout⟩ ∈ s.cache.executor :=
      List.mem_of_mem_eraseIdx ((hframe.timeouts d.key).mp hqueued)
    refine due d ?_ hold
    split at hd
    · exact List.mem_of_mem_filter hd
    · exact hd

theorem Cache.Stores.mem_hashToNode {c : Cache K V} {es : List (CacheHashData K V)}
    (h : c.Stores es) {k : K} : k ∈ c.hashToNode ↔ k ∈ es.map CacheHashData.key := by
  obtain ⟨cells, rep, rfl⟩ := h
  rw [← not_iff_not, ← AList.lookup_eq_none, rep.lookup_eq_none, entryAt_eq_none, List.map_map]
  rfl

/-- Every entry will expire: its timer is pending, or its expiry work is queued. -/
def WillExpire (s : CacheSystem K V) (es : List (CacheHashData K V)) : Prop :=
  ∀ d ∈ es, d.timerEvent.pending = true ∨ ⟨d.key, .timeout⟩ ∈ s.cache.executor

theorem WillExpire.effect {cap : ℤ} {s s' : CacheSystem K V} {es es' : List (CacheHashData K V)}
    (expiring : WillExpire s es) {a : CacheAction K V} (heffect : CacheEffect cap s es a s' es') :
    WillExpire s' es' := by
  cases heffect with
  | insert entries cache hframe =>
    intro d hd
    rcases mem_afterInsert entries.nodupKeys hd with ⟨-, harmed⟩ | ⟨-, hold⟩
    · exact .inl (congrArg Event.pending harmed)
    · rw [hframe.timeouts]
      exact expiring d hold
  | query keys cache hframe =>
    intro d hd
    rw [hframe.timeouts]
    exact expiring d (mem_of_mem_promoted hd)
  | advance duration => exact expiring
  | fire node cache pre post d heq hdue hcapacity hexpiry hexecutor =>
    subst heq
    intro e he
    rw [hexecutor, List.mem_append]
    rcases List.mem_append.mp he with he | he
    · exact (expiring e (by simp [he])).imp_right Or.inl
    · rcases List.mem_cons.mp he with rfl | he
      · exact .inr (.inr List.mem_cons_self)
      · exact (expiring e (by simp [he])).imp_right Or.inl
  | run i w cache hw hframe =>
    intro d hd
    rw [hframe.timeouts]
    have hold : d ∈ es := by
      split at hd
      · exact List.mem_of_mem_filter hd
      · exact hd
    refine (expiring d hold).imp_right fun hqueued => ?_
    -- the work that ran was not for a key that is still there
    obtain ⟨j, hj⟩ := List.mem_iff_getElem?.mp hqueued
    have hne : j ≠ i := by
      rintro rfl
      obtain rfl : w = ⟨d.key, .timeout⟩ := Option.some.inj (hw.symm.trans hj)
      rw [if_pos rfl] at hd
      simpa using List.of_mem_filter hd
    exact List.mem_eraseIdx_iff_getElem?.mpr ⟨j, hne, hj⟩

theorem willExpire_of_run {cap : ℤ} {ttl : ℕ} {trace : List (CacheAction K V)}
    {s : CacheSystem K V} (run : (cacheSystem K V cap ttl).Run trace s) :
    ∃ es, CacheInv cap ttl trace s es ∧ WillExpire s es :=
  cacheInv_with (by simp [WillExpire])
    (fun _ _ _ _ _ _ _ expiring _ heffect => expiring.effect heffect) run

end BiddingAuction
