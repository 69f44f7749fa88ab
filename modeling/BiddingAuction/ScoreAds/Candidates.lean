import BiddingAuction.ScoreAds.FindWinner
import Mathlib.Data.Prod.Lex
import Mathlib.Data.Rat.Floor
import Mathlib.Data.List.Induction

/-!
# What the loops of `FindWinningAd` compute

The first loop keeps exactly the accepted ads, in some order. The second loop
keeps, of the indices it may consider, the first one and those later ones whose
desirability as an `int` equals the first one's desirability; as the ads are
sorted, these are the ads with the very same desirability, if that is an integer.
-/

namespace BiddingAuction

open Foundation

/-! ## The order of the ads -/

namespace ScoredAdData

/-- What `operator>` compares, the most significant first. -/
def rank (ad : ScoredAdData) : ℚ ×ₗ ℚ ×ₗ Bool :=
  toLex (ad.desirability, toLex (ad.adScore.buyerBid, ad.kAnonStatus))

theorem isGreater_iff (ad other : ScoredAdData) :
    ad.isGreater other = true ↔ other.rank < ad.rank := by
  unfold isGreater rank
  rw [Prod.Lex.toLex_lt_toLex, Prod.Lex.toLex_lt_toLex]
  split
  · rename_i h
    simp [h]
  · rename_i hnot
    split
    · rename_i heq
      split
      · rename_i h
        simp [heq, h]
      · rename_i hnot'
        split
        · rename_i heq'
          cases ad.kAnonStatus <;> cases other.kAnonStatus <;> simp [heq, heq']
        · rename_i hne
          simp only [Bool.false_eq_true, false_iff, not_or, not_and]
          exact ⟨hnot, fun _ => ⟨hnot', fun h => absurd h.symm hne⟩⟩
    · rename_i hne
      simp only [Bool.false_eq_true, false_iff, not_or, not_and]
      exact ⟨hnot, fun h => absurd h.symm hne⟩

theorem desirability_le_of_not_isGreater {ad other : ScoredAdData}
    (h : ¬ other.isGreater ad = true) : other.desirability ≤ ad.desirability := by
  rw [isGreater_iff, not_lt] at h
  exact Prod.Lex.monotone_fst _ _ h

end ScoredAdData

/-! ## Scores as integers -/

theorem truncate_le {d : ℚ} (hpos : 0 < d) : (truncate d : ℚ) ≤ d := by
  have hnum : 0 ≤ d.num := (Rat.num_pos.mpr hpos).le
  have hfloor : truncate d = ⌊d⌋ := by
    rw [truncate, Int.tdiv_eq_ediv_of_nonneg hnum]
    exact Rat.floor_def'.symm
  rw [hfloor]
  exact Int.floor_le d

theorem truncate_lt {d : ℚ} {bound : ℤ} (hd : |d| < bound) :
    -bound < truncate d ∧ truncate d < bound := by
  have hsmall : ∀ {d : ℚ}, 0 < d → |d| < bound → 0 ≤ truncate d ∧ truncate d < bound := by
    intro d hpos hd
    refine ⟨Int.tdiv_nonneg (Rat.num_pos.mpr hpos).le (Int.natCast_nonneg _), ?_⟩
    have hlt := (truncate_le hpos).trans_lt (abs_of_pos hpos ▸ hd)
    exact_mod_cast hlt
  rcases lt_trichotomy d 0 with hneg | rfl | hpos
  · have hneg' : truncate d = -truncate (-d) := by simp [truncate]
    obtain ⟨hlow, hhigh⟩ := hsmall (Left.neg_pos_iff.mpr hneg) (by rwa [abs_neg])
    omega
  · have hpos : 0 < bound := by simpa using hd
    simpa [truncate] using hpos
  · obtain ⟨hlow, hhigh⟩ := hsmall hpos hd
    omega

namespace Choices

/-- Insertion sort, the first elements as a sample, and a conversion that
saturates. -/
def standard : Choices :=
  let toInt (d : ℚ) : ℤ := max (-2 ^ 31) (min (2 ^ 31 - 1) (truncate d))
  { sortAds := .insertion ScoredAdData.rank ScoredAdData.isGreater_iff
    sample := .first ℕ
    toInt := toInt
    toInt_eq := fun d hd => by
      have hfits : |d| < ((2 ^ 31 : ℤ) : ℚ) := by exact_mod_cast hd
      obtain ⟨hlow, hhigh⟩ := truncate_lt hfits
      show max _ (min _ _) = _
      omega
    toInt_lt := fun d => by
      show max _ (min _ _) < _
      omega
    le_toInt := fun d => le_max_left _ _
    sortScores := .insertion toInt fun _ _ => Iff.rfl }

variable (ch : Choices)

/-- The conversion to `int` does not raise a positive score. -/
theorem toInt_le {d : ℚ} (hpos : 0 < d) : (ch.toInt d : ℚ) ≤ d := by
  by_cases hfits : d < 2 ^ 31
  · rw [ch.toInt_eq d (by rwa [abs_of_pos hpos])]
    exact truncate_le hpos
  · have hlt : (ch.toInt d : ℚ) < 2 ^ 31 := by exact_mod_cast ch.toInt_lt d
    exact hlt.le.trans (not_lt.mp hfits)

theorem eq_of_toInt_eq {d top : ℚ} (hpos : 0 < d) (hle : d ≤ top) (h : (ch.toInt d : ℚ) = top) :
    d = top :=
  le_antisymm hle (h ▸ ch.toInt_le hpos)

theorem toInt_eq_self {d : ℚ} (hpos : 0 < d) : (ch.toInt d : ℚ) = d ↔ d.den = 1 ∧ d < 2 ^ 31 := by
  constructor
  · intro h
    rw [← h]
    exact ⟨Rat.den_intCast _, by exact_mod_cast ch.toInt_lt d⟩
  · rintro ⟨hden, hfits⟩
    rw [ch.toInt_eq d (by rwa [abs_of_pos hpos]), truncate, hden]
    simpa using (Rat.den_eq_one_iff d).mp hden

end Choices

/-! ## The first loop -/

namespace ScoreAdsReactor

section Screening

variable (r : ScoreAdsReactor) (lib : Library)

theorem swapWithLast_perm (rest : List ScoredAdData) : (swapWithLast rest).Perm rest := by
  rcases List.eq_nil_or_concat rest with rfl | ⟨front, last, rfl⟩
  · exact .refl _
  · simpa [swapWithLast] using (List.perm_append_singleton last front).symm

theorem screenAd_spec (s : Screening) :
    ((r.screenAd lib s).kept ++ r.accepted lib (r.screenAd lib s).todo).Perm
        (s.kept ++ r.accepted lib s.todo) ∧
      (r.screenAd lib s).todo.length = s.todo.length - 1 := by
  unfold screenAd
  split
  · rename_i hnil
    simp [hnil]
  · rename_i ad rest htodo
    have hswap : (r.accepted lib (swapWithLast rest)).Perm (r.accepted lib rest) :=
      ((swapWithLast_perm rest).filter _).map _
    have hlen := (swapWithLast_perm rest).length_eq
    dsimp only
    split
    · rename_i reason hreason
      have hrejected : r.isAccepted lib ad = false := by simp [isAccepted, hreason]
      simpa [htodo, accepted, hrejected, hlen] using hswap.append_left s.kept
    · rename_i hnone
      split
      · rename_i hcomponent
        have hrejected : r.isAccepted lib ad = false := by simp [isAccepted, hcomponent]
        simpa [htodo, accepted, hrejected, hlen] using hswap.append_left s.kept
      · rename_i hallowed
        have haccepted : r.isAccepted lib ad = true := by simp [isAccepted, hnone, hallowed]
        simp [htodo, accepted, haccepted]

theorem screenAds_kept (ads : List ScoredAdData) :
    (r.screenAds lib ads).kept.Perm (r.accepted lib ads) := by
  have hrun : ∀ (n : ℕ) (s : Screening),
      (((r.screenAd lib)^[n] s).kept ++ r.accepted lib ((r.screenAd lib)^[n] s).todo).Perm
        (s.kept ++ r.accepted lib s.todo) ∧
      ((r.screenAd lib)^[n] s).todo.length = s.todo.length - n := by
    intro n
    induction n with
    | zero => exact fun s => ⟨.refl _, rfl⟩
    | succ n ih =>
      intro s
      obtain ⟨hperm, hlen⟩ := ih (r.screenAd lib s)
      obtain ⟨hperm', hlen'⟩ := r.screenAd_spec lib s
      rw [Function.iterate_succ_apply]
      refine ⟨hperm.trans hperm', ?_⟩
      omega
  obtain ⟨hperm, hlen⟩ := hrun ads.length { todo := ads }
  have hdone : (r.screenAds lib ads).todo = [] := by
    unfold screenAds
    exact List.eq_nil_of_length_eq_zero (by simpa using hlen)
  unfold screenAds at hdone ⊢
  rw [hdone] at hperm
  simpa [accepted] using hperm

end Screening

/-! ## The second loop -/

section Gathering

variable (toInt : ℚ → ℤ) (ads : List ScoredAdData)

def desirabilityAt (ind : ℕ) : ℚ := (ads[ind]?.map ScoredAdData.desirability).getD 0

def isWinnerCand (ind : ℕ) : Bool :=
  ads[ind]?.any fun ad => ad.kAnonStatus && decide (0 < ad.desirability)

/-- The indices below `n` at which an ad can win. -/
def winnerCands (n : ℕ) : List ℕ := (List.range n).filter (isWinnerCand ads)

/-- The ad at an index can become a ghost winner: no ad before it can win. -/
def isGhostCand (ind : ℕ) : Bool :=
  (ads[ind]?.any fun ad => !ad.kAnonStatus && decide (0 < ad.desirability)) &&
    (winnerCands ads ind).isEmpty

/-- The indices below `n` at which an ad can become a ghost winner. -/
def ghostCands (n : ℕ) : List ℕ := (List.range n).filter (isGhostCand ads)

def pick (inds : List ℕ) : List ℕ :=
  inds.foldl (fun cands ind => addIfCandsEmptyOrHasEqLastDesirability ind
    (toInt (desirabilityAt ads ind)) ads cands) []

def SameAds (ads other : List ScoredAdData) : Prop :=
  ads.map clearDebugReportUrls = other.map clearDebugReportUrls

variable {ads} {other : List ScoredAdData}

theorem SameAds.getElem? (same : SameAds ads other) (ind : ℕ) :
    ads[ind]?.map clearDebugReportUrls = other[ind]?.map clearDebugReportUrls := by
  rw [← List.getElem?_map, ← List.getElem?_map, same]

theorem SameAds.length_eq (same : SameAds ads other) : ads.length = other.length := by
  simpa using congrArg List.length same

theorem SameAds.desirability? (same : SameAds ads other) (ind : ℕ) :
    ads[ind]?.map ScoredAdData.desirability = other[ind]?.map ScoredAdData.desirability := by
  have h := congrArg (Option.map ScoredAdData.desirability) (same.getElem? ind)
  rw [Option.map_map, Option.map_map] at h
  exact h

theorem SameAds.add_eq (same : SameAds ads other) (ind : ℕ) (desirability : ℤ)
    (cands : List ℕ) : addIfCandsEmptyOrHasEqLastDesirability ind desirability ads cands =
      addIfCandsEmptyOrHasEqLastDesirability ind desirability other cands := by
  unfold addIfCandsEmptyOrHasEqLastDesirability
  split
  · rfl
  · rw [same.desirability?]

theorem winnerCands_succ (n : ℕ) :
    winnerCands ads (n + 1) = winnerCands ads n ++ if isWinnerCand ads n then [n] else [] := by
  rw [winnerCands, List.range_succ, List.filter_append, List.filter_cons, List.filter_nil]
  rfl

theorem ghostCands_succ (n : ℕ) :
    ghostCands ads (n + 1) = ghostCands ads n ++ if isGhostCand ads n then [n] else [] := by
  rw [ghostCands, List.range_succ, List.filter_append, List.filter_cons, List.filter_nil]
  rfl

theorem pick_snoc (inds : List ℕ) (ind : ℕ) :
    pick toInt ads (inds ++ [ind]) = addIfCandsEmptyOrHasEqLastDesirability ind
      (toInt (desirabilityAt ads ind)) ads (pick toInt ads inds) := by
  unfold pick
  rw [List.foldl_append]
  rfl

theorem pick_eq_nil {inds : List ℕ} : pick toInt ads inds = [] ↔ inds = [] := by
  induction inds using List.reverseRecOn with
  | nil => exact ⟨fun _ => rfl, fun _ => rfl⟩
  | append_singleton inds ind ih =>
    rw [pick_snoc]
    unfold addIfCandsEmptyOrHasEqLastDesirability
    split
    · simp
    · rename_i back hback
      have hne : pick toInt ads inds ≠ [] := fun h => by simp [h] at hback
      split <;> simp [hne]

theorem pick_snoc_if (inds : List ℕ) (ind : ℕ) (b : Bool) :
    pick toInt ads (inds ++ if b then [ind] else []) =
      if b then addIfCandsEmptyOrHasEqLastDesirability ind (toInt (desirabilityAt ads ind)) ads
        (pick toInt ads inds) else pick toInt ads inds := by
  cases b
  · simp
  · exact pick_snoc toInt inds ind

/-- The second loop has considered the indices below `n`: it cleared the debug
report URLs of those that can become ghost winners. -/
structure Gathered (ads : List ScoredAdData) (n : ℕ) (c : Candidates) : Prop where
  ads_at : ∀ ind, c.parsedAds[ind]? = if ind < n ∧ isGhostCand ads ind = true then
    ads[ind]?.map clearDebugReportUrls else ads[ind]?
  winner : c.winnerCandIndices = pick toInt ads (winnerCands ads n)
  ghost : c.ghostWinnerCandIndices = pick toInt ads (ghostCands ads n)

theorem Gathered.same {toInt : ℚ → ℤ} {n : ℕ} {c : Candidates} (g : Gathered toInt ads n c) :
    SameAds c.parsedAds ads := by
  refine List.ext_getElem? fun ind => ?_
  rw [List.getElem?_map, List.getElem?_map, g.ads_at]
  split
  · rw [Option.map_map]
    rfl
  · rfl

theorem Gathered.keep {toInt : ℚ → ℤ} {n : ℕ} {c : Candidates} (g : Gathered toInt ads n c)
    (hghost : isGhostCand ads n = false) (ind : ℕ) :
    c.parsedAds[ind]? = if ind < n + 1 ∧ isGhostCand ads ind = true then
      ads[ind]?.map clearDebugReportUrls else ads[ind]? := by
  rw [g.ads_at]
  refine if_congr (and_congr_left fun hind => ?_) rfl rfl
  have hne : ind ≠ n := fun h => by simp [h ▸ hind] at hghost
  omega

theorem Gathered.pass {toInt : ℚ → ℤ} {n : ℕ} {c : Candidates} (g : Gathered toInt ads n c)
    (hwinner : isWinnerCand ads n = false) (hghost : isGhostCand ads n = false) :
    Gathered toInt ads (n + 1) c := by
  refine ⟨g.keep hghost, ?_, ?_⟩
  · rw [winnerCands_succ, pick_snoc_if, hwinner, g.winner]
    rfl
  · rw [ghostCands_succ, pick_snoc_if, hghost, g.ghost]
    rfl

theorem Gathered.addWinner {toInt : ℚ → ℤ} {n : ℕ} {c : Candidates} (g : Gathered toInt ads n c)
    (hwinner : isWinnerCand ads n = true) (hghost : isGhostCand ads n = false) :
    Gathered toInt ads (n + 1) { c with
      winnerCandIndices := addIfCandsEmptyOrHasEqLastDesirability n (toInt (desirabilityAt ads n))
        c.parsedAds c.winnerCandIndices } := by
  refine ⟨g.keep hghost, ?_, ?_⟩
  · rw [winnerCands_succ, pick_snoc_if, hwinner, ← g.winner, g.same.add_eq]
    rfl
  · rw [ghostCands_succ, pick_snoc_if, hghost, g.ghost]
    rfl

/-- The ad of a new ghost candidate is cleared before its desirability is compared,
which clearing does not change. -/
theorem Gathered.addGhost {toInt : ℚ → ℤ} {n : ℕ} {c : Candidates} (g : Gathered toInt ads n c)
    {ad : ScoredAdData} (had : ads[n]? = some ad) (hlt : n < c.parsedAds.length)
    (hwinner : isWinnerCand ads n = false) (hghost : isGhostCand ads n = true) :
    Gathered toInt ads (n + 1) { c with
      parsedAds := c.parsedAds.set n (clearDebugReportUrls ad)
      ghostWinnerCandIndices := addIfCandsEmptyOrHasEqLastDesirability n
        (toInt (desirabilityAt ads n)) (c.parsedAds.set n (clearDebugReportUrls ad))
        c.ghostWinnerCandIndices } := by
  have hset : ∀ ind, (c.parsedAds.set n (clearDebugReportUrls ad))[ind]? =
      if ind < n + 1 ∧ isGhostCand ads ind = true then
        ads[ind]?.map clearDebugReportUrls else ads[ind]? := by
    intro ind
    rw [List.getElem?_set]
    split
    · rename_i hind
      rw [← hind, if_pos ⟨Nat.lt_succ_self n, hghost⟩, had]
      rfl
    · rename_i hne
      rw [g.ads_at]
      refine if_congr (and_congr_left fun _ => ?_) rfl rfl
      omega
  have cleared : Gathered toInt ads (n + 1)
      ⟨c.parsedAds.set n (clearDebugReportUrls ad), _, _⟩ := ⟨hset, rfl, rfl⟩
  have same := cleared.same
  refine ⟨hset, ?_, ?_⟩
  · rw [winnerCands_succ, pick_snoc_if, hwinner, g.winner]
    rfl
  · rw [ghostCands_succ, pick_snoc_if, hghost, ← g.ghost, ← same.add_eq]
    rfl

theorem Gathered.step {n : ℕ} {c : Candidates} (g : Gathered toInt ads n c) :
    Gathered toInt ads (n + 1) (considerAd toInt c n) := by
  have hempty : c.winnerCandIndices.isEmpty = (winnerCands ads n).isEmpty := by
    rw [g.winner, Bool.eq_iff_iff, List.isEmpty_iff, List.isEmpty_iff, pick_eq_nil]
  -- the turns before this one have not touched the ad
  have hn : c.parsedAds[n]? = ads[n]? := by
    rw [g.ads_at]
    simp
  unfold considerAd
  split
  · rename_i hnone
    have hnone' := hn.symm.trans hnone
    exact g.pass (by simp [isWinnerCand, hnone']) (by simp [isGhostCand, hnone'])
  · rename_i ad had
    have had' := hn.symm.trans had
    have hat : desirabilityAt ads n = ad.desirability := by simp [desirabilityAt, had']
    have hw : isWinnerCand ads n = (ad.kAnonStatus && decide (0 < ad.desirability)) := by
      simp [isWinnerCand, had']
    have hg : isGhostCand ads n = (!ad.kAnonStatus && decide (0 < ad.desirability) &&
        c.winnerCandIndices.isEmpty) := by
      rw [hempty]
      simp [isGhostCand, had']
    rw [← hat]
    split
    · rename_i hle
      rw [hat] at hle
      exact g.pass (by simp [hw, hle]) (by simp [hg, hle])
    · rename_i hpos
      rw [hat, not_le] at hpos
      split
      · rename_i hk
        exact g.addWinner (by simp [hw, hk, hpos]) (by simp [hg, hk])
      · rename_i hk
        split
        · rename_i hnowinner
          obtain ⟨hlt, -⟩ := List.getElem?_eq_some_iff.mp had
          exact g.addGhost had' hlt (by simp [hw, hk]) (by simp [hg, hk, hpos, hnowinner])
        · rename_i hwinners
          exact g.pass (by simp [hw, hk]) (by simp [hg, hwinners])

theorem gatherCandidates_spec :
    Gathered toInt ads ads.length (gatherCandidates toInt ads) := by
  have hrun : ∀ n, Gathered toInt ads n
      ((List.range n).foldl (considerAd toInt) { parsedAds := ads }) := by
    intro n
    induction n with
    | zero => exact ⟨fun ind => by simp, rfl, rfl⟩
    | succ n ih =>
      rw [List.range_succ, List.foldl_append]
      exact ih.step
  exact hrun ads.length

/-! ### Which candidates are kept -/

theorem desirability?_eq {ind : ℕ} (hvalid : ind < ads.length) :
    ads[ind]?.map ScoredAdData.desirability = some (desirabilityAt ads ind) := by
  simp [desirabilityAt, hvalid]

/-- Of candidates in descending order the first is kept, and those after it whose
score as an `int` equals its score. -/
theorem pick_cons (ch : Choices) {first : ℕ} {rest : List ℕ}
    (hvalid : ∀ ind ∈ first :: rest, ind < ads.length)
    (hpos : ∀ ind ∈ rest, 0 < desirabilityAt ads ind)
    (hdesc : ∀ ind ∈ rest, desirabilityAt ads ind ≤ desirabilityAt ads first) :
    pick ch.toInt ads (first :: rest) = first :: rest.filter fun ind =>
      (ch.toInt (desirabilityAt ads ind) : ℚ) = desirabilityAt ads first := by
  induction rest using List.reverseRecOn with
  | nil => rfl
  | append_singleton rest ind ih =>
    have hsub : rest ⊆ rest ++ [ind] := List.subset_append_left rest [ind]
    rw [← List.cons_append, pick_snoc,
      ih (fun i hi => hvalid i (List.cons_subset_cons _ hsub hi)) (fun i hi => hpos i (hsub hi))
        (fun i hi => hdesc i (hsub hi)), List.filter_append,
      addIfCandsEmptyOrHasEqLastDesirability]
    -- every candidate kept so far has the score of the first one
    have hkept : ∀ back ∈ first :: rest.filter (fun ind =>
        (ch.toInt (desirabilityAt ads ind) : ℚ) = desirabilityAt ads first),
        back < ads.length ∧ desirabilityAt ads back = desirabilityAt ads first := by
      intro back hback
      rcases List.mem_cons.mp hback with rfl | hback
      · exact ⟨hvalid back List.mem_cons_self, rfl⟩
      · obtain ⟨hmem, hint⟩ := List.mem_filter.mp hback
        exact ⟨hvalid back (List.mem_cons_of_mem _ (hsub hmem)),
          ch.eq_of_toInt_eq (hpos back (hsub hmem)) (hdesc back (hsub hmem))
            (of_decide_eq_true hint)⟩
    split
    · rename_i hnil
      simp at hnil
    · rename_i back hback
      obtain ⟨hlt, heq⟩ := hkept back (List.mem_of_getLast? hback)
      simp only [desirability?_eq hlt, heq, Option.some_inj]
      rw [List.filter_cons, List.filter_nil]
      by_cases hint : (ch.toInt (desirabilityAt ads ind) : ℚ) = desirabilityAt ads first
      · simp [hint]
      · simp [hint, Ne.symm hint]

/-- Indices of ads with positive scores, highest score first. -/
structure Ranked (ads : List ScoredAdData) (inds : List ℕ) : Prop where
  valid : ∀ ind ∈ inds, ind < ads.length
  positive : ∀ ind ∈ inds, 0 < desirabilityAt ads ind
  descending : inds.Pairwise fun i j => desirabilityAt ads j ≤ desirabilityAt ads i

theorem Ranked.mem_pick_cons {ch : Choices} {first : ℕ} {rest : List ℕ}
    (ranked : Ranked ads (first :: rest)) {ind : ℕ} :
    ind ∈ pick ch.toInt ads (first :: rest) ↔ ind = first ∨
      (ind ∈ rest ∧ (ch.toInt (desirabilityAt ads ind) : ℚ) = desirabilityAt ads first) := by
  rw [pick_cons ch ranked.valid (fun i hi => ranked.positive i (List.mem_cons_of_mem _ hi))
    (List.pairwise_cons.mp ranked.descending).1]
  simp

theorem Ranked.pick_sublist {ch : Choices} {inds : List ℕ} (ranked : Ranked ads inds) :
    (pick ch.toInt ads inds).Sublist inds := by
  cases inds with
  | nil => exact .refl _
  | cons first rest =>
    rw [pick_cons ch ranked.valid (fun i hi => ranked.positive i (List.mem_cons_of_mem _ hi))
      (List.pairwise_cons.mp ranked.descending).1]
    exact List.filter_sublist.cons_cons first

theorem Ranked.le_of_mem_pick {ch : Choices} {inds : List ℕ} (ranked : Ranked ads inds) {ind : ℕ}
    (hind : ind ∈ pick ch.toInt ads inds) :
    ∀ j ∈ inds, desirabilityAt ads j ≤ desirabilityAt ads ind := by
  cases inds with
  | nil => simp
  | cons first rest =>
    have hdesc := (List.pairwise_cons.mp ranked.descending).1
    have heq : desirabilityAt ads ind = desirabilityAt ads first := by
      rcases ranked.mem_pick_cons.mp hind with rfl | ⟨hmem, hint⟩
      · rfl
      · exact ch.eq_of_toInt_eq (ranked.positive ind (List.mem_cons_of_mem _ hmem))
          (hdesc ind hmem) hint
    intro j hj
    rw [heq]
    rcases List.mem_cons.mp hj with rfl | hj
    · exact le_rfl
    · exact hdesc j hj

end Gathering

/-! ### Candidates among sorted ads -/

section Sorted

variable {ads : List ScoredAdData} (hsorted : ads.Pairwise fun a b => ¬ b.isGreater a = true)

theorem desirabilityAt_of_getElem? {ind : ℕ} {ad : ScoredAdData} (had : ads[ind]? = some ad) :
    desirabilityAt ads ind = ad.desirability := by
  simp [desirabilityAt, had]

theorem isWinnerCand_iff {ind : ℕ} : isWinnerCand ads ind = true ↔
    ∃ ad, ads[ind]? = some ad ∧ ad.kAnonStatus = true ∧ 0 < ad.desirability := by
  unfold isWinnerCand
  cases ads[ind]? <;> simp

theorem isGhostCand_iff {ind : ℕ} : isGhostCand ads ind = true ↔
    (∃ ad, ads[ind]? = some ad ∧ ad.kAnonStatus = false ∧ 0 < ad.desirability) ∧
      ∀ j < ind, isWinnerCand ads j = false := by
  unfold isGhostCand winnerCands
  rw [Bool.and_eq_true, List.isEmpty_iff, List.filter_eq_nil_iff]
  simp only [List.mem_range, Bool.not_eq_true]
  cases ads[ind]? <;> simp

include hsorted

theorem desirabilityAt_antitone {i j : ℕ} (hij : i ≤ j) (hj : j < ads.length) :
    desirabilityAt ads j ≤ desirabilityAt ads i := by
  rcases hij.eq_or_lt with rfl | hlt
  · exact le_rfl
  · have hi := hlt.trans hj
    rw [desirabilityAt_of_getElem? (List.getElem?_eq_getElem hj),
      desirabilityAt_of_getElem? (List.getElem?_eq_getElem hi)]
    exact ScoredAdData.desirability_le_of_not_isGreater
      (List.pairwise_iff_getElem.mp hsorted i j hi hj hlt)

theorem ranked_filter_range {p : ℕ → Bool} (hp : ∀ ind, p ind = true →
    ∃ ad, ads[ind]? = some ad ∧ 0 < ad.desirability) :
    Ranked ads ((List.range ads.length).filter p) := by
  have hvalid : ∀ ind ∈ (List.range ads.length).filter p, ind < ads.length :=
    fun ind hind => List.mem_range.mp (List.mem_filter.mp hind).1
  refine ⟨hvalid, ?_, ?_⟩
  · intro ind hind
    obtain ⟨ad, had, hpos⟩ := hp ind (List.mem_filter.mp hind).2
    rwa [desirabilityAt_of_getElem? had]
  · refine (List.pairwise_lt_range.filter p).imp_of_mem ?_
    intro i j _ hj hlt
    exact desirabilityAt_antitone hsorted hlt.le (hvalid j hj)

theorem ranked_winnerCands : Ranked ads (winnerCands ads ads.length) := by
  refine ranked_filter_range hsorted fun ind hind => ?_
  obtain ⟨ad, had, -, hpos⟩ := isWinnerCand_iff.mp hind
  exact ⟨ad, had, hpos⟩

theorem ranked_ghostCands : Ranked ads (ghostCands ads ads.length) := by
  refine ranked_filter_range hsorted fun ind hind => ?_
  obtain ⟨⟨ad, had, -, hpos⟩, -⟩ := isGhostCand_iff.mp hind
  exact ⟨ad, had, hpos⟩

end Sorted

end ScoreAdsReactor

end BiddingAuction
