import BiddingAuction.ScoreAds.Candidates

/-!
# The winner and the ghost winners

The winner is an accepted k-anonymous ad of the highest positive desirability
among these; the ghost winners are accepted ads that are not k-anonymous, of the
highest positive desirability among these and no less desirable than the winner.
-/

namespace BiddingAuction

open Foundation

namespace ScoreAdsReactor

/-! ## Drawing among the candidates -/

section Choosing

variable (s : Sampling ℕ) {cands : List ℕ}

theorem chooseWinner_isSome : (chooseWinner s cands).isSome = true ↔ cands ≠ [] := by
  unfold chooseWinner
  rw [List.isSome_head?, ← List.length_pos_iff, s.length, ← List.length_pos_iff]
  omega

theorem mem_of_chooseWinner {ind : ℕ} (h : chooseWinner s cands = some ind) : ind ∈ cands :=
  s.mem_of_mem (List.mem_of_head? h)

theorem chooseWinner_preferring {ind : ℕ} (h : ind ∈ cands) :
    chooseWinner (.preferring ind) cands = some ind := by
  simp [chooseWinner, Sampling.preferring, h]

theorem chooseGhostWinners_sublist (maxGhostWinners : ℕ) :
    (chooseGhostWinners s maxGhostWinners cands).Sublist cands := by
  unfold chooseGhostWinners
  split
  · exact .refl _
  · exact s.sublist _ _

theorem chooseGhostWinners_length (maxGhostWinners : ℕ) :
    (chooseGhostWinners s maxGhostWinners cands).length ≤ maxGhostWinners := by
  unfold chooseGhostWinners
  split
  · omega
  · exact (s.length_le _ _).trans (Nat.min_le_left _ _)

theorem toSizeT_of_nonneg {n : Int32} (hn : 0 ≤ n.toInt) : toSizeT n = n.toInt.toNat := by
  have hlt := n.toInt_lt
  unfold toSizeT
  rw [Int.emod_eq_of_lt hn (by omega)]

end Choosing

/-! ## Candidates of the sorted ads -/

section Sorted

variable {ads : List ScoredAdData} (hsorted : ads.Pairwise fun a b => ¬ b.isGreater a = true)
  (ch : Choices)
include hsorted

theorem winner_of_mem_pick {ind : ℕ} (h : ind ∈ pick ch.toInt ads (winnerCands ads ads.length)) :
    ∃ winner, ads[ind]? = some winner ∧ winner.kAnonStatus = true ∧ 0 < winner.desirability ∧
      ∀ ad ∈ ads, ad.kAnonStatus = true → ad.desirability ≤ winner.desirability := by
  have ranked := ranked_winnerCands hsorted
  have hind := ranked.pick_sublist.subset h
  obtain ⟨winner, hwinner, hk, hpos⟩ := isWinnerCand_iff.mp (List.mem_filter.mp hind).2
  refine ⟨winner, hwinner, hk, hpos, ?_⟩
  intro ad had hadk
  rcases le_or_gt ad.desirability 0 with hle | hadpos
  · exact hle.trans hpos.le
  · obtain ⟨j, hj⟩ := List.mem_iff_getElem?.mp had
    have hlt := (List.getElem?_eq_some_iff.mp hj).1
    have hcand : j ∈ winnerCands ads ads.length := List.mem_filter.mpr
      ⟨List.mem_range.mpr hlt, isWinnerCand_iff.mpr ⟨ad, hj, hadk, hadpos⟩⟩
    have hle := ranked.le_of_mem_pick h j hcand
    rwa [desirabilityAt_of_getElem? hj, desirabilityAt_of_getElem? hwinner] at hle

theorem ghost_of_mem_pick {ind : ℕ} (h : ind ∈ pick ch.toInt ads (ghostCands ads ads.length)) :
    ∃ ghost, ads[ind]? = some ghost ∧ ghost.kAnonStatus = false ∧ 0 < ghost.desirability ∧
      (∀ ad ∈ ads, ad.kAnonStatus = false → ad.desirability ≤ ghost.desirability) ∧
      ∀ j ad, isWinnerCand ads j = true → ads[j]? = some ad →
        ad.desirability ≤ ghost.desirability := by
  have ranked := ranked_ghostCands hsorted
  have hind := ranked.pick_sublist.subset h
  obtain ⟨⟨ghost, hghost, hk, hpos⟩, hfirst⟩ := isGhostCand_iff.mp (List.mem_filter.mp hind).2
  have hbehind : ∀ j ad, ind ≤ j → ads[j]? = some ad → ad.desirability ≤ ghost.desirability := by
    intro j ad hij hj
    have hle := desirabilityAt_antitone hsorted hij (List.getElem?_eq_some_iff.mp hj).1
    rwa [desirabilityAt_of_getElem? hj, desirabilityAt_of_getElem? hghost] at hle
  refine ⟨ghost, hghost, hk, hpos, ?_, ?_⟩
  · intro ad had hadk
    rcases le_or_gt ad.desirability 0 with hle | hadpos
    · exact hle.trans hpos.le
    · obtain ⟨j, hj⟩ := List.mem_iff_getElem?.mp had
      have hlt := (List.getElem?_eq_some_iff.mp hj).1
      by_cases hcand : isGhostCand ads j = true
      · have hle := ranked.le_of_mem_pick h j
          (List.mem_filter.mpr ⟨List.mem_range.mpr hlt, hcand⟩)
        rwa [desirabilityAt_of_getElem? hj, desirabilityAt_of_getElem? hghost] at hle
      · -- an ad that can win stands before this one, and the ghost before that
        have hsome : ∃ k < j, isWinnerCand ads k = true := by
          by_contra hnone
          push Not at hnone
          exact hcand (isGhostCand_iff.mpr ⟨⟨ad, hj, hadk, hadpos⟩,
            fun k hk => by simpa using hnone k hk⟩)
        obtain ⟨k, hkj, hk⟩ := hsome
        have hik : ind ≤ k := by
          by_contra hlt'
          simp [hfirst k (not_le.mp hlt')] at hk
        exact hbehind j ad (hik.trans hkj.le) hj
  · intro j ad hcand hj
    refine hbehind j ad ?_ hj
    by_contra hlt
    simp [hfirst j (not_le.mp hlt)] at hcand

end Sorted

/-! ## What `FindWinningAd` selects -/

section Selects

variable (r : ScoreAdsReactor) (lib : Library) (ch : Choices) (ads : List ScoredAdData)

def sortedAds : List ScoredAdData := ch.sortAds.sort (r.screenAds lib ads).kept

theorem mem_sortedAds {ad : ScoredAdData} :
    ad ∈ r.sortedAds lib ch ads ↔ ad ∈ r.accepted lib ads := by
  unfold sortedAds
  rw [ch.sortAds.mem_sort, (r.screenAds_kept lib ads).mem_iff]

theorem sortedAds_sorted : (r.sortedAds lib ch ads).Pairwise fun a b => ¬ b.isGreater a = true :=
  ch.sortAds.sorted _

theorem gathered : Gathered ch.toInt (r.sortedAds lib ch ads) (r.sortedAds lib ch ads).length
    (gatherCandidates ch.toInt (r.sortedAds lib ch ads)) :=
  gatherCandidates_spec ch.toInt

theorem winnerCandIndices_eq : (r.findWinningAd lib ch ads).scoringData.winnerCandIndices =
    pick ch.toInt (r.sortedAds lib ch ads)
      (winnerCands (r.sortedAds lib ch ads) (r.sortedAds lib ch ads).length) :=
  (r.gathered lib ch ads).winner

theorem ghostWinnerCandIndices_eq :
    (r.findWinningAd lib ch ads).scoringData.ghostWinnerCandIndices =
      pick ch.toInt (r.sortedAds lib ch ads)
        (ghostCands (r.sortedAds lib ch ads) (r.sortedAds lib ch ads).length) :=
  (r.gathered lib ch ads).ghost

/-- An ad the auction may choose as its winner. -/
structure IsWinner (winner : ScoredAdData) : Prop where
  accepted : winner ∈ r.accepted lib ads
  kAnonymous : winner.kAnonStatus = true
  positive : 0 < winner.desirability
  maximal : ∀ ad ∈ r.accepted lib ads, ad.kAnonStatus = true →
    ad.desirability ≤ winner.desirability

/-- An ad the auction may choose as a ghost winner. -/
structure IsGhostWinner (ghost : ScoredAdData) : Prop where
  accepted : ghost ∈ r.accepted lib ads
  notKAnonymous : ghost.kAnonStatus = false
  positive : 0 < ghost.desirability
  maximal : ∀ ad ∈ r.accepted lib ads, ad.kAnonStatus = false →
    ad.desirability ≤ ghost.desirability

variable {ads}

theorem winner_of_winnerIndex {ind : ℕ}
    (h : (r.findWinningAd lib ch ads).scoringData.winnerIndex = some ind) :
    ∃ winner, (r.findWinningAd lib ch ads).parsedAds[ind]? = some winner ∧
      (r.sortedAds lib ch ads)[ind]? = some winner ∧ r.IsWinner lib ads winner := by
  have hmem : ind ∈ (r.findWinningAd lib ch ads).scoringData.winnerCandIndices :=
    mem_of_chooseWinner ch.sample h
  rw [winnerCandIndices_eq] at hmem
  obtain ⟨winner, hwinner, hk, hpos, hmax⟩ :=
    winner_of_mem_pick (r.sortedAds_sorted lib ch ads) ch hmem
  refine ⟨winner, ?_, hwinner, ?_, hk, hpos, ?_⟩
  · show (gatherCandidates ch.toInt (r.sortedAds lib ch ads)).parsedAds[ind]? = some winner
    have hnotghost : ¬ isGhostCand (r.sortedAds lib ch ads) ind = true := by
      intro hghost
      obtain ⟨⟨ad, had, hnot, -⟩, -⟩ := isGhostCand_iff.mp hghost
      obtain rfl := Option.some.inj (hwinner.symm.trans had)
      simp [hk] at hnot
    rw [(r.gathered lib ch ads).ads_at, if_neg (fun h => hnotghost h.2), hwinner]
  · exact (r.mem_sortedAds lib ch ads).mp (List.mem_of_getElem? hwinner)
  · intro ad had
    exact hmax ad ((r.mem_sortedAds lib ch ads).mpr had)

theorem winnerIndex_isSome :
    (r.findWinningAd lib ch ads).scoringData.winnerIndex.isSome = true ↔
      ∃ ad ∈ r.accepted lib ads, ad.kAnonStatus = true ∧ 0 < ad.desirability := by
  have hchoose : (r.findWinningAd lib ch ads).scoringData.winnerIndex.isSome = true ↔
      (r.findWinningAd lib ch ads).scoringData.winnerCandIndices ≠ [] :=
    chooseWinner_isSome ch.sample
  rw [hchoose, winnerCandIndices_eq, Ne, pick_eq_nil, winnerCands, List.filter_eq_nil_iff]
  push Not
  constructor
  · rintro ⟨ind, -, hcand⟩
    obtain ⟨ad, had, hk, hpos⟩ := isWinnerCand_iff.mp hcand
    exact ⟨ad, (r.mem_sortedAds lib ch ads).mp (List.mem_of_getElem? had), hk, hpos⟩
  · rintro ⟨ad, had, hk, hpos⟩
    obtain ⟨ind, hind⟩ := List.mem_iff_getElem?.mp ((r.mem_sortedAds lib ch ads).mpr had)
    exact ⟨ind, List.mem_range.mpr (List.getElem?_eq_some_iff.mp hind).1,
      isWinnerCand_iff.mpr ⟨ad, hind, hk, hpos⟩⟩

/-- The index of a ghost winner names an ad that may become one, its debug report
URLs cleared, and no ad that can win is more desirable. -/
theorem ghost_of_mem_ghostWinnerIndices {ind : ℕ}
    (h : ind ∈ (r.findWinningAd lib ch ads).scoringData.ghostWinnerIndices) :
    ∃ ghost, (r.findWinningAd lib ch ads).parsedAds[ind]? = some (clearDebugReportUrls ghost) ∧
      r.IsGhostWinner lib ads ghost ∧
      ∀ winner, r.IsWinner lib ads winner → winner.desirability ≤ ghost.desirability := by
  have hmem : ind ∈ (r.findWinningAd lib ch ads).scoringData.ghostWinnerCandIndices :=
    (chooseGhostWinners_sublist ch.sample _).subset h
  rw [ghostWinnerCandIndices_eq] at hmem
  obtain ⟨ghost, hghost, hk, hpos, hmax, hbefore⟩ :=
    ghost_of_mem_pick (r.sortedAds_sorted lib ch ads) ch hmem
  have hcand := (ranked_ghostCands (r.sortedAds_sorted lib ch ads)).pick_sublist.subset hmem
  obtain ⟨hlt, hcand⟩ := List.mem_filter.mp hcand
  refine ⟨ghost, ?_, ⟨?_, hk, hpos, ?_⟩, ?_⟩
  · show (gatherCandidates ch.toInt (r.sortedAds lib ch ads)).parsedAds[ind]? = _
    rw [(r.gathered lib ch ads).ads_at, if_pos ⟨List.mem_range.mp hlt, hcand⟩, hghost]
    rfl
  · exact (r.mem_sortedAds lib ch ads).mp (List.mem_of_getElem? hghost)
  · intro ad had
    exact hmax ad ((r.mem_sortedAds lib ch ads).mpr had)
  · intro winner hwinner
    obtain ⟨j, hj⟩ := List.mem_iff_getElem?.mp
      ((r.mem_sortedAds lib ch ads).mpr hwinner.accepted)
    exact hbefore j winner
      (isWinnerCand_iff.mpr ⟨winner, hj, hwinner.kAnonymous, hwinner.positive⟩) hj

variable (ads)

/-- `FindWinningAd` selects a winner whenever an ad can win, the winner and the
ghost winners may be chosen as such, and there are no more ghost winners than
allowed. -/
theorem findWinningAd_selects :
    ((r.findWinningAd lib ch ads).scoringData.winnerIndex.isSome = true ↔
      ∃ ad ∈ r.accepted lib ads, ad.kAnonStatus = true ∧ 0 < ad.desirability) ∧
    (∀ ind, (r.findWinningAd lib ch ads).scoringData.winnerIndex = some ind →
      ∃ winner, (r.findWinningAd lib ch ads).parsedAds[ind]? = some winner ∧
        r.IsWinner lib ads winner) ∧
    (∀ ind ∈ (r.findWinningAd lib ch ads).scoringData.ghostWinnerIndices,
      (∃ ghost, (r.findWinningAd lib ch ads).parsedAds[ind]? =
          some (clearDebugReportUrls ghost) ∧
        r.IsGhostWinner lib ads ghost ∧
        ∀ winner, r.IsWinner lib ads winner → winner.desirability ≤ ghost.desirability) ∧
      (r.findWinningAd lib ch ads).scoringData.winnerIndex ≠ some ind) ∧
    (r.findWinningAd lib ch ads).scoringData.ghostWinnerIndices.Nodup ∧
    (r.findWinningAd lib ch ads).scoringData.ghostWinnerIndices.length ≤
      toSizeT r.rawRequest.numAllowedGhostWinners ∧
    (0 ≤ r.rawRequest.numAllowedGhostWinners.toInt →
      ((r.findWinningAd lib ch ads).scoringData.ghostWinnerIndices.length : ℤ) ≤
        r.rawRequest.numAllowedGhostWinners.toInt) := by
  have hlen : (r.findWinningAd lib ch ads).scoringData.ghostWinnerIndices.length ≤
      toSizeT r.rawRequest.numAllowedGhostWinners := chooseGhostWinners_length ch.sample _
  refine ⟨r.winnerIndex_isSome lib ch, ?_, ?_, ?_, hlen, ?_⟩
  · intro ind hind
    obtain ⟨winner, hat, -, hwinner⟩ := r.winner_of_winnerIndex lib ch hind
    exact ⟨winner, hat, hwinner⟩
  · intro ind hind
    obtain ⟨ghost, hat, hghost, hbefore⟩ := r.ghost_of_mem_ghostWinnerIndices lib ch hind
    refine ⟨⟨ghost, hat, hghost, hbefore⟩, fun hwins => ?_⟩
    -- one ad cannot be k-anonymous and not
    obtain ⟨winner, hat', -, hwinner⟩ := r.winner_of_winnerIndex lib ch hwins
    have heq := Option.some.inj (hat.symm.trans hat')
    have hk : (clearDebugReportUrls ghost).kAnonStatus = true := heq ▸ hwinner.kAnonymous
    exact Bool.false_ne_true (hghost.notKAnonymous.symm.trans hk)
  · have hsub : (r.findWinningAd lib ch ads).scoringData.ghostWinnerIndices.Sublist
        (r.findWinningAd lib ch ads).scoringData.ghostWinnerCandIndices :=
      chooseGhostWinners_sublist ch.sample _
    refine hsub.nodup ?_
    rw [ghostWinnerCandIndices_eq]
    exact ((ranked_ghostCands (r.sortedAds_sorted lib ch ads)).pick_sublist.trans
      List.filter_sublist).nodup List.nodup_range
  · intro hn
    rw [toSizeT_of_nonneg hn] at hlen
    omega

end Selects

end ScoreAdsReactor

/-!
# Under which id the winner is recorded

The callback reads the winner's id from `responses[winner_index]`, but the index
is a position among the sorted ads that were accepted. The id is the winner's
exactly if, for each ad that may win and each position the sort may give it, the
response at that position succeeded and is that ad's.
-/

namespace ScoreAdsReactor

def WinnerIdentity (r : ScoreAdsReactor) (lib : Library) (ch : Choices)
    (responses : List RomaResponse) : Prop :=
  let found := r.findWinningAd lib ch (r.collectValidRomaResponses lib responses)
  ∀ ind winner, found.scoringData.winnerIndex = some ind → found.parsedAds[ind]? = some winner →
    ∃ served, r.scoreAdsCallback lib ch responses = some served ∧
      served.winningAdDispatchId = some winner.id

/-- The score is an integer that fits into an `int`: only then ties are drawn. -/
def IsIntScore (desirability : ℚ) : Prop := desirability.den = 1 ∧ desirability < 2 ^ 31

instance (desirability : ℚ) : Decidable (IsIntScore desirability) :=
  inferInstanceAs (Decidable (_ ∧ _))

/-- The positions among the sorted ads at which an ad that may win can win. With
an integer score it can win wherever the sort puts it; with any other score only
in front of all k-anonymous ads. -/
def CanWinAt (accepted : List ScoredAdData) (ad : ScoredAdData) (position : ℕ) : Prop :=
  let above := above (fun ad other : ScoredAdData => ad.isGreater other = true) accepted ad
  let tied := tied (fun ad other : ScoredAdData => ad.isGreater other = true) accepted ad
  if IsIntScore ad.desirability then
    above ≤ position ∧ position < above + tied
  else
    position = above ∧ ∀ other ∈ accepted, other.kAnonStatus = true →
      other.desirability = ad.desirability → other.adScore.buyerBid ≤ ad.adScore.buyerBid

section Positions

variable {ads : List ScoredAdData}

theorem mem_winnerCands {ind : ℕ} :
    ind ∈ winnerCands ads ads.length ↔ isWinnerCand ads ind = true := by
  refine List.mem_filter.trans (and_iff_right_of_imp fun hcand => ?_)
  obtain ⟨ad, had, -⟩ := isWinnerCand_iff.mp hcand
  exact List.mem_range.mpr (List.getElem?_eq_some_iff.mp had).1

theorem first_winnerCand {first : ℕ} {rest : List ℕ}
    (hcands : winnerCands ads ads.length = first :: rest) :
    ∀ ind, isWinnerCand ads ind = true → first ≤ ind := by
  have hincreasing : (winnerCands ads ads.length).Pairwise (· < ·) :=
    List.pairwise_lt_range.filter _
  intro ind hind
  have hmem := mem_winnerCands.mpr hind
  rw [hcands] at hincreasing hmem
  rcases List.mem_cons.mp hmem with rfl | hmem
  · exact le_rfl
  · exact ((List.pairwise_cons.mp hincreasing).1 ind hmem).le

variable (hsorted : ads.Pairwise fun a b => ¬ b.isGreater a = true) (ch : Choices)
include hsorted

theorem rank_antitone {i j : ℕ} {ad other : ScoredAdData} (hi : ads[i]? = some ad)
    (hj : ads[j]? = some other) (hij : i ≤ j) : other.rank ≤ ad.rank := by
  obtain ⟨hi', rfl⟩ := List.getElem?_eq_some_iff.mp hi
  obtain ⟨hj', rfl⟩ := List.getElem?_eq_some_iff.mp hj
  rcases hij.eq_or_lt with rfl | hlt
  · exact le_rfl
  · have h := List.pairwise_iff_getElem.mp hsorted i j hi' hj' hlt
    rwa [ScoredAdData.isGreater_iff, not_lt] at h

/-- The candidates kept: all of the highest score if that is an integer, the
first one otherwise. -/
theorem mem_pick_winnerCands {ind : ℕ} {winner : ScoredAdData} (hwinner : ads[ind]? = some winner)
    (hcand : isWinnerCand ads ind = true) :
    ind ∈ pick ch.toInt ads (winnerCands ads ads.length) ↔
      if IsIntScore winner.desirability then
        ∀ j, isWinnerCand ads j = true → desirabilityAt ads j ≤ winner.desirability
      else
        ∀ j, isWinnerCand ads j = true → ind ≤ j := by
  have ranked := ranked_winnerCands hsorted
  have hat := desirabilityAt_of_getElem? hwinner
  have hpos : 0 < winner.desirability := hat ▸ ranked.positive ind (mem_winnerCands.mpr hcand)
  have hmem := mem_winnerCands.mpr hcand
  constructor
  · intro h
    split
    · intro j hj
      exact hat ▸ ranked.le_of_mem_pick h j (mem_winnerCands.mpr hj)
    · rename_i hnotint
      cases hcands : winnerCands ads ads.length with
      | nil =>
        rw [hcands] at hmem
        cases hmem
      | cons first rest =>
        rw [hcands] at ranked h
        rcases ranked.mem_pick_cons.mp h with rfl | ⟨hrest, hint⟩
        · exact first_winnerCand hcands
        · -- kept for having the first one's integer part, hence an integer score
          have heq := ch.eq_of_toInt_eq (ranked.positive ind (List.mem_cons_of_mem _ hrest))
            ((List.pairwise_cons.mp ranked.descending).1 ind hrest) hint
          rw [← heq, hat] at hint
          exact absurd ((ch.toInt_eq_self hpos).mp hint) hnotint
  · intro h
    cases hcands : winnerCands ads ads.length with
    | nil =>
      rw [hcands] at hmem
      cases hmem
    | cons first rest =>
      have hfirst : isWinnerCand ads first = true :=
        mem_winnerCands.mp (hcands ▸ List.mem_cons_self)
      rw [hcands] at ranked hmem
      refine ranked.mem_pick_cons.mpr ?_
      rcases List.mem_cons.mp hmem with rfl | hrest
      · exact .inl rfl
      · -- behind the first candidate: no lower than it, or not behind it after all
        split at h
        · rename_i hint
          have heq : desirabilityAt ads ind = desirabilityAt ads first :=
            le_antisymm ((List.pairwise_cons.mp ranked.descending).1 ind hrest)
              (hat ▸ h first hfirst)
          rw [← heq, hat]
          exact .inr ⟨hrest, (ch.toInt_eq_self hpos).mpr hint⟩
        · exact .inl (le_antisymm (h first hfirst) (first_winnerCand hcands ind hcand))

theorem canWinAt_of_mem_pick {ind : ℕ} {winner : ScoredAdData} (hwinner : ads[ind]? = some winner)
    (h : ind ∈ pick ch.toInt ads (winnerCands ads ads.length)) : CanWinAt ads winner ind := by
  have hcand := mem_winnerCands.mp ((ranked_winnerCands hsorted).pick_sublist.subset h)
  obtain ⟨winner', hwinner', hk, hpos⟩ := isWinnerCand_iff.mp hcand
  obtain rfl := Option.some.inj (hwinner.symm.trans hwinner')
  have hkept := (mem_pick_winnerCands hsorted ch hwinner hcand).mp h
  unfold CanWinAt
  split
  · exact position_mem_rank ScoredAdData.isGreater_iff hsorted hwinner
  · rename_i hnotint
    rw [if_neg hnotint] at hkept
    refine ⟨position_of_first ScoredAdData.isGreater_iff hsorted hwinner ?_, ?_⟩
    · -- an ad of the same rank in front would be a candidate before it
      intro other hother
      by_contra htied
      simp only [ScoredAdData.isGreater_iff, not_or, not_lt] at htied
      have hrank : other.rank = winner.rank := le_antisymm htied.2 htied.1
      simp only [ScoredAdData.rank, toLex_inj, Prod.mk.injEq] at hrank
      obtain ⟨j, hj⟩ := List.mem_iff_getElem?.mp hother
      rw [List.getElem?_take] at hj
      split at hj
      · rename_i hlt
        have hle := hkept j
          (isWinnerCand_iff.mpr ⟨other, hj, hrank.2.2 ▸ hk, hrank.1 ▸ hpos⟩)
        omega
      · cases hj
    · -- among the candidates of its score it comes first, so it has the highest bid
      intro other hother hotherk hdes
      obtain ⟨j, hj⟩ := List.mem_iff_getElem?.mp hother
      have hle := hkept j (isWinnerCand_iff.mpr ⟨other, hj, hotherk, hdes ▸ hpos⟩)
      have hrank := rank_antitone hsorted hwinner hj hle
      simp only [ScoredAdData.rank, Prod.Lex.toLex_le_toLex, hdes, lt_irrefl, false_or,
        true_and] at hrank
      rcases hrank with hlt | ⟨heq, -⟩
      · exact hlt.le
      · exact heq.le

theorem mem_pick_of_canWinAt {ind : ℕ} {winner : ScoredAdData} (hwinner : ads[ind]? = some winner)
    (hk : winner.kAnonStatus = true) (hpos : 0 < winner.desirability)
    (hmax : ∀ ad ∈ ads, ad.kAnonStatus = true → ad.desirability ≤ winner.desirability)
    (h : CanWinAt ads winner ind) :
    ind ∈ pick ch.toInt ads (winnerCands ads ads.length) := by
  have hcand : isWinnerCand ads ind = true := isWinnerCand_iff.mpr ⟨winner, hwinner, hk, hpos⟩
  refine (mem_pick_winnerCands hsorted ch hwinner hcand).mpr ?_
  unfold CanWinAt at h
  split
  · intro j hj
    obtain ⟨ad, had, hadk, -⟩ := isWinnerCand_iff.mp hj
    rw [desirabilityAt_of_getElem? had]
    exact hmax ad (List.mem_of_getElem? had) hadk
  · rename_i hnotint
    rw [if_neg hnotint] at h
    obtain ⟨hposition, hbid⟩ := h
    have hgreater := greater_of_position ScoredAdData.isGreater_iff hsorted hwinner hposition
    intro j hj
    by_contra hlt
    obtain ⟨other, hother, hotherk, -⟩ := isWinnerCand_iff.mp hj
    have hmem := List.mem_of_getElem? hother
    -- a k-anonymous ad in front would have to bid more
    have hin : other ∈ ads.take ind :=
      List.mem_of_getElem? (i := j) (by rw [List.getElem?_take, if_pos (by omega), hother])
    have hrank := (ScoredAdData.isGreater_iff other winner).mp (hgreater other hin)
    have hle := hmax other hmem hotherk
    simp only [ScoredAdData.rank, Prod.Lex.toLex_lt_toLex, not_lt.mpr hle, false_or, hk,
      hotherk, lt_irrefl, and_false, or_false] at hrank
    exact absurd hrank.2 (not_lt.mpr (hbid other hmem hotherk hrank.1.symm))

end Positions

/-! ## When the recorded id is the winner's -/

theorem CanWinAt.perm {ads other : List ScoredAdData} (hperm : ads.Perm other) {ad : ScoredAdData}
    {position : ℕ} (h : CanWinAt ads ad position) : CanWinAt other ad position := by
  unfold CanWinAt above tied at h ⊢
  rw [hperm.countP_eq, hperm.countP_eq] at h
  split
  · rename_i hint
    rwa [if_pos hint] at h
  · rename_i hnotint
    rw [if_neg hnotint] at h
    exact ⟨h.1, fun ad' had' => h.2 ad' (hperm.mem_iff.mpr had')⟩

section Identity

variable (r : ScoreAdsReactor) (lib : Library) (responses : List RomaResponse)

/-- Wherever an ad that may win can win, the response succeeded and is that ad's. -/
def ResponsesLineUp : Prop :=
  let scored := r.collectValidRomaResponses lib responses
  ∀ ad, r.IsWinner lib scored ad → ∀ position, CanWinAt (r.accepted lib scored) ad position →
    ∃ response, responses[position]? = some (.ok response) ∧ response.id = ad.id

variable {r lib responses}

theorem scoreAdsCallback_of_winner (ch : Choices) {ind : ℕ} {winner : ScoredAdData}
    (hind : (r.findWinningAd lib ch
      (r.collectValidRomaResponses lib responses)).scoringData.winnerIndex = some ind)
    (hwinner : (r.findWinningAd lib ch
      (r.collectValidRomaResponses lib responses)).parsedAds[ind]? = some winner) {id : String} :
    (∃ served, r.scoreAdsCallback lib ch responses = some served ∧
      served.winningAdDispatchId = some id) ↔
    ∃ response, responses[ind]? = some (.ok response) ∧ response.id = id := by
  unfold scoreAdsCallback
  simp only [hind, hwinner, Option.bind_eq_bind, Option.bind_some]
  cases hat : responses[ind]? with
  | none => simp
  | some response =>
    cases response with
    | error message => simp [Except.toOption]
    | ok response => simp [Except.toOption]

theorem winnerIdentity_of_responsesLineUp (h : r.ResponsesLineUp lib responses) (ch : Choices) :
    r.WinnerIdentity lib ch responses := by
  intro ind winner hind hwinner
  obtain ⟨winner', hat, hsorted, hmay⟩ := r.winner_of_winnerIndex lib ch hind
  obtain rfl := Option.some.inj (hwinner.symm.trans hat)
  have hmem := mem_of_chooseWinner ch.sample hind
  have hcands := r.winnerCandIndices_eq lib ch (r.collectValidRomaResponses lib responses)
  have hperm : (r.sortedAds lib ch (r.collectValidRomaResponses lib responses)).Perm
      (r.accepted lib (r.collectValidRomaResponses lib responses)) :=
    (ch.sortAds.perm _).trans (r.screenAds_kept lib _)
  have hcan := (canWinAt_of_mem_pick (r.sortedAds_sorted lib ch _) ch hsorted
    (hcands ▸ hmem)).perm hperm
  exact (scoreAdsCallback_of_winner ch hind hwinner).mpr (h winner hmay ind hcan)

/-- Some sort and some draw make an ad that may win the winner at a position
where it can win. -/
theorem exists_choices (ads : List ScoredAdData) {ad : ScoredAdData} {position : ℕ}
    (hmay : r.IsWinner lib ads ad) (hcan : CanWinAt (r.accepted lib ads) ad position) :
    ∃ ch : Choices, (r.findWinningAd lib ch ads).scoringData.winnerIndex = some position ∧
      (r.sortedAds lib ch ads)[position]? = some ad := by
  have hkept := r.screenAds_kept lib ads
  have hmem := hkept.mem_iff.mpr hmay.accepted
  have hcan' := hcan.perm hkept.symm
  have hpositions : above (fun ad other : ScoredAdData => ad.isGreater other = true)
      (r.screenAds lib ads).kept ad ≤ position ∧
      position < above (fun ad other : ScoredAdData => ad.isGreater other = true)
        (r.screenAds lib ads).kept ad +
        tied (fun ad other : ScoredAdData => ad.isGreater other = true)
          (r.screenAds lib ads).kept ad := by
    have htied := tied_pos ScoredAdData.isGreater_iff hmem
    unfold CanWinAt at hcan'
    split at hcan'
    · exact hcan'
    · omega
  -- a sort that breaks ties so that the ad gets there, and a draw that prefers it
  obtain ⟨target, hperm, hsorted, hat⟩ := exists_arrangement ScoredAdData.isGreater_iff
    Choices.standard.sortAds hmem hpositions.1 hpositions.2
  let ch : Choices := { Choices.standard with
    sortAds := Choices.standard.sortAds.arranging hperm hsorted
    sample := .preferring position }
  have htarget : r.sortedAds lib ch ads = target :=
    Choices.standard.sortAds.arranging_sort hperm hsorted
  refine ⟨ch, ?_, htarget ▸ hat⟩
  have hpick := mem_pick_of_canWinAt hsorted ch hat hmay.kAnonymous hmay.positive
    (fun other hother => hmay.maximal other (hkept.mem_iff.mp (hperm.mem_iff.mp hother)))
    (hcan'.perm hperm.symm)
  have hcands := r.winnerCandIndices_eq lib ch ads
  rw [htarget] at hcands
  have hmem : position ∈ (r.findWinningAd lib ch ads).scoringData.winnerCandIndices :=
    hcands ▸ hpick
  exact chooseWinner_preferring hmem

/-- The recorded id is the winner's, however ties are broken, exactly if the
responses line up with the positions at which ads can win. -/
theorem winnerIdentity_iff (r : ScoreAdsReactor) (lib : Library) (responses : List RomaResponse) :
    (∀ ch, r.WinnerIdentity lib ch responses) ↔ r.ResponsesLineUp lib responses := by
  constructor
  · intro identity ad hmay position hcan
    obtain ⟨ch, hind, hsorted⟩ := exists_choices _ hmay hcan
    obtain ⟨winner, hat, hsorted', -⟩ := r.winner_of_winnerIndex lib ch hind
    obtain rfl := Option.some.inj (hsorted.symm.trans hsorted')
    exact (scoreAdsCallback_of_winner ch hind hat).mp (identity ch position ad hind hat)
  · intro h ch
    exact winnerIdentity_of_responsesLineUp h ch

/-- A reactor that waits for the scores of the ads `a` and `b`. -/
def twoAds : ScoreAdsReactor where
  adData := AList.insert "b" { render := "b", bid := 1 }
    (AList.insert "a" { render := "a", bid := 1 } ∅)

/-- A library that reads `1` as the score 1 and anything else as the score 2. -/
def scoreLibrary : Library where
  parseJsonString := fun text =>
    some (.object [("response", .number (if text = "1" then 1 else 2))])
  serializeJsonDoc := fun _ => none
  messageToJsonString := fun _ => none
  toString := fun _ => ""
  toFloat := id

/-- With the scores 1 for `a` and 2 for `b`, in this order, `b` wins, at index 0
of the sorted ads, and is recorded under the id of `a`. -/
theorem winnerIdentity_fails_on_ascending_scores :
    ¬ twoAds.WinnerIdentity scoreLibrary .standard [.ok ⟨"a", "1"⟩, .ok ⟨"b", "2"⟩] := by
  intro identity
  have hind : (twoAds.findWinningAd scoreLibrary .standard (twoAds.collectValidRomaResponses
      scoreLibrary [.ok ⟨"a", "1"⟩, .ok ⟨"b", "2"⟩])).scoringData.winnerIndex = some 0 := by
    decide +kernel
  obtain ⟨winner, hat, -, hmay⟩ := twoAds.winner_of_winnerIndex scoreLibrary .standard hind
  obtain ⟨response, hresponse, hid⟩ := (scoreAdsCallback_of_winner .standard hind hat).mp
    (identity 0 winner hind hat)
  obtain rfl : response = ⟨"a", "1"⟩ := by
    cases hresponse
    rfl
  have hbest : ∀ ad ∈ twoAds.accepted scoreLibrary (twoAds.collectValidRomaResponses
      scoreLibrary [.ok ⟨"a", "1"⟩, .ok ⟨"b", "2"⟩]), ad.id = "a" → ad.desirability < 2 := by
    decide +kernel
  have hother : ∃ ad ∈ twoAds.accepted scoreLibrary (twoAds.collectValidRomaResponses
      scoreLibrary [.ok ⟨"a", "1"⟩, .ok ⟨"b", "2"⟩]), ad.kAnonStatus = true ∧
        2 ≤ ad.desirability := by
    decide +kernel
  obtain ⟨ad, had, hk, hdes⟩ := hother
  exact absurd (hdes.trans (hmay.maximal ad had hk))
    (not_le.mpr (hbest winner hmay.accepted hid.symm))

end Identity

end ScoreAdsReactor

end BiddingAuction
