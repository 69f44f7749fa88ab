import BiddingAuction.ScoreAds.FindWinner
import BiddingAuction.ScoreAds.Winner
import Mathlib.Data.Finset.Max
import Mathlib.Data.List.Rotate

/-!
# The highest-scoring other bids

The bids of the ads with one of the two greatest scores go into the winning
score, grouped by owner. The winner is left out, as are all candidates for ghost
winners. The scores are sorted as integers and the loop stops at a zero only, so
the two greatest scores come first if no other score has their integer part.
-/

namespace BiddingAuction

open Foundation

namespace ScoreAdsReactor

/-! ## The two greatest scores -/

def TopTwo (scores : List ℚ) (score : ℚ) : Prop :=
  score ∈ scores ∧ ∀ a ∈ scores, ∀ b ∈ scores, score < a → score < b → a = b

instance (scores : List ℚ) (score : ℚ) : Decidable (TopTwo scores score) :=
  inferInstanceAs (Decidable (_ ∧ ∀ a ∈ scores, ∀ b ∈ scores, score < a → score < b → a = b))

/-- The two greatest scores are told from all others as integers, and from a zero
among them, and are negative only next to a zero. -/
structure Separated (toInt : ℚ → ℤ) (scores : List ℚ) : Prop where
  apart : ∀ a ∈ scores, ∀ b ∈ scores, b < a → TopTwo scores a →
    (TopTwo scores b → a = 0 ∨ b = 0) → toInt b < toInt a
  negative : ∀ a ∈ scores, TopTwo scores a → a < 0 → 0 ∈ scores

variable {scores : List ℚ}

theorem TopTwo.upward {a b : ℚ} (h : TopTwo scores b) (ha : a ∈ scores) (hlt : b < a) :
    TopTwo scores a :=
  ⟨ha, fun x hx y hy hax hay => h.2 x hx y hy (hlt.trans hax) (hlt.trans hay)⟩

theorem not_topTwo_of_three {a b c : ℚ} (ha : TopTwo scores a) (hb : TopTwo scores b)
    (hc : TopTwo scores c) (hab : a ≠ b) (hac : a ≠ c) (hbc : b ≠ c) : False := by
  rcases lt_or_gt_of_ne hab with h | h <;> rcases lt_or_gt_of_ne hac with h' | h' <;>
    rcases lt_or_gt_of_ne hbc with h'' | h''
  all_goals first
    | exact hbc (ha.2 b hb.1 c hc.1 h h')
    | exact hac (hb.2 a ha.1 c hc.1 h h'')
    | exact hab (hc.2 a ha.1 b hb.1 h' h'')
    | exact lt_irrefl _ (h.trans (h''.trans h'))
    | exact lt_irrefl _ (h.trans (h'.trans h''))

theorem exists_greatest {l : List ℚ} {x : ℚ} (hx : x ∈ l) : ∃ a ∈ l, ∀ b ∈ l, b ≤ a := by
  obtain ⟨a, ha, hmax⟩ := l.toFinset.exists_max_image id ⟨x, List.mem_toFinset.mpr hx⟩
  exact ⟨a, List.mem_toFinset.mp ha, fun b hb => hmax b (List.mem_toFinset.mpr hb)⟩

theorem exists_two_above {c : ℚ} (hc : c ∈ scores) (hnot : ¬ TopTwo scores c) :
    ∃ a b, TopTwo scores a ∧ TopTwo scores b ∧ a ≠ b ∧ a ≠ c ∧ b ≠ c := by
  obtain ⟨x, hx, y, hy, hcx, hcy, hxy⟩ :
      ∃ x ∈ scores, ∃ y ∈ scores, c < x ∧ c < y ∧ x ≠ y := by
    by_contra hnone
    push Not at hnone
    exact hnot ⟨hc, fun a ha b hb hca hcb => hnone a ha b hb hca hcb⟩
  -- the greatest score, and the greatest of the others
  obtain ⟨a, ha, hmax⟩ := exists_greatest hx
  obtain ⟨z, hz, hcz, hza⟩ : ∃ z ∈ scores, c < z ∧ z ≠ a := by
    by_cases hxa : x = a
    · exact ⟨y, hy, hcy, fun h => hxy (hxa.trans h.symm)⟩
    · exact ⟨x, hx, hcx, hxa⟩
  obtain ⟨b, hb, hmax'⟩ := exists_greatest (l := scores.filter fun b => b ≠ a) (x := z)
    (by simp [hz, hza])
  simp only [List.mem_filter, decide_eq_true_eq] at hb hmax'
  refine ⟨a, b, ⟨ha, ?_⟩, ⟨hb.1, ?_⟩, hb.2.symm, ?_, ?_⟩
  · intro u hu _ _ hau
    exact absurd hau (not_lt.mpr (hmax u hu))
  · intro u hu v hv hbu hbv
    have heq : ∀ w ∈ scores, b < w → w = a := fun w hw hbw => by
      by_contra hwa
      exact absurd hbw (not_lt.mpr (hmax' w ⟨hw, hwa⟩))
    exact (heq u hu hbu).trans (heq v hv hbv).symm
  · exact (hcx.trans_le (hmax x hx)).ne'
  · exact (hcz.trans_le (hmax' z ⟨hz, hza⟩)).ne'

/-! ## The scores the loop takes -/

section Taken

variable {toInt : ℚ → ℤ} {a b : ℚ} {rest : List ℚ} (sep : Separated toInt (a :: b :: rest))
  (hnodup : (a :: b :: rest).Nodup)
  (hsorted : (a :: b :: rest).Pairwise fun a b => ¬ toInt a < toInt b)
include sep hnodup hsorted

theorem not_topTwo_of_mem_rest {c : ℚ} (hc : c ∈ rest) : ¬ TopTwo (a :: b :: rest) c := by
  intro htop
  have hca : c ≠ a := fun h => (List.nodup_cons.mp hnodup).1 (by simp [← h, hc])
  have hcb : c ≠ b := fun h => (List.nodup_cons.mp (List.nodup_cons.mp hnodup).2).1 (h ▸ hc)
  have hab : a ≠ b := fun h => (List.nodup_cons.mp hnodup).1 (by simp [h])
  have hbehind : ∀ d ∈ [a, b], ¬ toInt d < toInt c := by
    obtain ⟨ha, hrest⟩ := List.pairwise_cons.mp hsorted
    intro d hd
    rcases List.mem_cons.mp hd with rfl | hd
    · exact ha c (List.mem_cons_of_mem _ hc)
    · exact List.mem_singleton.mp hd ▸ (List.pairwise_cons.mp hrest).1 c hc
  -- one of the first two is not among the two greatest, so it is smaller
  obtain ⟨d, hd, hnot⟩ : ∃ d ∈ [a, b], ¬ TopTwo (a :: b :: rest) d := by
    by_contra hall
    push Not at hall
    exact not_topTwo_of_three htop (hall a (by simp)) (hall b (by simp)) hca hcb hab
  have hdmem : d ∈ a :: b :: rest := by
    rcases List.mem_cons.mp hd with rfl | hd
    · exact List.mem_cons_self
    · exact List.mem_cons_of_mem _ (List.mem_singleton.mp hd ▸ List.mem_cons_self)
  have hlt : d < c := by
    by_contra hle
    rcases (not_lt.mp hle).eq_or_lt with rfl | hlt
    · exact hnot htop
    · exact hnot (htop.upward hdmem hlt)
  exact hbehind d hd (sep.apart c htop.1 d hdmem hlt htop fun h => absurd h hnot)

theorem topTwo_first_two : TopTwo (a :: b :: rest) a ∧ TopTwo (a :: b :: rest) b := by
  have honly : ∀ d, TopTwo (a :: b :: rest) d → d = a ∨ d = b := by
    intro d hd
    have hmem := hd.1
    rw [List.mem_cons, List.mem_cons] at hmem
    rcases hmem with rfl | rfl | hrest
    · exact .inl rfl
    · exact .inr rfl
    · exact absurd hd (not_topTwo_of_mem_rest sep hnodup hsorted hrest)
  constructor
  · by_contra hnot
    obtain ⟨x, y, hx, hy, hxy, hxa, hya⟩ := exists_two_above List.mem_cons_self hnot
    exact hxy (((honly x hx).resolve_left hxa).trans ((honly y hy).resolve_left hya).symm)
  · by_contra hnot
    obtain ⟨x, y, hx, hy, hxy, hxb, hyb⟩ :=
      exists_two_above (List.mem_cons_of_mem _ List.mem_cons_self) hnot
    exact hxy (((honly x hx).resolve_right hxb).trans ((honly y hy).resolve_right hyb).symm)

theorem first_two_signs : (a = 0 → ¬ 0 < b) ∧ ¬ a < 0 ∧ (a ≠ 0 → ¬ b < 0) := by
  obtain ⟨htopa, htopb⟩ := topTwo_first_two sep hnodup hsorted
  have hmema : a ∈ a :: b :: rest := List.mem_cons_self
  have hmemb : b ∈ a :: b :: rest := List.mem_cons_of_mem _ List.mem_cons_self
  have hbehind : ¬ toInt a < toInt b := (List.pairwise_cons.mp hsorted).1 b List.mem_cons_self
  have hzero : ∀ c, TopTwo (a :: b :: rest) c → c < 0 → a = 0 ∨ b = 0 := by
    intro c htop hneg
    have hmem := sep.negative c htop.1 htop hneg
    have htop0 := htop.upward hmem hneg
    rw [List.mem_cons, List.mem_cons] at hmem
    rcases hmem with h | h | h
    · exact .inl h.symm
    · exact .inr h.symm
    · exact absurd htop0 (not_topTwo_of_mem_rest sep hnodup hsorted h)
  refine ⟨?_, ?_, ?_⟩
  · intro ha hb
    exact hbehind (sep.apart b hmemb a hmema (ha ▸ hb) htopb fun _ => .inr ha)
  · intro ha
    rcases hzero a htopa ha with h | h
    · exact ha.ne h
    · exact hbehind (sep.apart b hmemb a hmema (h ▸ ha) htopb fun _ => .inl h)
  · intro ha hb
    rcases hzero b htopb hb with h | h
    · exact ha h
    · exact hb.ne h

end Taken

theorem mem_taken_iff {toInt : ℚ → ℤ} {sorted : List ℚ} (sep : Separated toInt sorted)
    (hnodup : sorted.Nodup) (hsorted : sorted.Pairwise fun a b => ¬ toInt a < toInt b)
    {score : ℚ} : score ∈ (sorted.take 2).takeWhile (fun score => score != 0) ↔
      TopTwo sorted score ∧ 0 < score := by
  -- as many scores as the loop takes: none, one or two
  cases sorted with
  | nil => simp [TopTwo]
  | cons a sorted =>
    cases sorted with
    | nil =>
      have htop : TopTwo [a] a := ⟨List.mem_cons_self, by simp⟩
      have hneg : ¬ a < 0 := fun ha =>
        ha.ne (List.mem_singleton.mp (sep.negative a List.mem_cons_self htop ha)).symm
      have honly : ∀ {score}, TopTwo [a] score → score = a := fun h => List.mem_singleton.mp h.1
      by_cases ha : a = 0
      · subst ha
        simp only [List.take_succ_cons, List.take_nil, List.takeWhile_cons, bne_self_eq_false,
          Bool.false_eq_true, if_false, List.not_mem_nil, false_iff, not_and, not_lt]
        intro h
        exact (honly h).le
      · have hpos : 0 < a := lt_of_le_of_ne (not_lt.mp hneg) (Ne.symm ha)
        simp only [List.take_succ_cons, List.take_nil, List.takeWhile_cons, bne_iff_ne, ne_eq, ha,
          not_false_eq_true, if_true, List.takeWhile_nil, List.mem_singleton]
        refine ⟨?_, fun h => honly h.1⟩
        rintro rfl
        exact ⟨htop, hpos⟩
    | cons b rest =>
      obtain ⟨htopa, htopb⟩ := topTwo_first_two sep hnodup hsorted
      obtain ⟨hzero, ha, hb⟩ := first_two_signs sep hnodup hsorted
      have honly : ∀ {score}, TopTwo (a :: b :: rest) score → score = a ∨ score = b := by
        intro score htop
        have hmem := htop.1
        rw [List.mem_cons, List.mem_cons] at hmem
        rcases hmem with rfl | rfl | hrest
        · exact .inl rfl
        · exact .inr rfl
        · exact absurd htop (not_topTwo_of_mem_rest sep hnodup hsorted hrest)
      simp only [List.take_succ_cons, List.take_zero, List.takeWhile_cons, bne_iff_ne, ne_eq,
        List.takeWhile_nil]
      by_cases ha0 : a = 0
      · -- the loop stops at once, and a second score is not positive either
        rw [if_neg (not_not.mpr ha0)]
        constructor
        · intro h
          exact absurd h List.not_mem_nil
        · intro h
          rcases honly h.1 with rfl | rfl
          · exact absurd ha0 h.2.ne'
          · exact absurd h.2 (hzero ha0)
      · have hapos : 0 < a := lt_of_le_of_ne (not_lt.mp ha) (Ne.symm ha0)
        rw [if_pos ha0, List.mem_cons]
        by_cases hb0 : b = 0
        · -- the loop stops at the second score
          rw [if_neg (not_not.mpr hb0)]
          constructor
          · rintro (rfl | h)
            · exact ⟨htopa, hapos⟩
            · exact absurd h List.not_mem_nil
          · rintro ⟨htop, hpos⟩
            rcases honly htop with rfl | rfl
            · exact .inl rfl
            · exact absurd hb0 hpos.ne'
        · have hbpos : 0 < b := lt_of_le_of_ne (not_lt.mp (hb ha0)) (Ne.symm hb0)
          rw [if_pos hb0, List.mem_singleton]
          constructor
          · rintro (rfl | rfl)
            · exact ⟨htopa, hapos⟩
            · exact ⟨htopb, hbpos⟩
          · intro h
            exact honly h.1

/-! ## The indices the loop visits -/

/-- The bids of the counted ads, each with its index: those apart from the
winner's, with a positive score that is one of the two greatest. -/
def otherAds (ind : ℕ) (counted : List (ScoredAdData × ℕ)) : List (ScoredAdData × ℕ) :=
  counted.filter fun entry => entry.2 ≠ ind ∧ 0 < entry.1.desirability ∧
    TopTwo (counted.map fun entry => entry.1.desirability) entry.1.desirability

/-- The ads that are not candidates for ghost winners, with their indices. -/
def countedAds (found : Found) : List (ScoredAdData × ℕ) :=
  found.parsedAds.zipIdx.filter fun entry =>
    entry.2 ∉ found.scoringData.ghostWinnerCandIndices

def countedScores (found : Found) : List ℚ :=
  (countedAds found).map fun entry => entry.1.desirability

theorem TopTwo.congr {scores other : List ℚ} (hmem : ∀ a, a ∈ scores ↔ a ∈ other) {score : ℚ} :
    TopTwo scores score ↔ TopTwo other score := by
  simp only [TopTwo, hmem]

theorem Separated.congr {toInt : ℚ → ℤ} {scores other : List ℚ}
    (hmem : ∀ a, a ∈ scores ↔ a ∈ other) (sep : Separated toInt scores) :
    Separated toInt other := by
  refine ⟨?_, ?_⟩
  · intro a ha b hb hlt htop hzero
    exact sep.apart a ((hmem a).mpr ha) b ((hmem b).mpr hb) hlt ((TopTwo.congr hmem).mpr htop)
      fun h => hzero ((TopTwo.congr hmem).mp h)
  · intro a ha htop hneg
    exact (hmem 0).mp (sep.negative a ((hmem a).mpr ha) ((TopTwo.congr hmem).mpr htop) hneg)

section Visited

variable (r : ScoreAdsReactor) (lib : Library) (ch : Choices) (ads : List ScoredAdData)

theorem scoreAdMap_eq : (r.findWinningAd lib ch ads).scoringData.scoreAdMap =
    FlatHashMap.groupBy (fun entry => entry.1.desirability) Prod.snd
      (countedAds (r.findWinningAd lib ch ads)) :=
  rfl

theorem otherIndices_perm (sep : Separated ch.toInt (countedScores (r.findWinningAd lib ch ads)))
    (ind : ℕ) :
    (otherIndices ch ind (r.findWinningAd lib ch ads).scoringData.scoreAdMap).Perm
      ((otherAds ind (countedAds (r.findWinningAd lib ch ads))).map Prod.snd) := by
  generalize hfound : r.findWinningAd lib ch ads = found at sep ⊢
  have hmap := hfound ▸ r.scoreAdMap_eq lib ch ads
  have hkeys : ∀ a, a ∈ countedScores found ↔
      a ∈ ch.sortScores.sort found.scoringData.scoreAdMap.keys := by
    intro a
    rw [ch.sortScores.mem_sort, AList.mem_keys.symm, hmap, FlatHashMap.mem_groupBy]
    simp [countedScores]
  have hnodup : (ch.sortScores.sort found.scoringData.scoreAdMap.keys).Nodup :=
    (ch.sortScores.perm _).nodup_iff.mpr found.scoringData.scoreAdMap.keys_nodup
  -- the keys of the map are the counted scores, sorted as integers
  have htaken : ∀ score, score ∈ topScores ch found.scoringData.scoreAdMap ↔
      TopTwo (ch.sortScores.sort found.scoringData.scoreAdMap.keys) score ∧ 0 < score :=
    fun score => mem_taken_iff (sep.congr hkeys) hnodup (ch.sortScores.sorted _)
  have htakennodup : (topScores ch found.scoringData.scoreAdMap).Nodup :=
    ((List.takeWhile_sublist _).trans (List.take_sublist _ _)).nodup hnodup
  have hvisited : otherIndices ch ind found.scoringData.scoreAdMap =
      (((topScores ch found.scoringData.scoreAdMap).flatMap fun score =>
        (countedAds found).filter fun entry => entry.1.desirability = score).filter
          fun entry => entry.2 != ind).map Prod.snd := by
    unfold otherIndices
    simp only [hmap, FlatHashMap.lookup_groupBy]
    rw [← List.map_flatMap, List.filter_map]
    rfl
  have hothers : otherAds ind (countedAds found) = ((countedAds found).filter fun entry =>
      entry.1.desirability ∈ topScores ch found.scoringData.scoreAdMap).filter
        fun entry => entry.2 != ind := by
    unfold otherAds
    rw [List.filter_filter]
    refine List.filter_congr fun entry _ => ?_
    have h := (htaken entry.1.desirability).trans
      (and_congr_left fun _ => (TopTwo.congr hkeys).symm)
    rw [Bool.eq_iff_iff, Bool.and_eq_true, decide_eq_true_eq, decide_eq_true_eq, bne_iff_ne]
    exact and_congr_right fun _ => and_comm.trans h.symm
  rw [hvisited, hothers]
  exact ((flatMap_filter_perm htakennodup (countedAds found)
    fun entry => entry.1.desirability).filter _).map _

/-- The map records, per owner, the bids of the given ads, each once. -/
def RecordsBids (bidOf : String → String × ℚ) (others : List (ScoredAdData × ℕ))
    (m : FlatHashMap String (List ℚ)) : Prop :=
  ∀ owner, ((m.lookup owner).getD []).Perm
    (((others.map fun entry => bidOf entry.1.id).filter fun bid => bid.1 = owner).map Prod.snd)

theorem highestScoringOtherBids_records (hscope : r.auctionScope ≠ .serverTopLevelSeller)
    (sep : Separated ch.toInt (countedScores (r.findWinningAd lib ch ads))) (ind : ℕ) :
    RecordsBids (r.otherBid (r.findWinningAd lib ch ads).adScores)
      (otherAds ind (countedAds (r.findWinningAd lib ch ads)))
      (r.highestScoringOtherBids ch ind (r.findWinningAd lib ch ads)) := by
  intro owner
  have hids : ((otherAds ind (countedAds (r.findWinningAd lib ch ads))).map Prod.snd).map
      (fun ind => r.otherBid (r.findWinningAd lib ch ads).adScores
        (((r.findWinningAd lib ch ads).parsedAds[ind]?.map ScoredAdData.id).getD "")) =
      (otherAds ind (countedAds (r.findWinningAd lib ch ads))).map fun entry =>
        r.otherBid (r.findWinningAd lib ch ads).adScores entry.1.id := by
    rw [List.map_map]
    refine List.map_congr_left fun entry hentry => ?_
    have hmem := List.mem_of_mem_filter (List.mem_of_mem_filter hentry)
    simp [List.mem_zipIdx_iff_getElem?.mp hmem]
  unfold highestScoringOtherBids
  rw [if_neg hscope, FlatHashMap.lookup_groupBy, ← hids]
  exact (((r.otherIndices_perm lib ch ads sep ind).map _).filter _).map _

end Visited

/-! ## The map in the response -/

section Response

variable {r r' r'' : ScoreAdsReactor}

/-- The reactors record bids in the same way. -/
structure SameBids (r r' : ScoreAdsReactor) : Prop where
  auctionScope : r'.auctionScope = r.auctionScope
  otherBid : r'.otherBid = r.otherBid

theorem SameBids.trans (h : SameBids r r') (h' : SameBids r' r'') : SameBids r r'' :=
  ⟨h'.auctionScope.trans h.auctionScope, h'.otherBid.trans h.otherBid⟩

theorem SameBids.highestScoringOtherBids_eq (h : SameBids r r') (ch : Choices) (ind : ℕ)
    (found : Found) : r'.highestScoringOtherBids ch ind found =
      r.highestScoringOtherBids ch ind found := by
  unfold highestScoringOtherBids
  rw [h.auctionScope, h.otherBid]

theorem populateRelevantFieldsInResponse_sameBids (ad : ScoredAdData) :
    SameBids r (r.populateRelevantFieldsInResponse ad).2 := by
  unfold populateRelevantFieldsInResponse
  dsimp only
  split
  · rename_i found hfound
    refine ⟨rfl, funext fun adScores => funext fun id => ?_⟩
    have hlookup : r.adData.lookup ad.id = some found := by
      unfold findScoredAdType at hfound
      split at hfound
      · cases hfound
        assumption
      · cases h : r.protectedAppSignalsAdData.lookup ad.id <;> simp [h] at hfound
    by_cases hid : id = ad.id
    · subst hid
      simp [otherBid, findScoredAdType, AList.lookup_insert, hlookup]
    · simp [otherBid, findScoredAdType, AList.lookup_insert_ne hid]
  · exact ⟨rfl, rfl⟩
  · exact ⟨rfl, rfl⟩

theorem addGhostWinnersToResponse_sameBids (ghostWinners : List ScoredAdData) :
    SameBids r (r.addGhostWinnersToResponse ghostWinners).2 := by
  unfold addGhostWinnersToResponse
  induction ghostWinners using List.reverseRecOn with
  | nil => exact ⟨rfl, rfl⟩
  | append_singleton ghostWinners ghostWinner ih =>
    rw [List.foldl_append]
    exact ih.trans (populateRelevantFieldsInResponse_sameBids ghostWinner)

theorem winningAdScore_otherBids (r : ScoreAdsReactor) (lib : Library) (ch : Choices)
    (responses : List RomaResponse) {served : Served}
    (hserved : r.scoreAdsCallback lib ch responses = some served) {adScore : AdScore ℚ}
    (hadScore : served.adScore = some adScore) :
    ∃ ind, (r.findWinningAd lib ch
        (r.collectValidRomaResponses lib responses)).scoringData.winnerIndex = some ind ∧
      adScore.igOwnerHighestScoringOtherBidsMap = r.highestScoringOtherBids ch ind
        (r.findWinningAd lib ch (r.collectValidRomaResponses lib responses)) := by
  unfold scoreAdsCallback at hserved
  cases hind : (r.findWinningAd lib ch
      (r.collectValidRomaResponses lib responses)).scoringData.winnerIndex with
  | none =>
    simp only [hind] at hserved
    cases hserved
    cases hadScore
  | some ind =>
    simp only [hind, Option.bind_eq_bind, Option.bind_eq_some_iff] at hserved
    obtain ⟨_, -, _, -, winner, -, hserved⟩ := hserved
    cases hserved
    cases hadScore
    refine ⟨ind, rfl, ?_⟩
    show ScoreAdsReactor.highestScoringOtherBids _ ch ind _ = _
    rw [(addGhostWinnersToResponse_sameBids _).highestScoringOtherBids_eq]

/-- Outside top-level auctions, if the two greatest scores are separated from the
others, the winning score records the bids of exactly the other ads that have one
of these scores, are accepted and are no candidates for ghost winners. -/
theorem winningAdScore_records_otherBids (r : ScoreAdsReactor) (lib : Library) (ch : Choices)
    (responses : List RomaResponse) (hscope : r.auctionScope ≠ .serverTopLevelSeller)
    (sep : Separated ch.toInt (countedScores
      (r.findWinningAd lib ch (r.collectValidRomaResponses lib responses))))
    {served : Served} (hserved : r.scoreAdsCallback lib ch responses = some served)
    {adScore : AdScore ℚ} (hadScore : served.adScore = some adScore) :
    ∃ ind, (r.findWinningAd lib ch
        (r.collectValidRomaResponses lib responses)).scoringData.winnerIndex = some ind ∧
      RecordsBids
        (r.otherBid (r.findWinningAd lib ch (r.collectValidRomaResponses lib responses)).adScores)
        (otherAds ind (countedAds
          (r.findWinningAd lib ch (r.collectValidRomaResponses lib responses))))
        adScore.igOwnerHighestScoringOtherBidsMap := by
  obtain ⟨ind, hind, hmap⟩ := r.winningAdScore_otherBids lib ch responses hserved hadScore
  rw [hmap]
  exact ⟨ind, hind, r.highestScoringOtherBids_records lib ch _ hscope sep ind⟩

theorem exists_adScore_of_two : ∃ served adScore,
    twoAds.scoreAdsCallback scoreLibrary .standard [.ok ⟨"b", "2"⟩, .ok ⟨"a", "1"⟩] =
      some served ∧ served.adScore = some adScore := by
  have hsome : ((twoAds.scoreAdsCallback scoreLibrary .standard
      [.ok ⟨"b", "2"⟩, .ok ⟨"a", "1"⟩]).bind Served.adScore).isSome = true := by
    decide +kernel
  obtain ⟨adScore, hadScore⟩ := Option.isSome_iff_exists.mp hsome
  obtain ⟨served, hserved, hscore⟩ := Option.bind_eq_some_iff.mp hadScore
  exact ⟨served, adScore, hserved, hscore⟩

/-- An ad of score 2 that wins and one of score 1. -/
theorem winningAdScore_records_otherBids_of_two :
    ∃ served adScore,
      twoAds.scoreAdsCallback scoreLibrary .standard [.ok ⟨"b", "2"⟩, .ok ⟨"a", "1"⟩] =
        some served ∧ served.adScore = some adScore ∧
      ∃ ind, RecordsBids (twoAds.otherBid (twoAds.findWinningAd scoreLibrary .standard
          (twoAds.collectValidRomaResponses scoreLibrary
            [.ok ⟨"b", "2"⟩, .ok ⟨"a", "1"⟩])).adScores)
        (otherAds ind (countedAds (twoAds.findWinningAd scoreLibrary .standard
          (twoAds.collectValidRomaResponses scoreLibrary [.ok ⟨"b", "2"⟩, .ok ⟨"a", "1"⟩]))))
        adScore.igOwnerHighestScoringOtherBidsMap := by
  obtain ⟨served, adScore, hserved, hscore⟩ := exists_adScore_of_two
  obtain ⟨ind, -, hrecords⟩ := winningAdScore_records_otherBids twoAds scoreLibrary .standard
    [.ok ⟨"b", "2"⟩, .ok ⟨"a", "1"⟩] (by decide) ⟨by decide +kernel, by decide +kernel⟩ hserved
    hscore
  exact ⟨served, adScore, hserved, hscore, ind, hrecords⟩

/-- The winning score records the bids of all other accepted ads that have one of
the two greatest scores. -/
def RecordsAllOtherBids (r : ScoreAdsReactor) (lib : Library) (ch : Choices)
    (ads : List ScoredAdData) : Prop :=
  let found := r.findWinningAd lib ch ads
  ∀ ind, found.scoringData.winnerIndex = some ind →
    RecordsBids (r.otherBid found.adScores) (otherAds ind found.parsedAds.zipIdx)
      (r.highestScoringOtherBids ch ind found)

/-- The ads `a`, k-anonymous, and `b`, which is not. -/
def kAnonymousAndNot : ScoreAdsReactor where
  enableEnforceKanon := true
  adData := AList.insert "b" { render := "b", interestGroupOwner := "B", bid := 1 }
    (AList.insert "a" { render := "a", interestGroupOwner := "A", bid := 1, kAnonStatus := true } ∅)

/-- With the scores 1 for `a` and 2 for `b`, `a` wins and the bid of `b` is not
recorded: `b` is a candidate for a ghost winner. -/
theorem recordsAllOtherBids_fails_on_ghost_winner :
    ¬ kAnonymousAndNot.RecordsAllOtherBids scoreLibrary .standard
      (kAnonymousAndNot.collectValidRomaResponses scoreLibrary
        [.ok ⟨"a", "1"⟩, .ok ⟨"b", "2"⟩]) := by
  intro h
  have hlen := (h 1 (by decide +kernel) "B").length_eq
  revert hlen
  decide +kernel

end Response

end ScoreAdsReactor

/-!
# The highest-scoring other bid

The post-auction signals name the first bid of the owner at which the iteration of the map of
other bids starts. The map holds the bids of two scores, so an owner may be there for a bid of
the lower one.
-/

/-! ## Where the iteration starts -/

/-- The entries as they are kept, from the one at `i` on. -/
def HashOrder.startingAt (i : ℕ) : HashOrder where
  entries m := (m.entries.map fun e => (e.1, e.2)).rotate i
  perm _ := List.rotate_perm _ i

theorem HashOrder.exists_head {K V : Type} [DecidableEq K] {m : FlatHashMap K V} {k : K} {v : V}
    (h : m.lookup k = some v) : ∃ ord : HashOrder, (ord.entries m).head? = some (k, v) := by
  have hmem : (k, v) ∈ m.entries.map fun e => (e.1, e.2) :=
    HashOrder.stored.mem_entries.mpr h
  obtain ⟨i, hi, hentry⟩ := List.mem_iff_getElem.mp hmem
  refine ⟨.startingAt i, ?_⟩
  show ((m.entries.map fun e => (e.1, e.2)).rotate i).head? = _
  rw [List.head?_rotate hi, List.getElem?_eq_getElem hi, hentry]

namespace PostAuctionSignals

def otherNamed (ord : HashOrder) (bids : FlatHashMap String (List ℚ)) : Option (String × ℚ) :=
  (ord.entries bids).head?.bind fun entry => entry.2.head?.map fun bid => (entry.1, bid)

def IsFirstOfOwner (bids : List (String × ℚ)) (bid : String × ℚ) : Prop :=
  bids.find? (fun other => other.1 = bid.1) = some bid

theorem isFirstOfOwner_of_otherNamed {ord : HashOrder} {bids : List (String × ℚ)}
    {bid : String × ℚ}
    (h : otherNamed ord (FlatHashMap.groupBy Prod.fst Prod.snd bids) = some bid) :
    IsFirstOfOwner bids bid := by
  obtain ⟨entry, hentry, h⟩ := Option.bind_eq_some_iff.mp h
  obtain ⟨first, hfirst, rfl⟩ := Option.map_eq_some_iff.mp h
  have hgroup := HashOrder.group_of_mem_groupBy (List.mem_of_mem_head? hentry)
  rw [hgroup, List.head?_map, List.head?_filter, Option.map_eq_some_iff] at hfirst
  obtain ⟨found, hfound, rfl⟩ := hfirst
  have howner : found.1 = entry.1 := by simpa using List.find?_some hfound
  unfold IsFirstOfOwner
  rw [hfound, ← howner]

theorem exists_otherNamed {bids : List (String × ℚ)} {bid : String × ℚ}
    (h : IsFirstOfOwner bids bid) :
    ∃ ord, otherNamed ord (FlatHashMap.groupBy Prod.fst Prod.snd bids) = some bid := by
  have hmem : bid.1 ∈ FlatHashMap.groupBy Prod.fst Prod.snd bids :=
    FlatHashMap.mem_groupBy.mpr ⟨bid, List.mem_of_find?_eq_some h, rfl⟩
  obtain ⟨group, hgroup⟩ := Option.isSome_iff_exists.mp (AList.lookup_isSome.mpr hmem)
  obtain ⟨ord, hhead⟩ := HashOrder.exists_head hgroup
  have hbids := @FlatHashMap.lookup_groupBy _ _ _ _ Prod.fst Prod.snd bids bid.1
  rw [hgroup, Option.getD_some] at hbids
  refine ⟨ord, ?_⟩
  unfold otherNamed
  rw [hhead, Option.bind_some, hbids, List.head?_map, List.head?_filter, h]
  rfl

theorem otherNamed_eq_none_iff (ord : HashOrder) (bids : List (String × ℚ)) :
    otherNamed ord (FlatHashMap.groupBy Prod.fst Prod.snd bids) = none ↔ bids = [] := by
  constructor
  · intro hnone
    by_contra hne
    obtain ⟨bid, rest, rfl⟩ := List.exists_cons_of_ne_nil hne
    have hmem : bid.1 ∈ FlatHashMap.groupBy Prod.fst Prod.snd (bid :: rest) :=
      FlatHashMap.mem_groupBy.mpr ⟨bid, List.mem_cons_self, rfl⟩
    obtain ⟨group, hgroup⟩ := Option.isSome_iff_exists.mp (AList.lookup_isSome.mpr hmem)
    have hentry := ord.mem_entries.mpr hgroup
    cases hentries : ord.entries (FlatHashMap.groupBy Prod.fst Prod.snd (bid :: rest)) with
    | nil =>
      rw [hentries] at hentry
      cases hentry
    | cons entry entries =>
      have hin : entry ∈ ord.entries (FlatHashMap.groupBy Prod.fst Prod.snd (bid :: rest)) := by
        rw [hentries]
        exact List.mem_cons_self
      -- a group is not empty, as its key came with a bid
      obtain ⟨other, hother, hkey⟩ := FlatHashMap.mem_groupBy.mp
        (AList.lookup_isSome.mp (Option.isSome_of_mem (ord.mem_entries.mp hin)))
      have hmember : other.2 ∈ entry.2 := by
        rw [HashOrder.group_of_mem_groupBy hin]
        exact List.mem_map.mpr ⟨other, List.mem_filter.mpr ⟨hother, decide_eq_true hkey⟩, rfl⟩
      unfold otherNamed at hnone
      rw [hentries, List.head?_cons, Option.bind_some, Option.map_eq_none_iff,
        List.head?_eq_none_iff] at hnone
      rw [hnone] at hmember
      cases hmember
  · rintro rfl
    have hempty : ord.entries (FlatHashMap.groupBy Prod.fst Prod.snd
        ([] : List (String × ℚ))) = [] := List.perm_nil.mp (ord.perm _)
    unfold otherNamed
    rw [hempty]
    rfl

end PostAuctionSignals

namespace ScoreAdsReactor

/-! ## The highest other bid -/

/-- The accepted ads apart from the winner with a positive desirability. Whether the
candidates for ghost winners are among them is left to `countGhosts`. -/
def eligibleOthers (countGhosts : Bool) (found : Found) (winnerIndex : ℕ) :
    List ScoredAdData :=
  (found.parsedAds.zipIdx.filter fun entry =>
    entry.2 ≠ winnerIndex ∧ 0 < entry.1.desirability ∧
      (countGhosts ∨ entry.2 ∉ found.scoringData.ghostWinnerCandIndices)).map Prod.fst

/-- The bid is that of one of the ads with the greatest desirability. -/
def IsHighestBid (bidOf : String → String × ℚ) (ads : List ScoredAdData) (bid : String × ℚ) :
    Prop :=
  ∃ ad ∈ ads, (∀ other ∈ ads, other.desirability ≤ ad.desirability) ∧ bidOf ad.id = bid

instance (bidOf : String → String × ℚ) (ads : List ScoredAdData) (bid : String × ℚ) :
    Decidable (IsHighestBid bidOf ads bid) :=
  List.decidableBEx (fun ad : ScoredAdData =>
    (∀ other ∈ ads, other.desirability ≤ ad.desirability) ∧ bidOf ad.id = bid) ads

/-- The signals name the owner and the bid of a highest one of the ads, if there are any. -/
structure NamesHighestOther (bidOf : String → String × ℚ) (ads : List ScoredAdData)
    (signals : PostAuctionSignals) : Prop where
  has : signals.hasHighestScoringOtherBid = true ↔ ads ≠ []
  highest : signals.hasHighestScoringOtherBid = true →
    IsHighestBid bidOf ads
      (signals.highestScoringOtherBidIgOwner, signals.highestScoringOtherBid)

/-- The bids are there if there are ads, and the first one of each owner is that of a highest
ad. -/
structure FirstBidsAreHighest (bidOf : String → String × ℚ) (ads : List ScoredAdData)
    (bids : List (String × ℚ)) : Prop where
  nonempty : bids ≠ [] ↔ ads ≠ []
  highest : ∀ bid, PostAuctionSignals.IsFirstOfOwner bids bid → IsHighestBid bidOf ads bid

instance (bidOf : String → String × ℚ) (ads : List ScoredAdData) (bids : List (String × ℚ)) :
    Decidable (FirstBidsAreHighest bidOf ads bids) :=
  decidable_of_iff ((bids ≠ [] ↔ ads ≠ []) ∧
      ∀ bid ∈ bids, bids.find? (fun other => other.1 = bid.1) = some bid →
        IsHighestBid bidOf ads bid)
    ⟨fun h => ⟨h.1, fun bid hfirst => h.2 bid (List.mem_of_find?_eq_some hfirst) hfirst⟩,
      fun h => ⟨h.nonempty, fun bid _ hfirst => h.highest bid hfirst⟩⟩

/-- The bids of the ads apart from the winner with one of the two scores that come first as
integers, up to a zero: those with the first score first. -/
def bidsOfFirstTwoScores (r : ScoreAdsReactor) (ch : Choices) (found : Found)
    (winnerIndex : ℕ) : List (String × ℚ) :=
  (otherIndices ch winnerIndex found.scoringData.scoreAdMap).map fun ind =>
    r.otherBid found.adScores ((found.parsedAds[ind]?.map ScoredAdData.id).getD "")

section Named

variable {bidOf : String → String × ℚ} {ads : List ScoredAdData} {bids : List (String × ℚ)}
  {adScore : AdScore ℚ} {sellerCurrency : String}

theorem generate_named (ord : HashOrder)
    (hmap : adScore.igOwnerHighestScoringOtherBidsMap = FlatHashMap.groupBy Prod.fst Prod.snd bids)
    {bid : String × ℚ} (hnamed : PostAuctionSignals.otherNamed ord
      (FlatHashMap.groupBy Prod.fst Prod.snd bids) = some bid) :
    ((PostAuctionSignals.generate ord adScore sellerCurrency).highestScoringOtherBidIgOwner,
      (PostAuctionSignals.generate ord adScore sellerCurrency).highestScoringOtherBid) = bid := by
  rw [← hmap] at hnamed
  show (((PostAuctionSignals.otherNamed ord _).map Prod.fst).getD "",
    ((PostAuctionSignals.otherNamed ord _).map Prod.snd).getD 0) = bid
  rw [hnamed]
  rfl

theorem namesHighestOther_generate_iff (ord : HashOrder)
    (hmap : adScore.igOwnerHighestScoringOtherBidsMap =
      FlatHashMap.groupBy Prod.fst Prod.snd bids) :
    NamesHighestOther bidOf ads (PostAuctionSignals.generate ord adScore sellerCurrency) ↔
      (bids ≠ [] ↔ ads ≠ []) ∧ ∀ bid, PostAuctionSignals.otherNamed ord
        (FlatHashMap.groupBy Prod.fst Prod.snd bids) = some bid → IsHighestBid bidOf ads bid := by
  have hhas : (PostAuctionSignals.generate ord adScore sellerCurrency).hasHighestScoringOtherBid =
      (PostAuctionSignals.otherNamed ord
        (FlatHashMap.groupBy Prod.fst Prod.snd bids)).isSome := by
    rw [← hmap]
    rfl
  have hsome : (PostAuctionSignals.otherNamed ord
      (FlatHashMap.groupBy Prod.fst Prod.snd bids)).isSome = true ↔ bids ≠ [] := by
    rw [ne_eq, ← PostAuctionSignals.otherNamed_eq_none_iff ord bids, Option.isSome_iff_ne_none]
  constructor
  · intro h
    refine ⟨hsome.symm.trans (hhas ▸ h.has), fun bid hnamed => ?_⟩
    have hhighest := h.highest (by rw [hhas, hnamed]; rfl)
    rwa [generate_named ord hmap hnamed] at hhighest
  · rintro ⟨hnonempty, hall⟩
    refine ⟨(by rw [hhas]; exact hsome.trans hnonempty), fun h => ?_⟩
    rw [hhas] at h
    obtain ⟨bid, hnamed⟩ := Option.isSome_iff_exists.mp h
    rw [generate_named ord hmap hnamed]
    exact hall bid hnamed

end Named

/-- Whichever owner the iteration starts at, the signals name a highest bid iff the first bid of
each owner is one. -/
theorem namesHighestOther_iff (bidOf : String → String × ℚ) (ads : List ScoredAdData)
    (bids : List (String × ℚ)) {adScore : AdScore ℚ}
    (hmap : adScore.igOwnerHighestScoringOtherBidsMap =
      FlatHashMap.groupBy Prod.fst Prod.snd bids) (sellerCurrency : String) :
    (∀ ord, NamesHighestOther bidOf ads
        (PostAuctionSignals.generate ord adScore sellerCurrency)) ↔
      FirstBidsAreHighest bidOf ads bids := by
  constructor
  · intro h
    have hnames (ord : HashOrder) := (namesHighestOther_generate_iff ord hmap).mp (h ord)
    refine ⟨(hnames .stored).1, fun bid hfirst => ?_⟩
    obtain ⟨ord, hnamed⟩ := PostAuctionSignals.exists_otherNamed hfirst
    exact (hnames ord).2 bid hnamed
  · intro h ord
    exact (namesHighestOther_generate_iff ord hmap).mpr ⟨h.nonempty, fun bid hnamed =>
      h.highest bid (PostAuctionSignals.isFirstOfOwner_of_otherNamed hnamed)⟩

section Served

variable (r : ScoreAdsReactor) (lib : Library) (ch : Choices) (responses : List RomaResponse)

theorem winningAdScore_map (hscope : r.auctionScope ≠ .serverTopLevelSeller) {winnerIndex : ℕ}
    (hwinner : (r.findWinningAd lib ch
      (r.collectValidRomaResponses lib responses)).scoringData.winnerIndex = some winnerIndex)
    {served : Served} (hserved : r.scoreAdsCallback lib ch responses = some served)
    {adScore : AdScore ℚ} (hadScore : served.adScore = some adScore) :
    adScore.igOwnerHighestScoringOtherBidsMap =
      FlatHashMap.groupBy Prod.fst Prod.snd (r.bidsOfFirstTwoScores ch
        (r.findWinningAd lib ch (r.collectValidRomaResponses lib responses)) winnerIndex) := by
  obtain ⟨ind, hind, hmap⟩ := r.winningAdScore_otherBids lib ch responses hserved hadScore
  obtain rfl : ind = winnerIndex := Option.some.inj (hind.symm.trans hwinner)
  rw [hmap]
  exact if_neg hscope

end Served

/-- The ads `a` and `b`, and `c` of a lower score. -/
def tiedAndLower : ScoreAdsReactor where
  adData := AList.insert "c" { render := "c", interestGroupOwner := "C", bid := 1 }
    (AList.insert "b" { render := "b", interestGroupOwner := "B", bid := 3 }
      (AList.insert "a" { render := "a", interestGroupOwner := "A", bid := 3 } ∅))

end ScoreAdsReactor

end BiddingAuction
