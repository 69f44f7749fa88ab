import BiddingAuction.Bidding.ByobReactor

/-!
# Limits on the debug URLs of a buyer

The bids of a request are validated one after another with one counter of characters. Each
bid has two URLs, and either may be dropped: it is not attested, too long, too long for what
is left, or not sampled. The counter goes up by what is kept. The flag that a URL failed
sampling is written only where a check rejects the URL: a flag that is set as the bid comes
in stays set on a URL that is kept, or absent, or was dropped before the checks.
-/

namespace BiddingAuction

namespace Byob

/-- The characters of the URLs, those that are left of both. -/
def keptUrls {F : Type} (adWithBid : AdWithBid F) : List String :=
  match adWithBid.debugReportUrls with
  | none => []
  | some debugUrls =>
    [debugUrls.auctionDebugWinUrl, debugUrls.auctionDebugLossUrl].filter (· ≠ "")

namespace DebugUrlsValidationConfig

variable (config : DebugUrlsValidationConfig)

/-! ## One URL -/

/-- The URL is of an adtech that is enrolled, where there is a cache to ask. -/
def IsAttested (url : String) : Prop :=
  ∀ isEnrolled, config.attestationCache = some isEnrolled → isEnrolled url = true

def check (url : String) (totals : DebugUrlTotals) :
    Option DebugUrlRejection × ℤ × DebugUrlTotals :=
  config.getRejectReasonIfBuyerDebugUrlInvalid (config.attestDebugUrl url).utf8ByteSize totals

def keptUrl (url : String) (totals : DebugUrlTotals) : String :=
  if (config.check url totals).1.isSome then "" else config.attestDebugUrl url

/-- The URL gets as far as being sampled, and is not. -/
structure IsSampledOut (url : String) (totals : DebugUrlTotals) : Prop where
  nonempty : url ≠ ""
  attested : config.IsAttested url
  size : url.utf8ByteSize ≤ config.maxAllowedSizeDebugUrlChars
  total : url.utf8ByteSize + totals.chars ≤ config.maxAllowedSizeAllDebugUrlsChars
  isSampled : config.enableSampledDebugReporting = true
  draw : config.debugUrlPassesSampling totals.draws = false

variable {config}

theorem attestDebugUrl_of_isAttested {url : String} (h : config.IsAttested url) :
    config.attestDebugUrl url = url := by
  unfold attestDebugUrl
  cases hcache : config.attestationCache with
  | none => rfl
  | some isEnrolled => exact if_pos (h isEnrolled hcache)

theorem attestDebugUrl_of_not_isAttested {url : String} (h : ¬ config.IsAttested url) :
    config.attestDebugUrl url = "" := by
  unfold attestDebugUrl
  cases hcache : config.attestationCache with
  | none =>
    refine absurd ?_ h
    intro isEnrolled hsome
    rw [hcache] at hsome
    cases hsome
  | some isEnrolled =>
    refine if_neg fun henrolled => h ?_
    intro isEnrolled' hsome
    rw [hcache] at hsome
    cases hsome
    exact henrolled

theorem utf8ByteSize_eq_zero {url : String} : (url.utf8ByteSize : ℤ) = 0 ↔ url = "" := by
  rw [Int.natCast_eq_zero, String.utf8ByteSize_eq_zero_iff]

inductive Checked (config : DebugUrlsValidationConfig) (url : String) (totals : DebugUrlTotals) :
    Option DebugUrlRejection × ℤ × DebugUrlTotals → Prop
  | absent : config.attestDebugUrl url = "" → Checked config url totals (none, 0, totals)
  | rejected {reason : DebugUrlRejection} : config.attestDebugUrl url ≠ "" →
      reason ≠ .duringSampling → ¬ config.IsSampledOut url totals →
      Checked config url totals (some reason, 0, totals)
  | sampledOut : config.IsSampledOut url totals →
      Checked config url totals (some .duringSampling, 0, ⟨totals.chars, totals.draws + 1⟩)
  | kept {draws : ℕ} : config.attestDebugUrl url = url → url ≠ "" → config.IsAttested url →
      url.utf8ByteSize ≤ config.maxAllowedSizeDebugUrlChars →
      url.utf8ByteSize + totals.chars ≤ config.maxAllowedSizeAllDebugUrlsChars →
      ¬ config.IsSampledOut url totals →
      Checked config url totals
        (none, url.utf8ByteSize, ⟨totals.chars + url.utf8ByteSize, draws⟩)

theorem checked_check (config : DebugUrlsValidationConfig) (url : String)
    (totals : DebugUrlTotals) :
    Checked config url totals (config.check url totals) := by
  unfold check getRejectReasonIfBuyerDebugUrlInvalid
  by_cases hempty : config.attestDebugUrl url = ""
  · rw [if_pos (utf8ByteSize_eq_zero.mpr hempty), utf8ByteSize_eq_zero.mpr hempty]
    exact .absent hempty
  · have hattested : config.IsAttested url := by
      by_contra hnot
      exact hempty (attestDebugUrl_of_not_isAttested hnot)
    have hself := attestDebugUrl_of_isAttested hattested
    have hnonempty : url ≠ "" := fun h => hempty (hself.trans h)
    rw [if_neg fun hzero => hempty (utf8ByteSize_eq_zero.mp hzero), hself]
    by_cases hsize : config.maxAllowedSizeDebugUrlChars < url.utf8ByteSize
    · rw [if_pos hsize]
      exact .rejected hempty (by decide) fun h => absurd h.size (not_le.mpr hsize)
    · rw [if_neg hsize]
      by_cases htotal : config.maxAllowedSizeAllDebugUrlsChars < url.utf8ByteSize + totals.chars
      · rw [if_pos htotal]
        exact .rejected hempty (by decide) fun h => absurd h.total (not_le.mpr htotal)
      · rw [if_neg htotal]
        rw [not_lt] at hsize htotal
        by_cases hsampled : config.enableSampledDebugReporting = true
        · rw [if_pos hsampled]
          by_cases hpasses : config.debugUrlPassesSampling totals.draws = true
          · rw [if_pos hpasses]
            refine .kept hself hnonempty hattested hsize htotal fun h => ?_
            rw [h.draw] at hpasses
            cases hpasses
          · rw [if_neg hpasses]
            exact .sampledOut ⟨hnonempty, hattested, hsize, htotal, hsampled,
              Bool.eq_false_iff.mpr hpasses⟩
        · rw [if_neg hsampled]
          exact .kept hself hnonempty hattested hsize htotal fun h => hsampled h.isSampled

theorem check_chars (config : DebugUrlsValidationConfig) (url : String) (totals : DebugUrlTotals) :
    (config.check url totals).2.1 = (config.keptUrl url totals).utf8ByteSize ∧
      (config.check url totals).2.2.chars =
        totals.chars + (config.keptUrl url totals).utf8ByteSize := by
  unfold keptUrl
  have hchecked := checked_check config url totals
  generalize config.check url totals = r at hchecked
  cases hchecked with
  | absent hempty => simp [hempty]
  | rejected => simp
  | sampledOut => simp
  | kept hself => simp [hself]

theorem of_keptUrl_ne_empty {url : String} {totals : DebugUrlTotals}
    (h : config.keptUrl url totals ≠ "") :
    config.keptUrl url totals = url ∧ config.IsAttested url ∧
      url.utf8ByteSize ≤ config.maxAllowedSizeDebugUrlChars ∧
      url.utf8ByteSize + totals.chars ≤ config.maxAllowedSizeAllDebugUrlsChars := by
  unfold keptUrl at h ⊢
  have hchecked := checked_check config url totals
  generalize config.check url totals = r at hchecked h
  cases hchecked with
  | absent hempty => exact absurd hempty h
  | rejected => exact absurd rfl h
  | sampledOut => exact absurd rfl h
  | kept hself _ hattested hsize htotal => exact ⟨hself, hattested, hsize, htotal⟩

theorem check_eq_duringSampling_iff {url : String} {totals : DebugUrlTotals} :
    (config.check url totals).1 = some .duringSampling ↔ config.IsSampledOut url totals := by
  have hchecked := checked_check config url totals
  generalize config.check url totals = r at hchecked
  cases hchecked with
  | absent hempty =>
    refine iff_of_false (by simp) fun h => h.nonempty ?_
    rw [← attestDebugUrl_of_isAttested h.attested, hempty]
  | rejected _ hreason hnot => exact iff_of_false (fun h => hreason (Option.some.inj h)) hnot
  | sampledOut h => exact iff_of_true rfl h
  | kept _ _ _ _ _ hnot => exact iff_of_false (by simp) hnot

theorem check_limit {url : String} {totals : DebugUrlTotals}
    (h : totals.chars ≤ config.maxAllowedSizeAllDebugUrlsChars) :
    (config.check url totals).2.2.chars ≤ config.maxAllowedSizeAllDebugUrlsChars := by
  rw [(check_chars config url totals).2]
  by_cases hkept : config.keptUrl url totals = ""
  · rw [hkept]
    simpa using h
  · obtain ⟨hself, -, -, htotal⟩ := of_keptUrl_ne_empty hkept
    rw [hself]
    omega

theorem not_isSampledOut {url : String} {totals : DebugUrlTotals}
    (h : config.maxAllowedSizeAllDebugUrlsChars ≤ totals.chars) :
    ¬ config.IsSampledOut url totals := by
  intro hsampled
  have hpos : url.utf8ByteSize ≠ 0 := fun hzero =>
    hsampled.nonempty (String.utf8ByteSize_eq_zero_iff.mp hzero)
  have htotal := hsampled.total
  omega

/-! ## One bid -/

variable {F : Type} (config)

def totalsAfterWinUrl (debugUrls : DebugReportUrls) (totals : DebugUrlTotals) : DebugUrlTotals :=
  (config.check debugUrls.auctionDebugWinUrl totals).2.2

def IsWinUrlSampledOut (adWithBid : AdWithBid F) (totals : DebugUrlTotals) : Prop :=
  ∃ debugUrls, adWithBid.debugReportUrls = some debugUrls ∧
    config.IsSampledOut debugUrls.auctionDebugWinUrl totals

def IsLossUrlSampledOut (adWithBid : AdWithBid F) (totals : DebugUrlTotals) : Prop :=
  ∃ debugUrls, adWithBid.debugReportUrls = some debugUrls ∧
    config.IsSampledOut debugUrls.auctionDebugLossUrl (config.totalsAfterWinUrl debugUrls totals)

/-- Why the checks reject the URLs of a bid: nothing is checked with no room left. -/
def rejectReasons (adWithBid : AdWithBid F) (totals : DebugUrlTotals) :
    Option DebugUrlRejection × Option DebugUrlRejection :=
  match adWithBid.debugReportUrls with
  | none => (none, none)
  | some debugUrls =>
    if config.maxAllowedSizeAllDebugUrlsChars ≤ totals.chars then (none, none)
    else
      ((config.check debugUrls.auctionDebugWinUrl totals).1,
        (config.check debugUrls.auctionDebugLossUrl
          (config.totalsAfterWinUrl debugUrls totals)).1)

variable {config}

theorem validateBuyerDebugUrls_eq {adWithBid : AdWithBid F} {totals : DebugUrlTotals}
    {debugUrls : DebugReportUrls} (hurls : adWithBid.debugReportUrls = some debugUrls)
    (hroom : ¬ config.maxAllowedSizeAllDebugUrlsChars ≤ totals.chars) :
    config.validateBuyerDebugUrls adWithBid totals =
      let win := config.check debugUrls.auctionDebugWinUrl totals
      let loss := config.check debugUrls.auctionDebugLossUrl win.2.2
      ((if 0 < win.2.1 then 1 else 0) + (if 0 < loss.2.1 then 1 else 0),
        { adWithBid with
          debugReportUrls :=
            if win.2.1 = 0 ∧ loss.2.1 = 0 then none
            else some ⟨config.keptUrl debugUrls.auctionDebugWinUrl totals,
              config.keptUrl debugUrls.auctionDebugLossUrl win.2.2⟩
          debugWinUrlFailedSampling :=
            if win.1.isSome then win.1 == some .duringSampling
            else adWithBid.debugWinUrlFailedSampling
          debugLossUrlFailedSampling :=
            if loss.1.isSome then loss.1 == some .duringSampling
            else adWithBid.debugLossUrlFailedSampling }, loss.2.2) := by
  unfold validateBuyerDebugUrls
  rw [hurls]
  dsimp only
  rw [if_neg hroom]
  split
  · rename_i hempty
    -- an empty URL passes the checks as it is
    have hcheck {url : String} (hurl : config.attestDebugUrl url = "") :
        config.check url totals = (none, 0, totals) := by
      unfold check getRejectReasonIfBuyerDebugUrlInvalid
      rw [hurl]
      rfl
    rw [hcheck hempty.1]
    dsimp only
    rw [hcheck hempty.2]
    rfl
  · rfl

/-- What a call makes of the counter and of the URLs of a bid. -/
structure Accounts (config : DebugUrlsValidationConfig) (adWithBid : AdWithBid F)
    (totals : DebugUrlTotals) (r : ℕ × AdWithBid F × DebugUrlTotals) : Prop where
  chars : r.2.2.chars = totals.chars + ((keptUrls r.2.1).map String.utf8ByteSize).sum
  limit : totals.chars ≤ config.maxAllowedSizeAllDebugUrlsChars →
    r.2.2.chars ≤ config.maxAllowedSizeAllDebugUrlsChars
  kept : ∀ url ∈ keptUrls r.2.1, url ∈ keptUrls adWithBid ∧
    url.utf8ByteSize ≤ config.maxAllowedSizeDebugUrlChars ∧ config.IsAttested url
  count : r.1 = (keptUrls r.2.1).length
  present : r.2.1.debugReportUrls.isSome ↔ 0 < r.1
  winFlag : r.2.1.debugWinUrlFailedSampling =
    if (config.rejectReasons adWithBid totals).1.isSome then
      (config.rejectReasons adWithBid totals).1 == some .duringSampling
    else adWithBid.debugWinUrlFailedSampling
  lossFlag : r.2.1.debugLossUrlFailedSampling =
    if (config.rejectReasons adWithBid totals).2.isSome then
      (config.rejectReasons adWithBid totals).2 == some .duringSampling
    else adWithBid.debugLossUrlFailedSampling

theorem keptUrls_of_checked {result : AdWithBid F} {win loss : String}
    (h : result.debugReportUrls =
      if (win.utf8ByteSize : ℤ) = 0 ∧ (loss.utf8ByteSize : ℤ) = 0 then none
      else some ⟨win, loss⟩) :
    keptUrls result = [win, loss].filter (· ≠ "") ∧
      (result.debugReportUrls.isSome ↔ 0 < ([win, loss].filter (· ≠ "")).length) := by
  unfold keptUrls
  rw [h]
  simp only [utf8ByteSize_eq_zero]
  by_cases hwin : win = "" <;> by_cases hloss : loss = "" <;> simp [hwin, hloss]

theorem length_kept (win loss : String) :
    (if 0 < (win.utf8ByteSize : ℤ) then 1 else 0) + (if 0 < (loss.utf8ByteSize : ℤ) then 1 else 0) =
      ([win, loss].filter (· ≠ "")).length ∧
    ((([win, loss].filter (· ≠ "")).map String.utf8ByteSize).sum : ℤ) =
      win.utf8ByteSize + loss.utf8ByteSize := by
  have hpos (url : String) : 0 < (url.utf8ByteSize : ℤ) ↔ url ≠ "" := by
    rw [Ne, ← utf8ByteSize_eq_zero]
    omega
  simp only [hpos]
  by_cases hwin : win = "" <;> by_cases hloss : loss = "" <;> simp [hwin, hloss]

theorem accounts_of_noUrls {adWithBid result : AdWithBid F} {totals : DebugUrlTotals}
    (hreasons : config.rejectReasons adWithBid totals = (none, none))
    (hnone : result.debugReportUrls = none)
    (hwin : result.debugWinUrlFailedSampling = adWithBid.debugWinUrlFailedSampling)
    (hloss : result.debugLossUrlFailedSampling = adWithBid.debugLossUrlFailedSampling) :
    Accounts config adWithBid totals (0, result, totals) where
  chars := by simp [keptUrls, hnone]
  limit := id
  kept := by simp [keptUrls, hnone]
  count := by simp [keptUrls, hnone]
  present := by simp [hnone]
  winFlag := by simp [hreasons, hwin]
  lossFlag := by simp [hreasons, hloss]

theorem accounts_of_room {adWithBid : AdWithBid F} {totals : DebugUrlTotals}
    {debugUrls : DebugReportUrls} (hurls : adWithBid.debugReportUrls = some debugUrls)
    (hroom : ¬ config.maxAllowedSizeAllDebugUrlsChars ≤ totals.chars) :
    Accounts config adWithBid totals (config.validateBuyerDebugUrls adWithBid totals) := by
  have hreasons : config.rejectReasons adWithBid totals =
      ((config.check debugUrls.auctionDebugWinUrl totals).1,
        (config.check debugUrls.auctionDebugLossUrl
          (config.totalsAfterWinUrl debugUrls totals)).1) := by
    unfold rejectReasons
    rw [hurls]
    exact if_neg hroom
  have hwin := check_chars config debugUrls.auctionDebugWinUrl totals
  have hloss := check_chars config debugUrls.auctionDebugLossUrl
    (config.check debugUrls.auctionDebugWinUrl totals).2.2
  have hlength := length_kept (config.keptUrl debugUrls.auctionDebugWinUrl totals)
    (config.keptUrl debugUrls.auctionDebugLossUrl
      (config.check debugUrls.auctionDebugWinUrl totals).2.2)
  rw [validateBuyerDebugUrls_eq hurls hroom]
  dsimp only
  rw [hwin.1, hloss.1, hlength.1]
  refine ⟨?_, ?_, ?_, ?_, ?_, ?_, ?_⟩
  · rw [(keptUrls_of_checked rfl).1, hlength.2, hloss.2, hwin.2, Int.add_assoc]
  · exact fun hlimit => check_limit (check_limit hlimit)
  · rw [(keptUrls_of_checked rfl).1]
    intro url hurl
    obtain ⟨hmem, hnonempty⟩ := List.mem_filter.mp hurl
    have hne : url ≠ "" := of_decide_eq_true hnonempty
    unfold keptUrls
    rw [hurls]
    rcases List.mem_cons.mp hmem with rfl | hmem
    · obtain ⟨hself, hattested, hsize, -⟩ := of_keptUrl_ne_empty hne
      rw [hself] at hne ⊢
      exact ⟨List.mem_filter.mpr ⟨List.mem_cons_self, decide_eq_true hne⟩, hsize, hattested⟩
    · rw [List.mem_singleton.mp hmem] at hne ⊢
      obtain ⟨hself, hattested, hsize, -⟩ := of_keptUrl_ne_empty hne
      rw [hself] at hne ⊢
      exact ⟨List.mem_filter.mpr ⟨List.mem_cons_of_mem _ List.mem_cons_self,
        decide_eq_true hne⟩, hsize, hattested⟩
  · rw [(keptUrls_of_checked rfl).1]
  · exact (keptUrls_of_checked rfl).2
  · rw [hreasons]
  · rw [hreasons]
    rfl

theorem accounts_validateBuyerDebugUrls (config : DebugUrlsValidationConfig)
    (adWithBid : AdWithBid F) (totals : DebugUrlTotals) :
    Accounts config adWithBid totals (config.validateBuyerDebugUrls adWithBid totals) := by
  cases hurls : adWithBid.debugReportUrls with
  | none =>
    have hself : config.validateBuyerDebugUrls adWithBid totals = (0, adWithBid, totals) := by
      unfold validateBuyerDebugUrls
      rw [hurls]
    have hreasons : config.rejectReasons adWithBid totals = (none, none) := by
      unfold rejectReasons
      rw [hurls]
    rw [hself]
    exact accounts_of_noUrls hreasons hurls rfl rfl
  | some debugUrls =>
    by_cases hroom : config.maxAllowedSizeAllDebugUrlsChars ≤ totals.chars
    · have hself : config.validateBuyerDebugUrls adWithBid totals =
          (0, { adWithBid with debugReportUrls := none }, totals) := by
        unfold validateBuyerDebugUrls
        rw [hurls]
        exact if_pos hroom
      have hreasons : config.rejectReasons adWithBid totals = (none, none) := by
        unfold rejectReasons
        rw [hurls]
        exact if_pos hroom
      rw [hself]
      exact accounts_of_noUrls hreasons rfl rfl rfl
    · exact accounts_of_room hurls hroom

theorem winReason_eq_duringSampling_iff {adWithBid : AdWithBid F} {totals : DebugUrlTotals} :
    (config.rejectReasons adWithBid totals).1 = some .duringSampling ↔
      config.IsWinUrlSampledOut adWithBid totals := by
  unfold rejectReasons IsWinUrlSampledOut
  cases adWithBid.debugReportUrls with
  | none => simp
  | some debugUrls =>
    by_cases hroom : config.maxAllowedSizeAllDebugUrlsChars ≤ totals.chars
    · simp [hroom, not_isSampledOut hroom]
    · simp [hroom, check_eq_duringSampling_iff]

theorem lossReason_eq_duringSampling_iff {adWithBid : AdWithBid F} {totals : DebugUrlTotals} :
    (config.rejectReasons adWithBid totals).2 = some .duringSampling ↔
      config.IsLossUrlSampledOut adWithBid totals := by
  unfold rejectReasons IsLossUrlSampledOut
  cases adWithBid.debugReportUrls with
  | none => simp
  | some debugUrls =>
    by_cases hroom : config.maxAllowedSizeAllDebugUrlsChars ≤ totals.chars
    · have hafter : config.maxAllowedSizeAllDebugUrlsChars ≤
          (config.totalsAfterWinUrl debugUrls totals).chars := by
        have hchars := (check_chars config debugUrls.auctionDebugWinUrl totals).2
        unfold totalsAfterWinUrl
        omega
      simp [hroom, not_isSampledOut hafter]
    · simp [hroom, check_eq_duringSampling_iff]

theorem flag_iff {reason : Option DebugUrlRejection} {before : Bool} :
    ((if reason.isSome then reason == some .duringSampling else before) = true ↔
      reason = some .duringSampling) ↔ (before = true → reason.isSome = true) := by
  cases reason with
  | none => simp
  | some reason => simp

/-! ## The bids of a request -/

/-- A call of `ValidateBuyerDebugUrls`, with the counter before it and what it leaves. -/
structure Call (F : Type) where
  adWithBid : AdWithBid F
  totals : DebugUrlTotals
  result : ℕ × AdWithBid F × DebugUrlTotals

variable (config)

def validateBids : List (AdWithBid F) → DebugUrlTotals → List (Call F)
  | [], _ => []
  | adWithBid :: rest, totals =>
    let result := config.validateBuyerDebugUrls adWithBid totals
    ⟨adWithBid, totals, result⟩ :: validateBids rest result.2.2

def allKeptUrls (calls : List (Call F)) : List String :=
  calls.flatMap fun call => keptUrls call.result.2.1

/-- What is promised after a call, the last of those so far. -/
structure StaysInLimits (calls : List (Call F)) (call : Call F) : Prop where
  chars : call.result.2.2.chars = ((allKeptUrls calls).map String.utf8ByteSize).sum
  limit : call.result.2.2.chars ≤ config.maxAllowedSizeAllDebugUrlsChars
  kept : ∀ url ∈ keptUrls call.result.2.1, url ∈ keptUrls call.adWithBid ∧
    url.utf8ByteSize ≤ config.maxAllowedSizeDebugUrlChars ∧ config.IsAttested url
  count : call.result.1 = (keptUrls call.result.2.1).length
  present : call.result.2.1.debugReportUrls.isSome ↔ 0 < call.result.1
  winFlag : call.result.2.1.debugWinUrlFailedSampling = true ↔
    config.IsWinUrlSampledOut call.adWithBid call.totals
  lossFlag : call.result.2.1.debugLossUrlFailedSampling = true ↔
    config.IsLossUrlSampledOut call.adWithBid call.totals

/-- A flag that is set as a bid comes in is of a URL that some check rejects. -/
structure RewritesFlags (call : Call F) : Prop where
  win : call.adWithBid.debugWinUrlFailedSampling = true →
    (config.rejectReasons call.adWithBid call.totals).1.isSome = true
  loss : call.adWithBid.debugLossUrlFailedSampling = true →
    (config.rejectReasons call.adWithBid call.totals).2.isSome = true

variable {config}

theorem accounts_of_mem {adsWithBids : List (AdWithBid F)} {totals : DebugUrlTotals}
    {call : Call F} (h : call ∈ config.validateBids adsWithBids totals) :
    Accounts config call.adWithBid call.totals call.result := by
  induction adsWithBids generalizing totals with
  | nil => cases h
  | cons adWithBid rest ih =>
    rcases List.mem_cons.mp h with rfl | h
    · exact accounts_validateBuyerDebugUrls config adWithBid totals
    · exact ih h

theorem chars_after_calls {adsWithBids : List (AdWithBid F)} {totals : DebugUrlTotals}
    {earlier : List (Call F)} {call : Call F}
    (h : earlier ++ [call] <+: config.validateBids adsWithBids totals) :
    call.result.2.2.chars =
      totals.chars + ((allKeptUrls (earlier ++ [call])).map String.utf8ByteSize).sum := by
  induction adsWithBids generalizing totals earlier with
  | nil => simp [validateBids] at h
  | cons adWithBid rest ih =>
    have hfirst := (accounts_validateBuyerDebugUrls config adWithBid totals).chars
    cases earlier with
    | nil =>
      obtain ⟨rfl, -⟩ := List.cons_prefix_cons.mp h
      unfold allKeptUrls
      simpa using hfirst
    | cons first earlier =>
      obtain ⟨rfl, hrest⟩ := List.cons_prefix_cons.mp h
      rw [ih hrest, hfirst]
      unfold allKeptUrls
      rw [List.cons_append, List.flatMap_cons, List.map_append, List.sum_append, Nat.cast_add,
        Int.add_assoc]

theorem limit_of_mem {adsWithBids : List (AdWithBid F)} {totals : DebugUrlTotals}
    (hlimit : totals.chars ≤ config.maxAllowedSizeAllDebugUrlsChars) {call : Call F}
    (h : call ∈ config.validateBids adsWithBids totals) :
    call.result.2.2.chars ≤ config.maxAllowedSizeAllDebugUrlsChars := by
  induction adsWithBids generalizing totals with
  | nil => cases h
  | cons adWithBid rest ih =>
    have hfirst := (accounts_validateBuyerDebugUrls config adWithBid totals).limit hlimit
    rcases List.mem_cons.mp h with rfl | h
    · exact hfirst
    · exact ih hfirst h

/-- After every call the URLs are within their limits and the flags tell of sampling, if and
only if the limit is not negative and no flag is set beforehand on a URL that nothing
rejects. -/
theorem staysInLimits_iff (config : DebugUrlsValidationConfig)
    (adsWithBids : List (AdWithBid F)) :
    (∀ earlier call, earlier ++ [call] <+: config.validateBids adsWithBids {} →
      config.StaysInLimits (earlier ++ [call]) call) ↔
    (adsWithBids = [] ∨ 0 ≤ config.maxAllowedSizeAllDebugUrlsChars) ∧
      ∀ call ∈ config.validateBids adsWithBids {}, config.RewritesFlags call := by
  constructor
  · intro h
    refine ⟨?_, ?_⟩
    · cases adsWithBids with
      | nil => exact .inl rfl
      | cons adWithBid rest =>
        have hfirst := h [] _ (List.cons_prefix_cons.mpr ⟨rfl, List.nil_prefix⟩)
        have hnonneg := hfirst.limit
        rw [hfirst.chars] at hnonneg
        exact .inr (le_trans (Int.natCast_nonneg _) hnonneg)
    · intro call hcall
      obtain ⟨earlier, later, hsplit⟩ := List.append_of_mem hcall
      have hstays := h earlier call ⟨later, by rw [hsplit, List.append_assoc]; rfl⟩
      have haccounts := accounts_of_mem hcall
      refine ⟨flag_iff.mp ?_, flag_iff.mp ?_⟩
      · rw [← haccounts.winFlag, winReason_eq_duringSampling_iff]
        exact hstays.winFlag
      · rw [← haccounts.lossFlag, lossReason_eq_duringSampling_iff]
        exact hstays.lossFlag
  · rintro ⟨hlimit, hflags⟩ earlier call hearlier
    have hcall : call ∈ config.validateBids adsWithBids {} :=
      hearlier.subset (List.mem_append_right _ List.mem_cons_self)
    have hnonneg : 0 ≤ config.maxAllowedSizeAllDebugUrlsChars := by
      rcases hlimit with rfl | hnonneg
      · cases hcall
      · exact hnonneg
    have haccounts := accounts_of_mem hcall
    refine ⟨?_, limit_of_mem hnonneg hcall, haccounts.kept, haccounts.count, haccounts.present,
      ?_, ?_⟩
    · rw [chars_after_calls hearlier, Int.zero_add]
    · rw [haccounts.winFlag, ← winReason_eq_duringSampling_iff]
      exact flag_iff.mpr (hflags call hcall).win
    · rw [haccounts.lossFlag, ← lossReason_eq_duringSampling_iff]
      exact flag_iff.mpr (hflags call hcall).loss

/-- A bid that says by itself that its win URL failed sampling, and keeps it. -/
theorem not_staysInLimits_example :
    let config : DebugUrlsValidationConfig :=
      { maxAllowedSizeDebugUrlChars := 65536, maxAllowedSizeAllDebugUrlsChars := 3072000 }
    let adWithBid : AdWithBid ℚ :=
      { bid := 1, adCost := 0, debugWinUrlFailedSampling := true
        debugReportUrls := some ⟨"https://win", ""⟩ }
    ¬ ∀ earlier call, earlier ++ [call] <+: config.validateBids [adWithBid] {} →
      config.StaysInLimits (earlier ++ [call]) call := by
  intro config adWithBid h
  have hstays := h [] _ (List.cons_prefix_cons.mpr ⟨rfl, List.nil_prefix⟩)
  obtain ⟨debugUrls, -, hsampled⟩ := hstays.winFlag.mp (by decide)
  exact absurd hsampled.isSampled (by decide)

end DebugUrlsValidationConfig

end Byob

/-!
# What validation leaves of a bid

The debug URLs of a bid are validated without regard to the rest of it. Where nothing has been
kept before, a bid is left without URLs if and only if each is too long by itself, or not attested.
-/

namespace Byob

variable {F : Type}

/-- The bid with the fields of another that `ValidateBuyerDebugUrls` reads and writes. -/
def AdWithBid.withDebug (bid debug : AdWithBid F) : AdWithBid F :=
  { bid with
    debugReportUrls := debug.debugReportUrls
    debugWinUrlFailedSampling := debug.debugWinUrlFailedSampling
    debugLossUrlFailedSampling := debug.debugLossUrlFailedSampling }

structure AdWithBid.HasNoDebug (bid : AdWithBid F) : Prop where
  urls : bid.debugReportUrls = none
  win : bid.debugWinUrlFailedSampling = false
  loss : bid.debugLossUrlFailedSampling = false

theorem AdWithBid.HasNoDebug.withDebug_eq {bid debug debug' : AdWithBid F} (h : debug.HasNoDebug)
    (h' : debug'.HasNoDebug) : bid.withDebug debug = bid.withDebug debug' := by
  unfold withDebug
  rw [h.urls, h.win, h.loss, h'.urls, h'.win, h'.loss]

namespace DebugUrlsValidationConfig

variable {config : DebugUrlsValidationConfig}

theorem validateBuyerDebugUrls_withDebug (config : DebugUrlsValidationConfig)
    (bid debug : AdWithBid F) (totals : DebugUrlTotals) :
    config.validateBuyerDebugUrls (bid.withDebug debug) totals =
      ((config.validateBuyerDebugUrls debug totals).1,
        bid.withDebug (config.validateBuyerDebugUrls debug totals).2.1,
        (config.validateBuyerDebugUrls debug totals).2.2) := by
  unfold validateBuyerDebugUrls
  have hurls : (bid.withDebug debug).debugReportUrls = debug.debugReportUrls := rfl
  rw [hurls]
  cases hdebug : debug.debugReportUrls with
  | none => rfl
  | some debugUrls =>
    dsimp only
    split
    · rfl
    · split
      · rfl
      · rfl

theorem validateBuyerDebugUrls_self (config : DebugUrlsValidationConfig) (bid : AdWithBid F)
    (totals : DebugUrlTotals) :
    (config.validateBuyerDebugUrls bid totals).2.1 =
      bid.withDebug (config.validateBuyerDebugUrls bid totals).2.1 :=
  congrArg (fun r => r.2.1) (validateBuyerDebugUrls_withDebug config bid bid totals)

theorem validateBuyerDebugUrls_of_hasNoDebug {bid : AdWithBid F} (h : bid.HasNoDebug)
    (totals : DebugUrlTotals) : config.validateBuyerDebugUrls bid totals = (0, bid, totals) := by
  unfold validateBuyerDebugUrls
  rw [h.urls]

/-- The URL is dropped without being sampled, whatever comes before it. -/
def NeverKept (config : DebugUrlsValidationConfig) (url : String) : Prop :=
  config.attestDebugUrl url = "" ∨ config.maxAllowedSizeDebugUrlChars < url.utf8ByteSize ∨
    config.maxAllowedSizeAllDebugUrlsChars < url.utf8ByteSize

theorem attestDebugUrl_eq_or (config : DebugUrlsValidationConfig) (url : String) :
    config.attestDebugUrl url = url ∨ config.attestDebugUrl url = "" := by
  by_cases h : config.IsAttested url
  · exact .inl (attestDebugUrl_of_isAttested h)
  · exact .inr (attestDebugUrl_of_not_isAttested h)

theorem check_of_neverKept {url : String} (h : config.NeverKept url) {totals : DebugUrlTotals}
    (hnone : totals.chars = 0) : (config.check url totals).1 ≠ some .duringSampling ∧
      (config.check url totals).2 = (0, totals) := by
  unfold check getRejectReasonIfBuyerDebugUrlInvalid
  by_cases hempty : config.attestDebugUrl url = ""
  · rw [hempty]
    exact ⟨by simp, rfl⟩
  · have hself := (attestDebugUrl_eq_or config url).resolve_right hempty
    rw [hself] at hempty ⊢
    rw [if_neg fun hzero => hempty (utf8ByteSize_eq_zero.mp hzero), hnone, Int.add_zero]
    unfold NeverKept at h
    rw [hself] at h
    split
    · exact ⟨by simp, rfl⟩
    · rename_i hsize
      rw [if_pos ((h.resolve_left hempty).resolve_left hsize)]
      exact ⟨by simp, rfl⟩

theorem check_of_not_neverKept {url : String} (h : ¬ config.NeverKept url)
    {totals : DebugUrlTotals} (hnone : totals.chars = 0) :
    (config.check url totals).1 = some .duringSampling ∨ (config.check url totals).2.1 ≠ 0 := by
  unfold NeverKept at h
  rw [not_or, not_or] at h
  obtain ⟨hempty, hsize, htotal⟩ := h
  have hself := (attestDebugUrl_eq_or config url).resolve_right hempty
  rw [hself] at hempty
  have hchars : (url.utf8ByteSize : ℤ) ≠ 0 := fun hzero => hempty (utf8ByteSize_eq_zero.mp hzero)
  unfold check getRejectReasonIfBuyerDebugUrlInvalid
  rw [hself, if_neg hchars, if_neg hsize, hnone, Int.add_zero, if_neg htotal]
  split
  · split
    · exact .inr hchars
    · exact .inl rfl
  · exact .inr hchars

def urlsOf (bid : AdWithBid F) : List String :=
  match bid.debugReportUrls with
  | none => []
  | some debugUrls => [debugUrls.auctionDebugWinUrl, debugUrls.auctionDebugLossUrl]

/-- With nothing kept before it, a bid is left without debug URLs if and only if none of them is
ever kept. -/
theorem hasNoDebug_validated_iff (config : DebugUrlsValidationConfig) (bid : AdWithBid F)
    (hflags : bid.debugWinUrlFailedSampling = false ∧ bid.debugLossUrlFailedSampling = false)
    {totals : DebugUrlTotals} (hnone : totals.chars = 0) :
    (config.validateBuyerDebugUrls bid totals).2.1.HasNoDebug ↔
      ∀ url ∈ urlsOf bid, config.NeverKept url := by
  unfold urlsOf
  cases hurls : bid.debugReportUrls with
  | none =>
    rw [validateBuyerDebugUrls_of_hasNoDebug ⟨hurls, hflags.1, hflags.2⟩]
    exact iff_of_true ⟨hurls, hflags.1, hflags.2⟩ (by simp)
  | some debugUrls =>
    obtain ⟨winUrl, lossUrl⟩ := debugUrls
    show _ ↔ ∀ url ∈ [winUrl, lossUrl], config.NeverKept url
    by_cases hroom : config.maxAllowedSizeAllDebugUrlsChars ≤ 0
    · have hself : config.validateBuyerDebugUrls bid totals =
          (0, { bid with debugReportUrls := none }, totals) := by
        unfold validateBuyerDebugUrls
        rw [hurls]
        exact if_pos (hnone ▸ hroom)
      rw [hself]
      refine iff_of_true ⟨rfl, hflags.1, hflags.2⟩ fun url _ => ?_
      by_cases hempty : url = ""
      · refine .inl ?_
        rcases attestDebugUrl_eq_or config url with h | h
        · exact h.trans hempty
        · exact h
      · have hsize : (url.utf8ByteSize : ℤ) ≠ 0 := fun h => hempty (utf8ByteSize_eq_zero.mp h)
        exact .inr (.inr (by omega))
    · rw [validateBuyerDebugUrls_eq hurls (hnone ▸ hroom), List.forall_mem_cons,
        List.forall_mem_singleton]
      dsimp only
      by_cases hwin : config.NeverKept winUrl
      · obtain ⟨hwinReason, hwinCheck⟩ := check_of_neverKept hwin hnone
        rw [hwinCheck]
        by_cases hloss : config.NeverKept lossUrl
        · obtain ⟨hlossReason, hlossCheck⟩ := check_of_neverKept hloss hnone
          rw [hlossCheck]
          refine iff_of_true ?_ ⟨hwin, hloss⟩
          constructor
          · simp
          · dsimp only
            split
            · exact beq_false_of_ne hwinReason
            · exact hflags.1
          · dsimp only
            split
            · exact beq_false_of_ne hlossReason
            · exact hflags.2
        · refine iff_of_false (fun h => ?_) fun h => hloss h.2
          rcases check_of_not_neverKept hloss hnone with hsampled | hkept
          · have hflag := h.loss
            simp [hsampled] at hflag
          · have hnone := h.urls
            simp [hkept] at hnone
      · refine iff_of_false (fun h => ?_) fun h => hwin h.1
        rcases check_of_not_neverKept hwin hnone with hsampled | hkept
        · have hflag := h.win
          simp [hsampled] at hflag
        · have hnone := h.urls
          simp [hkept] at hnone

theorem chars_of_hasNoDebug {bid : AdWithBid F} {totals : DebugUrlTotals}
    (h : (config.validateBuyerDebugUrls bid totals).2.1.HasNoDebug) :
    (config.validateBuyerDebugUrls bid totals).2.2.chars = totals.chars := by
  rw [(accounts_validateBuyerDebugUrls config bid totals).chars]
  unfold keptUrls
  rw [h.urls]
  exact Int.add_zero _

end DebugUrlsValidationConfig

end Byob

end BiddingAuction
