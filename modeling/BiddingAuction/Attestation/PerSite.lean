import BiddingAuction.Attestation.AdTechSite
import BiddingAuction.Foundation.PublicSuffix
import Mathlib.Data.Set.Basic

/-!
# Attestation by site

A site is the scheme and the registrable domain of a URL. The code takes away what stands in
front of the first dot and nothing more, so it gives the site where at most one label is in
front of the registrable domain; of a longer host it gives a name that depends on the
subdomain.
-/

namespace BiddingAuction

open Foundation Foundation.TextSearch

namespace Attestation

/-! ## URLs -/

def host (labels : List (List Char)) : List Char := ['.'].intercalate labels

/-- A canonical URL that has a host, in its parts. -/
structure CanonicalUrl where
  scheme : List Char
  /-- What stands before the host, with the `@` behind it. -/
  userInfo : List Char
  labels : List (List Char)
  /-- What stands behind the host, with the colon before it. -/
  port : List Char
  path : List Char
  labels_ne_nil : labels ≠ []
  colon_notMem : ':' ∉ scheme
  userInfo_eq : userInfo = [] ∨ ∃ user, userInfo = user ++ ['@']
  plain_labels : ∀ label ∈ labels, '.' ∉ label ∧ '@' ∉ label
  slash_notMem : '/' ∉ userInfo ++ host labels ++ port
  no_null : ∀ c ∈ scheme ++ (userInfo ++ host labels ++ port), c.toNat ≠ 0
  length_lt : (scheme ++ "://".toList ++ (userInfo ++ host labels ++ port)).length < 2 ^ 31

namespace CanonicalUrl

variable (c : CanonicalUrl)

def start : List Char := c.scheme ++ "://".toList

def stripped : List Char := c.start ++ (c.userInfo ++ host c.labels ++ c.port)

def text : List Char := c.stripped ++ '/' :: c.path

end CanonicalUrl

def siteText (scheme : List Char) (domain : List (List Char)) : String :=
  String.ofList (scheme ++ "://".toList ++ host domain)

def CanonicalUrl.site (suffixes : PublicSuffixes (List Char)) (c : CanonicalUrl) :
    Option String :=
  (suffixes.registrableDomain c.labels).map (siteText c.scheme)

/-- The parser makes the text of a URL that has a host out of its parts, and reads the text of
a site as the URL with that host. -/
structure Canonicalizes (lib : SiteLibrary) (suffixes : PublicSuffixes (List Char))
    (components : String → Option CanonicalUrl) : Prop where
  spec : ∀ url c, components url = some c → canonicalizeURL lib url = c.text
  site : ∀ url c domain, components url = some c →
    suffixes.registrableDomain c.labels = some domain →
      ∃ c', components (siteText c.scheme domain) = some c' ∧ c'.scheme = c.scheme ∧
        c'.userInfo = [] ∧ c'.labels = domain ∧ c'.port = []

/-- `tld` finds a top-level domain exactly if the host ends the text and has a public suffix,
and reports where the dot before the suffix is. -/
structure ReportsSuffix (lib : SiteLibrary) (suffixes : PublicSuffixes (List Char))
    (components : String → Option CanonicalUrl) : Prop where
  isValid_iff : ∀ url c, components url = some c →
    ((lib.tld c.stripped).isValid = true ↔ c.port = [] ∧ (suffixes.count c.labels).isSome = true)
  fOffset : ∀ url c n, components url = some c → (lib.tld c.stripped).isValid = true →
    suffixes.count c.labels = some n →
      (lib.tld c.stripped).fOffset =
        (c.start ++ (c.userInfo ++ host (c.labels.take (c.labels.length - n)))).length

/-! ## What is wanted -/

def Attestations.Enrolls (message : Attestations) (site : String) : Prop :=
  site ∈ message.sitesAttestedForAllApis ∨
    ∃ entry ∈ message.siteAttestations.entries, entry.1 = site ∧ .protectedAudience ∈ entry.2

/-- The URLs that are accepted are attested by their sites. -/
structure AttestsBySite (lib : SiteLibrary) (suffixes : PublicSuffixes (List Char))
    (components : String → Option CanonicalUrl) (urls : Set String) : Prop where
  site : ∀ url ∈ urls, ∀ site, getValidAdTechSite lib url = .ok site →
    ∃ c, components url = some c ∧ c.site suffixes = some site
  idempotent : ∀ url ∈ urls, ∀ site, getValidAdTechSite lib url = .ok site →
    getValidAdTechSite lib site = .ok site
  same : ∀ url ∈ urls, ∀ url' ∈ urls, ∀ site site' c c', components url = some c →
    components url' = some c' → getValidAdTechSite lib url = .ok site →
      getValidAdTechSite lib url' = .ok site' → c.site suffixes = c'.site suffixes → site = site'
  different : ∀ url ∈ urls, ∀ url' ∈ urls, ∀ site site' c c', components url = some c →
    components url' = some c' → getValidAdTechSite lib url = .ok site →
      getValidAdTechSite lib url' = .ok site' →
        suffixes.registrableDomain c.labels ≠ suffixes.registrableDomain c'.labels → site ≠ site'
  enrolled : ∀ url ∈ urls, ∀ site c, components url = some c →
    getValidAdTechSite lib url = .ok site → ∀ (cache : EnrollmentCache) (message : Attestations),
      ((cache.refresh message).attests lib url = true ↔
        ∃ site', c.site suffixes = some site' ∧ message.Enrolls site')

/-- The host is the registrable domain, or has one label more. With user information in front
of the host it is one label more, and the information has no dot. -/
def AtMostOneLabel (suffixes : PublicSuffixes (List Char)) (c : CanonicalUrl) : Prop :=
  ∃ n, suffixes.count c.labels = some n ∧
    (c.userInfo = [] ∧ c.labels.length = n + 1 ∨
      '.' ∉ c.userInfo ∧ c.labels.length = n + 2)

/-! ## Hosts -/

theorem host_cons {label : List Char} {labels : List (List Char)} (h : labels ≠ []) :
    host (label :: labels) = label ++ '.' :: host labels := by
  unfold host
  rw [List.intercalate_cons_of_ne_nil h, List.append_assoc, List.singleton_append]

theorem host_singleton (label : List Char) : host [label] = label := List.intercalate_singleton

theorem host_injective {labels labels' : List (List Char)} (hne : labels ≠ [])
    (hne' : labels' ≠ []) (hdot : ∀ label ∈ labels, '.' ∉ label)
    (hdot' : ∀ label ∈ labels', '.' ∉ label) (h : host labels = host labels') :
    labels = labels' := by
  rw [← List.splitOn_intercalate '.' hdot hne, ← List.splitOn_intercalate '.' hdot' hne']
  exact congrArg (List.splitOn '.') h

theorem host_append {labels labels' : List (List Char)} (h : labels ≠ []) (h' : labels' ≠ []) :
    host (labels ++ labels') = host labels ++ '.' :: host labels' := by
  induction labels with
  | nil => exact absurd rfl h
  | cons label labels ih =>
    by_cases hne : labels = []
    · subst hne
      rw [List.singleton_append, host_cons h', host_singleton]
    · rw [List.cons_append, host_cons (List.append_ne_nil_of_left_ne_nil hne _), ih hne,
        host_cons hne, List.append_assoc, List.cons_append]

theorem notMem_host {mark : Char} (hmark : mark ≠ '.') {labels : List (List Char)}
    (h : ∀ label ∈ labels, mark ∉ label) : mark ∉ host labels := by
  induction labels with
  | nil => exact List.not_mem_nil
  | cons label labels ih =>
    rw [List.forall_mem_cons] at h
    by_cases hne : labels = []
    · subst hne
      rw [host_singleton]
      exact h.1
    · rw [host_cons hne, List.mem_append, List.mem_cons]
      rintro (hin | hin | hin)
      · exact h.1 hin
      · exact hmark hin
      · exact ih h.2 hin

theorem append_mark_inj {mark : Char} {before before' rest rest' : List Char}
    (h : mark ∉ before) (h' : mark ∉ before') (heq : before ++ mark :: rest =
      before' ++ mark :: rest') : before = before' ∧ rest = rest' := by
  induction before generalizing before' with
  | nil =>
    cases before' with
    | nil => exact ⟨rfl, (List.cons.inj heq).2⟩
    | cons d before' =>
      obtain ⟨rfl, -⟩ := List.cons.inj heq
      exact absurd List.mem_cons_self h'
  | cons d before ih =>
    cases before' with
    | nil =>
      obtain ⟨rfl, -⟩ := List.cons.inj heq
      exact absurd List.mem_cons_self h
    | cons d' before' =>
      obtain ⟨rfl, htail⟩ := List.cons.inj heq
      obtain ⟨rfl, hrest⟩ := ih (fun hin => h (List.mem_cons_of_mem _ hin))
        (fun hin => h' (List.mem_cons_of_mem _ hin)) htail
      exact ⟨rfl, hrest⟩

theorem siteText_inj {scheme scheme' : List Char} {domain domain' : List (List Char)}
    (h : ':' ∉ scheme) (h' : ':' ∉ scheme') (heq : siteText scheme domain =
      siteText scheme' domain') : scheme = scheme' ∧ host domain = host domain' := by
  have htext := String.ofList_injective heq
  rw [List.append_assoc, List.append_assoc] at htext
  obtain ⟨hscheme, hrest⟩ := append_mark_inj h h' htext
  exact ⟨hscheme, List.append_cancel_left hrest⟩

/-! ## What the code cuts -/

section Cut

variable {lib : SiteLibrary} {suffixes : PublicSuffixes (List Char)}
  {components : String → Option CanonicalUrl} {url : String} {c : CanonicalUrl} {n : ℕ}

theorem CanonicalUrl.length_start (c : CanonicalUrl) : c.start.length = c.scheme.length + 3 := by
  unfold start
  rw [List.length_append]
  rfl

def firstDot (c : CanonicalUrl) : ℕ := (find ['.'] c.stripped c.start.length).getD npos

theorem getValidAdTechSite_of_text (htext : canonicalizeURL lib url = c.text) :
    getValidAdTechSite lib url =
      if (lib.tld c.stripped).isValid then
        if firstDot c = toSizeT (lib.tld c.stripped).fOffset then .ok (String.ofList c.stripped)
        else .ok (String.ofList (c.start ++ c.stripped.drop ((firstDot c + 1) % 2 ^ 64)))
      else .error (kInvalidTLDErrorMessage url) := by
  have hscheme : find "://".toList c.text 0 = some c.scheme.length := by
    have hfind := @find_append Char _ "://".toList ':' [] c.scheme
      ("://".toList ++ (c.userInfo ++ host c.labels ++ c.port ++ '/' :: c.path)) rfl
      c.colon_notMem (List.prefix_append _ _)
    rw [List.nil_append, List.length_nil, Nat.zero_add] at hfind
    rw [← hfind]
    unfold CanonicalUrl.text CanonicalUrl.stripped CanonicalUrl.start
    simp only [List.append_assoc]
  have hpath : find ['/'] c.text (c.scheme.length + 3) = some c.stripped.length := by
    have hfind := @find_append Char _ ['/'] '/' c.start (c.userInfo ++ host c.labels ++ c.port)
      ('/' :: c.path) rfl c.slash_notMem (List.prefix_append ['/'] c.path)
    rw [CanonicalUrl.length_start, ← CanonicalUrl.length_start, ← List.length_append,
      CanonicalUrl.length_start] at hfind
    unfold CanonicalUrl.text CanonicalUrl.stripped
    rw [List.append_assoc]
    exact hfind
  have hnull : (c.stripped.takeWhile fun c => c.toNat ≠ 0) = c.stripped := by
    rw [List.takeWhile_eq_self_iff]
    intro d hd
    unfold CanonicalUrl.stripped CanonicalUrl.start at hd
    rw [List.append_assoc, List.mem_append, List.mem_append] at hd
    refine decide_eq_true ?_
    rcases hd with hd | hd | hd
    · exact c.no_null d (List.mem_append_left _ hd)
    · have hall : ("://".toList.all fun d => decide (d.toNat ≠ 0)) = true := by decide
      exact of_decide_eq_true (List.all_eq_true.mp hall d hd)
    · exact c.no_null d (List.mem_append_right _ hd)
  have hstart : c.stripped.take (c.scheme.length + 3) = c.start := by
    rw [← CanonicalUrl.length_start]
    exact List.take_left
  unfold getValidAdTechSite
  rw [htext]
  simp only [hscheme, hpath]
  rw [show c.text.take c.stripped.length = c.stripped from List.take_left, hnull, hstart,
    ← CanonicalUrl.length_start]
  rfl

/-- What is left of the host and the user information in front of it. -/
def CanonicalUrl.remainder (c : CanonicalUrl) (n : ℕ) : List Char :=
  if '.' ∈ c.userInfo then
    (c.userInfo.dropWhile fun d => d ≠ '.').tail ++ host c.labels
  else if c.labels.length = n + 1 then c.userInfo ++ host c.labels
  else host c.labels.tail

theorem exists_dot {text : List Char} (h : '.' ∈ text) :
    ∃ before, '.' ∉ before ∧
      text = before ++ '.' :: (text.dropWhile fun d => d ≠ '.').tail := by
  refine ⟨text.takeWhile fun d => d ≠ '.', ?_, ?_⟩
  · intro hin
    have := List.mem_takeWhile_imp hin
    simp at this
  · have hne : text.dropWhile (fun d => d ≠ '.') ≠ [] := by
      intro hnil
      have hall := List.dropWhile_eq_nil_iff.mp hnil '.' h
      simp at hall
    have hhead := List.head_dropWhile_not (fun d => decide (d ≠ '.')) hne
    rw [decide_eq_false_iff_not, not_not] at hhead
    have hcons := List.cons_head_tail hne
    rw [hhead] at hcons
    rw [hcons, List.takeWhile_append_dropWhile]

/-- Positions in a canonical URL are `int`s. -/
theorem toSizeT_length {before rest : List Char} (h : c.stripped = before ++ rest) :
    toSizeT before.length = before.length ∧ before.length + 1 < 2 ^ 64 := by
  have hlength := c.length_lt
  have hlt : before.length < 2 ^ 31 := by
    have heq := congrArg List.length h
    rw [List.length_append] at heq
    change c.stripped.length < 2 ^ 31 at hlength
    omega
  unfold toSizeT
  omega

theorem firstDot_eq {before rest : List Char} (hdot : '.' ∉ before)
    (h : c.stripped = c.start ++ (before ++ '.' :: rest)) :
    firstDot c = (c.start ++ before).length ∧
      c.stripped.drop ((firstDot c + 1) % 2 ^ 64) = rest := by
  have hfind := @find_append Char _ ['.'] '.' c.start before ('.' :: rest) rfl hdot
    (List.prefix_append ['.'] rest)
  rw [← h, ← List.length_append] at hfind
  have hfirst : firstDot c = (c.start ++ before).length := by
    unfold firstDot
    rw [hfind, Option.getD_some]
  rw [← List.append_assoc] at h
  refine ⟨hfirst, ?_⟩
  rw [hfirst, Nat.mod_eq_of_lt (toSizeT_length h).2, h, ← List.drop_drop, List.drop_left,
    List.drop_one, List.tail_cons]

theorem site_eq_remainder (hport : c.port = []) (hcount : suffixes.count c.labels = some n)
    {offset : ℤ} (hoffset : offset =
      (c.start ++ (c.userInfo ++ host (c.labels.take (c.labels.length - n)))).length) :
    (if firstDot c = toSizeT offset then .ok (String.ofList c.stripped)
    else .ok (String.ofList (c.start ++ c.stripped.drop ((firstDot c + 1) % 2 ^ 64))) :
        Except String String) =
      .ok (String.ofList (c.start ++ c.remainder n)) := by
  have hpos := suffixes.count_pos hcount
  have hlt := suffixes.count_lt hcount
  have hstripped : c.stripped = c.start ++ (c.userInfo ++ host c.labels) := by
    unfold CanonicalUrl.stripped
    rw [hport, List.append_nil]
  -- the suffix begins within the text, so its offset is no other number as a `size_t`
  have hsuffix : c.stripped = (c.start ++ (c.userInfo ++ host (c.labels.take
      (c.labels.length - n)))) ++ '.' :: host (c.labels.drop (c.labels.length - n)) := by
    have hhost := @host_append (c.labels.take (c.labels.length - n))
      (c.labels.drop (c.labels.length - n))
      (by rw [Ne, List.take_eq_nil_iff]; rintro (h | h) <;> [omega; exact c.labels_ne_nil h])
      (by rw [Ne, List.drop_eq_nil_iff]; omega)
    rw [List.take_append_drop] at hhost
    rw [hstripped, hhost]
    simp only [List.append_assoc]
  rw [hoffset, (toSizeT_length hsuffix).1]
  unfold CanonicalUrl.remainder
  by_cases hdot : '.' ∈ c.userInfo
  · obtain ⟨before, hbefore, huser⟩ := exists_dot hdot
    obtain ⟨hfirst, hdrop⟩ := @firstDot_eq c before
      ((c.userInfo.dropWhile fun d => d ≠ '.').tail ++ host c.labels) hbefore (by
        rw [hstripped]
        nth_rewrite 1 [huser]
        rw [List.append_assoc, List.cons_append])
    have hne : firstDot c ≠
        (c.start ++ (c.userInfo ++ host (c.labels.take (c.labels.length - n)))).length := by
      have hlength := congrArg List.length huser
      simp only [List.length_append, List.length_cons] at hlength
      rw [hfirst]
      simp only [List.length_append]
      omega
    rw [if_neg hne, if_pos hdot, hdrop]
  · rw [if_neg hdot]
    cases hlabels : c.labels with
    | nil => exact absurd hlabels c.labels_ne_nil
    | cons label labels =>
      rw [hlabels, List.length_cons] at hlt
      have hlabels_ne : labels ≠ [] := by
        rintro rfl
        rw [List.length_nil] at hlt
        omega
      have hfirstLabel : '.' ∉ label := (c.plain_labels label (hlabels ▸ List.mem_cons_self)).1
      obtain ⟨hfirst, hdrop⟩ := @firstDot_eq c (c.userInfo ++ label) (host labels)
        (fun hin => (List.mem_append.mp hin).elim hdot hfirstLabel) (by
          rw [hstripped, hlabels, host_cons hlabels_ne, List.append_assoc])
      rw [hdrop, hfirst, List.length_cons, List.tail_cons]
      by_cases hone : labels.length + 1 = n + 1
      · -- the suffix begins at the first dot
        rw [hone, Nat.add_sub_cancel_left, List.take_succ_cons, List.take_zero, host_singleton,
          if_pos rfl, if_pos rfl, hstripped, hlabels]
      · have hne : (c.start ++ (c.userInfo ++ label)).length ≠
            (c.start ++ (c.userInfo ++ host ((label :: labels).take
              (labels.length + 1 - n)))).length := by
          obtain ⟨k, hk⟩ : ∃ k, labels.length + 1 - n = k + 2 :=
            ⟨labels.length + 1 - n - 2, by omega⟩
          rw [hk, List.take_succ_cons, host_cons (by
            rw [Ne, List.take_eq_nil_iff]
            rintro (h | h) <;> [omega; exact hlabels_ne h])]
          simp only [List.length_append, List.length_cons]
          omega
        rw [if_neg hne, if_neg hone]

theorem getValidAdTechSite_eq_ok_iff (hspec : Canonicalizes lib suffixes components)
    (htld : ReportsSuffix lib suffixes components) (hc : components url = some c)
    {site : String} :
    getValidAdTechSite lib url = .ok site ↔
      c.port = [] ∧ ∃ n, suffixes.count c.labels = some n ∧
        site = String.ofList (c.start ++ c.remainder n) := by
  rw [getValidAdTechSite_of_text (hspec.spec url c hc)]
  by_cases hvalid : (lib.tld c.stripped).isValid = true
  · obtain ⟨hport, hsome⟩ := (htld.isValid_iff url c hc).mp hvalid
    obtain ⟨n, hcount⟩ := Option.isSome_iff_exists.mp hsome
    have hoffset := htld.fOffset url c n hc hvalid hcount
    have hvalue := site_eq_remainder hport hcount hoffset
    rw [if_pos hvalid]
    constructor
    · intro h
      rw [hvalue] at h
      exact ⟨hport, n, hcount, (Except.ok.inj h).symm⟩
    · rintro ⟨-, n', hcount', rfl⟩
      rw [hcount] at hcount'
      rw [hvalue, Option.some.inj hcount']
  · rw [if_neg hvalid]
    refine iff_of_false (fun h => by cases h) ?_
    rintro ⟨hport, n, hcount, -⟩
    exact hvalid ((htld.isValid_iff url c hc).mpr ⟨hport, by rw [hcount]; rfl⟩)

theorem remainder_eq_iff (hcount : suffixes.count c.labels = some n) :
    c.remainder n = host (c.labels.drop (c.labels.length - (n + 1))) ↔
      c.userInfo = [] ∧ c.labels.length = n + 1 ∨
        '.' ∉ c.userInfo ∧ c.labels.length = n + 2 := by
  have hlt := suffixes.count_lt hcount
  have hlabels : ∀ k, ∀ label ∈ c.labels.drop k, '.' ∉ label ∧ '@' ∉ label :=
    fun k label hin => c.plain_labels label (List.mem_of_mem_drop hin)
  have hdomain : ∀ k, '@' ∉ host (c.labels.drop k) :=
    fun k => notMem_host (by decide) fun label hin => (hlabels k label hin).2
  unfold CanonicalUrl.remainder
  by_cases hdot : '.' ∈ c.userInfo
  · -- the end of the user information stays
    rw [if_pos hdot]
    refine iff_of_false (fun heq => ?_) ?_
    · obtain ⟨before, -, huser⟩ := exists_dot hdot
      rcases c.userInfo_eq with hnil | ⟨user, hat⟩
      · rw [hnil] at hdot
        exact List.not_mem_nil hdot
      · have hlast : '@' ∈ (c.userInfo.dropWhile fun d => d ≠ '.').tail := by
          generalize (c.userInfo.dropWhile fun d => d ≠ '.').tail = rest at huser
          have hboth := congrArg List.getLast? (huser.symm.trans hat)
          rw [List.getLast?_append, List.getLast?_append, List.getLast?_singleton,
            Option.some_or, List.getLast?_cons, Option.some_or, Option.some_inj] at hboth
          cases hrest : rest.getLast? with
          | none =>
            rw [hrest] at hboth
            exact absurd hboth (by decide)
          | some d =>
            rw [hrest, Option.getD_some] at hboth
            exact hboth ▸ List.mem_of_getLast? hrest
        exact hdomain _ (heq ▸ List.mem_append_left _ hlast)
    · rintro (⟨hnil, -⟩ | ⟨hno, -⟩)
      · rw [hnil] at hdot
        exact List.not_mem_nil hdot
      · exact hno hdot
  · rw [if_neg hdot]
    by_cases hlength : c.labels.length = n + 1
    · rw [if_pos hlength, hlength, Nat.sub_self, List.drop_zero]
      constructor
      · intro heq
        exact .inl ⟨List.append_left_eq_self.mp heq, rfl⟩
      · rintro (⟨hnil, -⟩ | ⟨-, hmore⟩)
        · rw [hnil, List.nil_append]
        · omega
    · rw [if_neg hlength, ← List.drop_one]
      constructor
      · intro heq
        have hsame := host_injective (by rw [Ne, List.drop_eq_nil_iff]; omega)
          (by rw [Ne, List.drop_eq_nil_iff]; omega) (fun label hin => (hlabels 1 label hin).1)
          (fun label hin => (hlabels _ label hin).1) heq
        have hsame' := congrArg List.length hsame
        rw [List.length_drop, List.length_drop] at hsame'
        exact .inr ⟨hdot, by omega⟩
      · rintro (⟨-, hno⟩ | ⟨-, hmore⟩)
        · exact absurd hno hlength
        · rw [hmore, show n + 2 - (n + 1) = 1 by omega]

/-- The code gives the site of a URL exactly if at most one label is in front of the
registrable domain. -/
theorem site_eq_iff (hspec : Canonicalizes lib suffixes components)
    (htld : ReportsSuffix lib suffixes components) (hc : components url = some c)
    {site : String} (hok : getValidAdTechSite lib url = .ok site) :
    c.site suffixes = some site ↔ AtMostOneLabel suffixes c := by
  obtain ⟨-, n, hcount, rfl⟩ := (getValidAdTechSite_eq_ok_iff hspec htld hc).mp hok
  have hsite : c.site suffixes = some (siteText c.scheme
      (c.labels.drop (c.labels.length - (n + 1)))) := by
    unfold CanonicalUrl.site
    rw [PublicSuffixes.registrableDomain_of_count hcount, Option.map_some]
  have htext : siteText c.scheme (c.labels.drop (c.labels.length - (n + 1))) =
      String.ofList (c.start ++ c.remainder n) ↔
        c.remainder n = host (c.labels.drop (c.labels.length - (n + 1))) := by
    unfold siteText CanonicalUrl.start
    rw [String.ofList_inj, List.append_cancel_left_eq]
    exact eq_comm
  rw [hsite, Option.some_inj, htext, remainder_eq_iff hcount]
  constructor
  · exact fun h => ⟨n, hcount, h⟩
  · rintro ⟨n', hcount', h⟩
    rw [hcount] at hcount'
    rwa [Option.some.inj hcount']

theorem getValidAdTechSite_site (hspec : Canonicalizes lib suffixes components)
    (htld : ReportsSuffix lib suffixes components) (hc : components url = some c)
    {site : String} (hsite : c.site suffixes = some site) :
    getValidAdTechSite lib site = .ok site := by
  obtain ⟨domain, hdomain, rfl⟩ := Option.map_eq_some_iff.mp hsite
  obtain ⟨c', hc', hscheme, huser, hlabels, hport⟩ := hspec.site url c domain hc hdomain
  have hcount := PublicSuffixes.count_registrableDomain hdomain
  have hlt := suffixes.count_lt hcount
  refine (getValidAdTechSite_eq_ok_iff hspec htld hc').mpr
    ⟨hport, domain.length - 1, by rw [hlabels]; exact hcount, ?_⟩
  unfold siteText CanonicalUrl.start CanonicalUrl.remainder
  rw [huser, if_neg List.not_mem_nil, hlabels, if_pos (by omega), hscheme, List.nil_append]

theorem attests_refresh_iff {site : String} (hok : getValidAdTechSite lib url = .ok site)
    (cache : EnrollmentCache) (message : Attestations) :
    (cache.refresh message).attests lib url = true ↔ message.Enrolls site := by
  unfold EnrollmentCache.attests EnrollmentCache.query EnrollmentCache.refresh
    Attestations.Enrolls Attestations.sitesFor
  rw [hok]
  simp only [decide_eq_true_eq, FlatHashSet.mem_ofList, List.mem_append, List.mem_map,
    List.mem_filter]
  refine or_congr Iff.rfl (exists_congr fun entry => ?_)
  tauto

end Cut

/-! ## Attestation by site -/

/-- The URLs that are accepted are attested by their sites exactly if each has a host, with at
most one label in front of its registrable domain. -/
theorem attestsBySite_iff {lib : SiteLibrary} {suffixes : PublicSuffixes (List Char)}
    {components : String → Option CanonicalUrl} (hspec : Canonicalizes lib suffixes components)
    (htld : ReportsSuffix lib suffixes components) (urls : Set String) :
    AttestsBySite lib suffixes components urls ↔
      ∀ url ∈ urls, (∃ site, getValidAdTechSite lib url = .ok site) →
        ∃ c, components url = some c ∧ AtMostOneLabel suffixes c := by
  constructor
  · rintro h url hurl ⟨site, hok⟩
    obtain ⟨c, hc, hsite⟩ := h.site url hurl site hok
    exact ⟨c, hc, (site_eq_iff hspec htld hc hok).mp hsite⟩
  · intro h
    have hsite : ∀ url ∈ urls, ∀ site c, components url = some c →
        getValidAdTechSite lib url = .ok site → c.site suffixes = some site := by
      intro url hurl site c hc hok
      obtain ⟨c', hc', hone⟩ := h url hurl ⟨site, hok⟩
      obtain rfl : c = c' := Option.some.inj (hc.symm.trans hc')
      exact (site_eq_iff hspec htld hc hok).mpr hone
    exact {
      site := fun url hurl site hok => by
        obtain ⟨c, hc, -⟩ := h url hurl ⟨site, hok⟩
        exact ⟨c, hc, hsite url hurl site c hc hok⟩
      idempotent := fun url hurl site hok => by
        obtain ⟨c, hc, -⟩ := h url hurl ⟨site, hok⟩
        exact getValidAdTechSite_site hspec htld hc (hsite url hurl site c hc hok)
      same := fun url hurl url' hurl' site site' c c' hc hc' hok hok' hsame => by
        rw [hsite url hurl site c hc hok, hsite url' hurl' site' c' hc' hok'] at hsame
        exact Option.some.inj hsame
      different := fun url hurl url' hurl' site site' c c' hc hc' hok hok' hdomains heq => by
        obtain ⟨domain, hdomain, htext⟩ :=
          Option.map_eq_some_iff.mp (hsite url hurl site c hc hok)
        obtain ⟨domain', hdomain', htext'⟩ :=
          Option.map_eq_some_iff.mp (hsite url' hurl' site' c' hc' hok')
        obtain ⟨-, hhost⟩ := siteText_inj c.colon_notMem c'.colon_notMem
          (htext.trans (heq.trans htext'.symm))
        refine hdomains ?_
        rw [hdomain, hdomain']
        obtain ⟨n, -, rfl, hlength⟩ := PublicSuffixes.exists_count_of_registrableDomain hdomain
        obtain ⟨n', -, rfl, hlength'⟩ :=
          PublicSuffixes.exists_count_of_registrableDomain hdomain'
        exact congrArg some (host_injective (List.ne_nil_of_length_eq_add_one hlength)
          (List.ne_nil_of_length_eq_add_one hlength')
          (fun label hin => (c.plain_labels label (List.mem_of_mem_drop hin)).1)
          (fun label hin => (c'.plain_labels label (List.mem_of_mem_drop hin)).1) hhost)
      enrolled := fun url hurl site c hc hok cache message => by
        rw [attests_refresh_iff hok, hsite url hurl site c hc hok]
        simp only [Option.some_inj, exists_eq_left'] }

/-! ## Three URLs of one site -/

/-- `https://` and the host, with a path. -/
def exampleUrl (labels : List String) (path : String)
    (h : labels ≠ [] ∧ (labels.all fun label => label.toList.all Char.isAlpha) = true ∧
      (host (labels.map String.toList)).length < 2 ^ 30) : CanonicalUrl where
  scheme := "https".toList
  userInfo := []
  labels := labels.map String.toList
  port := []
  path := path.toList
  labels_ne_nil := by
    rw [Ne, List.map_eq_nil_iff]
    exact h.1
  colon_notMem := by decide
  userInfo_eq := .inl rfl
  plain_labels := by
    intro label hin
    obtain ⟨l, hl, rfl⟩ := List.mem_map.mp hin
    have halpha := List.all_eq_true.mp (List.all_eq_true.mp h.2.1 l hl)
    exact ⟨fun hdot => absurd (halpha _ hdot) (by decide),
      fun hat => absurd (halpha _ hat) (by decide)⟩
  slash_notMem := by
    rw [List.nil_append, List.append_nil]
    refine notMem_host (by decide) fun label hin hslash => ?_
    obtain ⟨l, hl, rfl⟩ := List.mem_map.mp hin
    exact absurd (List.all_eq_true.mp (List.all_eq_true.mp h.2.1 l hl) _ hslash) (by decide)
  no_null := by
    intro c hc hnull
    rw [List.nil_append, List.append_nil, List.mem_append] at hc
    obtain rfl : c = '\x00' := Char.toNat_inj.mp hnull
    rcases hc with hc | hc
    · exact absurd hc (by decide)
    · refine notMem_host (by decide) (fun label hin hzero => ?_) hc
      obtain ⟨l, hl, rfl⟩ := List.mem_map.mp hin
      exact absurd (List.all_eq_true.mp (List.all_eq_true.mp h.2.1 l hl) _ hzero) (by decide)
  length_lt := by
    have hlength := h.2.2
    rw [List.nil_append, List.append_nil, List.length_append]
    have hstart : ("https".toList ++ "://".toList).length = 8 := by decide
    omega

def exampleComponents (url : String) : Option CanonicalUrl :=
  if url = "https://a.b.example.com/ad" then
    some (exampleUrl ["a", "b", "example", "com"] "ad" (by decide))
  else if url = "https://www.example.com/ad" then
    some (exampleUrl ["www", "example", "com"] "ad" (by decide))
  else if url = "https://example.com" then
    some (exampleUrl ["example", "com"] "" (by decide))
  else none

/-- Libraries that know the three URLs, and that `com` is a public suffix. -/
def exampleLibrary : SiteLibrary where
  gurlSpec url := String.ofList (((exampleComponents url).map CanonicalUrl.text).getD [])
  tld text :=
    if ".com".toList <:+ text then ⟨.success, .valid, text.length - 4⟩
    else { result := .notFound }

def exampleSuffixes : PublicSuffixes (List Char) := .ofRules [["com".toList]]

theorem eq_of_exampleComponents {url : String} {c : CanonicalUrl}
    (h : exampleComponents url = some c) :
    url = "https://a.b.example.com/ad" ∧
        c = exampleUrl ["a", "b", "example", "com"] "ad" (by decide) ∨
      url = "https://www.example.com/ad" ∧
        c = exampleUrl ["www", "example", "com"] "ad" (by decide) ∨
      url = "https://example.com" ∧ c = exampleUrl ["example", "com"] "" (by decide) := by
  unfold exampleComponents at h
  split at h
  · exact .inl ⟨‹_›, (Option.some.inj h).symm⟩
  · split at h
    · exact .inr (.inl ⟨‹_›, (Option.some.inj h).symm⟩)
    · split at h
      · exact .inr (.inr ⟨‹_›, (Option.some.inj h).symm⟩)
      · cases h

theorem canonicalizes_example :
    Canonicalizes exampleLibrary exampleSuffixes exampleComponents where
  spec := by
    intro url c h
    have hnull : cString url = url := by
      rcases eq_of_exampleComponents h with ⟨rfl, -⟩ | ⟨rfl, -⟩ | ⟨rfl, -⟩ <;> decide
    unfold canonicalizeURL exampleLibrary
    dsimp only
    rw [hnull, h, String.toList_ofList]
    rfl
  site := by
    intro url c domain h hdomain
    have hsite : (exampleUrl ["example", "com"] "" (by decide)).labels = domain ∧
        siteText c.scheme domain = "https://example.com" ∧ c.scheme = "https".toList := by
      rcases eq_of_exampleComponents h with ⟨-, rfl⟩ | ⟨-, rfl⟩ | ⟨-, rfl⟩
      all_goals
        obtain rfl : ["example".toList, "com".toList] = domain :=
          Option.some.inj ((by decide : _ = _).trans hdomain)
        exact ⟨rfl, by decide, rfl⟩
    refine ⟨exampleUrl ["example", "com"] "" (by decide), ?_, hsite.2.2.symm, rfl, hsite.1, rfl⟩
    rw [hsite.2.1]
    rfl

theorem reportsSuffix_example :
    ReportsSuffix exampleLibrary exampleSuffixes exampleComponents where
  isValid_iff := by
    intro url c h
    refine iff_of_true ?_ ⟨?_, ?_⟩
    all_goals rcases eq_of_exampleComponents h with ⟨-, rfl⟩ | ⟨-, rfl⟩ | ⟨-, rfl⟩ <;> decide
  fOffset := by
    intro url c n h _ hcount
    have hone : exampleSuffixes.count c.labels = some 1 := by
      rcases eq_of_exampleComponents h with ⟨-, rfl⟩ | ⟨-, rfl⟩ | ⟨-, rfl⟩ <;> decide
    rw [hone] at hcount
    obtain rfl := Option.some.inj hcount
    rcases eq_of_exampleComponents h with ⟨-, rfl⟩ | ⟨-, rfl⟩ | ⟨-, rfl⟩ <;> decide

/-- With one label in front of the registrable domain the site is found. -/
theorem attestsBySite_of_one_label :
    AttestsBySite exampleLibrary exampleSuffixes exampleComponents
      {"https://www.example.com/ad"} := by
  refine (attestsBySite_iff canonicalizes_example reportsSuffix_example _).mpr ?_
  rintro url rfl -
  exact ⟨exampleUrl ["www", "example", "com"] "ad" (by decide), rfl, 1, by decide,
    .inr ⟨by decide, by decide⟩⟩

theorem not_attestsBySite :
    Canonicalizes exampleLibrary exampleSuffixes exampleComponents ∧
      ReportsSuffix exampleLibrary exampleSuffixes exampleComponents ∧
        ¬ AttestsBySite exampleLibrary exampleSuffixes exampleComponents
          {"https://a.b.example.com/ad"} := by
  refine ⟨canonicalizes_example, reportsSuffix_example, fun h => ?_⟩
  have hok : getValidAdTechSite exampleLibrary "https://a.b.example.com/ad" =
      .ok "https://b.example.com" := by
    decide +kernel
  obtain ⟨c, hc, hsite⟩ := h.site _ rfl _ hok
  obtain rfl := Option.some.inj hc
  revert hsite
  decide

end Attestation

end BiddingAuction
