import BiddingAuction.Common.CString
import BiddingAuction.Common.FlatHash
import BiddingAuction.Foundation.TextSearch
import Mathlib.Algebra.Order.Ring.Int

/-!
# The site of an ad tech

A debug URL is attested by its site: the URL is made canonical and cut off behind its host,
and what stands in front of the first dot goes too, unless the first dot is where the public
suffix begins. The sites that are enrolled are kept in a set, and a refresh puts another set
in its place.
-/

namespace BiddingAuction

open Foundation.TextSearch

namespace Attestation

/-! ## The libraries -/

inductive TldResult where
  | success
  | invalid
  | null
  | noTld
  | badUri
  | notFound
deriving DecidableEq

inductive TldStatus where
  | valid
  | proposed
  | deprecated
  | unused
  | reserved
  | infrastructure
  | exampleTld
  | undefined
  | exception
deriving DecidableEq

/-- What `tld` returns, and of `tld_info` what is read. -/
structure TldInfo where
  result : TldResult
  fStatus : TldStatus := .undefined
  fOffset : ℤ := -1
deriving DecidableEq

/-- URL parsing, and the list of public suffixes. -/
structure SiteLibrary where
  /-- `GURL(url).spec()`. -/
  gurlSpec : String → String
  tld : List Char → TldInfo

/-! ## `GetValidAdTechSite` -/

def kInvalidURLErrorMessage (url : String) : String := "URL " ++ url ++ " is invalid."

def kInvalidTLDErrorMessage (url : String) : String :=
  "URL " ++ url ++ " doesn't have a valid TLD."

def canonicalizeURL (lib : SiteLibrary) (url : String) : List Char :=
  (lib.gurlSpec (cString url)).toList

/-- `size_t` of 64 bits; nothing found is its largest value. -/
def npos : ℕ := 2 ^ 64 - 1

/-- What an `int` is compared with a `size_t` as. -/
def toSizeT (i : ℤ) : ℕ := (i % 2 ^ 64).toNat

def TldInfo.isValid (info : TldInfo) : Bool :=
  !(info.result = .invalid ∨ (info.fStatus ≠ .valid ∧ info.fStatus ≠ .proposed))

def getValidAdTechSite (lib : SiteLibrary) (adtechUrl : String) : Except String String :=
  let canonicalizedUrl := canonicalizeURL lib adtechUrl
  match find "://".toList canonicalizedUrl 0 with
  | none => .error (kInvalidURLErrorMessage adtechUrl)
  | some schemeSeparatorPos =>
    let startOfDomain := schemeSeparatorPos + 3
    match find ['/'] canonicalizedUrl startOfDomain with
    | none => .error (kInvalidURLErrorMessage adtechUrl)
    | some pathPos =>
      let strippedUrl := canonicalizedUrl.take pathPos
      -- the text is read as a C string
      let url := strippedUrl.takeWhile fun c => c.toNat ≠ 0
      let info := lib.tld url
      if info.isValid then
        let domainPos := (find ['.'] url startOfDomain).getD npos
        if domainPos = toSizeT info.fOffset then .ok (String.ofList url)
        else
          .ok (String.ofList (strippedUrl.take startOfDomain ++
            url.drop ((domainPos + 1) % 2 ^ 64)))
      else .error (kInvalidTLDErrorMessage adtechUrl)

/-! ## The enrolled sites -/

/-- `PrivacySandboxAttestationsGatedAPIProto`. -/
inductive GatedApi where
  | unknown
  | topics
  | protectedAudience
  | privateAggregation
  | attributionReporting
  | sharedStorage
  | fencedStorageRead
deriving DecidableEq

/-- `PrivacySandboxAttestationsProto`. -/
structure Attestations where
  sitesAttestedForAllApis : List String := []
  siteAttestations : FlatHashMap String (List GatedApi) := ∅

def Attestations.sitesFor (message : Attestations) (api : GatedApi) : List String :=
  (message.siteAttestations.entries.filter fun entry => api ∈ entry.2).map Sigma.fst

/-- `AdtechEnrollmentCache`: `cached_attestation_data_`. -/
abbrev EnrollmentCache := FlatHashSet String

/-- `Refresh`: the set that is there from now on, whatever was there before. -/
def EnrollmentCache.refresh (_ : EnrollmentCache) (message : Attestations) : EnrollmentCache :=
  .ofList (message.sitesAttestedForAllApis ++ message.sitesFor .protectedAudience)

def EnrollmentCache.query (cache : EnrollmentCache) (fdoDestination : String) : Bool :=
  decide (fdoDestination ∈ cache)

/-- The check of `AttestDebugUrls`. -/
def EnrollmentCache.attests (cache : EnrollmentCache) (lib : SiteLibrary) (url : String) : Bool :=
  match getValidAdTechSite lib url with
  | .ok adtechSite => cache.query adtechSite
  | .error _ => false

end Attestation

end BiddingAuction
