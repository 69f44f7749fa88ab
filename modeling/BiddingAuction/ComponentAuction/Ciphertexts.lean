import BiddingAuction.Common.FlatHash
import BiddingAuction.Common.Json
import BiddingAuction.Common.Status
import BiddingAuction.Foundation.FirstFailure

/-!
# Ciphertexts for the component sellers

The server that orchestrates an auction of several sellers decrypts the protected input of the
device and encrypts it anew for each component seller, with the public key of the cloud platform
that the seller runs on. Keys, Oblivious HTTP and Base64 are libraries. What the reactor answers
is proved of any of them; that a component seller reads the same input, of those that do what
they document.
-/

namespace BiddingAuction

open Foundation

namespace ComponentAuction

abbrev Bytes := List UInt8

structure Status where
  code : GrpcStatusCode
  message : String := ""

inductive CloudPlatform where
  | gcp
  | aws
  | onPremise
deriving DecidableEq

structure PublicKey where
  keyId : String
  publicKey : String

structure EncapsulatedRequest where
  requestPayload : Bytes
  requestLabel : String

structure OhttpHpkeDecryptedMessage where
  plaintext : Bytes
  requestLabel : String

/-- The libraries; `Seed` is what an encryption draws. -/
structure Library (PrivateKey Seed : Type) where
  kBiddingAuctionOhttpRequestLabel : String
  kOhttpRequestLabel : String
  parseEncapsulatedRequest : Bytes → Except String EncapsulatedRequest
  parseKeyIdFromObliviousHttpRequestPayload : Bytes → Except String UInt8
  getPrivateKey : String → Option PrivateKey
  decryptEncapsulatedRequest : PrivateKey → EncapsulatedRequest → Except String Bytes
  getPublicKey : CloudPlatform → Except String PublicKey
  base64Unescape : String → Option Bytes
  stoi : String → ℤ
  /-- The request of a plaintext, a public key, a key id and a label, serialized. -/
  createClientObliviousRequest : Seed → Bytes → Bytes → UInt8 → String → Except Status Bytes

section Library

variable {PrivateKey Seed : Type} (lib : Library PrivateKey Seed)

def decryptOHTTPEncapsulatedHpkeCiphertext (ciphertext : Bytes) :
    Except Status OhttpHpkeDecryptedMessage := do
  let request ← (lib.parseEncapsulatedRequest ciphertext).mapError fun status =>
    ⟨.invalidArgument, "Error while parsing encapsulated ciphertext: " ++ status⟩
  let keyId ← (lib.parseKeyIdFromObliviousHttpRequestPayload request.requestPayload).mapError
    fun _ => ⟨.invalidArgument, "Invalid key ID provided in OHTTP encapsulated request"⟩
  match lib.getPrivateKey (toString keyId) with
  | none => .error ⟨.notFound, "Unable to get private key for the key ID in OHTTP encapsulated " ++
      "request. Key ID: " ++ toString keyId⟩
  | some privateKey =>
    let plaintext ← (lib.decryptEncapsulatedRequest privateKey request).mapError fun message =>
      ⟨.invalidArgument, "Malformed OHTTP encapsulated request provided " ++ message⟩
    return ⟨plaintext, request.requestLabel⟩

/-- The id of a key in the header of a request: one byte of the number. -/
def headerKeyId (publicKey : PublicKey) : UInt8 := UInt8.ofInt (lib.stoi publicKey.keyId)

/-- The constructor of `OhttpHpkeEncryptedMessage`. -/
def encryptedMessage (payload : Bytes) (requestLabel : String) : Bytes :=
  if requestLabel = lib.kBiddingAuctionOhttpRequestLabel then 0 :: payload else payload

def hpkeEncryptAndOHTTPEncapsulate (seed : Seed) (message : OhttpHpkeDecryptedMessage)
    (cloudPlatform : CloudPlatform) : Except Status Bytes :=
  if message.requestLabel ≠ lib.kBiddingAuctionOhttpRequestLabel ∧
      message.requestLabel ≠ lib.kOhttpRequestLabel then
    .error ⟨.invalidArgument, "Request label must be one of: " ++
      lib.kBiddingAuctionOhttpRequestLabel ++ ", " ++ lib.kOhttpRequestLabel⟩
  else do
    let publicKey ← (lib.getPublicKey cloudPlatform).mapError fun message =>
      ⟨.internal, "Could not find public key for encryption: " ++ message⟩
    match lib.base64Unescape publicKey.publicKey with
    | none => .error ⟨.internal, "Failed to base64 decode the fetched public key: " ++
        publicKey.publicKey⟩
    | some unescapedPublicKeyBytes =>
      let payload ← lib.createClientObliviousRequest seed message.plaintext
        unescapedPublicKeyBytes (headerKeyId lib publicKey) message.requestLabel
      return encryptedMessage lib payload message.requestLabel

/-! ## The reactor -/

structure Request where
  componentSellers : List String
  protectedAuctionCiphertext : Bytes

/-- `seller_component_ciphertexts`. -/
abbrev Response := FlatHashMap String Bytes

def asciiStrToLower (s : String) : String := String.ofList (s.toList.map Char.toLower)

variable (sellerCloudPlatforms : FlatHashMap String CloudPlatform) (seeds : ℕ → Seed)

def platformOf (seller : String) : Option CloudPlatform :=
  sellerCloudPlatforms.lookup (asciiStrToLower seller)

/-- One turn of the loop over the sellers: unknown ones and duplicates are skipped. -/
def encryptForSeller (message : OhttpHpkeDecryptedMessage) (response : Response)
    (entry : String × ℕ) : Except (Status × Response) Response :=
  match platformOf sellerCloudPlatforms entry.1 with
  | none => .ok response
  | some cloudPlatform =>
    if entry.1 ∈ response then .ok response
    else
      match hpkeEncryptAndOHTTPEncapsulate lib (seeds entry.2) message cloudPlatform with
      | .error status =>
        .error (⟨status.code, "Failed to re-encrypt data with error: " ++ status.message⟩, response)
      | .ok ciphertext => .ok (response.insert entry.1 ciphertext)

def execute (request : Request) : Status × Response :=
  if sellerCloudPlatforms.keys = [] then
    (⟨.unimplemented, "RPC disabled: Seller cloud platforms must " ++
      "be configured for RPC to be enabled."⟩, ∅)
  else if request.componentSellers = [] ∨ request.protectedAuctionCiphertext = [] then
    (⟨.invalidArgument, "Component sellers list or ciphertext is empty"⟩, ∅)
  else
    match decryptOHTTPEncapsulatedHpkeCiphertext lib request.protectedAuctionCiphertext with
    | .error status => (⟨.invalidArgument, "Failed to decrypt ciphertext: " ++ status.message⟩, ∅)
    | .ok message =>
      match request.componentSellers.zipIdx.foldlM
        (encryptForSeller lib sellerCloudPlatforms seeds message) ∅ with
      | .error failed => failed
      | .ok response => (⟨.ok, ""⟩, response)

/-! ## What is answered -/

/-- The response to the sellers taken so far: each that is known has a ciphertext of the message
for the platform it runs on, and no one else has one. -/
structure Answers (message : OhttpHpkeDecryptedMessage) (taken : List String)
    (response : Response) : Prop where
  sellers : ∀ seller, seller ∈ response ↔
    seller ∈ taken ∧ (platformOf sellerCloudPlatforms seller).isSome = true
  ciphertexts : ∀ seller ciphertext, response.lookup seller = some ciphertext →
    ∃ cloudPlatform seed, platformOf sellerCloudPlatforms seller = some cloudPlatform ∧
      hpkeEncryptAndOHTTPEncapsulate lib seed message cloudPlatform = .ok ciphertext

/-- The call stops at a known seller it cannot encrypt for, with the error of that. -/
structure StopsAt (message : OhttpHpkeDecryptedMessage) (sellers : List String)
    (result : Status × Response) (before : List String) (seller : String) : Prop where
  taken : before ++ [seller] <+: sellers
  answers : Answers lib sellerCloudPlatforms message before result.2
  fails : ∃ cloudPlatform seed status, platformOf sellerCloudPlatforms seller = some cloudPlatform ∧
    hpkeEncryptAndOHTTPEncapsulate lib seed message cloudPlatform = .error status ∧
    result.1 = ⟨status.code, "Failed to re-encrypt data with error: " ++ status.message⟩

variable {lib sellerCloudPlatforms seeds} {message : OhttpHpkeDecryptedMessage}

theorem Answers.skip {taken : List String} {response : Response} {seller : String}
    (h : Answers lib sellerCloudPlatforms message taken response)
    (hskip : platformOf sellerCloudPlatforms seller = none ∨ seller ∈ response) :
    Answers lib sellerCloudPlatforms message (taken ++ [seller]) response where
  sellers other := by
    rw [h.sellers, List.mem_append, List.mem_singleton]
    refine and_congr_left fun hknown => ⟨.inl, fun hmem => hmem.elim id ?_⟩
    rintro rfl
    rcases hskip with hunknown | hmem
    · rw [hunknown] at hknown
      cases hknown
    · exact ((h.sellers other).mp hmem).1
  ciphertexts := h.ciphertexts

theorem Answers.insert {taken : List String} {response : Response} {seller : String}
    {cloudPlatform : CloudPlatform} {seed : Seed} {ciphertext : Bytes}
    (h : Answers lib sellerCloudPlatforms message taken response)
    (hplatform : platformOf sellerCloudPlatforms seller = some cloudPlatform)
    (hencrypt : hpkeEncryptAndOHTTPEncapsulate lib seed message cloudPlatform = .ok ciphertext) :
    Answers lib sellerCloudPlatforms message (taken ++ [seller])
      (response.insert seller ciphertext) where
  sellers other := by
    rw [AList.mem_insert, h.sellers, List.mem_append, List.mem_singleton]
    constructor
    · rintro (rfl | ⟨hmem, hknown⟩)
      · exact ⟨.inr rfl, by rw [hplatform]; rfl⟩
      · exact ⟨.inl hmem, hknown⟩
    · rintro ⟨hmem | rfl, hknown⟩
      · exact .inr ⟨hmem, hknown⟩
      · exact .inl rfl
  ciphertexts other ciphertext' hlookup := by
    by_cases hother : other = seller
    · subst hother
      rw [AList.lookup_insert] at hlookup
      cases hlookup
      exact ⟨cloudPlatform, seed, hplatform, hencrypt⟩
    · rw [AList.lookup_insert_ne hother] at hlookup
      exact h.ciphertexts other ciphertext' hlookup

/-- The loop: all sellers are answered, or it stops at one. -/
theorem foldlM_encryptForSeller (seeds : ℕ → Seed) (entries : List (String × ℕ))
    {taken : List String} {response : Response}
    (h : Answers lib sellerCloudPlatforms message taken response) :
    match entries.foldlM (encryptForSeller lib sellerCloudPlatforms seeds message) response with
    | .ok response' =>
      Answers lib sellerCloudPlatforms message (taken ++ entries.map Prod.fst) response'
    | .error result => ∃ before seller, StopsAt lib sellerCloudPlatforms message
        (taken ++ entries.map Prod.fst) result before seller := by
  induction entries generalizing taken response with
  | nil => simpa [pure, Except.pure] using h
  | cons entry entries ih =>
    have hnext {response' : Response}
        (h' : Answers lib sellerCloudPlatforms message (taken ++ [entry.1]) response') := ih h'
    simp only [List.append_assoc, List.singleton_append] at hnext
    rw [List.foldlM_cons, List.map_cons]
    unfold encryptForSeller
    cases hplatform : platformOf sellerCloudPlatforms entry.1 with
    | none => exact hnext (h.skip (.inl hplatform))
    | some cloudPlatform =>
      dsimp only
      by_cases hmem : entry.1 ∈ response
      · rw [if_pos hmem]
        exact hnext (h.skip (.inr hmem))
      · rw [if_neg hmem]
        cases hencrypt : hpkeEncryptAndOHTTPEncapsulate lib (seeds entry.2) message
            cloudPlatform with
        | ok ciphertext => exact hnext (h.insert hplatform hencrypt)
        | error status =>
          refine ⟨taken, entry.1, ⟨entries.map Prod.fst, ?_⟩, h,
            ⟨cloudPlatform, _, status, hplatform, hencrypt, rfl⟩⟩
          rw [List.append_assoc]
          rfl

/-- What every call ends in: without a message to encrypt the response is empty and the status an
error; with one, all known sellers that were named are answered and no one else, or the call ends
at the first that cannot be encrypted for and answers those before it. -/
theorem execute_cases (lib : Library PrivateKey Seed)
    (sellerCloudPlatforms : FlatHashMap String CloudPlatform) (seeds : ℕ → Seed)
    (request : Request) :
    ((execute lib sellerCloudPlatforms seeds request).2 = ∅ ∧
        (execute lib sellerCloudPlatforms seeds request).1.code ≠ .ok) ∨
      ∃ message, decryptOHTTPEncapsulatedHpkeCiphertext lib request.protectedAuctionCiphertext =
          .ok message ∧
        (((execute lib sellerCloudPlatforms seeds request).1 = ⟨.ok, ""⟩ ∧
            Answers lib sellerCloudPlatforms message request.componentSellers
              (execute lib sellerCloudPlatforms seeds request).2) ∨
          ∃ before seller, StopsAt lib sellerCloudPlatforms message request.componentSellers
            (execute lib sellerCloudPlatforms seeds request) before seller) := by
  unfold execute
  split
  · exact .inl ⟨rfl, nofun⟩
  · split
    · exact .inl ⟨rfl, nofun⟩
    · cases hdecrypt : decryptOHTTPEncapsulatedHpkeCiphertext lib
          request.protectedAuctionCiphertext with
      | error status => exact .inl ⟨rfl, nofun⟩
      | ok message =>
        refine .inr ⟨message, rfl, ?_⟩
        have hempty : Answers lib sellerCloudPlatforms message [] ∅ := by
          refine ⟨fun seller => ?_, fun seller ciphertext hlookup => nomatch hlookup⟩
          exact iff_of_false (AList.notMem_empty seller) fun h => nomatch h.1
        have hloop := foldlM_encryptForSeller seeds request.componentSellers.zipIdx hempty
        rw [List.zipIdx_map_fst, List.nil_append] at hloop
        dsimp only
        split at hloop
        · rename_i response hresponse
          rw [hresponse]
          exact .inl ⟨rfl, hloop⟩
        · rename_i result hresult
          rw [hresult]
          exact .inr hloop

/-! ## What a component seller reads -/

/-- The documented behaviour of the libraries: a request begins with the id of its key, a zero in
front of it stands for the label of this service, the private key of a pair decrypts what was
encrypted for the public one, and the status of an error is not OK. -/
structure Library.Documented (lib : Library PrivateKey Seed) (IsPair : Bytes → PrivateKey → Prop) :
    Prop where
  parse_zero : ∀ payload, lib.parseEncapsulatedRequest (0 :: payload) =
    .ok ⟨payload, lib.kBiddingAuctionOhttpRequestLabel⟩
  parse_keyId : ∀ keyId payload, keyId ≠ 0 → lib.parseEncapsulatedRequest (keyId :: payload) =
    .ok ⟨keyId :: payload, lib.kOhttpRequestLabel⟩
  header : ∀ seed plaintext publicKey keyId label payload,
    lib.createClientObliviousRequest seed plaintext publicKey keyId label = .ok payload →
      payload.head? = some keyId ∧
        lib.parseKeyIdFromObliviousHttpRequestPayload payload = .ok keyId
  decrypts : ∀ seed plaintext publicKey privateKey keyId label payload,
    IsPair publicKey privateKey →
      lib.createClientObliviousRequest seed plaintext publicKey keyId label = .ok payload →
        lib.decryptEncapsulatedRequest privateKey ⟨payload, label⟩ = .ok plaintext
  error_code : ∀ seed plaintext publicKey keyId label status,
    lib.createClientObliviousRequest seed plaintext publicKey keyId label = .error status →
      status.code ≠ .ok

/-- A platform can look up the private keys of the public keys it hands out. -/
def Library.HoldsKeys (lib : Library PrivateKey Seed) (IsPair : Bytes → PrivateKey → Prop)
    (privateKeys : CloudPlatform → String → Option PrivateKey) : Prop :=
  ∀ cloudPlatform publicKey bytes, lib.getPublicKey cloudPlatform = .ok publicKey →
    lib.base64Unescape publicKey.publicKey = some bytes →
      ∃ privateKey, privateKeys cloudPlatform (toString (headerKeyId lib publicKey)) =
        some privateKey ∧ IsPair bytes privateKey

variable {IsPair : Bytes → PrivateKey → Prop}
  {privateKeys : CloudPlatform → String → Option PrivateKey}

theorem decrypt_encrypted (hdocumented : lib.Documented IsPair)
    (hkeys : lib.HoldsKeys IsPair privateKeys) {cloudPlatform : CloudPlatform} {seed : Seed}
    {ciphertext : Bytes}
    (hid : message.requestLabel ≠ lib.kBiddingAuctionOhttpRequestLabel →
      ∀ publicKey, lib.getPublicKey cloudPlatform = .ok publicKey → headerKeyId lib publicKey ≠ 0)
    (hencrypt : hpkeEncryptAndOHTTPEncapsulate lib seed message cloudPlatform = .ok ciphertext) :
    decryptOHTTPEncapsulatedHpkeCiphertext
      { lib with getPrivateKey := privateKeys cloudPlatform } ciphertext = .ok message := by
  unfold hpkeEncryptAndOHTTPEncapsulate at hencrypt
  split at hencrypt
  · cases hencrypt
  · rename_i hlabel
    obtain ⟨publicKey, hpublic, hencrypt⟩ := except_bind_eq_ok.mp hencrypt
    cases hget : lib.getPublicKey cloudPlatform with
    | error e => rw [hget] at hpublic; cases hpublic
    | ok publicKey' =>
      rw [hget] at hpublic
      cases hpublic
      split at hencrypt
      · cases hencrypt
      · rename_i bytes hbytes
        obtain ⟨payload, hpayload, hciphertext⟩ := except_bind_eq_ok.mp hencrypt
        cases hciphertext
        obtain ⟨privateKey, hprivate, hpair⟩ := hkeys _ _ _ hget hbytes
        obtain ⟨hhead, hkeyId⟩ := hdocumented.header _ _ _ _ _ _ hpayload
        have hdecrypt := hdocumented.decrypts _ _ _ _ _ _ _ hpair hpayload
        have hparse : lib.parseEncapsulatedRequest
            (encryptedMessage lib payload message.requestLabel) =
              .ok ⟨payload, message.requestLabel⟩ := by
          unfold encryptedMessage
          split
          · rename_i hours
            rw [hdocumented.parse_zero, hours]
          · -- without the zero the payload must not begin with one
            rename_i hother
            obtain ⟨rest, rfl⟩ := List.head?_eq_some_iff.mp hhead
            rw [hdocumented.parse_keyId _ _ (hid hother _ hget)]
            by_contra hne
            exact hlabel ⟨hother, fun heq => hne (by rw [heq])⟩
        unfold decryptOHTTPEncapsulatedHpkeCiphertext
        dsimp only
        rw [hparse]
        simp only [Except.mapError, bind, Except.bind, hkeyId, hprivate, hdecrypt]
        rfl

theorem error_code_of_encrypt (hdocumented : lib.Documented IsPair) {cloudPlatform : CloudPlatform}
    {seed : Seed} {status : Status}
    (h : hpkeEncryptAndOHTTPEncapsulate lib seed message cloudPlatform = .error status) :
    status.code ≠ .ok := by
  unfold hpkeEncryptAndOHTTPEncapsulate at h
  split at h
  · cases h
    nofun
  · cases hget : lib.getPublicKey cloudPlatform with
    | error e =>
      rw [hget] at h
      cases h
      nofun
    | ok publicKey =>
      rw [hget] at h
      simp only [Except.mapError, bind, Except.bind] at h
      split at h
      · cases h
        nofun
      · split at h
        · rename_i hcreate
          cases h
          exact hdocumented.error_code _ _ _ _ _ _ hcreate
        · cases h

/-- If a call ends well, each seller that was named and is known can decrypt its ciphertext with
the keys of its platform, to what the orchestrating server had decrypted; with the label of plain
Oblivious HTTP this needs keys whose id is not zero. -/
theorem componentSellers_decrypt (hdocumented : lib.Documented IsPair)
    (privateKeys : CloudPlatform → String → Option PrivateKey)
    (hkeys : lib.HoldsKeys IsPair privateKeys) {request : Request}
    (hmessage : decryptOHTTPEncapsulatedHpkeCiphertext lib request.protectedAuctionCiphertext =
      .ok message)
    (hid : message.requestLabel ≠ lib.kBiddingAuctionOhttpRequestLabel → ∀ cloudPlatform publicKey,
      lib.getPublicKey cloudPlatform = .ok publicKey → headerKeyId lib publicKey ≠ 0)
    (hok : (execute lib sellerCloudPlatforms seeds request).1.code = .ok) :
    ∀ seller ∈ request.componentSellers, ∀ cloudPlatform,
      platformOf sellerCloudPlatforms seller = some cloudPlatform →
        ∃ ciphertext, (execute lib sellerCloudPlatforms seeds request).2.lookup seller =
            some ciphertext ∧
          decryptOHTTPEncapsulatedHpkeCiphertext
            { lib with getPrivateKey := privateKeys cloudPlatform } ciphertext = .ok message := by
  intro seller hseller cloudPlatform hplatform
  rcases execute_cases lib sellerCloudPlatforms seeds request with
    ⟨-, hnot⟩ | ⟨message', hmessage', ⟨-, hanswers⟩ | ⟨before, stopped, hstops⟩⟩
  · exact absurd hok hnot
  · cases hmessage.symm.trans hmessage'
    have hmem := (hanswers.sellers seller).mpr ⟨hseller, by rw [hplatform]; rfl⟩
    obtain ⟨ciphertext, hlookup⟩ := Option.isSome_iff_exists.mp (AList.lookup_isSome.mpr hmem)
    obtain ⟨platform, seed, hknown, hencrypt⟩ := hanswers.ciphertexts seller ciphertext hlookup
    cases hplatform.symm.trans hknown
    exact ⟨ciphertext, hlookup,
      decrypt_encrypted hdocumented hkeys (fun hother => hid hother cloudPlatform) hencrypt⟩
  · obtain ⟨_, _, status, _, hencrypt, hstatus⟩ := hstops.fails
    rw [hstatus] at hok
    exact absurd hok (error_code_of_encrypt hdocumented hencrypt : status.code ≠ .ok)

/-- Libraries that frame a plaintext with the id of its key only. -/
def framing : Library Unit Unit where
  kBiddingAuctionOhttpRequestLabel := "message/auction request"
  kOhttpRequestLabel := "message/bhttp request"
  parseEncapsulatedRequest
    | 0 :: payload => .ok ⟨payload, "message/auction request"⟩
    | payload => .ok ⟨payload, "message/bhttp request"⟩
  parseKeyIdFromObliviousHttpRequestPayload
    | [] => .error "empty"
    | keyId :: _ => .ok keyId
  getPrivateKey _ := some ()
  decryptEncapsulatedRequest _ request := .ok request.requestPayload.tail
  getPublicKey _ := .ok ⟨"5", ""⟩
  base64Unescape _ := some []
  stoi _ := 5
  createClientObliviousRequest _ plaintext _ keyId _ := .ok (keyId :: plaintext)

theorem framing_documented : framing.Documented fun _ _ => True where
  parse_zero _ := rfl
  parse_keyId keyId payload hne := by
    unfold framing
    dsimp only
    split
    · rename_i heq
      cases heq
      exact absurd rfl hne
    · rfl
  header _ _ _ _ _ _ h := by
    cases h
    exact ⟨rfl, rfl⟩
  decrypts _ _ _ _ _ _ _ _ h := by
    cases h
    rfl
  error_code _ _ _ _ _ _ h := nomatch h

/-- A seller that is named with a capital letter. -/
theorem componentSellers_decrypt_framing :
    ∃ ciphertext, (execute framing (AList.singleton "seller.com" .gcp) (fun _ => ())
        ⟨["Seller.com"], [0, 5, 1, 2]⟩).2.lookup "Seller.com" = some ciphertext ∧
      decryptOHTTPEncapsulatedHpkeCiphertext framing ciphertext =
        .ok ⟨[1, 2], "message/auction request"⟩ :=
  componentSellers_decrypt framing_documented (fun _ _ => some ())
    (fun _ _ _ _ _ => ⟨(), rfl, trivial⟩) rfl (fun hnot => absurd rfl hnot) rfl "Seller.com"
    (by simp) .gcp (by decide)

/-! ## The configured names -/

def stringToCloudPlatform (cloudPlatform : String) : Except Status CloudPlatform :=
  if asciiStrToLower cloudPlatform = "gcp" then .ok .gcp
  else if asciiStrToLower cloudPlatform = "aws" then .ok .aws
  else if asciiStrToLower cloudPlatform = "local" then .ok .onPremise
  else .error ⟨.invalidArgument, "Invalid value for cloud platform: " ++ cloudPlatform⟩

/-- One turn of the loop over the members of the configuration. -/
def addSeller (sellerToCloudPlatform : FlatHashMap String CloudPlatform) (member : String × Json) :
    Except Status (FlatHashMap String CloudPlatform) :=
  match member.2 with
  | .string value =>
    if cString member.1 = "" then .error ⟨.invalidArgument, "Encountered empty Seller Name."⟩
    else do
      let platform ← stringToCloudPlatform (cString value)
      if cString member.1 ∈ sellerToCloudPlatform then
        .error ⟨.invalidArgument, "Entry not inserted into Seller->Cloud platform map, check " ++
          "for duplicate entries."⟩
      else return sellerToCloudPlatform.insert (cString member.1) platform
  | _ => .error ⟨.invalidArgument, "Expected cloud platform string in value."⟩

/-- Of the members of an object. -/
def parseSellerToCloudPlatformInMap (members : List (String × Json)) :
    Except Status (FlatHashMap String CloudPlatform) :=
  members.foldlM addSeller ∅

theorem mem_of_parse {members : List (String × Json)}
    {map map' : FlatHashMap String CloudPlatform} (h : members.foldlM addSeller map = .ok map')
    (name : String) :
    name ∈ map' ↔ name ∈ map ∨ name ∈ members.map fun member => cString member.1 := by
  induction members generalizing map with
  | nil =>
    cases h
    simp
  | cons member members ih =>
    obtain ⟨added, hadded, hrest⟩ := except_bind_eq_ok.mp h
    unfold addSeller at hadded
    split at hadded
    · split at hadded
      · cases hadded
      · obtain ⟨platform, -, hinsert⟩ := except_bind_eq_ok.mp hadded
        split at hinsert
        · cases hinsert
        · cases hinsert
          rw [ih hrest, AList.mem_insert, List.map_cons, List.mem_cons, or_assoc, or_left_comm]
    · cases hadded

theorem upper_add {v : UInt32} (h : 65 ≤ v ∧ v ≤ 90) : ¬ (65 ≤ v + 32 ∧ v + 32 ≤ 90) := by
  simp only [UInt32.le_iff_toNat_le, UInt32.toNat_add] at h ⊢
  have h1 : (65 : UInt32).toNat = 65 := rfl
  have h2 : (90 : UInt32).toNat = 90 := rfl
  have h3 : (32 : UInt32).toNat = 32 := rfl
  omega

theorem toLower_toLower (c : Char) : c.toLower.toLower = c.toLower := by
  have hlower : ¬ ('A'.val ≤ c.toLower.val ∧ c.toLower.val ≤ 'Z'.val) := by
    by_cases h : 'A'.val ≤ c.val ∧ c.val ≤ 'Z'.val
    · have hval : c.toLower.val = c.val + 32 := by
        unfold Char.toLower
        rw [dif_pos h]
        rfl
      rw [hval]
      exact upper_add h
    · have hval : c.toLower = c := by
        unfold Char.toLower
        exact dif_neg h
      rw [hval]
      exact h
  generalize c.toLower = d at hlower ⊢
  unfold Char.toLower
  exact dif_neg hlower

theorem asciiStrToLower_ne {name : String} (hcapital : asciiStrToLower name ≠ name)
    (seller : String) : asciiStrToLower seller ≠ name := by
  rintro rfl
  apply hcapital
  unfold asciiStrToLower
  rw [String.toList_ofList, List.map_map]
  congr 1
  exact List.map_congr_left fun c _ => toLower_toLower c

/-- The names of the configuration are kept as they are written and looked up in lower case: one
that is written with a capital letter is among the names, and every call is answered as if it
were not. -/
theorem capitalName_unused (members : List (String × Json))
    {map : FlatHashMap String CloudPlatform}
    (hparse : parseSellerToCloudPlatformInMap members = .ok map) {name : String}
    (hname : name ∈ members.map fun member => cString member.1)
    (hcapital : asciiStrToLower name ≠ name) (hothers : (map.erase name).keys ≠ [])
    (lib : Library PrivateKey Seed) (seeds : ℕ → Seed) (request : Request) :
    name ∈ map ∧ execute lib map seeds request = execute lib (map.erase name) seeds request := by
  have hmem : name ∈ map := (mem_of_parse hparse name).mpr (.inr hname)
  have hkeys : map.keys ≠ [] := List.ne_nil_of_mem (AList.mem_keys.mp hmem)
  have hplatform : platformOf (map.erase name) = platformOf map := by
    funext seller
    exact AList.lookup_erase_ne (asciiStrToLower_ne hcapital seller)
  have hturn (message : OhttpHpkeDecryptedMessage) :
      encryptForSeller lib (map.erase name) seeds message =
        encryptForSeller lib map seeds message := by
    unfold encryptForSeller
    rw [hplatform]
  refine ⟨hmem, ?_⟩
  unfold execute
  rw [if_neg hkeys, if_neg hothers]
  simp only [hturn]

def twoSellers : FlatHashMap String CloudPlatform :=
  AList.insert "b.com" .aws (AList.insert "A.com" .gcp ∅)

theorem capitalName_unused_two :
    "A.com" ∈ twoSellers ∧ execute framing twoSellers (fun _ => ()) ⟨["A.com"], [0, 5, 1, 2]⟩ =
      execute framing (twoSellers.erase "A.com") (fun _ => ()) ⟨["A.com"], [0, 5, 1, 2]⟩ :=
  capitalName_unused [("A.com", .string "GCP"), ("b.com", .string "AWS")] rfl (by decide)
    (by decide) (by decide) framing (fun _ => ()) ⟨["A.com"], [0, 5, 1, 2]⟩

end Library

end ComponentAuction

end BiddingAuction
