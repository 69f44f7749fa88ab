import BiddingAuction.Foundation.BigEndian
import BiddingAuction.Foundation.Framing
import BiddingAuction.KAnon.Manager
import BiddingAuction.Proto.GetBids

/-!
# K-anonymity keys

`hash_util`: the plain-text keys an ad is looked up and joined under, and their
hashes. The keys start with what they are for; of the three reporting ids the
selected one comes first, and an interest group's name stands in when there is none.
-/

namespace BiddingAuction

open Foundation

/-- URL parsing and hashing, as the libraries do them. -/
structure KeyLibrary where
  /-- `GURL(url).spec()`. -/
  gurlSpec : String → String
  /-- `SHA256`. -/
  sha256 : Bytes → Hash

def bytesOf (text : String) : Bytes := text.toList.flatMap String.utf8EncodeChar

def kKAnonKeyForAdComponentBidPrefix := "ComponentBid\n"
def kKAnonKeyForAdBidPrefix := "AdBid\n"
def kKAnonKeyForAdNameReportingSelectedBuyerAndSellerIdPrefix :=
  "SelectedBuyerAndSellerReportId\n"
def kKAnonKeyForAdNameReportingBuyerAndSellerIdPrefix := "BuyerAndSellerReportId\n"
def kKAnonKeyForAdNameReportingBuyerReportIdPrefix := "BuyerReportId\n"
def kKAnonKeyForAdNameReportingNamePrefix := "NameReport\n"
def kReportingIDSizeBytes := 4

structure KAnonKeyReportingIDParam where
  buyerReportingId : Option String := none
  buyerAndSellerReportingId : Option String := none
  selectedBuyerAndSellerReportingId : Option String := none
deriving DecidableEq, Repr

/-- `LittleEndianU32ToBigEndianString`. -/
def littleEndianU32ToBigEndianString (num : UInt32) : Bytes :=
  toBigEndian kReportingIDSizeBytes num.toNat

/-- `AppendReportingIdForSelectedReportingKeyKAnonKey`: what is appended. -/
def reportingIdForSelectedReportingKey (reportingId : Option String) : Bytes :=
  match reportingId with
  | none => bytesOf "\n" ++ [0, 0, 0, 0, 0]
  | some reportingId =>
    bytesOf "\n" ++ [1] ++ littleEndianU32ToBigEndianString reportingId.utf8ByteSize.toUInt32 ++
      bytesOf reportingId

/-- `CanonicalizeURL`: what is read of the URL ends at a null character. -/
def canonicalizeUrl (lib : KeyLibrary) (url : String) : Bytes :=
  bytesOf (lib.gurlSpec (String.ofList (url.toList.takeWhile fun c => c ≠ '\x00')))

def plainTextKAnonKeyForAdRenderURL (lib : KeyLibrary) (owner biddingUrl renderUrl : String) :
    Bytes :=
  bytesOf kKAnonKeyForAdBidPrefix ++ canonicalizeUrl lib owner ++ bytesOf "\n" ++
    canonicalizeUrl lib biddingUrl ++ bytesOf "\n" ++ canonicalizeUrl lib renderUrl

def plainTextKAnonKeyForAdComponentRenderURL (lib : KeyLibrary) (componentRenderUrl : String) :
    Bytes :=
  bytesOf kKAnonKeyForAdComponentBidPrefix ++ canonicalizeUrl lib componentRenderUrl

def plainTextKAnonKeyForReportingID (lib : KeyLibrary) (owner igName biddingUrl renderUrl : String)
    (reportingIds : KAnonKeyReportingIDParam) : Bytes :=
  let middle := canonicalizeUrl lib owner ++ bytesOf "\n" ++ canonicalizeUrl lib biddingUrl ++
    bytesOf "\n" ++ canonicalizeUrl lib renderUrl
  match reportingIds.selectedBuyerAndSellerReportingId with
  | some selectedId =>
    bytesOf kKAnonKeyForAdNameReportingSelectedBuyerAndSellerIdPrefix ++ middle ++
      reportingIdForSelectedReportingKey (some selectedId) ++
      reportingIdForSelectedReportingKey reportingIds.buyerAndSellerReportingId ++
      reportingIdForSelectedReportingKey reportingIds.buyerReportingId
  | none =>
    match reportingIds.buyerAndSellerReportingId with
    | some buyerSellerId =>
      bytesOf kKAnonKeyForAdNameReportingBuyerAndSellerIdPrefix ++ middle ++ bytesOf "\n" ++
        bytesOf buyerSellerId
    | none =>
      match reportingIds.buyerReportingId with
      | some buyerId =>
        bytesOf kKAnonKeyForAdNameReportingBuyerReportIdPrefix ++ middle ++ bytesOf "\n" ++
          bytesOf buyerId
      | none =>
        bytesOf kKAnonKeyForAdNameReportingNamePrefix ++ middle ++ bytesOf "\n" ++ bytesOf igName

def hashedKAnonKeyForAdRenderURL (lib : KeyLibrary) (owner biddingUrl renderUrl : String) : Hash :=
  lib.sha256 (plainTextKAnonKeyForAdRenderURL lib owner biddingUrl renderUrl)

def hashedKAnonKeyForAdComponentRenderURL (lib : KeyLibrary) (componentRenderUrl : String) : Hash :=
  lib.sha256 (plainTextKAnonKeyForAdComponentRenderURL lib componentRenderUrl)

def hashedKAnonKeyForReportingID (lib : KeyLibrary) (owner igName biddingUrl renderUrl : String)
    (reportingIds : KAnonKeyReportingIDParam) : Hash :=
  lib.sha256 (plainTextKAnonKeyForReportingID lib owner igName biddingUrl renderUrl reportingIds)

/-! ## What a key starts with -/

theorem head_plainTextKAnonKeyForAdRenderURL (lib : KeyLibrary)
    (owner biddingUrl renderUrl : String) :
    (plainTextKAnonKeyForAdRenderURL lib owner biddingUrl renderUrl).head? = some 65 := by
  have hstart : bytesOf kKAnonKeyForAdBidPrefix = [65, 100, 66, 105, 100, 10] := by decide
  unfold plainTextKAnonKeyForAdRenderURL
  rw [hstart]
  rfl

theorem head_plainTextKAnonKeyForAdComponentRenderURL (lib : KeyLibrary)
    (componentRenderUrl : String) :
    (plainTextKAnonKeyForAdComponentRenderURL lib componentRenderUrl).head? = some 67 := by
  have hstart : bytesOf kKAnonKeyForAdComponentBidPrefix =
      67 :: bytesOf "omponentBid\n" := by decide
  unfold plainTextKAnonKeyForAdComponentRenderURL
  rw [hstart]
  rfl

/-!
# What a k-anonymity key identifies

A key of reporting ids is read back uniquely: its URLs end at newlines, and what comes
after them ends with the key or has its length in front.
-/

/-! ## Texts as bytes -/

theorem toByteArray_bytesOf (text : String) : (bytesOf text).toByteArray = text.toByteArray :=
  String.utf8Encode_toList

theorem bytesOf_inj {text text' : String} (h : bytesOf text = bytesOf text') : text = text' := by
  refine String.toByteArray_inj.mp ?_
  rw [← toByteArray_bytesOf, h, toByteArray_bytesOf]

theorem length_bytesOf (text : String) : (bytesOf text).length = text.utf8ByteSize := by
  rw [← List.size_toByteArray, toByteArray_bytesOf]
  rfl

/-! ## The parts of a key -/

/-- Which reporting ids a key is made from: those that the code looks at, in its order, and
the name of the interest group if there are none. -/
inductive ReportingChoice where
  | selected (selectedId : String) (buyerSellerId buyerId : Option String)
  | buyerAndSeller (buyerSellerId : String)
  | buyer (buyerId : String)
  | name (igName : String)
deriving DecidableEq, Repr

def KAnonKeyReportingIDParam.choice (reportingIds : KAnonKeyReportingIDParam) (igName : String) :
    ReportingChoice :=
  match reportingIds.selectedBuyerAndSellerReportingId, reportingIds.buyerAndSellerReportingId,
    reportingIds.buyerReportingId with
  | some selectedId, buyerSellerId, buyerId => .selected selectedId buyerSellerId buyerId
  | none, some buyerSellerId, _ => .buyerAndSeller buyerSellerId
  | none, none, some buyerId => .buyer buyerId
  | none, none, none => .name igName

inductive ReportingKind where
  | selected
  | buyerAndSeller
  | buyer
  | name
deriving DecidableEq, Repr

def ReportingKind.word : ReportingKind → Bytes
  | .selected => bytesOf "SelectedBuyerAndSellerReportId"
  | .buyerAndSeller => bytesOf "BuyerAndSellerReportId"
  | .buyer => bytesOf "BuyerReportId"
  | .name => bytesOf "NameReport"

def framedId : Option String → Bytes
  | none => [0, 0, 0, 0, 0]
  | some reportingId =>
    1 :: (littleEndianU32ToBigEndianString reportingId.utf8ByteSize.toUInt32 ++ bytesOf reportingId)

namespace ReportingChoice

def kind : ReportingChoice → ReportingKind
  | .selected .. => .selected
  | .buyerAndSeller _ => .buyerAndSeller
  | .buyer _ => .buyer
  | .name _ => .name

def ids : ReportingChoice → Bytes
  | .selected selectedId buyerSellerId buyerId =>
    framedId (some selectedId) ++ (10 :: (framedId buyerSellerId ++ (10 :: framedId buyerId)))
  | .buyerAndSeller buyerSellerId => bytesOf buyerSellerId
  | .buyer buyerId => bytesOf buyerId
  | .name igName => bytesOf igName

end ReportingChoice

theorem bytesOf_newline : bytesOf "\n" = [10] := by decide

theorem reportingIdForSelectedReportingKey_eq (reportingId : Option String) :
    reportingIdForSelectedReportingKey reportingId = 10 :: framedId reportingId := by
  cases reportingId with
  | none => rw [reportingIdForSelectedReportingKey, bytesOf_newline]; rfl
  | some reportingId =>
    rw [reportingIdForSelectedReportingKey, bytesOf_newline, List.append_assoc, List.append_assoc]
    rfl

theorem plainTextKAnonKeyForReportingID_eq (lib : KeyLibrary)
    (owner igName biddingUrl renderUrl : String) (reportingIds : KAnonKeyReportingIDParam) :
    plainTextKAnonKeyForReportingID lib owner igName biddingUrl renderUrl reportingIds =
      (reportingIds.choice igName).kind.word ++ 10 :: (canonicalizeUrl lib owner ++ 10 ::
        (canonicalizeUrl lib biddingUrl ++ 10 :: (canonicalizeUrl lib renderUrl ++ 10 ::
          (reportingIds.choice igName).ids))) := by
  -- each prefix of the source is a word and a newline
  have hselected : bytesOf kKAnonKeyForAdNameReportingSelectedBuyerAndSellerIdPrefix =
      bytesOf "SelectedBuyerAndSellerReportId" ++ [10] := by decide
  have hbuyerSeller : bytesOf kKAnonKeyForAdNameReportingBuyerAndSellerIdPrefix =
      bytesOf "BuyerAndSellerReportId" ++ [10] := by decide
  have hbuyer : bytesOf kKAnonKeyForAdNameReportingBuyerReportIdPrefix =
      bytesOf "BuyerReportId" ++ [10] := by decide
  have hname : bytesOf kKAnonKeyForAdNameReportingNamePrefix = bytesOf "NameReport" ++ [10] := by
    decide
  obtain ⟨buyerId, buyerSellerId, selectedId⟩ := reportingIds
  unfold plainTextKAnonKeyForReportingID KAnonKeyReportingIDParam.choice
  cases selectedId with
  | some selectedId =>
    simp only [hselected, bytesOf_newline, reportingIdForSelectedReportingKey_eq,
      ReportingChoice.kind, ReportingKind.word, ReportingChoice.ids, List.append_assoc,
      List.cons_append, List.nil_append]
  | none =>
    cases buyerSellerId with
    | some buyerSellerId =>
      simp only [hbuyerSeller, bytesOf_newline, ReportingChoice.kind, ReportingKind.word,
        ReportingChoice.ids, List.append_assoc, List.cons_append, List.nil_append]
    | none =>
      cases buyerId <;>
        simp only [hbuyer, hname, bytesOf_newline, ReportingChoice.kind, ReportingKind.word,
          ReportingChoice.ids, List.append_assoc, List.cons_append, List.nil_append]

/-! ## Reading the parts back -/

def FitsU32 (reportingId : String) : Prop := reportingId.utf8ByteSize < 2 ^ 32

instance (reportingId : String) : Decidable (FitsU32 reportingId) :=
  inferInstanceAs (Decidable (_ < _))

theorem framedId_some {reportingId : String} (h : FitsU32 reportingId) :
    framedId (some reportingId) =
      1 :: (toBigEndian 4 (bytesOf reportingId).length ++ bytesOf reportingId) := by
  have hsize : reportingId.utf8ByteSize.toUInt32.toNat = (bytesOf reportingId).length := by
    rw [length_bytesOf, Nat.toUInt32_eq, UInt32.toNat_ofNat']
    exact Nat.mod_eq_of_lt h
  rw [framedId, littleEndianU32ToBigEndianString, hsize]
  rfl

theorem framedId_inj {id id' : Option String} {x y : Bytes} (hid : ∀ text ∈ id, FitsU32 text)
    (hid' : ∀ text ∈ id', FitsU32 text) (h : framedId id ++ x = framedId id' ++ y) :
    id = id' ∧ x = y := by
  cases id with
  | none =>
    cases id' with
    | none => exact ⟨rfl, List.append_cancel_left h⟩
    | some text' => exact absurd (List.cons.inj h).1 (by decide)
  | some text =>
    cases id' with
    | none => exact absurd (List.cons.inj h).1 (by decide)
    | some text' =>
      have hfits := hid text rfl
      have hfits' := hid' text' rfl
      rw [framedId_some hfits, framedId_some hfits', List.cons_append, List.cons_append,
        List.append_assoc, List.append_assoc] at h
      have hlength : (bytesOf text).length < 256 ^ 4 := by
        rw [length_bytesOf]
        exact hfits
      have hlength' : (bytesOf text').length < 256 ^ 4 := by
        rw [length_bytesOf]
        exact hfits'
      obtain ⟨htext, hxy⟩ := sized_inj hlength hlength' (List.cons.inj h).2
      exact ⟨congrArg some (bytesOf_inj htext), hxy⟩

theorem ReportingKind.newline_notMem_word (kind : ReportingKind) : 10 ∉ kind.word := by
  cases kind <;> decide

theorem ReportingKind.word_inj {kind kind' : ReportingKind} (h : kind.word = kind'.word) :
    kind = kind' := by
  revert h
  cases kind <;> cases kind' <;> decide

namespace ReportingChoice

/-- The ids of the choice, but not the name of the interest group, fit into their fields. -/
def Fits : ReportingChoice → Prop
  | .selected selectedId buyerSellerId buyerId =>
    FitsU32 selectedId ∧ (∀ text ∈ buyerSellerId, FitsU32 text) ∧ ∀ text ∈ buyerId, FitsU32 text
  | .buyerAndSeller _ => True
  | .buyer _ => True
  | .name _ => True

theorem eq_of_kind_ids {choice choice' : ReportingChoice} (hfits : choice.Fits)
    (hfits' : choice'.Fits) (hkind : choice.kind = choice'.kind) (hids : choice.ids = choice'.ids) :
    choice = choice' := by
  cases choice <;> cases choice'
  -- three ids in frames; the choices below have one id that goes to the end of the key
  case selected.selected selectedId buyerSellerId buyerId selectedId' buyerSellerId' buyerId' =>
    obtain ⟨hselected, hbuyerSeller, hbuyer⟩ := hfits
    obtain ⟨hselected', hbuyerSeller', hbuyer'⟩ := hfits'
    have hfits : ∀ text ∈ some selectedId, FitsU32 text :=
      fun _ htext => Option.some.inj htext ▸ hselected
    have hfits' : ∀ text ∈ some selectedId', FitsU32 text :=
      fun _ htext => Option.some.inj htext ▸ hselected'
    obtain ⟨hid, hrest⟩ := framedId_inj hfits hfits' hids
    obtain ⟨hid₂, hrest₂⟩ := framedId_inj hbuyerSeller hbuyerSeller' (List.cons.inj hrest).2
    have hlast : framedId buyerId ++ [] = framedId buyerId' ++ [] :=
      congrArg (· ++ []) (List.cons.inj hrest₂).2
    obtain ⟨hid₃, -⟩ := framedId_inj hbuyer hbuyer' hlast
    rw [Option.some.inj hid, hid₂, hid₃]
  case buyerAndSeller.buyerAndSeller => exact congrArg buyerAndSeller (bytesOf_inj hids)
  case buyer.buyer => exact congrArg buyer (bytesOf_inj hids)
  case name.name => exact congrArg name (bytesOf_inj hids)
  all_goals cases hkind

end ReportingChoice

/-! ## Identity -/

structure ReportingKeyInput where
  owner : String
  igName : String
  biddingUrl : String
  renderUrl : String
  reportingIds : KAnonKeyReportingIDParam
deriving DecidableEq, Repr

namespace ReportingKeyInput

def key (lib : KeyLibrary) (input : ReportingKeyInput) : Bytes :=
  plainTextKAnonKeyForReportingID lib input.owner input.igName input.biddingUrl input.renderUrl
    input.reportingIds

/-- The canonical URLs hold no newline, and the ids are shorter than `2^32` bytes. -/
structure Admissible (lib : KeyLibrary) (input : ReportingKeyInput) : Prop where
  owner : 10 ∉ canonicalizeUrl lib input.owner
  biddingUrl : 10 ∉ canonicalizeUrl lib input.biddingUrl
  renderUrl : 10 ∉ canonicalizeUrl lib input.renderUrl
  buyerId : ∀ id ∈ input.reportingIds.buyerReportingId, FitsU32 id
  buyerSellerId : ∀ id ∈ input.reportingIds.buyerAndSellerReportingId, FitsU32 id
  selectedId : ∀ id ∈ input.reportingIds.selectedBuyerAndSellerReportingId, FitsU32 id

/-- Two inputs that a key need not tell apart. -/
structure Same (lib : KeyLibrary) (input input' : ReportingKeyInput) : Prop where
  owner : canonicalizeUrl lib input.owner = canonicalizeUrl lib input'.owner
  biddingUrl : canonicalizeUrl lib input.biddingUrl = canonicalizeUrl lib input'.biddingUrl
  renderUrl : canonicalizeUrl lib input.renderUrl = canonicalizeUrl lib input'.renderUrl
  choice : input.reportingIds.choice input.igName = input'.reportingIds.choice input'.igName

variable {lib : KeyLibrary} {input input' : ReportingKeyInput}

theorem Admissible.fits (h : input.Admissible lib) :
    (input.reportingIds.choice input.igName).Fits := by
  obtain ⟨owner, igName, biddingUrl, renderUrl, buyerId, buyerSellerId, selectedId⟩ := input
  cases selectedId with
  | some selectedId => exact ⟨h.selectedId selectedId rfl, h.buyerSellerId, h.buyerId⟩
  | none => cases buyerSellerId <;> cases buyerId <;> trivial

theorem Same.key_eq (h : input.Same lib input') : input.key lib = input'.key lib := by
  unfold key
  rw [plainTextKAnonKeyForReportingID_eq, plainTextKAnonKeyForReportingID_eq, h.owner,
    h.biddingUrl, h.renderUrl, h.choice]

theorem same_of_key_eq (h : input.Admissible lib) (h' : input'.Admissible lib)
    (hkey : input.key lib = input'.key lib) : input.Same lib input' := by
  unfold key at hkey
  rw [plainTextKAnonKeyForReportingID_eq, plainTextKAnonKeyForReportingID_eq] at hkey
  obtain ⟨hword, hkey⟩ := separated_inj (ReportingKind.newline_notMem_word _)
    (ReportingKind.newline_notMem_word _) hkey
  obtain ⟨howner, hkey⟩ := separated_inj h.owner h'.owner hkey
  obtain ⟨hbidding, hkey⟩ := separated_inj h.biddingUrl h'.biddingUrl hkey
  obtain ⟨hrender, hids⟩ := separated_inj h.renderUrl h'.renderUrl hkey
  exact ⟨howner, hbidding, hrender,
    ReportingChoice.eq_of_kind_ids h.fits h'.fits (ReportingKind.word_inj hword) hids⟩

end ReportingKeyInput

/-- A key of reporting ids starts as its word does: not with an `A` or a `C`, as the keys of
ads and of their components do. -/
theorem head_plainTextKAnonKeyForReportingID (lib : KeyLibrary)
    (owner igName biddingUrl renderUrl : String) (reportingIds : KAnonKeyReportingIDParam) :
    (plainTextKAnonKeyForReportingID lib owner igName biddingUrl renderUrl reportingIds).head? =
      (reportingIds.choice igName).kind.word.head? := by
  rw [plainTextKAnonKeyForReportingID_eq]
  cases (reportingIds.choice igName).kind <;> rfl

theorem ReportingKind.head_word_ne {byte : UInt8} (hbyte : byte = 65 ∨ byte = 67)
    (kind : ReportingKind) : kind.word.head? ≠ some byte := by
  rcases hbyte with rfl | rfl <;> cases kind <;> decide

/-- Keys of reporting ids are equal just when the canonical URLs are and the ids that count;
and none of them is the key of an ad or of a component. -/
theorem reportingKey_identifies (lib : KeyLibrary) (input input' : ReportingKeyInput)
    (h : input.Admissible lib) (h' : input'.Admissible lib) :
    (input.key lib = input'.key lib ↔ input.Same lib input') ∧
      (∀ owner biddingUrl renderUrl,
        input.key lib ≠ plainTextKAnonKeyForAdRenderURL lib owner biddingUrl renderUrl) ∧
      ∀ componentRenderUrl,
        input.key lib ≠ plainTextKAnonKeyForAdComponentRenderURL lib componentRenderUrl := by
  refine ⟨⟨ReportingKeyInput.same_of_key_eq h h', ReportingKeyInput.Same.key_eq⟩, ?_, ?_⟩
  · intro owner biddingUrl renderUrl hkey
    have hhead := congrArg List.head? hkey
    rw [ReportingKeyInput.key, head_plainTextKAnonKeyForReportingID,
      head_plainTextKAnonKeyForAdRenderURL] at hhead
    exact ReportingKind.head_word_ne (.inl rfl) _ hhead
  · intro componentRenderUrl hkey
    have hhead := congrArg List.head? hkey
    rw [ReportingKeyInput.key, head_plainTextKAnonKeyForReportingID,
      head_plainTextKAnonKeyForAdComponentRenderURL] at hhead
    exact ReportingKind.head_word_ne (.inr rfl) _ hhead

def canonicalAlready : KeyLibrary where
  gurlSpec := id
  sha256 := fun _ => []

/-- An ad with a selected reporting id, and one of the buyer. -/
def selectedInput (selectedId : String) : ReportingKeyInput where
  owner := "https://buyer.com/"
  igName := "group"
  biddingUrl := "https://buyer.com/bid"
  renderUrl := "https://ads.com/1"
  reportingIds :=
    { selectedBuyerAndSellerReportingId := some selectedId, buyerReportingId := some "c" }

theorem admissible_selectedInput {selectedId : String} (h : FitsU32 selectedId) :
    (selectedInput selectedId).Admissible canonicalAlready where
  owner := (by decide +kernel : 10 ∉ canonicalizeUrl canonicalAlready "https://buyer.com/")
  biddingUrl := (by decide +kernel : 10 ∉ canonicalizeUrl canonicalAlready "https://buyer.com/bid")
  renderUrl := (by decide +kernel : 10 ∉ canonicalizeUrl canonicalAlready "https://ads.com/1")
  buyerId := fun id hid => Option.some.inj hid ▸ (by decide : FitsU32 "c")
  buyerSellerId := fun id hid => absurd hid (Option.not_mem_none id)
  selectedId := fun id hid => Option.some.inj hid ▸ h

/-- A newline in an id does not make it end early. -/
theorem reportingKey_selectedInput :
    (selectedInput "a\nb").key canonicalAlready ≠ (selectedInput "a").key canonicalAlready := by
  intro hkey
  have hsame := (reportingKey_identifies canonicalAlready (selectedInput "a\nb")
    (selectedInput "a") (admissible_selectedInput (by decide))
    (admissible_selectedInput (by decide))).1.mp hkey
  exact absurd hsame.choice (by decide)

end BiddingAuction
