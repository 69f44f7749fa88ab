import BiddingAuction.Foundation.EarlyReturn
import BiddingAuction.SelectAd.GetBidsRequest
import BiddingAuction.Web.LoadedItems

/-!
# Errors in a buyer's input

A buyer's input is checked item by item. A check reports an error; with `fail_fast` the function
returns on it, and without it goes on to the next item.
-/

namespace BiddingAuction

open Foundation
open SelectAd (BrowserSignalsForBidding BuyerInputForBidding InterestGroup kBrowserSignalKeys
  kInterestGroupKeys)

namespace LoadedInput

/-! ## Reporting errors -/

/-- `ErrorAccumulator`: the client-visible errors, which are all that are reported here. -/
abbrev ErrorAccumulator := List String

/-- What a function has decoded so far, and the errors. -/
structure Decoding (α : Type) where
  value : α
  errors : ErrorAccumulator

def isTypeValid (isValidType : CborItem → Bool) (item : CborItem) (fieldName expectedType : String)
    (errors : ErrorAccumulator) : Bool × ErrorAccumulator :=
  if isValidType item then (true, errors)
  else (false, errors ++ ["Invalid type provided for (field: " ++ fieldName ++ ", expected: " ++
    expectedType ++ ", actual: " ++ item.dataType ++ ")"])

def returnIfPrevErrors {α : Type} (failFast : Bool) (s : Decoding α)
    (goOn : Option (Flow (Decoding α))) : Option (Flow (Decoding α)) :=
  if !s.errors.isEmpty && failFast then some (.returned s) else goOn

def readField {α β : Type} (failFast : Bool) (isValidType : CborItem → Bool)
    (fieldName expectedType : String)
    (read : CborItem → ErrorAccumulator → Option (Decoding β)) (set : α → β → α)
    (s : Decoding α) (item : CborItem) : Option (Flow (Decoding α)) :=
  let checked := isTypeValid isValidType item fieldName expectedType s.errors
  returnIfPrevErrors failFast ⟨s.value, checked.2⟩ <|
    if checked.1 then
      (read item checked.2).map fun field => .next ⟨set s.value field.value, field.errors⟩
    else some (.next ⟨s.value, checked.2⟩)

def accessed {β : Type} (access : CborItem → Option β) (item : CborItem)
    (errors : ErrorAccumulator) : Option (Decoding β) :=
  (access item).map fun value => ⟨value, errors⟩

/-! ## Decoding -/

def decodeStringArray (failFast : Bool) (fieldName : String) (span : List CborItem)
    (errors : ErrorAccumulator) : Option (Decoding (List String)) :=
  (loopOrReturn (readField failFast cborIsaString fieldName "string" (accessed cborDecodeString)
    fun repeatedField s => repeatedField ++ [s]) ⟨[], errors⟩ span).map Flow.state

def stringArrayOf (failFast : Bool) (fieldName : String) (item : CborItem)
    (errors : ErrorAccumulator) : Option (Decoding (List String)) :=
  (cborArrayHandle item).bind fun span => decodeStringArray failFast fieldName span errors

/-- The two elements of a previous win, which are looked for without a check of the length. -/
def readPrevWin (failFast : Bool) (prevWin : CborItem) (s : Decoding (List (Int32 × String))) :
    Option (Flow (Decoding (List (Int32 × String)))) :=
  (cborArrayGet prevWin 0).bind fun relativeTime =>
    let errors := (isTypeValid cborIsInt relativeTime "browserSignals[x].prevWins[y][0]" "int"
      s.errors).2
    returnIfPrevErrors failFast ⟨s.value, errors⟩ <|
      (cborArrayGet prevWin 1).bind fun maybeAdRenderId =>
        let errors := (isTypeValid cborIsaString maybeAdRenderId "browserSignals[x].prevWins[y][1]"
          "string" errors).2
        returnIfPrevErrors failFast ⟨s.value, errors⟩ <|
          if !errors.isEmpty then some (.next ⟨s.value, errors⟩)
          else
            (cborGetInt relativeTime).bind fun time =>
              (cborDecodeString maybeAdRenderId).map fun adRenderId =>
                .next ⟨s.value ++ [(.ofNat time.toNat, adRenderId)], errors⟩

/-- One turn of the loop of `GetStringifiedPrevWins`: after an error of the length the entry is
read all the same. -/
def decodePrevWin (failFast : Bool) (owner : String) (s : Decoding (List (Int32 × String)))
    (prevWin : CborItem) : Option (Flow (Decoding (List (Int32 × String)))) :=
  let checked := isTypeValid cborIsaArray prevWin "browserSignals[x].prevWins[y]" "array" s.errors
  returnIfPrevErrors failFast ⟨s.value, checked.2⟩ <|
    if checked.1 then
      (cborArrayHandle prevWin).bind fun items =>
        if items.length ≠ 2 then
          let s := ⟨s.value, checked.2 ++
            ["Found browserSignals.prevWins[x] array of not length 2 for owner '" ++ owner ++ "'"]⟩
          returnIfPrevErrors failFast s (readPrevWin failFast prevWin s)
        else readPrevWin failFast prevWin ⟨s.value, checked.2⟩
    else some (.next ⟨s.value, checked.2⟩)

section Decode

variable (lib : Library) (failFast : Bool)

/-- `GetStringifiedPrevWins`: nothing after an early return. -/
def getStringifiedPrevWins (owner : String) (prevWinsEntries : List CborItem)
    (errors : ErrorAccumulator) : Option (Decoding (String × String)) :=
  (loopOrReturn (decodePrevWin failFast owner) ⟨[], errors⟩ prevWinsEntries).map fun
    | .next s => ⟨SelectAd.getStringifiedPrevWins lib s.value, s.errors⟩
    | .returned s => ⟨("", ""), s.errors⟩

def prevWinsOf (owner : String) (item : CborItem) (errors : ErrorAccumulator) :
    Option (Decoding (String × String)) :=
  (cborArrayHandle item).bind fun entries =>
    getStringifiedPrevWins lib failFast owner entries errors

def readEntry {α : Type} (keyName : String)
    (read : String → Decoding α → CborItem → Option (Flow (Decoding α))) (s : Decoding α)
    (entry : CborItem × CborItem) : Option (Flow (Decoding α)) :=
  let checked := isTypeValid cborIsaString entry.1 keyName "string" s.errors
  returnIfPrevErrors failFast ⟨s.value, checked.2⟩ <|
    if checked.1 then
      (cborDecodeString entry.1).bind fun key => read key ⟨s.value, checked.2⟩ entry.2
    else some (.next ⟨s.value, checked.2⟩)

/-- One case of `DecodeBrowserSignals`. -/
def readBrowserSignal (owner key : String) (s : Decoding BrowserSignalsForBidding)
    (value : CborItem) : Option (Flow (Decoding BrowserSignalsForBidding)) :=
  match findKeyIndex kBrowserSignalKeys key with
  | some 0 => readField failFast cborIsInt "browserSignals[x].bidCount" "int"
      (accessed cborGetInt)
      (fun signals count => { signals with bidCount := .ofNat count.toNat }) s value
  | some 1 => readField failFast cborIsInt "browserSignals[x].joinCount" "int"
      (accessed cborGetInt)
      (fun signals count => { signals with joinCount := .ofNat count.toNat }) s value
  | some 2 => readField failFast cborIsInt "browserSignals[x].recency" "int"
      (accessed cborGetInt)
      (fun signals recency => { signals with recency := .ofNat recency.toNat }) s value
  | some 3 => readField failFast cborIsaArray "browserSignals[x].prevWins" "array"
      (prevWinsOf lib failFast owner)
      (fun signals prevWins =>
        { signals with prevWins := prevWins.1, prevWinsMs := some prevWins.2 }) s value
  | some 4 => readField failFast cborIsInt "browserSignals[x].recencyMs" "int"
      (accessed cborGetInt)
      (fun signals recency => { signals with recencyMs := some (.ofNat recency.toNat) }) s value
  | _ => some (.next s)

def decodeBrowserSignals (owner : String) (root : CborItem) (errors : ErrorAccumulator) :
    Option (Decoding BrowserSignalsForBidding) :=
  let checked := isTypeValid cborIsaMap root "browserSignals" "map" errors
  if !checked.2.isEmpty && !checked.1 then some ⟨{}, checked.2⟩
  else
    (cborMapHandle root).bind fun entries =>
      (loopOrReturn (readEntry failFast "browserSignals[x].key"
        (readBrowserSignal lib failFast owner)) ⟨{}, checked.2⟩ entries).map Flow.state

/-- One case of the loop over an interest group; the flag is one of the buyer. The owner that the
browser signals get is the name of a field. -/
def readInterestGroupEntry (key : String)
    (s : Decoding (InterestGroup BrowserSignalsForBidding × Bool)) (value : CborItem) :
    Option (Flow (Decoding (InterestGroup BrowserSignalsForBidding × Bool))) :=
  match findKeyIndex kInterestGroupKeys key with
  | some 0 => readField failFast cborIsaString "interestGroupName" "string"
      (accessed cborDecodeString)
      (fun buyer name => ({ buyer.1 with name := name }, buyer.2)) s value
  | some 1 => readField failFast cborIsaArray "interestGroups.biddingSignalKeys" "array"
      (stringArrayOf failFast "interestGroups.biddingSignalKeys[x]")
      (fun buyer keys => ({ buyer.1 with biddingSignalsKeys := keys }, buyer.2)) s value
  | some 2 => readField failFast cborIsaString "userBiddingSignals" "string"
      (accessed cborDecodeString)
      (fun buyer signals => ({ buyer.1 with userBiddingSignals := signals }, buyer.2)) s value
  | some 3 => readField failFast cborIsaArray "ads" "array"
      (stringArrayOf failFast "ad_render_id")
      (fun buyer ads => ({ buyer.1 with adRenderIds := ads }, buyer.2)) s value
  | some 4 => readField failFast cborIsaArray "interestGroups.component" "array"
      (stringArrayOf failFast "interestGroups.component[x]")
      (fun buyer ads => ({ buyer.1 with componentAds := ads }, buyer.2)) s value
  | some 5 =>
    (decodeBrowserSignals lib failFast "interestGroups.biddingSignalKeys[x]" value s.errors).bind
      fun signals =>
        let s : Decoding (InterestGroup BrowserSignalsForBidding × Bool) :=
          ⟨({ s.value.1 with deviceSignals := some (.browser signals.value) }, s.value.2),
            signals.errors⟩
        returnIfPrevErrors failFast s (some (.next s))
  | some 6 => readField failFast cborIsBool "inCooldownOrLockout" "bool"
      (accessed cborGetBool) (fun buyer flag => (buyer.1, flag)) s value
  | _ => some (.next s)

def addInterestGroup (buyerInput : BuyerInputForBidding)
    (s : Decoding (InterestGroup BrowserSignalsForBidding × Bool)) :
    Decoding BuyerInputForBidding :=
  ⟨{ buyerInput with
      interestGroups := buyerInput.interestGroups ++ [s.value.1]
      inCooldownOrLockout := s.value.2 }, s.errors⟩

/-- One turn of the loop of `DecodeBuyerInput`; the group is added first. -/
def decodeInterestGroup (s : Decoding BuyerInputForBidding) (interestGroup : CborItem) :
    Option (Flow (Decoding BuyerInputForBidding)) :=
  let checked := isTypeValid cborIsaMap interestGroup "BuyerInput[x]" "map" s.errors
  let added := addInterestGroup s.value ⟨({}, s.value.inCooldownOrLockout), checked.2⟩
  returnIfPrevErrors failFast added <|
    if checked.1 then
      (cborMapHandle interestGroup).bind fun entries =>
        (loopOrReturn (readEntry failFast "BuyerInput[x].key" (readInterestGroupEntry lib failFast))
          ⟨({}, s.value.inCooldownOrLockout), checked.2⟩ entries).map fun
            | .next group => .next (addInterestGroup s.value group)
            | .returned group => .returned (addInterestGroup s.value group)
    else some (.next added)

/-- `DecodeBuyerInput`, past the loading. -/
def decodeLoadedBuyerInput (root : CborItem) (errors : ErrorAccumulator) :
    Option (Decoding BuyerInputForBidding) :=
  let checked := isTypeValid cborIsaArray root "BuyerInput" "array" errors
  if !checked.2.isEmpty && !checked.1 then some ⟨{}, checked.2⟩
  else
    (cborArrayHandle root).bind fun interestGroups =>
      (loopOrReturn (decodeInterestGroup lib failFast) ⟨{}, checked.2⟩ interestGroups).map
        Flow.state

def decodeBuyerInput (gzipDecompress : Bytes → Option Bytes) (cborLoad : Bytes → Option CborItem)
    (owner : String) (compressedBuyerInput : Bytes) (errors : ErrorAccumulator) :
    Option (Decoding BuyerInputForBidding) :=
  match gzipDecompress compressedBuyerInput with
  | none => some ⟨{}, errors ++
      ["Malformed bytestring for compressed interest group for buyer: " ++ owner]⟩
  | some decompressedBuyerInput =>
    match cborLoad decompressedBuyerInput with
    | none => some ⟨{}, errors ++ ["Invalid BuyerInput CBOR document for buyer: " ++ owner]⟩
    | some root => decodeLoadedBuyerInput lib failFast root errors

end Decode

end LoadedInput

end BiddingAuction
