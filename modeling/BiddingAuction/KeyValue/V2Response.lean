import BiddingAuction.Common.FlatHash
import BiddingAuction.Common.Json

/-!
# `ConvertKvV2ResponseToV1String`

A response of the key-value server in its second version is a list of compression groups,
each a JSON text of partitions, of key groups, of keys. For each tag that is asked for, the
keys under it are gathered into one object. The names of the keys, and the values that are
not parsed once more, are moved out of the documents as they are gathered.
-/

namespace BiddingAuction

namespace KvV2

def kTags := "tags"
def kInterestGroupNames := "interestGroupNames"
def kPerInterestGroupData := "perInterestGroupData"
def kKeyGroupOutputs := "keyGroupOutputs"
def kKeyValues := "keyValues"
def kValue := "value"

/-- What a conversion fails with, or that the process ends because the JSON library
asserts. -/
inductive Failure where
  | invalidArgument (message : String)
  /-- `ParseJsonString`, with a text of the library. -/
  | jsonParseError
  | serializationError
  | aborted
deriving DecidableEq, Repr

structure KVV2AdapterStats where
  valuesWithJsonStringParsing : ℕ := 0
  valuesWithoutJsonStringParsing : ℕ := 0
deriving DecidableEq, Repr

structure Position where
  group : ℕ
  partitionOutput : ℕ
  keyGroupOutput : ℕ
  keyValue : ℕ
deriving DecidableEq, Repr

/-- The signals of a tag so far, and what was moved out of the documents. A name that was
moved out is null. -/
structure Conversion where
  igSignals : List (String × Json) := []
  movedOut : List Position := []
  stats : KVV2AdapterStats := {}

def maybeJson (s : String) : Bool :=
  match s.toList.head? with
  | some c => c.toNat = 123 || c.toNat = 91
  | none => false

/-! ## Errors -/

def groupError (i : ℕ) : Failure :=
  .invalidArgument ("Incorrectly formed compression group. Array was expected. " ++
    "Compression group index " ++ toString i)

def partitionOutputError (i : ℕ) : Failure :=
  .invalidArgument ("Incorrectly formed compression group. partitionOutput should be " ++
    "an object. Compression group index " ++ toString i ++ ". ")

def keyGroupOutputsError (i : ℕ) : Failure :=
  .invalidArgument ("Incorrectly formed compression group. keyGroupOutputs should be " ++
    "an array. Compression group index " ++ toString i)

def keyValuesError (i : ℕ) : Failure :=
  .invalidArgument ("Incorrectly formed compression group. keyValues " ++
    "should be an object. Compression group index " ++ toString i)

/-! ## One key -/

/-- `AddMember`: the name is moved out. -/
def Conversion.addMember (r : Conversion) (position : Position) (name : String) (value : Json) :
    Conversion :=
  { r with igSignals := r.igSignals ++ [(name, value)], movedOut := position :: r.movedOut }

section Library

variable (lib : Library)

/-- A value, parsed if it is a text that starts as an object or an array and is JSON. -/
def parsedValue : Json → Option Json
  | .string s => if maybeJson (cString s) then lib.parseJsonString (cString s) else none
  | _ => none

def maybeParseJsonStringAndAddValueToIgSignals (r : Conversion) (position : Position)
    (name : String) (value : Json) : Conversion :=
  match parsedValue lib value with
  | some doc =>
    { r.addMember position name doc with
      stats.valuesWithJsonStringParsing := r.stats.valuesWithJsonStringParsing + 1 }
  | none =>
    { r.addMember position name value with
      stats.valuesWithoutJsonStringParsing := r.stats.valuesWithoutJsonStringParsing + 1 }

/-- One turn of the loop through the keys, under the tag that is asked for. -/
def addKeyValue (keyTag : String) (r : Conversion) (position : Position)
    (keyValuePair : String × Json) : Except Failure Conversion :=
  -- `FindMember` asserts that the name is a string
  if position ∈ r.movedOut then .error .aborted
  else if r.igSignals.any (·.1 = keyValuePair.1) then .ok r
  else
    match keyValuePair.2.findMember kValue with
    | none => .ok r
    | some value =>
      if keyTag = kInterestGroupNames then
        match value with
        | .string s =>
          match lib.parseJsonString (cString s) with
          | some igValue => .ok (r.addMember position keyValuePair.1 igValue)
          | none => .ok r
        | _ => .error .aborted
      else .ok (maybeParseJsonStringAndAddValueToIgSignals lib r position keyValuePair.1 value)

/-! ## The loops -/

def readTag (keyGroupOutput : Json) : Except Failure (Option String) :=
  match keyGroupOutput with
  | .object _ =>
    match keyGroupOutput.findMember kTags with
    | none => .ok none
    | some (.array [.string tag]) => .ok (some (cString tag))
    | some (.array [_]) => .error .aborted
    | some (.array _) => .ok none
    | some _ => .error .aborted
  | _ => .error .aborted

def readKeyValues (compressionGroupIndex : ℕ) (keyGroupOutput : Json) :
    Except Failure (List (String × Json)) :=
  match keyGroupOutput.findMember kKeyValues with
  | some (.object members) => .ok members
  | _ => .error (keyValuesError compressionGroupIndex)

def readKeyGroupOutputs (compressionGroupIndex : ℕ) (partitionOutput : Json) :
    Except Failure (List Json) :=
  match partitionOutput with
  | .object _ =>
    match partitionOutput.findMember kKeyGroupOutputs with
    | some (.array outputs) => .ok outputs
    | _ => .error (keyGroupOutputsError compressionGroupIndex)
  | _ => .error (partitionOutputError compressionGroupIndex)

def readPartitionOutputs (compressionGroupIndex : ℕ) (json : Json) : Except Failure (List Json) :=
  match json with
  | .array partitionOutputs => .ok partitionOutputs
  | _ => .error (groupError compressionGroupIndex)

/-- One turn of the loop through the key groups, the `k`-th of its partition. -/
def addKeyGroupOutput (keyTag : String) (group partitionOutput : ℕ) (r : Conversion)
    (keyGroupOutput : Json × ℕ) : Except Failure Conversion := do
  if (← readTag keyGroupOutput.1) = some keyTag then
    let keyValues ← readKeyValues group keyGroupOutput.1
    keyValues.zipIdx.foldlM (fun r pair =>
      addKeyValue lib keyTag r ⟨group, partitionOutput, keyGroupOutput.2, pair.2⟩ pair.1) r
  else pure r

def addPartitionOutput (keyTag : String) (group : ℕ) (r : Conversion)
    (partitionOutput : Json × ℕ) : Except Failure Conversion := do
  let outputs ← readKeyGroupOutputs group partitionOutput.1
  outputs.zipIdx.foldlM (addKeyGroupOutput lib keyTag group partitionOutput.2) r

def addGroup (keyTag : String) (r : Conversion) (json : Json × ℕ) : Except Failure Conversion := do
  let partitionOutputs ← readPartitionOutputs json.2 json.1
  partitionOutputs.zipIdx.foldlM (addPartitionOutput lib keyTag json.2) r

/-- `GetIgSignalsForKeyTag`, from documents that names were moved out of. -/
def getIgSignalsForKeyTag (keyTag : String) (docs : List Json) (movedOut : List Position)
    (stats : KVV2AdapterStats) : Except Failure Conversion :=
  docs.zipIdx.foldlM (addGroup lib keyTag) { movedOut := movedOut, stats := stats }

/-! ## All tags -/

def parseGroups (contents : List String) : Except Failure (List Json) :=
  contents.mapM fun content =>
    match lib.parseJsonString content with
    | some json => .ok json
    | none => .error .jsonParseError

/-- `ig_signals_map`, and what the tags before have moved out. -/
structure TagSignals where
  igSignalsMap : FlatHashMap String (List (String × Json)) := ∅
  movedOut : List Position := []
  stats : KVV2AdapterStats := {}

def addTag (docs : List Json) (s : TagSignals) (keyTag : String) : Except Failure TagSignals := do
  let r ← getIgSignalsForKeyTag lib keyTag docs s.movedOut s.stats
  pure
    { igSignalsMap := s.igSignalsMap.insert keyTag r.igSignals
      movedOut := r.movedOut
      stats := r.stats }

def outputName (keyTag : String) : String :=
  if keyTag = kInterestGroupNames then kPerInterestGroupData else keyTag

/-- `top_level_doc`: the tags that have keys, in the order of the map. -/
def topLevelDoc (ord : HashOrder) (igSignalsMap : FlatHashMap String (List (String × Json))) :
    List (String × Json) :=
  (ord.entries igSignalsMap).filterMap fun entry =>
    if entry.2.isEmpty then none else some (outputName entry.1, .object entry.2)

def convertKvV2Response (ord : HashOrder) (keyTags contents : List String)
    (stats : KVV2AdapterStats) : Except Failure (List (String × Json) × KVV2AdapterStats) := do
  let docs ← parseGroups lib contents
  let s ← keyTags.foldlM (addTag lib docs) { stats := stats }
  pure (topLevelDoc ord s.igSignalsMap, s.stats)

/-- `ConvertKvV2ResponseToV1String`. -/
def convertKvV2ResponseToV1String (ord : HashOrder) (keyTags contents : List String)
    (stats : KVV2AdapterStats) : Except Failure (String × KVV2AdapterStats) := do
  let (members, stats) ← convertKvV2Response lib ord keyTags contents stats
  if members.isEmpty then pure ("", stats)
  else
    match lib.serializeJsonDoc (.object members) with
    | some text => pure (text, stats)
    | none => .error .serializationError

end Library

end KvV2

end BiddingAuction
