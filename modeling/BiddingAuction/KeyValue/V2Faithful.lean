import BiddingAuction.Foundation.FirstWins
import BiddingAuction.KeyValue.V2Response

/-!
# What a response is converted to

The nested loops of a tag are one loop through the keys that stand under it, each at a place
of its own. A loop adds the keys that are not there yet, and moves out names under its tag
only, so the loops of the tags do not disturb each other.
-/

namespace BiddingAuction

open Foundation

theorem Json.findMember_object (members : List (String × Json)) (name : String) :
    (Json.object members).findMember name =
      (members.find? fun member => member.1 = name).map Prod.snd := rfl

namespace KvV2

/-! ## What stands in a response -/

def elements : Json → List Json
  | .array elements => elements
  | _ => []

def members : Json → List (String × Json)
  | .object members => members
  | _ => []

def keyGroupOutputs (partitionOutput : Json) : List Json :=
  ((partitionOutput.findMember kKeyGroupOutputs).map elements).getD []

def keyValues (keyGroupOutput : Json) : List (String × Json) :=
  ((keyGroupOutput.findMember kKeyValues).map members).getD []

def tag? (keyGroupOutput : Json) : Option String :=
  match keyGroupOutput.findMember kTags with
  | some (.array [.string tag]) => some (cString tag)
  | _ => none

section Library

variable (lib : Library)

/-- What a key is mapped to by a value under the tag, if the value is usable: the names of
interest groups map to JSON texts, which are parsed; other values are parsed if they are
texts of an object or an array. -/
def usableValue (keyTag : String) (wrapper : Json) : Option Json :=
  (wrapper.findMember kValue).bind fun value =>
    if keyTag = kInterestGroupNames then
      value.string?.bind fun s => lib.parseJsonString (cString s)
    else some ((parsedValue lib value).getD value)

/-- The keys under a tag with their usable values, in the order of the response. -/
def occurrences (keyTag : String) (docs : List Json) : List (String × Json) :=
  docs.flatMap fun json => (elements json).flatMap fun partitionOutput =>
    (keyGroupOutputs partitionOutput).flatMap fun keyGroupOutput =>
      if tag? keyGroupOutput = some keyTag then
        (keyValues keyGroupOutput).filterMap fun keyValue =>
          (usableValue lib keyTag keyValue.2).map (keyValue.1, ·)
      else []

end Library

structure WellFormedOutput (keyTags : List String) (keyGroupOutput : Json) : Prop where
  object : ∃ ms, keyGroupOutput = .object ms
  tags : ∀ value, keyGroupOutput.findMember kTags = some value → ∃ tags, value = .array tags ∧
    ∀ tag, tags = [tag] → ∃ s, tag = .string s
  hasKeyValues : ∀ tag ∈ keyTags, tag? keyGroupOutput = some tag →
    ∃ ms, keyGroupOutput.findMember kKeyValues = some (.object ms)
  /-- The values of interest groups are texts. -/
  texts : kInterestGroupNames ∈ keyTags → tag? keyGroupOutput = some kInterestGroupNames →
    ∀ keyValue ∈ keyValues keyGroupOutput, ∀ value,
      keyValue.2.findMember kValue = some value → ∃ s, value = .string s

structure WellFormedPartition (keyTags : List String) (partitionOutput : Json) : Prop where
  object : ∃ ms, partitionOutput = .object ms
  hasOutputs : ∃ outputs, partitionOutput.findMember kKeyGroupOutputs = some (.array outputs)
  outputs : ∀ output ∈ keyGroupOutputs partitionOutput, WellFormedOutput keyTags output

structure WellFormedGroup (keyTags : List String) (json : Json) : Prop where
  array : ∃ partitionOutputs, json = .array partitionOutputs
  partitions : ∀ partitionOutput ∈ elements json, WellFormedPartition keyTags partitionOutput

/-- The compression groups are the documents, and well formed for the tags. -/
structure WellFormed (lib : Library) (keyTags contents : List String) (docs : List Json) :
    Prop where
  parsed : parseGroups lib contents = .ok docs
  groups : ∀ json ∈ docs, WellFormedGroup keyTags json

/-! ## One loop -/

abbrev Pair := Position × String × Json

def outputPairs (keyTag : String) (group partitionOutput : ℕ) (output : Json × ℕ) : List Pair :=
  if tag? output.1 = some keyTag then
    (keyValues output.1).zipIdx.map fun pair =>
      (⟨group, partitionOutput, output.2, pair.2⟩, pair.1)
  else []

def partitionPairs (keyTag : String) (group : ℕ) (partitionOutput : Json × ℕ) : List Pair :=
  (keyGroupOutputs partitionOutput.1).zipIdx.flatMap
    (outputPairs keyTag group partitionOutput.2)

def groupPairs (keyTag : String) (json : Json × ℕ) : List Pair :=
  (elements json.1).zipIdx.flatMap (partitionPairs keyTag json.2)

def pairs (keyTag : String) (docs : List Json) : List Pair :=
  docs.zipIdx.flatMap (groupPairs keyTag)

def visit (lib : Library) (keyTag : String) (r : Conversion) (pair : Pair) :
    Except Failure Conversion :=
  addKeyValue lib keyTag r pair.1 pair.2

section OneLoop

variable {lib : Library} {keyTags : List String} {keyTag : String}

theorem readTag_of_tags {output : Json} (hobject : ∃ ms, output = .object ms)
    (htags : ∀ value, output.findMember kTags = some value → ∃ tags, value = .array tags ∧
      ∀ tag, tags = [tag] → ∃ s, tag = .string s) : readTag output = .ok (tag? output) := by
  obtain ⟨ms, rfl⟩ := hobject
  unfold readTag tag?
  cases hfound : (Json.object ms).findMember kTags with
  | none => rfl
  | some value =>
    obtain ⟨tags, rfl, hsingle⟩ := htags value hfound
    cases tags with
    | nil => rfl
    | cons tag rest =>
      cases rest with
      | cons next rest => cases tag <;> rfl
      | nil =>
        obtain ⟨s, rfl⟩ := hsingle tag rfl
        rfl

theorem readTag_eq {output : Json} (h : WellFormedOutput keyTags output) :
    readTag output = .ok (tag? output) := readTag_of_tags h.object h.tags

theorem foldlM_keyValues {output : Json × ℕ} (htag : tag? output.1 = some keyTag)
    {ms : List (String × Json)} (hms : output.1.findMember kKeyValues = some (.object ms))
    (group partitionOutput : ℕ) (r : Conversion) :
    ms.zipIdx.foldlM (fun r pair =>
      addKeyValue lib keyTag r ⟨group, partitionOutput, output.2, pair.2⟩ pair.1) r =
      (outputPairs keyTag group partitionOutput output).foldlM (visit lib keyTag) r := by
  have hvalues : keyValues output.1 = ms := by
    unfold keyValues
    rw [hms]
    rfl
  unfold outputPairs
  rw [if_pos htag, hvalues, List.foldlM_map]
  rfl

theorem readKeyValues_eq {output : Json} {ms : List (String × Json)}
    (hms : output.findMember kKeyValues = some (.object ms)) (group : ℕ) :
    readKeyValues group output = .ok ms := by
  unfold readKeyValues
  rw [hms]

theorem addKeyGroupOutput_eq {output : Json × ℕ} (h : WellFormedOutput keyTags output.1)
    (htag : keyTag ∈ keyTags) (group partitionOutput : ℕ) (r : Conversion) :
    addKeyGroupOutput lib keyTag group partitionOutput r output =
      (outputPairs keyTag group partitionOutput output).foldlM (visit lib keyTag) r := by
  unfold addKeyGroupOutput
  rw [readTag_eq h]
  show (if tag? output.1 = some keyTag then _ else _) = _
  split
  · rename_i hsame
    obtain ⟨ms, hms⟩ := h.hasKeyValues keyTag htag hsame
    rw [readKeyValues_eq hms]
    exact foldlM_keyValues hsame hms group partitionOutput r
  · rename_i hother
    unfold outputPairs
    rw [if_neg hother]
    rfl

theorem addPartitionOutput_eq {partitionOutput : Json × ℕ}
    (h : WellFormedPartition keyTags partitionOutput.1) (htag : keyTag ∈ keyTags) (group : ℕ)
    (r : Conversion) : addPartitionOutput lib keyTag group r partitionOutput =
      (partitionPairs keyTag group partitionOutput).foldlM (visit lib keyTag) r := by
  obtain ⟨ms, hms⟩ := h.object
  obtain ⟨outputs, houtputs⟩ := h.hasOutputs
  have hread : readKeyGroupOutputs group partitionOutput.1 = .ok outputs := by
    unfold readKeyGroupOutputs
    rw [hms] at houtputs ⊢
    dsimp only
    rw [houtputs]
  have hvalues : keyGroupOutputs partitionOutput.1 = outputs := by
    unfold keyGroupOutputs
    rw [houtputs]
    rfl
  unfold addPartitionOutput partitionPairs
  rw [hread, hvalues]
  refine foldlM_eq_flatMap (fun output houtput r => ?_) r
  apply addKeyGroupOutput_eq (h.outputs output.1 ?_) htag
  rw [hvalues]
  exact List.fst_mem_of_mem_zipIdx houtput

theorem addGroup_eq {json : Json × ℕ} (h : WellFormedGroup keyTags json.1)
    (htag : keyTag ∈ keyTags) (r : Conversion) :
    addGroup lib keyTag r json = (groupPairs keyTag json).foldlM (visit lib keyTag) r := by
  obtain ⟨partitionOutputs, hjson⟩ := h.array
  unfold addGroup groupPairs
  have hvalues : elements json.1 = partitionOutputs := by
    rw [hjson]
    rfl
  have hread : readPartitionOutputs json.2 json.1 = .ok partitionOutputs := by
    rw [hjson]
    rfl
  rw [hread, hvalues]
  refine foldlM_eq_flatMap (fun partitionOutput hpartition r => ?_) r
  apply addPartitionOutput_eq (h.partitions partitionOutput.1 ?_) htag
  rw [hvalues]
  exact List.fst_mem_of_mem_zipIdx hpartition

theorem getIgSignalsForKeyTag_eq {docs : List Json}
    (h : ∀ json ∈ docs, WellFormedGroup keyTags json) (htag : keyTag ∈ keyTags)
    (movedOut : List Position) (stats : KVV2AdapterStats) :
    getIgSignalsForKeyTag lib keyTag docs movedOut stats =
      (pairs keyTag docs).foldlM (visit lib keyTag) { movedOut := movedOut, stats := stats } := by
  refine foldlM_eq_flatMap (fun json hjson r => ?_) _
  exact addGroup_eq (h json.1 (List.fst_mem_of_mem_zipIdx hjson)) htag r

theorem filterMap_pairs (docs : List Json) :
    ((pairs keyTag docs).filterMap fun pair =>
      (usableValue lib keyTag pair.2.2).map (pair.2.1, ·)) = occurrences lib keyTag docs := by
  have hzip {α β : Type} (l : List α) (f : α → List β) :
      (l.zipIdx.flatMap fun a => f a.1) = l.flatMap f := by
    rw [← List.flatMap_map, List.zipIdx_map_fst]
  unfold pairs occurrences
  rw [List.filterMap_flatMap, ← hzip docs]
  refine List.flatMap_congr fun json _ => ?_
  unfold groupPairs
  rw [List.filterMap_flatMap, ← hzip (elements json.1)]
  refine List.flatMap_congr fun partitionOutput _ => ?_
  unfold partitionPairs
  rw [List.filterMap_flatMap, ← hzip (keyGroupOutputs partitionOutput.1)]
  refine List.flatMap_congr fun output _ => ?_
  unfold outputPairs
  split
  · rw [List.filterMap_map]
    conv_rhs => rw [← List.zipIdx_map_fst 0 (keyValues output.1), List.filterMap_map]
    rfl
  · rfl

end OneLoop

/-! ## Places -/

section Places

variable {keyTag : String} {docs : List Json}

def tagAt (docs : List Json) (position : Position) : Option String :=
  docs[position.group]?.bind fun json =>
    (elements json)[position.partitionOutput]?.bind fun partitionOutput =>
      (keyGroupOutputs partitionOutput)[position.keyGroupOutput]?.bind tag?

theorem tagAt_of_mem {pair : Pair} (h : pair ∈ pairs keyTag docs) :
    tagAt docs pair.1 = some keyTag := by
  obtain ⟨json, hjson, h⟩ := List.mem_flatMap.mp h
  obtain ⟨partitionOutput, hpartition, h⟩ := List.mem_flatMap.mp h
  obtain ⟨output, houtput, h⟩ := List.mem_flatMap.mp h
  unfold outputPairs at h
  split at h
  · rename_i htag
    obtain ⟨keyValue, -, rfl⟩ := List.mem_map.mp h
    unfold tagAt
    dsimp only
    rw [List.mem_zipIdx_iff_getElem?.mp hjson, Option.bind_some,
      List.mem_zipIdx_iff_getElem?.mp hpartition, Option.bind_some,
      List.mem_zipIdx_iff_getElem?.mp houtput, Option.bind_some, htag]
  · cases h

theorem nodup_pairs : ((pairs keyTag docs).map Prod.fst).Nodup := by
  refine nodup_flatMap_zipIdx Position.group ?_ fun json _ => ?_
  · intro json pair h
    obtain ⟨partitionOutput, -, h⟩ := List.mem_flatMap.mp h
    obtain ⟨output, -, h⟩ := List.mem_flatMap.mp h
    unfold outputPairs at h
    split at h
    · obtain ⟨keyValue, -, rfl⟩ := List.mem_map.mp h
      rfl
    · cases h
  refine nodup_flatMap_zipIdx Position.partitionOutput ?_ fun partitionOutput _ => ?_
  · intro partitionOutput pair h
    obtain ⟨output, -, h⟩ := List.mem_flatMap.mp h
    unfold outputPairs at h
    split at h
    · obtain ⟨keyValue, -, rfl⟩ := List.mem_map.mp h
      rfl
    · cases h
  refine nodup_flatMap_zipIdx Position.keyGroupOutput ?_ fun output _ => ?_
  · intro output pair h
    unfold outputPairs at h
    split at h
    · obtain ⟨keyValue, -, rfl⟩ := List.mem_map.mp h
      rfl
    · cases h
  unfold outputPairs
  split
  · rw [List.map_map]
    have hindices : ((keyValues output.1).zipIdx.map Prod.snd).Nodup := by
      rw [List.zipIdx_map_snd]
      exact List.nodup_range'
    refine List.Nodup.of_map Position.keyValue ?_
    rw [List.map_map]
    exact hindices
  · exact List.nodup_nil

end Places

/-! ## One tag -/

section OneTag

variable {lib : Library} {keyTag : String} {docs : List Json}

/-- A value that the loop reads is a text, under the tag of the interest groups. -/
def ReadsText (keyTag : String) (pair : Pair) : Prop :=
  keyTag = kInterestGroupNames → ∀ value, pair.2.2.findMember kValue = some value →
    ∃ s, value = .string s

theorem visit_spec (lib : Library) {r : Conversion} {pair : Pair} (hfresh : pair.1 ∉ r.movedOut)
    (htext : ReadsText keyTag pair) : ∃ r', visit lib keyTag r pair = .ok r' ∧
      r'.igSignals = ((usableValue lib keyTag pair.2.2).map (pair.2.1, ·)).elim r.igSignals
        (addFirst r.igSignals) ∧
      ∀ position ∈ r'.movedOut, position = pair.1 ∨ position ∈ r.movedOut := by
  obtain ⟨position, name, wrapper⟩ := pair
  unfold visit addKeyValue
  rw [if_neg hfresh]
  by_cases hthere : r.igSignals.any (·.1 = name) = true
  · -- the key has a value already, and this one is not even read
    refine ⟨r, if_pos hthere, ?_, fun _ h => .inr h⟩
    cases usableValue lib keyTag wrapper with
    | none => rfl
    | some value =>
      show _ = addFirst r.igSignals (name, value)
      unfold addFirst
      rw [if_pos hthere]
  have hadd (value : Json) : addFirst r.igSignals (name, value) =
      (r.addMember position name value).igSignals := by
    unfold addFirst
    rw [if_neg hthere]
    rfl
  have hmoved (value : Json) : ∀ p ∈ (r.addMember position name value).movedOut,
      p = position ∨ p ∈ r.movedOut := fun _ => List.mem_cons.mp
  rw [if_neg hthere]
  unfold usableValue
  dsimp only
  cases hvalue : wrapper.findMember kValue with
  | none => exact ⟨r, rfl, rfl, fun _ h => .inr h⟩
  | some value =>
    dsimp only
    rw [Option.bind_some]
    by_cases hnames : keyTag = kInterestGroupNames
    · -- the value has to be a document in a text
      obtain ⟨s, rfl⟩ := htext hnames value hvalue
      rw [if_pos hnames, if_pos hnames]
      simp only [Json.string?, Option.bind_some]
      cases lib.parseJsonString (cString s) with
      | none => exact ⟨r, rfl, rfl, fun _ h => .inr h⟩
      | some igValue => exact ⟨_, rfl, (hadd igValue).symm, hmoved igValue⟩
    · -- what is no document in a text is moved as it is
      rw [if_neg hnames, if_neg hnames]
      refine ⟨_, rfl, ?_, ?_⟩
      · show _ = addFirst r.igSignals (name, (parsedValue lib value).getD value)
        rw [hadd]
        unfold maybeParseJsonStringAndAddValueToIgSignals
        cases parsedValue lib value <;> rfl
      · unfold maybeParseJsonStringAndAddValueToIgSignals
        cases parsedValue lib value with
        | none => exact hmoved value
        | some doc => exact hmoved doc

/-- The loop through keys at places of their own adds the usable values, the first of each
key. -/
theorem foldlM_visit (lib : Library) {l : List Pair} (hnodup : (l.map Prod.fst).Nodup)
    (htexts : ∀ pair ∈ l, ReadsText keyTag pair) {r : Conversion}
    (hfresh : ∀ pair ∈ l, pair.1 ∉ r.movedOut) : ∃ r', l.foldlM (visit lib keyTag) r = .ok r' ∧
      r'.igSignals = (l.filterMap fun pair =>
        (usableValue lib keyTag pair.2.2).map (pair.2.1, ·)).foldl addFirst r.igSignals ∧
      ∀ position ∈ r'.movedOut, position ∈ l.map Prod.fst ∨ position ∈ r.movedOut := by
  induction l generalizing r with
  | nil => exact ⟨r, rfl, rfl, fun _ h => .inr h⟩
  | cons pair rest ih =>
    obtain ⟨hnot, hrest⟩ := List.nodup_cons.mp hnodup
    obtain ⟨r₁, hvisit, hsignals, hmoved⟩ := visit_spec lib
      (hfresh pair List.mem_cons_self) (htexts pair List.mem_cons_self)
    have hfresh₁ : ∀ pair' ∈ rest, pair'.1 ∉ r₁.movedOut := by
      intro pair' hmem hout
      rcases hmoved _ hout with heq | hold
      · exact hnot (heq ▸ List.mem_map_of_mem hmem)
      · exact hfresh pair' (List.mem_cons_of_mem _ hmem) hold
    obtain ⟨r', hrun, hsignals', hmoved'⟩ := ih hrest
      (fun pair' h => htexts pair' (List.mem_cons_of_mem _ h)) hfresh₁
    refine ⟨r', ?_, ?_, ?_⟩
    · rw [List.foldlM_cons, hvisit]
      exact hrun
    · rw [hsignals', hsignals, List.filterMap_cons]
      cases usableValue lib keyTag pair.2.2 <;> rfl
    · intro position hposition
      rw [List.map_cons, List.mem_cons]
      rcases hmoved' position hposition with hin | hout
      · exact .inl (.inr hin)
      · rcases hmoved position hout with heq | hold
        · exact .inl (.inl heq)
        · exact .inr hold

/-- The signals of a tag: of the values of a key the first usable one. -/
def signals (lib : Library) (keyTag : String) (docs : List Json) : List (String × Json) :=
  (occurrences lib keyTag docs).foldl addFirst []

theorem readsText_of_mem {keyTags : List String} (h : ∀ json ∈ docs, WellFormedGroup keyTags json)
    (htag : keyTag ∈ keyTags) {pair : Pair} (hpair : pair ∈ pairs keyTag docs) :
    ReadsText keyTag pair := by
  rintro rfl value hvalue
  obtain ⟨json, hjson, hpair⟩ := List.mem_flatMap.mp hpair
  obtain ⟨partitionOutput, hpartition, hpair⟩ := List.mem_flatMap.mp hpair
  obtain ⟨output, houtput, hpair⟩ := List.mem_flatMap.mp hpair
  have hwell := ((h json.1 (List.fst_mem_of_mem_zipIdx hjson)).partitions partitionOutput.1
    (List.fst_mem_of_mem_zipIdx hpartition)).outputs output.1
    (List.fst_mem_of_mem_zipIdx houtput)
  unfold outputPairs at hpair
  split at hpair
  · rename_i hsame
    obtain ⟨keyValue, hkeyValue, rfl⟩ := List.mem_map.mp hpair
    exact hwell.texts htag hsame keyValue.1 (List.fst_mem_of_mem_zipIdx hkeyValue) value hvalue
  · cases hpair

/-- `GetIgSignalsForKeyTag`, where no name under the tag was moved out before. -/
theorem getIgSignalsForKeyTag_spec (lib : Library) {keyTags : List String}
    (h : ∀ json ∈ docs, WellFormedGroup keyTags json) (htag : keyTag ∈ keyTags)
    {movedOut : List Position} (hfresh : ∀ position ∈ movedOut, tagAt docs position ≠ some keyTag)
    (stats : KVV2AdapterStats) :
    ∃ r, getIgSignalsForKeyTag lib keyTag docs movedOut stats = .ok r ∧
      r.igSignals = signals lib keyTag docs ∧
      ∀ position ∈ r.movedOut, tagAt docs position = some keyTag ∨ position ∈ movedOut := by
  rw [getIgSignalsForKeyTag_eq h htag]
  obtain ⟨r, hrun, hsignals, hmoved⟩ := foldlM_visit lib nodup_pairs
    (fun pair hpair => readsText_of_mem h htag hpair)
    (r := { movedOut := movedOut, stats := stats })
    (fun pair hpair hout => hfresh _ hout (tagAt_of_mem hpair))
  refine ⟨r, hrun, ?_, fun position hposition => ?_⟩
  · rw [hsignals, filterMap_pairs]
    rfl
  · rcases hmoved position hposition with hin | hold
    · obtain ⟨pair, hpair, rfl⟩ := List.mem_map.mp hin
      exact .inl (tagAt_of_mem hpair)
    · exact .inr hold

end OneTag

/-! ## All tags -/

section AllTags

variable {lib : Library} {keyTags : List String} {docs : List Json}

theorem foldlM_addTag (lib : Library) (h : ∀ json ∈ docs, WellFormedGroup keyTags json)
    {tags : List String} (hsub : tags ⊆ keyTags) (hnodup : tags.Nodup) (s : TagSignals)
    (hfresh : ∀ tag ∈ tags, ∀ position ∈ s.movedOut, tagAt docs position ≠ some tag) :
    ∃ s', tags.foldlM (addTag lib docs) s = .ok s' ∧ ∀ tag, s'.igSignalsMap.lookup tag =
      if tag ∈ tags then some (signals lib tag docs) else s.igSignalsMap.lookup tag := by
  induction tags generalizing s with
  | nil => exact ⟨s, rfl, fun _ => rfl⟩
  | cons keyTag rest ih =>
    obtain ⟨hnot, hrest⟩ := List.nodup_cons.mp hnodup
    obtain ⟨r, hrun, hsignals, hmoved⟩ := getIgSignalsForKeyTag_spec lib h
      (hsub List.mem_cons_self) (hfresh keyTag List.mem_cons_self) s.stats
    have hstep : addTag lib docs s keyTag = .ok
        { igSignalsMap := s.igSignalsMap.insert keyTag r.igSignals
          movedOut := r.movedOut
          stats := r.stats } := by
      unfold addTag
      rw [hrun]
      rfl
    obtain ⟨s', hrun', hlookup⟩ := ih (fun _ htag => hsub (List.mem_cons_of_mem _ htag)) hrest
      { igSignalsMap := s.igSignalsMap.insert keyTag r.igSignals
        movedOut := r.movedOut
        stats := r.stats } (by
      intro tag htag position hposition hsame
      rcases hmoved position hposition with hown | hold
      · exact hnot (Option.some.inj (hown.symm.trans hsame) ▸ htag)
      · exact hfresh tag (List.mem_cons_of_mem _ htag) position hold hsame)
    refine ⟨s', ?_, fun tag => ?_⟩
    · rw [List.foldlM_cons, hstep]
      exact hrun'
    · rw [hlookup]
      by_cases htag : tag = keyTag
      · subst htag
        rw [if_neg hnot, if_pos List.mem_cons_self, AList.lookup_insert, hsignals]
      · rw [AList.lookup_insert_ne htag]
        simp only [List.mem_cons, htag, false_or]

/-- What the members of a converted document are: each tag, by its name in the first
version, maps each key to its first usable value in the response, and there is nothing
else. -/
structure IsConverted (lib : Library) (keyTags : List String) (docs : List Json)
    (members : List (String × Json)) : Prop where
  maps : ∀ tag ∈ keyTags, ∀ key,
    ((Json.object members).findMember (outputName tag)).bind (Json.findMember key) =
      ((occurrences lib tag docs).find? fun occurrence => occurrence.1 = key).map Prod.snd
  onlyTags : ∀ member ∈ members, ∃ tag ∈ keyTags, ∃ signals,
    member = (outputName tag, .object signals) ∧ signals ≠ [] ∧
      (signals.map Prod.fst).Nodup ∧ ∀ signal ∈ signals, signal ∈ occurrences lib tag docs
  names : (members.map Prod.fst).Nodup

/-- The library writes every object, and never as an empty text. -/
structure WritesObjects (lib : Library) : Prop where
  written : ∀ members, ∃ text, lib.serializeJsonDoc (.object members) = some text ∧ text ≠ ""

theorem mem_topLevelDoc {ord : HashOrder}
    {igSignalsMap : FlatHashMap String (List (String × Json))} {member : String × Json} :
    member ∈ topLevelDoc ord igSignalsMap ↔ ∃ tag signals,
      igSignalsMap.lookup tag = some signals ∧ signals ≠ [] ∧
        member = (outputName tag, .object signals) := by
  unfold topLevelDoc
  rw [List.mem_filterMap]
  constructor
  · rintro ⟨⟨tag, signals⟩, hentry, hmember⟩
    cases signals with
    | nil => cases hmember
    | cons signal rest =>
      exact ⟨tag, signal :: rest, HashOrder.mem_entries.mp hentry, List.cons_ne_nil _ _,
        (Option.some.inj hmember).symm⟩
  · rintro ⟨tag, signals, hlookup, hsome, rfl⟩
    refine ⟨(tag, signals), HashOrder.mem_entries.mpr hlookup, ?_⟩
    dsimp only
    rw [if_neg (by simpa using hsome)]

theorem nodup_topLevelDoc {ord : HashOrder}
    {igSignalsMap : FlatHashMap String (List (String × Json))}
    (htags : (keyTags.map outputName).Nodup)
    (hkeys : ∀ tag signals, igSignalsMap.lookup tag = some signals → tag ∈ keyTags) :
    ((topLevelDoc ord igSignalsMap).map Prod.fst).Nodup := by
  have hall : (((ord.entries igSignalsMap).map Prod.fst).map outputName).Nodup := by
    refine List.Nodup.map_on (fun tag htag tag' htag' hsame => ?_) HashOrder.keys_nodup
    obtain ⟨entry, hentry, rfl⟩ := List.mem_map.mp htag
    obtain ⟨entry', hentry', rfl⟩ := List.mem_map.mp htag'
    exact List.inj_on_of_nodup_map htags (hkeys _ _ (HashOrder.mem_entries.mp hentry))
      (hkeys _ _ (HashOrder.mem_entries.mp hentry')) hsame
  refine hall.sublist ?_
  unfold topLevelDoc
  rw [List.map_map]
  generalize ord.entries igSignalsMap = entries
  induction entries with
  | nil => exact List.Sublist.slnil
  | cons entry rest ih =>
    rw [List.filterMap_cons]
    split
    · exact ih.cons _
    · rename_i member hmember
      cases hempty : entry.2.isEmpty with
      | true => simp [hempty] at hmember
      | false =>
        simp only [hempty, Bool.false_eq_true, if_false, Option.some.injEq] at hmember
        subst hmember
        exact ih.cons_cons _

theorem mem_topLevelDoc_of_signals {ord : HashOrder}
    {igSignalsMap : FlatHashMap String (List (String × Json))}
    (hlookup : ∀ tag, igSignalsMap.lookup tag =
      if tag ∈ keyTags then some (signals lib tag docs) else none) {member : String × Json} :
    member ∈ topLevelDoc ord igSignalsMap ↔ ∃ tag ∈ keyTags, signals lib tag docs ≠ [] ∧
      member = (outputName tag, .object (signals lib tag docs)) := by
  rw [mem_topLevelDoc]
  constructor
  · rintro ⟨tag, found, hfound, hsome, rfl⟩
    rw [hlookup] at hfound
    split at hfound
    · rename_i htag
      cases hfound
      exact ⟨tag, htag, hsome, rfl⟩
    · cases hfound
  · rintro ⟨tag, htag, hsome, rfl⟩
    exact ⟨tag, _, by rw [hlookup, if_pos htag], hsome, rfl⟩

theorem topLevelDoc_eq_nil {ord : HashOrder}
    {igSignalsMap : FlatHashMap String (List (String × Json))}
    (hlookup : ∀ tag, igSignalsMap.lookup tag =
      if tag ∈ keyTags then some (signals lib tag docs) else none) :
    topLevelDoc ord igSignalsMap = [] ↔ ∀ tag ∈ keyTags, occurrences lib tag docs = [] := by
  rw [List.eq_nil_iff_forall_not_mem]
  constructor
  · intro h tag htag
    by_contra hsome
    have hsignals : signals lib tag docs ≠ [] := mt foldl_addFirst_eq_nil.mp hsome
    exact h _ ((mem_topLevelDoc_of_signals hlookup).mpr ⟨tag, htag, hsignals, rfl⟩)
  · intro h member hin
    obtain ⟨tag, htag, hsome, -⟩ := (mem_topLevelDoc_of_signals hlookup).mp hin
    exact hsome (foldl_addFirst_eq_nil.mpr (h tag htag))

theorem findMember_topLevelDoc {ord : HashOrder}
    {igSignalsMap : FlatHashMap String (List (String × Json))}
    (htags : (keyTags.map outputName).Nodup)
    (hlookup : ∀ tag, igSignalsMap.lookup tag =
      if tag ∈ keyTags then some (signals lib tag docs) else none)
    (hnames : ((topLevelDoc ord igSignalsMap).map Prod.fst).Nodup) {tag : String}
    (htag : tag ∈ keyTags) (key : String) :
    ((Json.object (topLevelDoc ord igSignalsMap)).findMember (outputName tag)).bind
        (Json.findMember key) =
      ((signals lib tag docs).find? fun signal => signal.1 = key).map Prod.snd := by
  rw [Json.findMember_object]
  by_cases hsome : signals lib tag docs = []
  · have hnot : (topLevelDoc ord igSignalsMap).find?
        (fun member => member.1 = outputName tag) = none := by
      rw [List.find?_eq_none]
      intro member hin hsame
      obtain ⟨tag', htag', hsome', rfl⟩ := (mem_topLevelDoc_of_signals hlookup).mp hin
      have htags' : tag' = tag :=
        List.inj_on_of_nodup_map htags htag' htag (of_decide_eq_true hsame)
      rw [htags'] at hsome'
      exact hsome' hsome
    rw [hnot, hsome]
    rfl
  · have hfound := find?_of_mem hnames
      ((mem_topLevelDoc_of_signals hlookup).mpr ⟨tag, htag, hsome, rfl⟩)
    rw [hfound]
    rfl

theorem isConverted_topLevelDoc {ord : HashOrder}
    {igSignalsMap : FlatHashMap String (List (String × Json))}
    (htags : (keyTags.map outputName).Nodup)
    (hlookup : ∀ tag, igSignalsMap.lookup tag =
      if tag ∈ keyTags then some (signals lib tag docs) else none) :
    IsConverted lib keyTags docs (topLevelDoc ord igSignalsMap) := by
  have hnames : ((topLevelDoc ord igSignalsMap).map Prod.fst).Nodup := by
    refine nodup_topLevelDoc htags fun tag found hfound => ?_
    rw [hlookup] at hfound
    by_contra hnot
    rw [if_neg hnot] at hfound
    cases hfound
  refine ⟨fun tag htag key => ?_, fun member hin => ?_, hnames⟩
  · rw [findMember_topLevelDoc htags hlookup hnames htag]
    exact congrArg (Option.map Prod.snd) (find?_foldl_addFirst _ [] key)
  · obtain ⟨tag, htag, hsome, rfl⟩ := (mem_topLevelDoc_of_signals hlookup).mp hin
    refine ⟨tag, htag, _, rfl, hsome, nodup_foldl_addFirst List.nodup_nil, ?_⟩
    intro signal hsignal
    rcases mem_foldl_addFirst hsignal with hnil | hoccurs
    · cases hnil
    · exact hoccurs

/-- For every well-formed response the conversion yields the text of an object that maps, for
each tag, each key to its first usable value, and the empty text exactly if no key has
one. -/
theorem convertKvV2ResponseToV1String_faithful (lib : Library) (hlib : WritesObjects lib)
    (ord : HashOrder) (keyTags : List String) (htags : (keyTags.map outputName).Nodup)
    (contents : List String) (docs : List Json) (hwell : WellFormed lib keyTags contents docs)
    (stats : KVV2AdapterStats) : ∃ members stats' text,
      convertKvV2Response lib ord keyTags contents stats = .ok (members, stats') ∧
      convertKvV2ResponseToV1String lib ord keyTags contents stats = .ok (text, stats') ∧
      IsConverted lib keyTags docs members ∧
      (members ≠ [] → lib.serializeJsonDoc (.object members) = some text) ∧
      (text = "" ↔ ∀ tag ∈ keyTags, occurrences lib tag docs = []) := by
  obtain ⟨s, hrun, hlookup⟩ := foldlM_addTag lib hwell.groups (List.Subset.refl _)
    (List.Nodup.of_map _ htags) { stats := stats } (fun _ _ _ h => by cases h)
  have hlookup (tag : String) : s.igSignalsMap.lookup tag =
      if tag ∈ keyTags then some (signals lib tag docs) else none := hlookup tag
  have hdocument : convertKvV2Response lib ord keyTags contents stats =
      .ok (topLevelDoc ord s.igSignalsMap, s.stats) := by
    unfold convertKvV2Response
    rw [hwell.parsed]
    show (keyTags.foldlM (addTag lib docs) { stats := stats } >>= _) = _
    rw [hrun]
    rfl
  have hnone : topLevelDoc ord s.igSignalsMap = [] ↔
      ∀ tag ∈ keyTags, occurrences lib tag docs = [] := topLevelDoc_eq_nil hlookup
  have hconverted : IsConverted lib keyTags docs (topLevelDoc ord s.igSignalsMap) :=
    isConverted_topLevelDoc htags hlookup
  obtain ⟨text, htext, hne⟩ := hlib.written (topLevelDoc ord s.igSignalsMap)
  unfold convertKvV2ResponseToV1String
  rw [hdocument]
  by_cases hempty : topLevelDoc ord s.igSignalsMap = []
  · refine ⟨_, s.stats, "", rfl, ?_, hconverted, fun hsome => absurd hempty hsome, ?_⟩
    · rw [hempty]
      rfl
    · exact iff_of_true rfl (hnone.mp hempty)
  · refine ⟨_, s.stats, text, rfl, ?_, hconverted, fun _ => htext, ?_⟩
    · show (if (topLevelDoc ord s.igSignalsMap).isEmpty then _ else _) = _
      rw [if_neg (by simpa using hempty), htext]
      rfl
    · exact iff_of_false hne (mt hnone.mpr hempty)

end AllTags

/-! ## The name of an interest group -/

/-- A response with one value, a text of a number, under the tag of the interest groups. -/
def numberResponse : Json :=
  .array [.object [(kKeyGroupOutputs, .array [.object
    [(kTags, .array [.string kInterestGroupNames]),
      (kKeyValues, .object [("ig", .object [(kValue, .string "5")])])]])]]

def numberContent : String :=
  "[\x7b\"keyGroupOutputs\":[\x7b\"tags\":[\"interestGroupNames\"]," ++
    "\"keyValues\":\x7b\"ig\":\x7b\"value\":\"5\"\x7d\x7d\x7d]\x7d]"

def numberLibrary : Library where
  parseJsonString text :=
    if text = "5" then some (.number 5)
    else if text = numberContent then some numberResponse
    else none
  serializeJsonDoc _ := some "\x7b\"perInterestGroupData\":\x7b\"ig\":5\x7d\x7d"
  messageToJsonString _ := none
  toString _ := ""
  toFloat := id

theorem writesObjects_numberLibrary : WritesObjects numberLibrary :=
  ⟨fun _ => ⟨_, rfl, by decide⟩⟩

theorem wellFormed_numberResponse :
    WellFormed numberLibrary [kInterestGroupNames] [numberContent] [numberResponse] := by
  refine ⟨rfl, fun json hjson => ?_⟩
  obtain rfl := List.mem_singleton.mp hjson
  refine ⟨⟨_, rfl⟩, fun partitionOutput hpartition => ?_⟩
  obtain rfl := List.mem_singleton.mp hpartition
  refine ⟨⟨_, rfl⟩, ⟨_, rfl⟩, fun output houtput => ?_⟩
  obtain rfl := List.mem_singleton.mp houtput
  refine ⟨⟨_, rfl⟩, fun value hvalue => ?_, fun _ _ _ => ⟨_, rfl⟩, fun _ _ keyValue hmem => ?_⟩
  · cases hvalue
    refine ⟨_, rfl, fun tag htag => ?_⟩
    cases htag
    exact ⟨_, rfl⟩
  · obtain rfl := List.mem_singleton.mp hmem
    intro value hvalue
    cases hvalue
    exact ⟨_, rfl⟩

theorem convertKvV2ResponseToV1String_faithful_example : ∃ members stats' text,
    convertKvV2Response numberLibrary .stored [kInterestGroupNames] [numberContent] {} =
      .ok (members, stats') ∧
    convertKvV2ResponseToV1String numberLibrary .stored [kInterestGroupNames] [numberContent] {} =
      .ok (text, stats') ∧
    IsConverted numberLibrary [kInterestGroupNames] [numberResponse] members ∧
    (members ≠ [] → numberLibrary.serializeJsonDoc (.object members) = some text) ∧
    (text = "" ↔ ∀ tag ∈ [kInterestGroupNames],
      occurrences numberLibrary tag [numberResponse] = []) :=
  convertKvV2ResponseToV1String_faithful numberLibrary writesObjects_numberLibrary .stored
    [kInterestGroupNames] (by decide) [numberContent] [numberResponse] wellFormed_numberResponse {}

def values (keyTag : String) (docs : List Json) : List (String × Json) :=
  docs.flatMap fun json => (elements json).flatMap fun partitionOutput =>
    (keyGroupOutputs partitionOutput).flatMap fun keyGroupOutput =>
      if tag? keyGroupOutput = some keyTag then
        (keyValues keyGroupOutput).filterMap fun keyValue =>
          (keyValue.2.findMember kValue).map (keyValue.1, ·)
      else []

/-- A value, parsed if it is a text of an object or an array. -/
def parsedIfDocument (lib : Library) (value : Json) : Json :=
  match value.string?.bind lib.parseJsonString with
  | some (.object members) => .object members
  | some (.array elements) => .array elements
  | _ => value

/-- Under the tag of the interest groups a text of a number is converted to the number. -/
theorem unchanged_unless_document_false :
    ¬ ∀ (lib : Library), WritesObjects lib → ∀ (ord : HashOrder) (keyTags : List String),
      (keyTags.map outputName).Nodup → ∀ (contents : List String) (docs : List Json),
      WellFormed lib keyTags contents docs → ∀ stats members stats',
      convertKvV2Response lib ord keyTags contents stats = .ok (members, stats') →
      ∀ tag ∈ keyTags, ∀ key value, values tag docs = [(key, value)] →
        ((Json.object members).findMember (outputName tag)).bind (Json.findMember key) =
          some (parsedIfDocument lib value) := by
  intro h
  have hsame := h numberLibrary writesObjects_numberLibrary .stored [kInterestGroupNames]
    (by decide) [numberContent] [numberResponse] wellFormed_numberResponse {} _ _ rfl
    kInterestGroupNames List.mem_cons_self "ig" (.string "5") rfl
  cases Option.some.inj hsame

end KvV2

end BiddingAuction
