import BiddingAuction.Foundation.FirstFailure
import BiddingAuction.Foundation.ItemTrace
import BiddingAuction.KeyValue.V2Faithful

/-!
# Malformed responses of the key-value server

The conversion goes through a response once for each tag: through the compression groups,
the partitions, the key groups, the keys. Some of what is not as expected is reported, and
some is read as if it were, which the JSON library asserts against.
-/

namespace BiddingAuction

open Foundation

namespace KvV2

/-! ## What is come upon -/

/-- What is looked at, a key group and a key under the tag that is asked for. -/
inductive Item where
  | group (json : Json)
  | partitionOutput (json : Json)
  | keyGroupOutput (keyTag : String) (json : Json)
  | keyValue (keyTag : String) (pair : Pair)

def outputItems (keyTag : String) (group partitionOutput : ℕ) (output : Json × ℕ) : List Item :=
  .keyGroupOutput keyTag output.1 ::
    (outputPairs keyTag group partitionOutput output).map (.keyValue keyTag)

def partitionItems (keyTag : String) (group : ℕ) (partitionOutput : Json × ℕ) : List Item :=
  .partitionOutput partitionOutput.1 ::
    (keyGroupOutputs partitionOutput.1).zipIdx.flatMap (outputItems keyTag group partitionOutput.2)

def groupItems (keyTag : String) (json : Json × ℕ) : List Item :=
  .group json.1 :: (elements json.1).zipIdx.flatMap (partitionItems keyTag json.2)

def tagItems (docs : List Json) (keyTag : String) : List Item :=
  docs.zipIdx.flatMap (groupItems keyTag)

def items (keyTags : List String) (docs : List Json) : List Item := keyTags.flatMap (tagItems docs)

def Item.IsReported : Item → Prop
  | .group json => ¬ ∃ partitionOutputs, json = .array partitionOutputs
  | .partitionOutput json => ¬ ∃ outputs, json.findMember kKeyGroupOutputs = some (.array outputs)
  | .keyGroupOutput keyTag json =>
    tag? json = some keyTag ∧ ¬ ∃ members, json.findMember kKeyValues = some (.object members)
  | .keyValue _ _ => False

/-- Tags that can be read: an array, with a text if it has one element. -/
def AreTags (value : Json) : Prop :=
  ∃ tags, value = .array tags ∧ ∀ tag, tags = [tag] → ∃ s, tag = .string s

/-- What is read as something that it is not: a key group that is no object, tags that are no
array or a single one that is no text, and of an interest group a value that is no text, unless
a value before it was usable. -/
def Item.IsFatal (lib : Library) (before : List Item) : Item → Prop
  | .group _ => False
  | .partitionOutput _ => False
  | .keyGroupOutput _ json => (¬ ∃ members, json = .object members) ∨
    ∃ value, json.findMember kTags = some value ∧ ¬ AreTags value
  | .keyValue keyTag pair => ¬ ReadsText keyTag pair ∧
    ∀ pair', .keyValue keyTag pair' ∈ before → pair'.2.1 = pair.2.1 →
      usableValue lib keyTag pair'.2.2 = none

def Item.Stops (lib : Library) (before : List Item) (item : Item) (e : Failure) : Prop :=
  item.IsReported ∧ e ≠ .aborted ∨ item.IsFatal lib before ∧ e = .aborted

theorem Item.not_isFatal_of_isReported {lib : Library} {before : List Item} {item : Item}
    (h : item.IsReported) : ¬ item.IsFatal lib before := by
  cases item with
  | group json => exact not_false
  | partitionOutput json => exact not_false
  | keyValue keyTag pair => exact h.elim
  | keyGroupOutput keyTag json =>
    obtain ⟨htag, -⟩ := h
    unfold tag? at htag
    split at htag
    · rename_i tag hvalue
      rintro (hobject | ⟨value, hfound, htags⟩)
      · cases json with
        | object members => exact hobject ⟨members, rfl⟩
        | _ => cases hvalue
      · rw [hvalue] at hfound
        cases hfound
        refine htags ⟨_, rfl, fun tag' h => ?_⟩
        cases h
        exact ⟨tag, rfl⟩
    · cases htag

/-! ## Places -/

def Item.position? : Item → Option Position
  | .keyValue _ pair => some pair.1
  | _ => none

def positions (items : List Item) : List Position := items.filterMap Item.position?

theorem positions_append (l l' : List Item) : positions (l ++ l') = positions l ++ positions l' :=
  List.filterMap_append

theorem positions_flatMap {α : Type} (l : List α) (f : α → List Item) :
    positions (l.flatMap f) = l.flatMap fun x => positions (f x) :=
  List.filterMap_flatMap

theorem positions_tagItems (docs : List Json) (keyTag : String) :
    positions (tagItems docs keyTag) = (pairs keyTag docs).map Prod.fst := by
  unfold tagItems pairs
  rw [positions_flatMap, List.map_flatMap]
  refine List.flatMap_congr fun json _ => ?_
  unfold groupItems groupPairs
  rw [List.map_flatMap]
  refine Eq.trans (List.filterMap_cons_none rfl) ((positions_flatMap _ _).trans ?_)
  refine List.flatMap_congr fun partitionOutput _ => ?_
  unfold partitionItems partitionPairs
  rw [List.map_flatMap]
  refine Eq.trans (List.filterMap_cons_none rfl) ((positions_flatMap _ _).trans ?_)
  refine List.flatMap_congr fun output _ => ?_
  unfold outputItems
  refine Eq.trans (List.filterMap_cons_none rfl) ?_
  rw [List.filterMap_map]
  exact congrFun (List.filterMap_eq_map (f := Prod.fst)) _

theorem nodup_positions_items {keyTags : List String} (hnodup : keyTags.Nodup)
    (docs : List Json) : (positions (items keyTags docs)).Nodup := by
  unfold items
  rw [positions_flatMap]
  simp only [positions_tagItems]
  refine List.nodup_flatMap.mpr
    ⟨fun keyTag _ => nodup_pairs, hnodup.imp fun {keyTag keyTag'} hne => ?_⟩
  intro position h h'
  obtain ⟨pair, hpair, rfl⟩ := List.mem_map.mp h
  obtain ⟨pair', hpair', hsame⟩ := List.mem_map.mp h'
  have htag := tagAt_of_mem hpair
  rw [← hsame, tagAt_of_mem hpair'] at htag
  exact hne (Option.some.inj htag).symm

/-! ## One key -/

section Runs

variable {lib : Library} {keyTag : String}

/-- What the signals of a tag have to do with the items before: they have the names with a usable
value, and only what was looked at was moved out. -/
structure Tracked (lib : Library) (keyTag : String) (before : List Item) (r : Conversion) :
    Prop where
  names : ∀ name, r.igSignals.any (·.1 = name) = true ↔ ∃ pair, .keyValue keyTag pair ∈ before ∧
    pair.2.1 = name ∧ usableValue lib keyTag pair.2.2 ≠ none
  movedOut : ∀ position ∈ r.movedOut, position ∈ positions before

theorem Tracked.skip {before : List Item} {r : Conversion} (h : Tracked lib keyTag before r)
    {item : Item} (hitem : ∀ pair, item ≠ .keyValue keyTag pair) :
    Tracked lib keyTag (before ++ [item]) r := by
  refine ⟨fun name => (h.names name).trans ?_, fun position hposition => ?_⟩
  · refine exists_congr fun pair => and_congr_left fun _ => ?_
    rw [List.mem_append, List.mem_singleton, or_iff_left (hitem pair).symm]
  · rw [positions_append]
    exact List.mem_append_left _ (h.movedOut position hposition)

theorem any_addFirst (signals : List (String × Json)) (signal : String × Json) (name : String) :
    (addFirst signals signal).any (·.1 = name) = true ↔
      signals.any (·.1 = name) = true ∨ signal.1 = name := by
  unfold addFirst
  split
  · rename_i hthere
    refine ⟨.inl, ?_⟩
    rintro (h | rfl)
    · exact h
    · exact hthere
  · rw [List.any_append, Bool.or_eq_true]
    simp

theorem Tracked.visit {before : List Item} {r r' : Conversion} {pair : Pair}
    (h : Tracked lib keyTag before r)
    (hsignals : r'.igSignals = ((usableValue lib keyTag pair.2.2).map (pair.2.1, ·)).elim
      r.igSignals (addFirst r.igSignals))
    (hmoved : ∀ position ∈ r'.movedOut, position = pair.1 ∨ position ∈ r.movedOut) :
    Tracked lib keyTag (before ++ [.keyValue keyTag pair]) r' := by
  constructor
  · intro name
    have hsplit : (∃ pair', Item.keyValue keyTag pair' ∈ before ++ [.keyValue keyTag pair] ∧
        pair'.2.1 = name ∧ usableValue lib keyTag pair'.2.2 ≠ none) ↔
        r.igSignals.any (·.1 = name) = true ∨
          pair.2.1 = name ∧ usableValue lib keyTag pair.2.2 ≠ none := by
      rw [h.names name]
      constructor
      · rintro ⟨pair', hmem, hpair'⟩
        rcases List.mem_append.mp hmem with hbefore | hlast
        · exact .inl ⟨pair', hbefore, hpair'⟩
        · cases List.mem_singleton.mp hlast
          exact .inr hpair'
      · rintro (⟨pair', hbefore, hpair'⟩ | hpair)
        · exact ⟨pair', List.mem_append_left _ hbefore, hpair'⟩
        · exact ⟨pair, List.mem_append_right _ List.mem_cons_self, hpair⟩
    rw [hsplit, hsignals]
    cases usableValue lib keyTag pair.2.2 with
    | none => exact (or_iff_left fun h => h.2 rfl).symm
    | some value =>
      refine (any_addFirst _ _ _).trans (or_congr_right ?_)
      exact (and_iff_left (Option.some_ne_none value)).symm
  · intro position hposition
    rw [positions_append, List.mem_append]
    rcases hmoved position hposition with rfl | hold
    · exact .inr List.mem_cons_self
    · exact .inl (h.movedOut position hold)

theorem visit_trace {before : List Item} {pair : Pair}
    (hfits : (positions (before ++ [.keyValue keyTag pair])).Nodup) {r : Conversion}
    (h : Tracked lib keyTag before r) :
    ItemTrace (Item.Stops lib) (Tracked lib keyTag) before [.keyValue keyTag pair]
      (visit lib keyTag r pair) := by
  have hfresh : pair.1 ∉ r.movedOut := by
    intro hmoved
    rw [positions_append] at hfits
    exact (List.nodup_append.mp hfits).2.2 _ (h.movedOut _ hmoved) _ List.mem_cons_self rfl
  have hpass (hnot : ¬ (Item.keyValue keyTag pair).IsFatal lib before) :
      ∀ e, ¬ (Item.keyValue keyTag pair).Stops lib before e := by
    rintro e (⟨hreported, -⟩ | ⟨hfatal, -⟩)
    · exact hreported
    · exact hnot hfatal
  by_cases htext : ReadsText keyTag pair
  · obtain ⟨r', hvisit, hsignals, hmoved⟩ := visit_spec lib hfresh htext
    rw [hvisit]
    exact .next (hpass fun hfatal => hfatal.1 htext) (.done (h.visit hsignals hmoved))
  have hvisit : visit lib keyTag r pair =
      if r.igSignals.any (·.1 = pair.2.1) then .ok r else .error .aborted := by
    unfold ReadsText at htext
    push Not at htext
    obtain ⟨rfl, value, hvalue, hnot⟩ := htext
    obtain ⟨position, name, wrapper⟩ := pair
    unfold visit addKeyValue
    rw [if_neg hfresh]
    dsimp only at hvalue ⊢
    rw [hvalue]
    cases value with
    | string s => exact absurd rfl (hnot s)
    | _ => rfl
  have hunusable : usableValue lib keyTag pair.2.2 = none := by
    unfold ReadsText at htext
    push Not at htext
    obtain ⟨rfl, value, hvalue, hnot⟩ := htext
    unfold usableValue
    rw [hvalue, Option.bind_some, if_pos rfl]
    cases value with
    | string s => exact absurd rfl (hnot s)
    | _ => rfl
  rw [hvisit]
  by_cases hthere : r.igSignals.any (·.1 = pair.2.1) = true
  · -- the key has a value already, and this one is not even read
    rw [if_pos hthere]
    obtain ⟨pair', hbefore, hname, husable⟩ := (h.names _).mp hthere
    refine .next (hpass fun hfatal => husable (hfatal.2 pair' hbefore hname)) (.done ?_)
    refine h.visit ?_ fun position hposition => .inr hposition
    rw [hunusable]
    rfl
  · rw [if_neg hthere]
    refine .stop (.inr ⟨⟨htext, fun pair' hbefore hname => ?_⟩, rfl⟩)
    by_contra husable
    exact hthere ((h.names _).mpr ⟨pair', hbefore, hname, husable⟩)

/-! ## The loops -/

def Fresh (items : List Item) : Prop := (positions items).Nodup

theorem Fresh.of_append {l l' : List Item} (h : Fresh (l ++ l')) : Fresh l := by
  unfold Fresh at h
  rw [positions_append] at h
  exact h.of_append_left

theorem readTag_of_isFatal {before : List Item} {output : Json}
    (h : (Item.keyGroupOutput keyTag output).IsFatal lib before) :
    readTag output = .error .aborted := by
  unfold readTag
  rcases h with hobject | ⟨value, hvalue, htags⟩
  · cases output with
    | object members => exact absurd ⟨members, rfl⟩ hobject
    | _ => rfl
  · cases output with
    | object members =>
      dsimp only
      rw [hvalue]
      cases value with
      | array tags =>
        -- a single tag that is no text
        match tags, htags with
        | [], htags => exact absurd ⟨[], rfl, fun tag h => nomatch h⟩ htags
        | [tag], htags =>
          cases tag with
          | string s =>
            refine absurd ⟨_, rfl, fun tag' h => ?_⟩ htags
            cases h
            exact ⟨s, rfl⟩
          | _ => rfl
        | tag :: next :: rest, htags => exact absurd ⟨_, rfl, fun tag' h => nomatch h⟩ htags
      | _ => rfl
    | _ => rfl

theorem addKeyGroupOutput_trace {group partitionOutput : ℕ} {output : Json × ℕ}
    {before : List Item} {r : Conversion}
    (hfits : Fresh (before ++ outputItems keyTag group partitionOutput output))
    (h : Tracked lib keyTag before r) :
    ItemTrace (Item.Stops lib) (Tracked lib keyTag) before
      (outputItems keyTag group partitionOutput output)
      (addKeyGroupOutput lib keyTag group partitionOutput r output) := by
  unfold addKeyGroupOutput
  by_cases hfatal : (Item.keyGroupOutput keyTag output.1).IsFatal lib before
  · rw [readTag_of_isFatal hfatal]
    exact .stop (.inr ⟨hfatal, rfl⟩)
  have htags := hfatal
  unfold Item.IsFatal at htags
  push Not at htags
  rw [readTag_of_tags htags.1 htags.2]
  show ItemTrace _ _ _ _ (if tag? output.1 = some keyTag then _ else _)
  have hskip : Tracked lib keyTag (before ++ [.keyGroupOutput keyTag output.1]) r :=
    h.skip fun pair => nofun
  by_cases htag : tag? output.1 = some keyTag
  · rw [if_pos htag]
    by_cases hkeys : ∃ ms, output.1.findMember kKeyValues = some (.object ms)
    · obtain ⟨ms, hms⟩ := hkeys
      rw [readKeyValues_eq hms]
      show ItemTrace _ _ _ _ (List.foldlM _ r ms.zipIdx)
      rw [foldlM_keyValues htag hms group partitionOutput r]
      refine .next ?_ ?_
      · rintro e (⟨hreported, -⟩ | ⟨hfatal', -⟩)
        · exact hreported.2 ⟨ms, hms⟩
        · exact hfatal hfatal'
      · unfold outputItems at hfits
        rw [List.append_cons] at hfits
        rw [List.map_eq_flatMap] at hfits ⊢
        refine ItemTrace.foldlM (fun _ _ => Fresh.of_append) ?_ hfits hskip
        exact fun pair _ before' s hfresh hs => visit_trace hfresh hs
    · have hread : readKeyValues group output.1 = .error (keyValuesError group) := by
        unfold readKeyValues
        split
        · rename_i ms hms
          exact absurd ⟨ms, hms⟩ hkeys
        · rfl
      rw [hread]
      exact .stop (.inl ⟨⟨htag, hkeys⟩, fun h => nomatch h⟩)
  · rw [if_neg htag]
    unfold outputItems outputPairs
    rw [if_neg htag]
    refine .next ?_ (.done hskip)
    rintro e (⟨hreported, -⟩ | ⟨hfatal', -⟩)
    · exact htag hreported.1
    · exact hfatal hfatal'

theorem readKeyGroupOutputs_eq_ok {group : ℕ} {json : Json} {outputs : List Json} :
    readKeyGroupOutputs group json = .ok outputs ↔
      json.findMember kKeyGroupOutputs = some (.array outputs) := by
  unfold readKeyGroupOutputs
  cases json with
  | object members =>
    dsimp only
    split
    · rename_i outputs' hfound
      rw [hfound, Except.ok.injEq, Option.some.injEq, Json.array.injEq]
    · rename_i hnot
      exact iff_of_false (fun h => nomatch h) (hnot outputs)
  | _ => exact iff_of_false (fun h => nomatch h) fun h => nomatch h

theorem readKeyGroupOutputs_ne_aborted (group : ℕ) (json : Json) :
    readKeyGroupOutputs group json ≠ .error .aborted := by
  unfold readKeyGroupOutputs
  split
  · split <;> exact fun h => nomatch h
  · exact fun h => nomatch h

theorem stops_of_error {α : Type} {m : Except Failure α} {before : List Item} {item : Item}
    (hreported : item.IsReported ↔ ¬ ∃ a, m = .ok a) (haborted : m ≠ .error .aborted) :
    ∀ e, m = .error e → item.Stops lib before e := by
  rintro e rfl
  exact .inl ⟨hreported.mpr fun ⟨a, ha⟩ => (nomatch ha), fun h => haborted (h ▸ rfl)⟩

theorem not_stops_of_ok {α : Type} {m : Except Failure α} {before : List Item} {item : Item}
    (hreported : item.IsReported ↔ ¬ ∃ a, m = .ok a) (hfatal : ¬ item.IsFatal lib before) {a : α}
    (h : m = .ok a) : ∀ e, ¬ item.Stops lib before e := by
  rintro e (⟨hitem, -⟩ | ⟨hitem, -⟩)
  · exact hreported.mp hitem ⟨a, h⟩
  · exact hfatal hitem

theorem addPartitionOutput_trace {group : ℕ} {partitionOutput : Json × ℕ} {before : List Item}
    {r : Conversion} (hfits : Fresh (before ++ partitionItems keyTag group partitionOutput))
    (h : Tracked lib keyTag before r) :
    ItemTrace (Item.Stops lib) (Tracked lib keyTag) before
      (partitionItems keyTag group partitionOutput)
      (addPartitionOutput lib keyTag group r partitionOutput) := by
  have hreported : (Item.partitionOutput partitionOutput.1).IsReported ↔
      ¬ ∃ outputs, readKeyGroupOutputs group partitionOutput.1 = .ok outputs := by
    simp only [readKeyGroupOutputs_eq_ok]
    rfl
  refine ItemTrace.read (stops_of_error hreported (readKeyGroupOutputs_ne_aborted _ _))
    fun outputs hread => ⟨not_stops_of_ok hreported not_false hread, ?_⟩
  have hvalues : keyGroupOutputs partitionOutput.1 = outputs := by
    unfold keyGroupOutputs
    rw [readKeyGroupOutputs_eq_ok.mp hread]
    rfl
  unfold partitionItems at hfits
  rw [List.append_cons] at hfits
  rw [hvalues] at hfits ⊢
  refine ItemTrace.foldlM (fun _ _ => Fresh.of_append) ?_ hfits (h.skip fun pair => nofun)
  exact fun output _ before' r' hfresh hr' => addKeyGroupOutput_trace hfresh hr'

theorem addGroup_trace {json : Json × ℕ} {before : List Item} {r : Conversion}
    (hfits : Fresh (before ++ groupItems keyTag json)) (h : Tracked lib keyTag before r) :
    ItemTrace (Item.Stops lib) (Tracked lib keyTag) before (groupItems keyTag json)
      (addGroup lib keyTag r json) := by
  have hread (partitionOutputs : List Json) :
      readPartitionOutputs json.2 json.1 = .ok partitionOutputs ↔
        json.1 = .array partitionOutputs := by
    cases json.1 with
    | array partitionOutputs' =>
      show (Except.ok partitionOutputs' : Except Failure (List Json)) = .ok partitionOutputs ↔ _
      rw [Except.ok.injEq, Json.array.injEq]
    | _ => exact iff_of_false (fun h => nomatch h) fun h => nomatch h
  have haborted : readPartitionOutputs json.2 json.1 ≠ .error .aborted := by
    cases json.1 <;> exact fun h => nomatch h
  have hreported : (Item.group json.1).IsReported ↔
      ¬ ∃ partitionOutputs, readPartitionOutputs json.2 json.1 = .ok partitionOutputs := by
    simp only [hread]
    rfl
  refine ItemTrace.read (stops_of_error hreported haborted)
    fun partitionOutputs hok => ⟨not_stops_of_ok hreported not_false hok, ?_⟩
  have hvalues : elements json.1 = partitionOutputs := by
    rw [(hread _).mp hok]
    rfl
  unfold groupItems at hfits
  rw [List.append_cons] at hfits
  rw [hvalues] at hfits ⊢
  refine ItemTrace.foldlM (fun _ _ => Fresh.of_append) ?_ hfits (h.skip fun pair => nofun)
  exact fun partitionOutput _ before' r' hfresh hr' => addPartitionOutput_trace hfresh hr'

/-- After the tags before only places were moved out that were looked at. -/
def Moved (before : List Item) (s : TagSignals) : Prop :=
  ∀ position ∈ s.movedOut, position ∈ positions before

variable (lib) in
theorem addTag_trace {docs : List Json} {before : List Item} {s : TagSignals}
    (hfits : Fresh (before ++ tagItems docs keyTag))
    (hother : ∀ pair, Item.keyValue keyTag pair ∉ before) (h : Moved before s) :
    ItemTrace (Item.Stops lib) Moved before (tagItems docs keyTag) (addTag lib docs s keyTag) := by
  have hstart : Tracked lib keyTag before { movedOut := s.movedOut, stats := s.stats } := by
    refine ⟨fun name => iff_of_false Bool.false_ne_true ?_, h⟩
    rintro ⟨pair, hpair, -⟩
    exact hother pair hpair
  have hrun : ItemTrace (Item.Stops lib) (Tracked lib keyTag) before (tagItems docs keyTag)
      (getIgSignalsForKeyTag lib keyTag docs s.movedOut s.stats) :=
    ItemTrace.foldlM (fun _ _ => Fresh.of_append)
      (fun json _ before' r hfresh hr => addGroup_trace hfresh hr) hfits hstart
  have hpure : ItemTrace (Item.Stops lib) Moved before (tagItems docs keyTag ++ [])
      (addTag lib docs s keyTag) := hrun.bind fun r hr => .done hr.movedOut
  rw [List.append_nil] at hpure
  exact hpure

theorem keyValue_mem_tagItems {docs : List Json} {keyTag' : String} {pair : Pair}
    (h : Item.keyValue keyTag pair ∈ tagItems docs keyTag') : keyTag = keyTag' := by
  obtain ⟨json, -, h⟩ := List.mem_flatMap.mp h
  rcases List.mem_cons.mp h with h | h
  · cases h
  obtain ⟨partitionOutput, -, h⟩ := List.mem_flatMap.mp h
  rcases List.mem_cons.mp h with h | h
  · cases h
  obtain ⟨output, -, h⟩ := List.mem_flatMap.mp h
  rcases List.mem_cons.mp h with h | h
  · cases h
  obtain ⟨pair', -, h⟩ := List.mem_map.mp h
  cases h
  rfl

variable (lib) in
theorem foldlM_addTag_trace {docs : List Json} {keyTags : List String} (hnodup : keyTags.Nodup)
    {before : List Item} {s : TagSignals} (hfits : Fresh (before ++ items keyTags docs))
    (hother : ∀ keyTag ∈ keyTags, ∀ pair, Item.keyValue keyTag pair ∉ before)
    (h : Moved before s) :
    ItemTrace (Item.Stops lib) Moved before (items keyTags docs)
      (keyTags.foldlM (addTag lib docs) s) := by
  induction keyTags generalizing before s with
  | nil => exact .done h
  | cons keyTag keyTags ih =>
    obtain ⟨hnot, hrest⟩ := List.nodup_cons.mp hnodup
    unfold items at hfits ⊢
    rw [List.flatMap_cons, ← List.append_assoc] at hfits
    rw [List.flatMap_cons, List.foldlM_cons]
    have hfirst := addTag_trace lib hfits.of_append (hother keyTag List.mem_cons_self) h
    refine hfirst.bind fun s' hs' => ih hrest hfits ?_ hs'
    intro keyTag' hkeyTag' pair hpair
    rcases List.mem_append.mp hpair with hbefore | hlast
    · exact hother keyTag' (List.mem_cons_of_mem _ hkeyTag') pair hbefore
    · exact hnot (keyValue_mem_tagItems hlast ▸ hkeyTag')

end Runs

/-! ## The conversion -/

/-- Nothing is come upon that is fatal, with nothing reported before it. -/
def ReadsSafely (lib : Library) (keyTags : List String) (docs : List Json) : Prop :=
  ∀ before item after, items keyTags docs = before ++ item :: after →
    (∀ earlier ∈ before, ¬ earlier.IsReported) → ¬ item.IsFatal lib before

theorem foldlM_addTag_eq_aborted (lib : Library) {keyTags : List String} (hnodup : keyTags.Nodup)
    (docs : List Json) (stats : KVV2AdapterStats) :
    keyTags.foldlM (addTag lib docs) { stats := stats } = .error .aborted ↔
      ¬ ReadsSafely lib keyTags docs := by
  have hrun : ItemTrace (Item.Stops lib) Moved [] (items keyTags docs)
      (keyTags.foldlM (addTag lib docs) { stats := stats }) :=
    foldlM_addTag_trace lib hnodup (nodup_positions_items hnodup docs)
      (fun keyTag _ pair => List.not_mem_nil) (fun position h => nomatch h)
  rw [hrun.eq_error_iff .aborted Item.IsReported]
  · unfold ReadsSafely
    push Not
    refine exists_congr fun before => exists_congr fun item => exists_congr fun after =>
      and_congr_right fun _ => and_congr_right fun _ => ?_
    unfold Item.Stops
    simp
  · intro before item
    constructor
    · intro h
      exact ⟨.jsonParseError, nofun, .inl ⟨h, nofun⟩⟩
    · rintro ⟨e, he, ⟨h, -⟩ | ⟨-, h⟩⟩
      · exact h
      · exact absurd h he
  · rintro before item e hreported (⟨-, he⟩ | ⟨hfatal, -⟩)
    · exact he
    · exact absurd hfatal (Item.not_isFatal_of_isReported hreported)

/-- The conversion is asserted against if the compression groups are JSON and what is fatal is
come upon. -/
theorem convertKvV2ResponseToV1String_ne_aborted_iff (lib : Library) (ord : HashOrder)
    {keyTags : List String} (hnodup : keyTags.Nodup) (contents : List String)
    (stats : KVV2AdapterStats) :
    convertKvV2ResponseToV1String lib ord keyTags contents stats ≠ .error .aborted ↔
      ∀ docs, parseGroups lib contents = .ok docs → ReadsSafely lib keyTags docs := by
  have hgroups : parseGroups lib contents ≠ .error .aborted := by
    intro h
    obtain ⟨content, -, hcontent⟩ := except_mapM_eq_error.mp h
    split at hcontent
    · cases hcontent
    · cases hcontent
  have hconvert : convertKvV2Response lib ord keyTags contents stats = .error .aborted ↔
      ∃ docs, parseGroups lib contents = .ok docs ∧ ¬ ReadsSafely lib keyTags docs := by
    unfold convertKvV2Response
    rw [except_bind_eq_error, or_iff_right hgroups]
    refine exists_congr fun docs => and_congr_right fun _ => ?_
    rw [except_bind_eq_error, foldlM_addTag_eq_aborted lib hnodup docs stats, or_iff_left]
    rintro ⟨s, -, h⟩
    cases h
  rw [← not_iff_not, not_not]
  push Not
  rw [← hconvert]
  unfold convertKvV2ResponseToV1String
  rw [except_bind_eq_error, or_iff_left]
  -- what is left writes the object down
  rintro ⟨⟨members, stats'⟩, -, h⟩
  dsimp only at h
  split at h
  · cases h
  · split at h
    · cases h
    · cases h

end KvV2

end BiddingAuction
