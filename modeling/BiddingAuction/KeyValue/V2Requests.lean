import BiddingAuction.BuyerFrontEnd.BiddingRequests
import BiddingAuction.SelectAd.Processing

/-!
# Requests to the key-value server in its second version

A buyer asks with one partition for each interest group, a seller with one for each bid that
has a URL. The server answers by the ids of partitions. A counter runs through either request:
the seller's stands at the number of partitions, so the ids are distinct. The buyer's goes on
with each interest group, but its value becomes an id in the loop through the keys only, and a
group without keys keeps the id of the first one.
-/

namespace BiddingAuction

namespace KvV2

open BuyerFrontEnd (UDFArgument RequestPartition GetValuesRequest requestPartition
  createV2BiddingRequest clientTypeNumber)
open SelectAd (ScoringSignalsRequest BuyerReply BuyerInputForBidding InterestGroup
  BrowserSignalsForBidding ConsentedDebugConfiguration GetBidsRawRequest)

/-! ## The request of a seller -/

def kSellerKvClientVersion := "Bna.PA.Seller.20240930"
def kKvRenderUrls := "renderUrls"
def kKvAdComponentRenderUrls := "adComponentRenderUrls"

/-- `BuildArgument`: empty keys are left out. -/
def buildArgument (keys : List String) (tag : String) : UDFArgument := ⟨tag, keys.filter (· ≠ "")⟩

def bidArguments (ad : AdWithBid ℚ) : List UDFArgument :=
  [buildArgument [ad.render] kKvRenderUrls,
    buildArgument ad.adComponents kKvAdComponentRenderUrls].filter fun arg => !arg.keys.isEmpty

def protectedAppSignalsArguments (ad : SelectAd.ProtectedAppSignalsBid) : List UDFArgument :=
  [buildArgument [ad.render] kKvRenderUrls].filter fun arg => !arg.keys.isEmpty

/-- The partitions so far, and `compression_and_partition_id`. -/
structure Partitions where
  partitions : List RequestPartition := []
  compressionAndPartitionId : ℕ := 0

def addPartition (s : Partitions) (arguments : List UDFArgument) : Partitions :=
  if arguments.isEmpty then s
  else
    { partitions := s.partitions ++
        [⟨s.compressionAndPartitionId, s.compressionAndPartitionId, arguments⟩]
      compressionAndPartitionId := s.compressionAndPartitionId + 1 }

def addBuyer (isPasEnabled : Bool) (s : Partitions) (getBidsResponse : BuyerReply) : Partitions :=
  let s := (getBidsResponse.bids.map bidArguments).foldl addPartition s
  if isPasEnabled then
    (getBidsResponse.protectedAppSignalsBids.map protectedAppSignalsArguments).foldl addPartition s
  else s

/-- `CreateV2ScoringRequest`. -/
def createV2ScoringRequest (scoringSignalsRequest : ScoringSignalsRequest) (isPasEnabled : Bool)
    (consentedDebugConfig : Option ConsentedDebugConfiguration) :
    Except String GetValuesRequest :=
  let s := (scoringSignalsRequest.buyerBidsMap.entries.map Sigma.snd).foldl
    (addBuyer isPasEnabled) {}
  if s.partitions.isEmpty then
    .error "No renderUrls and adComponentRenderUrls in scoring_signals_request"
  else
    .ok
      { clientVersion := kSellerKvClientVersion
        metadata :=
          [("client_type", toString (clientTypeNumber scoringSignalsRequest.clientType)),
            ("experiment_group_id", scoringSignalsRequest.sellerKvExperimentGroupId)]
        consentedDebugConfig := consentedDebugConfig
        logContext := {}
        partitions := s.partitions }

/-! ## Distinct ids -/

/-- Partitions can be told apart, and each is a compression group of its own. -/
structure Distinguishable (partitions : List RequestPartition) : Prop where
  nodup : (partitions.map RequestPartition.id).Nodup
  compressionGroup : ∀ partition ∈ partitions, partition.id = partition.compressionGroupId

structure Counts (s : Partitions) : Prop where
  ids : s.partitions.map RequestPartition.id = List.range s.compressionAndPartitionId
  compressionGroup : ∀ partition ∈ s.partitions, partition.id = partition.compressionGroupId

theorem Counts.addPartition {s : Partitions} (h : Counts s) (arguments : List UDFArgument) :
    Counts (addPartition s arguments) := by
  unfold KvV2.addPartition
  split
  · exact h
  · refine ⟨?_, ?_⟩
    · rw [List.map_append, h.ids, List.range_succ]
      rfl
    · intro partition hpartition
      rcases List.mem_append.mp hpartition with hbefore | hnew
      · exact h.compressionGroup partition hbefore
      · rw [List.mem_singleton.mp hnew]

theorem Counts.addPartitions {s : Partitions} (h : Counts s) (ads : List (List UDFArgument)) :
    Counts (ads.foldl KvV2.addPartition s) := by
  induction ads generalizing s with
  | nil => exact h
  | cons arguments ads ih => exact ih (h.addPartition arguments)

theorem Counts.addBuyers {s : Partitions} (h : Counts s) (isPasEnabled : Bool)
    (responses : List BuyerReply) : Counts (responses.foldl (addBuyer isPasEnabled) s) := by
  induction responses generalizing s with
  | nil => exact h
  | cons response responses ih =>
    apply ih
    unfold addBuyer
    split
    · exact (h.addPartitions _).addPartitions _
    · exact h.addPartitions _

theorem Counts.distinguishable {s : Partitions} (h : Counts s) :
    Distinguishable s.partitions where
  nodup := by
    rw [h.ids]
    exact List.nodup_range
  compressionGroup := h.compressionGroup

theorem createV2ScoringRequest_distinguishable {scoringSignalsRequest : ScoringSignalsRequest}
    {isPasEnabled : Bool} {consentedDebugConfig : Option ConsentedDebugConfiguration}
    {request : GetValuesRequest}
    (h : createV2ScoringRequest scoringSignalsRequest isPasEnabled consentedDebugConfig =
      .ok request) : Distinguishable request.partitions := by
  have hinit : Counts {} := ⟨rfl, fun partition hpartition => nomatch hpartition⟩
  unfold createV2ScoringRequest at h
  dsimp only at h
  split at h
  · cases h
  · cases h
    exact (hinit.addBuyers isPasEnabled _).distinguishable

/-! ## The request of a buyer -/

theorem requestPartition_compressionGroup (ig : InterestGroup BrowserSignalsForBidding)
    (index : ℕ) : (requestPartition ig index).id = (requestPartition ig index).compressionGroupId :=
  rfl

theorem ids_of_keys {groups : List (InterestGroup BrowserSignalsForBidding)} {index : ℕ}
    (hkeys : ∀ ig ∈ groups, ig.biddingSignalsKeys ≠ []) :
    ((groups.zipIdx index).map fun ig => (requestPartition ig.1 ig.2).id) =
      List.range' index groups.length := by
  induction groups generalizing index with
  | nil => rfl
  | cons ig groups ih =>
    have hself : (requestPartition ig index).id = index :=
      if_neg (List.isEmpty_eq_false_iff.mpr (hkeys ig List.mem_cons_self) ▸ Bool.false_ne_true)
    rw [List.zipIdx_cons, List.map_cons, hself,
      ih fun ig' hig' => hkeys ig' (List.mem_cons_of_mem ig hig'), List.length_cons,
      List.range'_succ]

theorem id_mem_of_noKeys {groups : List (InterestGroup BrowserSignalsForBidding)} {index : ℕ}
    {ig : InterestGroup BrowserSignalsForBidding} (hig : ig ∈ groups)
    (hnoKeys : ig.biddingSignalsKeys = []) :
    0 ∈ (groups.zipIdx index).map fun ig => (requestPartition ig.1 ig.2).id := by
  obtain ⟨i, hi⟩ := List.mem_iff_getElem?.mp hig
  refine List.mem_map.mpr ⟨(ig, index + i), ?_, ?_⟩
  · rw [List.mem_zipIdx_iff_le_and_getElem?_sub]
    exact ⟨Nat.le_add_right _ _, by rw [Nat.add_sub_cancel_left]; exact hi⟩
  · show (if ig.biddingSignalsKeys.isEmpty then 0 else index + i) = 0
    rw [hnoKeys]
    rfl

/-- The partitions of a list of interest groups can be told apart if and only if all but the
first have keys. -/
theorem distinguishable_requestPartitions_iff
    (groups : List (InterestGroup BrowserSignalsForBidding)) :
    Distinguishable (groups.zipIdx.map fun ig => requestPartition ig.1 ig.2) ↔
      ∀ ig ∈ groups.tail, ig.biddingSignalsKeys ≠ [] := by
  cases groups with
  | nil =>
    constructor
    · intro _ ig hig
      cases hig
    · intro _
      exact ⟨List.nodup_nil, fun partition hpartition => nomatch hpartition⟩
  | cons first groups =>
    have hfirst : (requestPartition first 0).id = 0 := ite_self 0
    have hids : ((first :: groups).zipIdx.map fun ig => requestPartition ig.1 ig.2).map
        RequestPartition.id =
          0 :: (groups.zipIdx 1).map fun ig => (requestPartition ig.1 ig.2).id := by
      rw [List.map_map, List.zipIdx_cons, List.map_cons]
      exact congrArg (· :: _) hfirst
    rw [List.tail_cons]
    constructor
    · intro h ig hig hnoKeys
      have hnodup := h.nodup
      rw [hids] at hnodup
      exact (List.nodup_cons.mp hnodup).1 (id_mem_of_noKeys hig hnoKeys)
    · intro hkeys
      refine ⟨?_, ?_⟩
      · rw [hids, ids_of_keys hkeys, List.nodup_cons]
        refine ⟨?_, List.nodup_range'⟩
        rw [List.mem_range'_1]
        omega
      · intro partition hpartition
        obtain ⟨ig, -, rfl⟩ := List.mem_map.mp hpartition
        exact requestPartition_compressionGroup ig.1 ig.2

/-- The partitions of a request for scoring signals can always be told apart, those of a
request for bidding signals if and only if no interest group after the first lacks keys. -/
theorem distinguishable_iff {rawRequest : GetBidsRawRequest} {buyerInput : BuyerInputForBidding}
    {propagateBuyerSignalsToTkv isPasEnabled : Bool} {byosOutput : Option String}
    {scoringSignalsRequest : ScoringSignalsRequest}
    {consentedDebugConfig : Option ConsentedDebugConfiguration}
    {biddingRequest scoringRequest : GetValuesRequest}
    (hbidding : createV2BiddingRequest rawRequest buyerInput propagateBuyerSignalsToTkv
      byosOutput = .ok biddingRequest)
    (hscoring : createV2ScoringRequest scoringSignalsRequest isPasEnabled consentedDebugConfig =
      .ok scoringRequest) :
    (Distinguishable biddingRequest.partitions ↔
      ∀ ig ∈ buyerInput.interestGroups.tail, ig.biddingSignalsKeys ≠ []) ∧
      Distinguishable scoringRequest.partitions := by
  refine ⟨?_, createV2ScoringRequest_distinguishable hscoring⟩
  have hpartitions : biddingRequest.partitions =
      buyerInput.interestGroups.zipIdx.map fun ig => requestPartition ig.1 ig.2 := by
    unfold createV2BiddingRequest at hbidding
    cases hvalid : BuyerFrontEnd.validateInterestGroups buyerInput with
    | error message =>
      rw [hvalid] at hbidding
      cases hbidding
    | ok u =>
      rw [hvalid] at hbidding
      cases hbidding
      rfl
  rw [hpartitions]
  exact distinguishable_requestPartitions_iff buyerInput.interestGroups

theorem not_distinguishable_example :
    ∃ request, createV2BiddingRequest {}
      { interestGroups := [{ name := "a", biddingSignalsKeys := ["k"] }, { name := "b" }] }
      false none = .ok request ∧ ¬ Distinguishable request.partitions :=
  ⟨_, rfl, fun h => absurd h.nodup (by decide)⟩

/-- Both groups have a key, and one of three bids has nothing to ask for. -/
theorem distinguishable_iff_example :
    ∃ biddingRequest scoringRequest,
      createV2BiddingRequest {}
        { interestGroups :=
            [{ name := "a", biddingSignalsKeys := ["k"] },
              { name := "b", biddingSignalsKeys := ["k"] }] } false none = .ok biddingRequest ∧
      createV2ScoringRequest
        { clientType := .android
          buyerBidsMap := (∅ : FlatHashMap String BuyerReply).insert "https://buyer"
            { bids := [{ bid := 1, render := "https://ad" }, { bid := 1 },
                { bid := 2, adComponents := ["https://part"] }] } } false none =
        .ok scoringRequest ∧
      Distinguishable biddingRequest.partitions ∧ Distinguishable scoringRequest.partitions := by
  refine ⟨_, _, rfl, rfl, ?_⟩
  obtain ⟨hbidding, hscoring⟩ := @distinguishable_iff {}
    { interestGroups :=
        [{ name := "a", biddingSignalsKeys := ["k"] },
          { name := "b", biddingSignalsKeys := ["k"] }] } false false none
    { clientType := .android
      buyerBidsMap := (∅ : FlatHashMap String BuyerReply).insert "https://buyer"
        { bids := [{ bid := 1, render := "https://ad" }, { bid := 1 },
            { bid := 2, adComponents := ["https://part"] }] } } none _ _ rfl rfl
  refine ⟨hbidding.mpr ?_, hscoring⟩
  simp

end KvV2

end BiddingAuction
