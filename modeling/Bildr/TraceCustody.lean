import Bildr.Texts
import Bildr.TraceIntake
/-!
# TraceCustody — no receipt is lost or duplicated

The sources of the nodes are the receipts that were supplied, each once, and two raw events share a node exactly if they
are of one lifecycle group of one scope (`receipts_partition`).
-/
namespace Bildr
namespace TraceDag

open Json (Value)

def Hashes.CollisionFree (h : Hashes) (hashed : List (List String)) : Prop :=
  ∀ p ∈ hashed, ∀ q ∈ hashed, h.digest p = h.digest q → p = q

def structuralSource (h : Hashes) (r : StructuralReceipt) : SourceReceipt :=
  .structural ("r_" ++ h.digest (structuralReceiptParts r))

def suppliedReceipts (h : Hashes) (i : TraceInput) : List SourceReceipt :=
  i.rawEvents.map (fun e => .rawEvent e.id) ++ i.domainEvents.map (fun e => .domainEvent e.id) ++
    i.structuralReceipts.map (structuralSource h)

def SharesGroup (e e' : RawEventReceipt) : Prop :=
  e.lifecycleGroupId.isSome = true ∧ e.lifecycleGroupId = e'.lifecycleGroupId ∧
    e.executionScopeId = e'.executionScopeId

section Supplied
variable {h : Hashes} {i : TraceInput}

theorem structuralParts_inj {r r' : StructuralReceipt} (hparts : structuralReceiptParts r = structuralReceiptParts r') :
    r.id = r'.id := by
  unfold structuralReceiptParts at hparts
  simpa using hparts

theorem nodup_suppliedReceipts (hr : Received h i)
    (hfree : h.CollisionFree (i.structuralReceipts.map structuralReceiptParts)) : (suppliedReceipts h i).Nodup := by
  have hraw : (i.rawEvents.map (fun e => SourceReceipt.rawEvent e.id)).Nodup := by
    have hmap := hr.rawIds.map (f := SourceReceipt.rawEvent) (fun _ _ heq => SourceReceipt.rawEvent.inj heq)
    rw [List.map_map] at hmap
    exact hmap
  have hdomain : (i.domainEvents.map (fun e => SourceReceipt.domainEvent e.id)).Nodup := by
    have hmap := hr.domainIds.map (f := SourceReceipt.domainEvent) (fun _ _ heq => SourceReceipt.domainEvent.inj heq)
    rw [List.map_map] at hmap
    exact hmap
  have hstructural : (i.structuralReceipts.map (structuralSource h)).Nodup := by
    have hids := hr.structuralIds
    rw [List.Nodup, List.pairwise_map] at hids ⊢
    refine List.Pairwise.imp_of_mem (fun {r r'} hmem hmem' hne heq => hne ?_) hids
    have htext := SourceReceipt.structural.inj heq
    rw [← String.toList_inj, String.toList_append, String.toList_append, List.append_right_inj, String.toList_inj] at htext
    exact structuralParts_inj (hfree _ (List.mem_map_of_mem hmem) _ (List.mem_map_of_mem hmem') htext)
  unfold suppliedReceipts
  refine List.nodup_append.2 ⟨List.nodup_append.2 ⟨hraw, hdomain, fun a ha b hb heq => ?_⟩, hstructural,
    fun a ha b hb heq => ?_⟩
  · obtain ⟨e, -, rfl⟩ := List.mem_map.1 ha
    obtain ⟨e', -, rfl⟩ := List.mem_map.1 hb
    cases heq
  · obtain ⟨r, -, rfl⟩ := List.mem_map.1 hb
    rcases List.mem_append.1 ha with ha | ha
    · obtain ⟨e, -, rfl⟩ := List.mem_map.1 ha
      cases heq
    · obtain ⟨e, -, rfl⟩ := List.mem_map.1 ha
      cases heq

end Supplied

section Groups
variable {h : Hashes} {i : TraceInput} {events : List RawEventReceipt} {groups : List Candidate}

theorem GroupCandidate.sources {key : GroupKey} {c : Candidate} (hc : GroupCandidate h events key c) :
    c.node.sourceReceipts.Perm ((groupMembers events key).map (fun e => .rawEvent e.id)) := by
  obtain ⟨latest, -, -, rfl⟩ := hc
  exact (perm_orderGroup _).map _

theorem groups_sources {keys : List GroupKey} (hgroups : List.Forall₂ (GroupCandidate h events) keys groups) :
    (groups.flatMap (fun c => c.node.sourceReceipts)).Perm
      ((keys.flatMap (groupMembers events)).map (fun e => .rawEvent e.id)) := by
  induction hgroups with
  | nil => exact .nil
  | cons hc hrest ih =>
    rw [List.flatMap_cons, List.flatMap_cons, List.map_append]
    exact hc.sources.append ih

theorem groups_partition (hkeys : ∀ e ∈ events, ∃ key, e.groupKey = some key)
    (hgroups : List.Forall₂ (GroupCandidate h events) (groupKeys events) groups) :
    (groups.flatMap (fun c => c.node.sourceReceipts)).Perm (events.map (fun e => .rawEvent e.id)) := by
  refine (groups_sources hgroups).trans (List.Perm.map _ ?_)
  refine SortBy.flatMap_filter_perm_all (f := RawEventReceipt.groupKey) (SortedSet.nodup_ofList _) (fun e he => ?_)
  obtain ⟨key, hkey⟩ := hkeys e he
  exact ⟨key, mem_groupKeys.2 ⟨e, he, hkey⟩, hkey⟩

theorem domain_sources (events : List DomainEventReceipt) :
    (events.map (domainCandidate h)).flatMap (fun c => c.node.sourceReceipts) = events.map (fun e => .domainEvent e.id) := by
  induction events with
  | nil => rfl
  | cons e events ih =>
    rw [List.map_cons, List.flatMap_cons, ih]
    rfl

theorem structural_sources (receipts : List StructuralReceipt) :
    (receipts.map (structuralCandidate h)).flatMap (fun c => c.node.sourceReceipts) =
      receipts.map (structuralSource h) := by
  induction receipts with
  | nil => rfl
  | cons r receipts ih =>
    rw [List.map_cons, List.flatMap_cons, ih]
    rfl

theorem perm_allCandidates (h : Hashes) (i : TraceInput) (groups : List Candidate) : (allCandidates h i groups).Perm
    (groups ++ i.domainEvents.map (domainCandidate h) ++ i.structuralReceipts.map (structuralCandidate h)) :=
  SortBy.perm_sortBy _ _

theorem candidates_sources (hr : Received h i) (hgroups : List.Forall₂ (GroupCandidate h (orderEvents i.rawEvents).1)
    (groupKeys (orderEvents i.rawEvents).1) groups) :
    ((allCandidates h i groups).flatMap (fun c => c.node.sourceReceipts)).Perm (suppliedReceipts h i) := by
  refine ((perm_allCandidates h i groups).flatMap_right _).trans ?_
  rw [List.flatMap_append, List.flatMap_append, domain_sources, structural_sources]
  refine List.Perm.append_right _ (List.Perm.append_right _ ?_)
  exact (groups_partition hr.groupKey hgroups).trans ((orderEvents_perm i.rawEvents).map _)

theorem perm_nodesOf (candidates : List Candidate) : (nodesOf candidates).Perm (candidates.map Candidate.node) :=
  SortBy.perm_sortBy _ _

theorem nodes_sources (hr : Received h i) (hgroups : List.Forall₂ (GroupCandidate h (orderEvents i.rawEvents).1)
    (groupKeys (orderEvents i.rawEvents).1) groups) :
    ((nodesOf (allCandidates h i groups)).flatMap TraceNode.sourceReceipts).Perm (suppliedReceipts h i) := by
  refine ((perm_nodesOf _).flatMap_right _).trans ?_
  rw [List.flatMap_map]
  exact candidates_sources hr hgroups

theorem groupKey_eq {e e' : RawEventReceipt} (hr : ReceivedRaw h e) (hr' : ReceivedRaw h e') (hne : e.id ≠ e'.id) :
    (∃ key, e.groupKey = some key ∧ e'.groupKey = some key) ↔ SharesGroup e e' := by
  obtain ⟨key, hkey⟩ := hr.groupKey
  obtain ⟨key', hkey'⟩ := hr'.groupKey
  have hshare : (∃ key, e.groupKey = some key ∧ e'.groupKey = some key) ↔ e.groupKey = e'.groupKey := by
    constructor
    · rintro ⟨k, hk, hk'⟩
      rw [hk, hk']
    · intro heq
      exact ⟨key, hkey, heq ▸ hkey⟩
  rw [hshare]
  unfold RawEventReceipt.groupKey SharesGroup
  cases hgroup : e.lifecycleGroupId with
  | none =>
    cases hgroup' : e'.lifecycleGroupId with
    | none => simp [hne]
    | some group' =>
      cases e'.executionScopeId with
      | none => simp
      | some scope' => simp
  | some group =>
    obtain ⟨scope, hscope⟩ := Option.isSome_iff_exists.1 (hr.grouped (by rw [hgroup]; rfl))
    rw [hscope]
    cases hgroup' : e'.lifecycleGroupId with
    | none => simp
    | some group' =>
      obtain ⟨scope', hscope'⟩ := Option.isSome_iff_exists.1 (hr'.grouped (by rw [hgroup']; rfl))
      rw [hscope']
      simp [and_comm]

theorem mem_candidates {c : Candidate} (hgroups : List.Forall₂ (GroupCandidate h (orderEvents i.rawEvents).1)
    (groupKeys (orderEvents i.rawEvents).1) groups) (hc : c ∈ allCandidates h i groups) :
    (∃ key ∈ groupKeys (orderEvents i.rawEvents).1, GroupCandidate h (orderEvents i.rawEvents).1 key c) ∨
      (∃ e ∈ i.domainEvents, c = domainCandidate h e) ∨ ∃ r ∈ i.structuralReceipts, c = structuralCandidate h r := by
  rcases List.mem_append.1 ((perm_allCandidates h i groups).mem_iff.1 hc) with hc | hc
  · rcases List.mem_append.1 hc with hc | hc
    · obtain ⟨key, hkey, hgroup⟩ := forall₂_mem_right hgroups hc
      exact Or.inl ⟨key, hkey, hgroup⟩
    · obtain ⟨e, he, rfl⟩ := List.mem_map.1 hc
      exact Or.inr (Or.inl ⟨e, he, rfl⟩)
  · obtain ⟨r, hr, rfl⟩ := List.mem_map.1 hc
    exact Or.inr (Or.inr ⟨r, hr, rfl⟩)

theorem candidate_sources_ne {c : Candidate} (hgroups : List.Forall₂ (GroupCandidate h (orderEvents i.rawEvents).1)
    (groupKeys (orderEvents i.rawEvents).1) groups) (hc : c ∈ allCandidates h i groups) : c.node.sourceReceipts ≠ [] := by
  rcases mem_candidates hgroups hc with ⟨key, hkey, hgroup⟩ | ⟨e, -, rfl⟩ | ⟨r, -, rfl⟩
  · obtain ⟨e, he, hekey⟩ := mem_groupKeys.1 hkey
    have hmem := hgroup.sources.mem_iff.2 (List.mem_map_of_mem (mem_groupMembers.2 ⟨he, hekey⟩))
    exact List.ne_nil_of_mem hmem
  · exact List.cons_ne_nil _ _
  · exact List.cons_ne_nil _ _

theorem group_of_node {c : Candidate} (hgroups : List.Forall₂ (GroupCandidate h (orderEvents i.rawEvents).1)
    (groupKeys (orderEvents i.rawEvents).1) groups) (hc : c ∈ allCandidates h i groups) {id : Int}
    (hmem : .rawEvent id ∈ c.node.sourceReceipts) : ∃ key, GroupCandidate h (orderEvents i.rawEvents).1 key c := by
  rcases mem_candidates hgroups hc with ⟨key, -, hgroup⟩ | ⟨e', -, rfl⟩ | ⟨r, -, rfl⟩
  · exact ⟨key, hgroup⟩
  · cases List.mem_singleton.1 hmem
  · cases List.mem_singleton.1 hmem

theorem GroupCandidate.holds {key : GroupKey} {c : Candidate} (hr : Received h i)
    (hc : GroupCandidate h (orderEvents i.rawEvents).1 key c) {e : RawEventReceipt} (he : e ∈ i.rawEvents) :
    .rawEvent e.id ∈ c.node.sourceReceipts ↔ e.groupKey = some key := by
  rw [hc.sources.mem_iff, List.mem_map]
  constructor
  · rintro ⟨e', he', hid⟩
    obtain ⟨hin, hkey⟩ := mem_groupMembers.1 he'
    have heq := List.inj_on_of_nodup_map hr.rawIds ((orderEvents_perm i.rawEvents).mem_iff.1 hin) he
      (SourceReceipt.rawEvent.inj hid)
    exact heq ▸ hkey
  · intro hkey
    exact ⟨e, mem_groupMembers.2 ⟨(orderEvents_perm i.rawEvents).mem_iff.2 he, hkey⟩, rfl⟩

theorem shared_candidate (hr : Received h i) (hgroups : List.Forall₂ (GroupCandidate h (orderEvents i.rawEvents).1)
    (groupKeys (orderEvents i.rawEvents).1) groups) {e e' : RawEventReceipt} (he : e ∈ i.rawEvents)
    (he' : e' ∈ i.rawEvents) :
    (∃ c ∈ allCandidates h i groups, .rawEvent e.id ∈ c.node.sourceReceipts ∧ .rawEvent e'.id ∈ c.node.sourceReceipts) ↔
      ∃ key, e.groupKey = some key ∧ e'.groupKey = some key := by
  constructor
  · rintro ⟨c, hc, hmem, hmem'⟩
    obtain ⟨key, hgroup⟩ := group_of_node hgroups hc hmem
    exact ⟨key, (hgroup.holds hr he).1 hmem, (hgroup.holds hr he').1 hmem'⟩
  · rintro ⟨key, hkey, hkey'⟩
    have hin := mem_groupKeys.2 ⟨e, (orderEvents_perm i.rawEvents).mem_iff.2 he, hkey⟩
    obtain ⟨c, hc, hgroup⟩ := forall₂_mem_left hgroups hin
    refine ⟨c, (perm_allCandidates h i groups).mem_iff.2 ?_, (hgroup.holds hr he).2 hkey, (hgroup.holds hr he').2 hkey'⟩
    exact List.mem_append_left _ (List.mem_append_left _ hc)

theorem mem_nodesOf {candidates : List Candidate} {n : TraceNode} :
    n ∈ nodesOf candidates ↔ ∃ c ∈ candidates, c.node = n := by
  rw [(perm_nodesOf candidates).mem_iff, List.mem_map]

end Groups

/-- **The nodes partition the supplied receipts**: each receipt is in one node, once, and two raw events are in one node
exactly if they share a lifecycle group. -/
theorem receipts_partition (h : Hashes) (i : TraceInput) (m : TraceManifest) (hok : project h i = .ok m)
    (hfree : h.CollisionFree (i.structuralReceipts.map structuralReceiptParts)) :
    (m.nodes.flatMap TraceNode.sourceReceipts).Perm (suppliedReceipts h i) ∧ (suppliedReceipts h i).Nodup ∧
      (∀ n ∈ m.nodes, n.sourceReceipts ≠ []) ∧
      ∀ e ∈ i.rawEvents, ∀ e' ∈ i.rawEvents, e.id ≠ e'.id →
        ((∃ n ∈ m.nodes, .rawEvent e.id ∈ n.sourceReceipts ∧ .rawEvent e'.id ∈ n.sourceReceipts) ↔ SharesGroup e e') := by
  obtain ⟨groups, explicit, found, truncated, hp⟩ := project_ok hok
  have hr := hp.received
  have hnodes : m.nodes = nodesOf (allCandidates h i groups) := by
    rw [hp.manifest]
    rfl
  rw [hnodes]
  refine ⟨nodes_sources hr hp.grouped, nodup_suppliedReceipts hr hfree, fun n hn => ?_, fun e he e' he' hne => ?_⟩
  · obtain ⟨c, hc, rfl⟩ := mem_nodesOf.1 hn
    exact candidate_sources_ne hp.grouped hc
  · rw [← groupKey_eq (hr.raw e he) (hr.raw e' he') hne, ← shared_candidate hr hp.grouped he he']
    constructor
    · rintro ⟨n, hn, hmem⟩
      obtain ⟨c, hc, rfl⟩ := mem_nodesOf.1 hn
      exact ⟨c, hc, hmem⟩
    · rintro ⟨c, hc, hmem⟩
      exact ⟨c.node, mem_nodesOf.2 ⟨c, hc, rfl⟩, hmem⟩

/-! ## Two events of an item and a restart -/

def unknownDigest : String := String.ofList (List.replicate 64 '0')

theorem isDigest_ofList {l : List Char}
    (h : (decide (l.length = 64) && l.all (fun c => c.isDigit || (decide ('a' ≤ c) && decide (c ≤ 'f')))) = true) :
    isDigest (String.ofList l) = true := by
  rw [Bool.and_eq_true, decide_eq_true_eq, List.all_eq_true] at h
  obtain ⟨hlength, hhex⟩ := h
  unfold isDigest
  rw [Texts.utf8ByteSize_ofList (fun c hc => Texts.utf8Size_of_hex (hhex c hc)), String.toList_ofList, hlength,
    List.all_eq_true.2 hhex]
  rfl

theorem all_isDigest_cons {α : Type} {a : α} {d : String} {table : List (α × String)} (hd : isDigest d = true)
    (hall : table.all (fun p => isDigest p.2) = true) : ((a, d) :: table).all (fun p => isDigest p.2) = true := by
  rw [List.all_cons, hd, hall]
  rfl

theorem isDigest_lookup {α : Type} [BEq α] {table : List (α × String)} (hall : table.all (fun p => isDigest p.2) = true)
    (a : α) : isDigest ((table.lookup a).getD unknownDigest) = true := by
  induction table with
  | nil =>
    exact isDigest_ofList (by decide)
  | cons p table ih =>
    rw [List.all_cons, Bool.and_eq_true] at hall
    obtain ⟨k, d⟩ := p
    rw [List.lookup_cons]
    cases a == k with
    | true => exact hall.1
    | false => exact ih hall.2

def tabled (digests : List (List String × String)) (payloads : List (Value × String))
    (hd : digests.all (fun p => isDigest p.2) = true) (hp : payloads.all (fun p => isDigest p.2) = true) : Hashes where
  digest := fun parts => (digests.lookup parts).getD unknownDigest
  payloadDigest := fun payload => (payloads.lookup payload).getD unknownDigest
  digestHex := fun parts => isDigest_lookup hd parts
  payloadHex := fun payload => isDigest_lookup hp payload

def agentMessage (text : String) : Value := .obj [("item", .obj [("text", .str text), ("type", .str "agentMessage")])]

def itemEvent (id : Int) (method : String) (receivedAt : Int) (payload : Value) (payloadSha256 : String)
    (sourceSequence : Option String) : RawEventReceipt :=
  ⟨id, some "session-1", some "item-1", some "thread-1", some "turn-1", "inbound", method, none, receivedAt, payload,
    payloadSha256, sourceSequence, "none"⟩

def itemStarted : RawEventReceipt := itemEvent 1 "item/started" 1000 (agentMessage "first")
  "9c1fc770453f102b92678798ae0ad6eaa5007b0b5bf388cd95d32ad28686d370" (some "1")

def itemCompleted : RawEventReceipt := itemEvent 2 "item/completed" 1001 (agentMessage "second")
  "4074f17e4fa73b23cac5a90019832e96f030f68f4a30957014a531fba30f4d64" none

def itemInput : TraceInput where
  traceId := "trace-1"
  runId := "run-1"
  taskAttemptId := none
  runtimeDigest := String.ofList (List.replicate 64 'a')
  redactionPolicyDigest := String.ofList (List.replicate 64 'b')
  sensitivity := "internal"
  rawEvents := [itemStarted, itemCompleted]
  domainEvents := []
  structuralReceipts := [⟨"restart-1", "restart", some 1002, []⟩]
  relations := [⟨"raw:1", "structural:restart-1", .retryOf⟩]

def itemContent : String := "d2cbd8e2e31672a269fec85bf9124ac4348f7ea6d4ae02f8b19ee913ad056f6f"

def restartContent : String := "31dd23111e8ea2386df81eeda0952f7c78b125521abca80d6ac9c0c6f22ec5f9"

def restartReceipt : String := "e4b7cb36980b670886c955977e023f58d3d8d2ad2d67906ea11baf4d89da7ca1"

def itemNode : TraceNode :=
  ⟨"n_e1777a5b426021dd2dd64c63ae436231aea3fafd9d8d0c620885eeda3d51c480", "model_message", itemContent,
    [.rawEvent 1, .rawEvent 2], "content_withheld", some 1001, [("receipt_count", .num (.pos 2))]⟩

def restartNode : TraceNode :=
  ⟨"n_8f5baa29f9844db2c621c94db6a0181bf80d91ce895724f8fec7e0aa7fdf07d1", "runtime_restart", restartContent,
    [.structural ("r_" ++ restartReceipt)], "none", some 1002, []⟩

/-- The manifest of the input, before it is signed, with the events of its mixed scope in the given order. -/
def itemManifest (order : List SourceReceipt) : TraceManifest where
  schema := "harness.trace.v2"
  traceId := "trace-1"
  runId := "run-1"
  taskAttemptId := none
  sourceEventRange := some ⟨1, 2⟩
  runtimeDigest := String.ofList (List.replicate 64 'a')
  redactionPolicyDigest := String.ofList (List.replicate 64 'b')
  sensitivity := "internal"
  nodes := [restartNode, itemNode]
  edges := [⟨itemNode.id, restartNode.id, .retryOf⟩]
  branches := [⟨"b_283d65737f586944220658bec05edd5776e63f8dff9fdef8cfe6043d4e9d2d17", itemNode.id, restartNode.id,
    [itemNode.id, restartNode.id], [("path_bound", .num (.pos 256))]⟩]
  diagnostics := [⟨"ambiguous_mixed_sequence_order", "receipt_order_used", order⟩]
  sha256 := ""

def itemDigests : List (List String × String) :=
  [(["harness.trace.lifecycle-group.v2", "session-1", "item-1"],
      "506efb03d16e17d3e6acef05cb6a8c30d6d08778361118aa42835f2dfd9a6cb4"),
    (["harness.trace.structural-receipt.v2", "restart-1"], restartReceipt),
    (contentParts "model_message" (redact (agentMessage "second") "none").1, itemContent),
    (contentParts "runtime_restart" (.obj [("kind", .str "runtime_restart")]), restartContent),
    (nodeParts "model_message" [.rawEvent 1, .rawEvent 2] itemContent,
      "e1777a5b426021dd2dd64c63ae436231aea3fafd9d8d0c620885eeda3d51c480"),
    (nodeParts "runtime_restart" restartNode.sourceReceipts restartContent,
      "8f5baa29f9844db2c621c94db6a0181bf80d91ce895724f8fec7e0aa7fdf07d1"),
    (branchParts itemNode.id [itemNode.id, restartNode.id],
      "283d65737f586944220658bec05edd5776e63f8dff9fdef8cfe6043d4e9d2d17"),
    (manifestParts (itemManifest [.rawEvent 1, .rawEvent 2]),
      "c866643358b6481c3e0cf3be261e87995c55bdff04762b1e83786f79f839e61b"),
    (manifestParts (itemManifest [.rawEvent 2, .rawEvent 1]),
      "32ff7c7a006bff5c9ec8498b6a5d58ea6fd39b97e1315084778b5daedfc17983")]

def itemPayloads : List (Value × String) :=
  [(agentMessage "first", "9c1fc770453f102b92678798ae0ad6eaa5007b0b5bf388cd95d32ad28686d370"),
    (agentMessage "second", "4074f17e4fa73b23cac5a90019832e96f030f68f4a30957014a531fba30f4d64"),
    (agentMessage "other", "9830a4b278d390e1e9b8d09b3b4dda63f4d9c44757b4612e55e9b52f9f8d8317")]

theorem itemDigests_hex : itemDigests.all (fun p => isDigest p.2) = true := by
  repeat refine all_isDigest_cons (isDigest_ofList (by decide)) ?_
  rfl

theorem itemPayloads_hex : itemPayloads.all (fun p => isDigest p.2) = true := by
  repeat refine all_isDigest_cons (isDigest_ofList (by decide)) ?_
  rfl

def itemHashes : Hashes := tabled itemDigests itemPayloads itemDigests_hex itemPayloads_hex

def itemProjection : TraceManifest := TraceManifest.sign itemHashes (itemManifest [.rawEvent 1, .rawEvent 2])

theorem project_itemInput : project itemHashes itemInput = .ok itemProjection := project_signed (by decide +kernel)

theorem receipts_partition_item :
    (itemProjection.nodes.flatMap TraceNode.sourceReceipts).Perm (suppliedReceipts itemHashes itemInput) ∧
      (suppliedReceipts itemHashes itemInput).Nodup ∧ (∀ n ∈ itemProjection.nodes, n.sourceReceipts ≠ []) ∧
      ∀ e ∈ itemInput.rawEvents, ∀ e' ∈ itemInput.rawEvents, e.id ≠ e'.id →
        ((∃ n ∈ itemProjection.nodes, .rawEvent e.id ∈ n.sourceReceipts ∧ .rawEvent e'.id ∈ n.sourceReceipts) ↔
          SharesGroup e e') := by
  refine receipts_partition itemHashes itemInput itemProjection project_itemInput ?_
  intro p hp q hq _
  rw [List.mem_singleton.1 hp, List.mem_singleton.1 hq]

end TraceDag
end Bildr
