import Bildr.TraceIntake
/-!
# TraceValidate — the checks of a manifest that is loaded

`validate_manifest` checks a manifest on its own: its header and signature, each node against its name, its sources and
its origin, the edges, the branches against the edges and the limits, and the diagnostics.  What it accepts is stated
once, as a record of what each check says (`validateManifest_ok`).
-/
namespace Bildr
namespace TraceDag

open Control (ofNat)

/-! ## The checks -/

def invalidManifest (field : String) : Halt := invalid ("manifest." ++ field) "invalid"

def prefixedDigest (value lead : String) : Bool := (stripPrefix lead value).any isDigest

def validSourceReceipt : SourceReceipt → Bool
  | .rawEvent id          => decide (0 < id)
  | .domainEvent id       => decide (0 < id)
  | .structural receiptId => prefixedDigest receiptId "r_"

def nodeKinds : List String :=
  ["system_message", "developer_message", "user_message", "model_message", "reasoning_summary", "tool_request",
    "tool_result", "command", "file_read", "file_change", "approval_request", "approval_decision", "compaction",
    "subagent_spawn", "subagent_join", "validation", "finding", "operator_feedback", "outcome", "unknown_protocol",
    "run_lifecycle", "attempt_boundary", "runtime_restart"]

def redactionClasses : List String :=
  ["none", "secret_removed", "private_reasoning_removed", "customer_data_removed", "content_withheld"]

def SourceReceipt.rawId : SourceReceipt → Option Int
  | .rawEvent id => some id
  | _            => none

/-- A node of raw events counts them; one of another receipt has that receipt alone and no metadata. -/
def metadataMatchesOrigin (n : TraceNode) : Bool :=
  if n.sourceReceipts.all (fun r => r.rawId.isSome) then
    n.metadata.length == 1 && n.metadata.lookup "receipt_count" == some (ofNat n.sourceReceipts.length)
  else n.sourceReceipts.length == 1 && n.metadata.isEmpty

def nodeValid (h : Hashes) (n : TraceNode) : Bool :=
  prefixedDigest n.id "n_" && n.id == nodeId h n.kind n.sourceReceipts n.contentSha256 && isDigest n.contentSha256 &&
    !n.sourceReceipts.isEmpty && nodeKinds.contains n.kind && redactionClasses.contains n.redactionClass &&
    metadataMatchesOrigin n

/-- What the nodes checked so far have: their ids, the keys of their sources, and their raw events. -/
structure Seen where
  nodes : List String
  sources : List String
  rawIds : List Int

def checkSource (s : Seen) (r : SourceReceipt) : Except Halt Seen := do
  ensure (validSourceReceipt r && !s.sources.contains (sourceKey r)) (invalidManifest "source_receipt")
  return ⟨s.nodes, sourceKey r :: s.sources, r.rawId.toList ++ s.rawIds⟩

def checkNode (h : Hashes) (s : Seen) (n : TraceNode) : Except Halt Seen := do
  ensure (nodeValid h n) (invalidManifest "node")
  ensure (!s.nodes.contains n.id) (invalidManifest "node.id")
  n.sourceReceipts.foldlM checkSource ⟨n.id :: s.nodes, s.sources, s.rawIds⟩

def idRange (ids : List Int) : Option SourceEventRange :=
  (SortedSet.ofList ids).head?.bind (fun first => (SortedSet.ofList ids).getLast?.map (fun last => ⟨first, last⟩))

def checkEdge (nodes : List String) (seen : List TraceEdge) (e : TraceEdge) : Except Halt (List TraceEdge) := do
  ensure (e.source != e.target && nodes.contains e.source && nodes.contains e.target && !seen.contains e)
    (invalidManifest "edge")
  return e :: seen

/-- A branch against the manifest, apart from what it shares with other branches. -/
def branchValid (h : Hashes) (m : TraceManifest) (nodes : List String) (b : TraceBranch) : Bool :=
  b.id == "b_" ++ h.digest (branchParts b.rootNodeId b.nodeIds) && nodes.contains b.rootNodeId &&
    nodes.contains b.leafNodeId && !m.edges.any (fun e => e.target == b.rootNodeId) &&
    (m.diagnostics.any (fun d => d.code == "branch_path_bound_reached") || !m.edges.any (fun e => e.source == b.leafNodeId)) &&
    !b.nodeIds.isEmpty && decide (b.nodeIds.length ≤ branchDepthLimit) && b.nodeIds.head? == some b.rootNodeId &&
    b.nodeIds.getLast? == some b.leafNodeId && b.nodeIds.all (fun id => nodes.contains id) &&
    (b.nodeIds.zip b.nodeIds.tail).all (fun p => m.edges.any (fun e => e.source == p.1 && e.target == p.2)) &&
    b.metadata.length == 1 && b.metadata.lookup "path_bound" == some (ofNat branchPathLimit)

def checkBranch (h : Hashes) (m : TraceManifest) (nodes : List String) (s : List String × Nat) (b : TraceBranch) :
    Except Halt (List String × Nat) := do
  ensure (branchValid h m nodes b && !s.1.contains b.id && decide (s.2 + b.nodeIds.length ≤ branchNodeReferenceLimit))
    (invalidManifest "branch")
  return (b.id :: s.1, s.2 + b.nodeIds.length)

def closedDiagnostics : List (String × String) :=
  [("ambiguous_mixed_sequence_order", "receipt_order_used"), ("invalid_source_sequence", "receipt_order_used"),
    ("branch_path_bound_reached", "path_limit_reached")]

def checkDiagnostic (d : ProjectionDiagnostic) : Except Halt Unit :=
  ensure (closedDiagnostics.contains (d.code, d.detail) && d.sourceReceipts.all validSourceReceipt)
    (invalidManifest "diagnostic")

def coreValid (m : TraceManifest) : Bool :=
  m.taskAttemptId.all safeControllerId && isDigest m.runtimeDigest && isDigest m.redactionPolicyDigest &&
    sensitivities.contains m.sensitivity && isDigest m.sha256

def validateManifest (h : Hashes) (m : TraceManifest) : Except Halt Unit := do
  ensure (m.schema == "harness.trace.v2") (invalidManifest "schema")
  ensure (safeTraceId m.traceId) (invalidManifest "trace_id")
  ensure (safeControllerId m.runId) (invalidManifest "run_id")
  ensure (coreValid m) (invalidManifest "core")
  ensure (h.digest (manifestParts { m with sha256 := "" }) == m.sha256) (invalidManifest "sha256")
  let s ← m.nodes.foldlM (checkNode h) ⟨[], [], []⟩
  ensure (!s.nodes.isEmpty) (invalidManifest "nodes")
  ensure (m.sourceEventRange == idRange s.rawIds) (invalidManifest "source_event_range")
  let _ ← m.edges.foldlM (checkEdge s.nodes) []
  validateEdges (m.nodes.map (fun n => (n.id, n.id))) m.edges
  ensure (!m.branches.isEmpty && decide (m.branches.length ≤ branchPathLimit)) (invalidManifest "branches")
  let _ ← m.branches.foldlM (checkBranch h m s.nodes) ([], 0)
  m.diagnostics.forM checkDiagnostic

/-! ## What they accept -/

def TraceManifest.sources (m : TraceManifest) : List SourceReceipt := m.nodes.flatMap TraceNode.sourceReceipts

structure Wellformed (h : Hashes) (m : TraceManifest) : Prop where
  schema : m.schema = "harness.trace.v2"
  traceId : safeTraceId m.traceId = true
  runId : safeControllerId m.runId = true
  core : coreValid m = true
  signed : h.digest (manifestParts { m with sha256 := "" }) = m.sha256
  nodes : ∀ n ∈ m.nodes, nodeValid h n = true
  nodeIds : (m.nodes.map TraceNode.id).Nodup
  sources : ∀ r ∈ m.sources, validSourceReceipt r = true
  sourceKeys : (m.sources.map sourceKey).Nodup
  some : m.nodes ≠ []
  range : m.sourceEventRange = idRange (m.sources.filterMap SourceReceipt.rawId)
  edges : ∀ e ∈ m.edges, e.source ∈ m.nodes.map TraceNode.id ∧ e.target ∈ m.nodes.map TraceNode.id
  edgesDistinct : m.edges.Nodup
  acyclic : ∀ v, Acc (Leads m.edges) v
  branchesSome : m.branches ≠ []
  branchesFew : m.branches.length ≤ branchPathLimit
  branchIds : (m.branches.map TraceBranch.id).Nodup
  references : (m.branches.map (fun b => b.nodeIds.length)).sum ≤ branchNodeReferenceLimit
  branches : ∀ b ∈ m.branches, branchValid h m (m.nodes.map TraceNode.id) b = true
  diagnostics : ∀ d ∈ m.diagnostics, checkDiagnostic d = .ok ()

section Accept
variable {h : Hashes} {m : TraceManifest}

theorem checkSources_ok : ∀ (rs : List SourceReceipt) (s : Seen), (∀ r ∈ rs, validSourceReceipt r = true) →
    ((rs.map sourceKey).reverse ++ s.sources).Nodup →
    rs.foldlM checkSource s =
      .ok ⟨s.nodes, (rs.map sourceKey).reverse ++ s.sources, (rs.filterMap SourceReceipt.rawId).reverse ++ s.rawIds⟩
  | [], s, _, _ => rfl
  | r :: rs, s, hvalid, hn => by
    rw [List.map_cons, List.reverse_cons, List.append_assoc, List.singleton_append] at hn
    have hfresh : sourceKey r ∉ s.sources := (List.nodup_cons.1 (List.nodup_append.1 hn).2.1).1
    have hstep : checkSource s r = .ok ⟨s.nodes, sourceKey r :: s.sources, r.rawId.toList ++ s.rawIds⟩ := by
      unfold checkSource
      rw [hvalid r List.mem_cons_self, Bool.true_and, show (!s.sources.contains (sourceKey r)) = true by simpa using hfresh]
      rfl
    rw [List.foldlM_cons, hstep, ok_bind, checkSources_ok rs _ (fun r' hr' => hvalid r' (List.mem_cons_of_mem r hr')) hn]
    simp only [Except.ok.injEq, Seen.mk.injEq, true_and, List.map_cons, List.reverse_cons, List.append_assoc,
      List.singleton_append]
    cases hraw : r.rawId with
    | none => rw [List.filterMap_cons_none hraw, Option.toList_none, List.nil_append]
    | some id =>
      rw [List.filterMap_cons_some hraw, List.reverse_cons, List.append_assoc]
      rfl

theorem checkNodes_ok : ∀ (ns : List TraceNode) (s : Seen), (∀ n ∈ ns, nodeValid h n = true) →
    (∀ r ∈ ns.flatMap TraceNode.sourceReceipts, validSourceReceipt r = true) →
    ((ns.map TraceNode.id).reverse ++ s.nodes).Nodup →
    (((ns.flatMap TraceNode.sourceReceipts).map sourceKey).reverse ++ s.sources).Nodup →
    ns.foldlM (checkNode h) s = .ok ⟨(ns.map TraceNode.id).reverse ++ s.nodes,
      ((ns.flatMap TraceNode.sourceReceipts).map sourceKey).reverse ++ s.sources,
      ((ns.flatMap TraceNode.sourceReceipts).filterMap SourceReceipt.rawId).reverse ++ s.rawIds⟩
  | [], s, _, _, _, _ => rfl
  | n :: ns, s, hvalid, hsources, hids, hkeys => by
    rw [List.map_cons, List.reverse_cons, List.append_assoc, List.singleton_append] at hids
    rw [List.flatMap_cons, List.map_append, List.reverse_append, List.append_assoc] at hkeys
    rw [List.flatMap_cons] at hsources
    have hfresh : n.id ∉ s.nodes := (List.nodup_cons.1 (List.nodup_append.1 hids).2.1).1
    have hstep : checkNode h s n = .ok ⟨n.id :: s.nodes, (n.sourceReceipts.map sourceKey).reverse ++ s.sources,
        (n.sourceReceipts.filterMap SourceReceipt.rawId).reverse ++ s.rawIds⟩ := by
      unfold checkNode
      rw [hvalid n List.mem_cons_self, ensure_true, ok_bind, show (!s.nodes.contains n.id) = true by simpa using hfresh,
        ensure_true, ok_bind]
      exact checkSources_ok _ _ (fun r hr => hsources r (List.mem_append_left _ hr)) (List.nodup_append.1 hkeys).2.1
    rw [List.foldlM_cons, hstep, ok_bind,
      checkNodes_ok ns _ (fun n' hn' => hvalid n' (List.mem_cons_of_mem n hn'))
        (fun r hr => hsources r (List.mem_append_right _ hr)) hids hkeys]
    simp only [List.map_cons, List.reverse_cons, List.append_assoc, List.singleton_append, List.flatMap_cons,
      List.map_append, List.reverse_append, List.filterMap_append]

theorem checkBranches_ok {nodes : List String} : ∀ (bs : List TraceBranch) (s : List String × Nat),
    (∀ b ∈ bs, branchValid h m nodes b = true) → ((bs.map TraceBranch.id).reverse ++ s.1).Nodup →
    s.2 + (bs.map (fun b => b.nodeIds.length)).sum ≤ branchNodeReferenceLimit →
    ∃ s', bs.foldlM (checkBranch h m nodes) s = .ok s'
  | [], s, _, _, _ => ⟨s, rfl⟩
  | b :: bs, s, hvalid, hids, hsum => by
    rw [List.map_cons, List.reverse_cons, List.append_assoc, List.singleton_append] at hids
    rw [List.map_cons, List.sum_cons] at hsum
    have hfresh : b.id ∉ s.1 := (List.nodup_cons.1 (List.nodup_append.1 hids).2.1).1
    have hstep : checkBranch h m nodes s b = .ok (b.id :: s.1, s.2 + b.nodeIds.length) := by
      unfold checkBranch
      rw [hvalid b List.mem_cons_self, Bool.true_and, show (!s.1.contains b.id) = true by simpa using hfresh, Bool.true_and,
        decide_eq_true (show s.2 + b.nodeIds.length ≤ branchNodeReferenceLimit by omega)]
      rfl
    rw [List.foldlM_cons, hstep, ok_bind]
    exact checkBranches_ok bs (b.id :: s.1, s.2 + b.nodeIds.length) (fun b' hb' => hvalid b' (List.mem_cons_of_mem b hb'))
      hids (by show s.2 + b.nodeIds.length + _ ≤ _; omega)

theorem checkEdge_ok (nodes : List String) (seen : List TraceEdge) (e : TraceEdge) (seen' : List TraceEdge) :
    checkEdge nodes seen e = .ok seen' ↔
      id e ∉ seen ∧ (e.source ≠ e.target ∧ e.source ∈ nodes ∧ e.target ∈ nodes) ∧ seen' = id e :: seen := by
  unfold checkEdge
  rw [Control.ensure_bind_ok, pure_ok, Except.ok.injEq]
  simp only [Bool.and_eq_true, bne_iff_ne, List.contains_eq_mem, decide_eq_true_eq, Bool.not_eq_true',
    decide_eq_false_iff_not, id]
  constructor
  · rintro ⟨⟨⟨⟨hne, hs⟩, ht⟩, hfresh⟩, rfl⟩
    exact ⟨hfresh, ⟨hne, hs, ht⟩, rfl⟩
  · rintro ⟨hfresh, ⟨hne, hs, ht⟩, rfl⟩
    exact ⟨⟨⟨⟨hne, hs⟩, ht⟩, hfresh⟩, rfl⟩

theorem idRange_congr {ids ids' : List Int} (hmem : ∀ id, id ∈ ids ↔ id ∈ ids') : idRange ids = idRange ids' := by
  unfold idRange
  rw [SortedSet.ofList_congr hmem]

theorem loopless {edges : List TraceEdge} (hacc : ∀ v, Acc (Leads edges) v) {e : TraceEdge} (he : e ∈ edges) :
    e.source ≠ e.target := by
  intro heq
  have hloop : Leads edges e.target e.target := ⟨e, he, heq, rfl⟩
  exact Dfs.not_cycle_of_acc (hacc e.target) (Relation.TransGen.single hloop)

theorem validateManifest_ok (hm : Wellformed h m) : validateManifest h m = .ok () := by
  have hids : ((m.nodes.map TraceNode.id).reverse ++ []).Nodup := by
    rw [List.append_nil, List.nodup_reverse]
    exact hm.nodeIds
  have hkeys : (((m.nodes.flatMap TraceNode.sourceReceipts).map sourceKey).reverse ++ []).Nodup := by
    rw [List.append_nil, List.nodup_reverse]
    exact hm.sourceKeys
  have hnodes := checkNodes_ok (h := h) m.nodes ⟨[], [], []⟩ hm.nodes hm.sources hids hkeys
  simp only [List.append_nil] at hnodes
  have hsome : (!((m.nodes.map TraceNode.id).reverse).isEmpty) = true := by
    have hne := hm.some
    simpa using hne
  have hrange : (m.sourceEventRange ==
      idRange ((m.nodes.flatMap TraceNode.sourceReceipts).filterMap SourceReceipt.rawId).reverse) = true := by
    rw [beq_iff_eq, hm.range]
    exact idRange_congr (fun id => List.mem_reverse.symm)
  obtain ⟨seen, hedges⟩ := (foldlM_distinct (checkEdge_ok (m.nodes.map TraceNode.id).reverse) m.edges []).2
    ⟨by rw [List.map_id]; exact hm.edgesDistinct, fun _ _ => List.not_mem_nil, fun e he =>
      ⟨loopless hm.acyclic he, List.mem_reverse.2 (hm.edges e he).1, List.mem_reverse.2 (hm.edges e he).2⟩⟩
  have hkeysIds : ∀ id, id ∈ KeyMap.ids (m.nodes.map (fun n => (n.id, n.id))) ↔ id ∈ m.nodes.map TraceNode.id := by
    intro id
    unfold KeyMap.ids
    rw [SortedSet.mem_ofList, List.map_map]
    exact Iff.rfl
  have hgraph : validateEdges (m.nodes.map (fun n => (n.id, n.id))) m.edges = .ok () := by
    refine validateEdges_ok.2 ⟨fun e he => ?_, hm.acyclic⟩
    rw [hkeysIds, hkeysIds]
    exact hm.edges e he
  have hfew : (!m.branches.isEmpty && decide (m.branches.length ≤ branchPathLimit)) = true := by
    have hne := hm.branchesSome
    rw [Bool.and_eq_true, decide_eq_true_eq]
    exact ⟨by simpa using hne, hm.branchesFew⟩
  have hvalid : ∀ b ∈ m.branches, branchValid h m (m.nodes.map TraceNode.id).reverse b = true := by
    intro b hb
    have hb' := hm.branches b hb
    unfold branchValid at hb' ⊢
    simp only [List.contains_eq_mem, List.mem_reverse] at hb' ⊢
    exact hb'
  obtain ⟨s, hbranches⟩ := checkBranches_ok (h := h) (m := m) m.branches ([], 0) hvalid
    (by rw [List.append_nil, List.nodup_reverse]; exact hm.branchIds) (by rw [Nat.zero_add]; exact hm.references)
  unfold validateManifest
  rw [show (m.schema == "harness.trace.v2") = true from beq_iff_eq.2 hm.schema, ensure_true, ok_bind, hm.traceId, ensure_true,
    ok_bind, hm.runId, ensure_true, ok_bind, hm.core, ensure_true, ok_bind, beq_iff_eq.2 hm.signed, ensure_true, ok_bind,
    hnodes, ok_bind, hsome, ensure_true, ok_bind, hrange, ensure_true, ok_bind, hedges, ok_bind, hgraph, ok_bind, hfew,
    ensure_true, ok_bind, hbranches, ok_bind]
  exact forM_ok_iff.2 hm.diagnostics

end Accept

end TraceDag
end Bildr
