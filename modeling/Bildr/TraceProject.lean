import Bildr.ControlWire
import Bildr.SortBy
import Bildr.TraceBranches
import Mathlib.Data.Sum.Order
/-!
# TraceProject — the projection of receipts into a trace

`project` checks the receipts, orders the raw events, makes one candidate of every lifecycle group, lone raw event,
domain event and structural receipt, joins the candidates of one execution scope in order and those a relation names,
and refuses a graph with a cycle.  What it keeps of a payload is its shape.
-/
namespace Bildr
namespace TraceDag

open Control (ofInt ofNat ofOption ofTexts)
open Json (Value)
open SortBy (sortBy)

/-! ## Checks -/

def invalid (field value : String) : Halt := .error (.invalidInput field value)

def headerFields (i : TraceInput) : List (String × String × Bool) :=
  [("trace_id", i.traceId, safeTraceId i.traceId), ("run_id", i.runId, safeControllerId i.runId),
    ("runtime_digest", i.runtimeDigest, isDigest i.runtimeDigest),
    ("redaction_policy_digest", i.redactionPolicyDigest, isDigest i.redactionPolicyDigest)]

def checkHeader (f : String × String × Bool) : Except Halt Unit :=
  ensure (!f.2.1.isEmpty && f.2.2) (invalid f.1 f.2.1)

def sensitivities : List String := ["public", "internal", "confidential", "restricted"]

def checkRawEvent (h : Hashes) (seen : List Int) (e : RawEventReceipt) : Except Halt (List Int) := do
  ensure (decide (1 ≤ e.id) && !seen.contains e.id) (.error (.duplicateRawReceipt e.id))
  ensure (isDigest e.payloadSha256 && h.payloadDigest e.payload == e.payloadSha256)
    (.error (.payloadDigestMismatch ("raw:" ++ toString e.id)))
  ensure (e.executionScopeId.all safeTraceId) (invalid "execution_scope_id" "invalid")
  ensure (e.lifecycleGroupId.all safeTraceId) (invalid "lifecycle_group_id" "invalid")
  ensure (!(e.lifecycleGroupId.isSome && e.executionScopeId.isNone))
    (invalid "lifecycle_group_id" "requires_execution_scope_id")
  return e.id :: seen

def checkStructural (seen : List String) (r : StructuralReceipt) : Except Halt (List String) := do
  ensure (!seen.contains r.id) (.error (.duplicateStructuralReceipt r.id))
  return r.id :: seen

def checkDomainEvent (h : Hashes) (seen : List Int) (e : DomainEventReceipt) : Except Halt (List Int) := do
  ensure (decide (1 ≤ e.id) && !seen.contains e.id && !e.eventType.isEmpty) (invalid "domain_event" (toString e.id))
  ensure (isDigest e.payloadSha256 && h.payloadDigest e.payload == e.payloadSha256)
    (.error (.payloadDigestMismatch ("domain:" ++ toString e.id)))
  return e.id :: seen

def checkStructuralId (r : StructuralReceipt) : Except Halt Unit :=
  ensure (safeTraceId r.id) (invalid "structural_receipt.id" "invalid")

def validateReceipts (h : Hashes) (i : TraceInput) : Except Halt Unit := do
  (headerFields i).forM checkHeader
  ensure (i.taskAttemptId.all safeControllerId) (invalid "task_attempt_id" "invalid")
  ensure (sensitivities.contains i.sensitivity) (invalid "sensitivity" i.sensitivity)
  let _ ← i.rawEvents.foldlM (checkRawEvent h) []
  let _ ← i.structuralReceipts.foldlM checkStructural []
  let _ ← i.domainEvents.foldlM (checkDomainEvent h) []
  i.structuralReceipts.forM checkStructuralId

/-! ## The order of raw events -/

/-- Whether the event has a valid sequence; an event without one is read as the empty text. -/
def hasSequence (e : RawEventReceipt) : Bool := (validSequence (e.sourceSequence.getD "")).isSome

def inScope (scope : String) (e : RawEventReceipt) : Bool := e.executionScopeId == some scope

/-- The scopes that mix events with a valid sequence and events without one. -/
def ambiguousScopes (events : List RawEventReceipt) : List String :=
  (SortedSet.ofList (events.filterMap RawEventReceipt.executionScopeId)).filter (fun scope =>
    events.any (fun e => inScope scope e && hasSequence e) && events.any (fun e => inScope scope e && !hasSequence e))

def ambiguousDiagnostic (events : List RawEventReceipt) (scope : String) : ProjectionDiagnostic :=
  ⟨"ambiguous_mixed_sequence_order", "receipt_order_used",
    (events.filter (inScope scope)).map (fun e => .rawEvent e.id)⟩

def receiptOrder (e : RawEventReceipt) : ℤ ×ₗ ℤ := toLex (e.receivedAt, e.id)

/-- The events by time and id.  The diagnostics name the events of a scope as they came in. -/
def orderEvents (events : List RawEventReceipt) : List RawEventReceipt × List ProjectionDiagnostic :=
  (sortBy receiptOrder events, (ambiguousScopes events).map (ambiguousDiagnostic events))

/-! ## Candidates -/

structure Candidate where
  key : String
  node : TraceNode
  executionScopeId : Option String
  order : EventOrder
deriving DecidableEq

inductive GroupKey
  | raw (id : Int)
  | lifecycle (scope group : String)

def GroupKey.place : GroupKey → ℤ ⊕ₗ (String ×ₗ String)
  | .raw id                => toLex (.inl id)
  | .lifecycle scope group => toLex (.inr (toLex (scope, group)))

theorem GroupKey.place_inj : Function.Injective GroupKey.place
  | .raw _, .raw _, h => congrArg GroupKey.raw (Sum.inl.inj h)
  | .raw _, .lifecycle _ _, h => (by cases h)
  | .lifecycle _ _, .raw _, h => (by cases h)
  | .lifecycle _ _, .lifecycle _ _, h => by
    have hpair := Prod.mk.inj (Sum.inr.inj h)
    rw [hpair.1, hpair.2]

instance : LinearOrder GroupKey := LinearOrder.lift' GroupKey.place GroupKey.place_inj

def GroupKey.text (h : Hashes) : GroupKey → String
  | .raw id                => "raw:" ++ toString id
  | .lifecycle scope group => "lifecycle:" ++ h.digest ["harness.trace.lifecycle-group.v2", scope, group]

/-- The group of an event; none for a lifecycle group without a scope. -/
def RawEventReceipt.groupKey (e : RawEventReceipt) : Option GroupKey :=
  match e.lifecycleGroupId with
  | none       => some (.raw e.id)
  | some group => e.executionScopeId.map (fun scope => .lifecycle scope group)

def sourceKey : SourceReceipt → String
  | .rawEvent id          => "raw:" ++ toString id
  | .domainEvent id       => "domain:" ++ toString id
  | .structural receiptId => "structural:" ++ receiptId

def contentParts (kind : String) (payload : Value) : List String :=
  ["harness.trace.content.v2", kind, canonicalJson payload]

def nodeParts (kind : String) (sources : List SourceReceipt) (content : String) : List String :=
  ["harness.trace.node.v2", kind, String.intercalate "," (sources.map sourceKey), content]

def nodeId (h : Hashes) (kind : String) (sources : List SourceReceipt) (content : String) : String :=
  "n_" ++ h.digest (nodeParts kind sources content)

/-- A node named by its kind, its sources and the digest of what is left of its payload. -/
def traceNode (h : Hashes) (kind : String) (payload : Value) (sources : List SourceReceipt) (redactionClass : String)
    (timestampMs : Option Int) (metadata : List (String × Value)) : TraceNode :=
  ⟨nodeId h kind sources (h.digest (contentParts kind payload)), kind, h.digest (contentParts kind payload), sources,
    redactionClass, timestampMs, metadata⟩

def rawKind (e : RawEventReceipt) : String :=
  match e.payload.findText ["item", "type"] with
  | some "agentMessage"      => "model_message"
  | some "reasoning"         => "reasoning_summary"
  | some "commandExecution"  => "command"
  | some "fileChange"        => "file_change"
  | some "contextCompaction" => "compaction"
  | some "subAgentActivity"  =>
    match e.payload.findText ["item", "kind"] with
    | some "completed" | some "failed" | some "interrupted" => "subagent_join"
    | _ => "subagent_spawn"
  | some "toolResult"        => "tool_result"
  | some "toolCall" | some "mcpToolCall" | some "dynamicToolCall" => "tool_request"
  | some "reviewFinding"     => "finding"
  | _ =>
    match e.method with
    | "thread/compacted" => "compaction"
    | "turn/start"       => "user_message"
    | _                  => "unknown_protocol"

def structuralKind (kind : String) : String :=
  match kind with
  | "run.lifecycle.transitioned" => "run_lifecycle"
  | "retry" | "remediation" => "attempt_boundary"
  | "restart" => "runtime_restart"
  | "run_lifecycle" => "run_lifecycle"
  | "attempt_boundary" => "attempt_boundary"
  | "runtime_restart" => "runtime_restart"
  | _ => "unknown_protocol"

def itemStateRank (e : RawEventReceipt) : Nat :=
  match e.method with
  | "item/completed" => 2
  | "item/started"   => 1
  | _                => 0

/-- `max_by_key`: the last one of the highest key. -/
def maxByKey {α κ : Type} [LinearOrder κ] (key : α → κ) (l : List α) : Option α :=
  l.foldl (fun best a => some (best.elim a (fun b => if key b ≤ key a then a else b))) none

def latestKey (e : RawEventReceipt) : ℕ ×ₗ EventOrder := toLex (itemStateRank e, eventOrder e)

def rawNode (h : Hashes) (receipts : List RawEventReceipt) (latest : RawEventReceipt) : TraceNode :=
  traceNode h (rawKind latest) (redact latest.payload latest.redactionClass).1
    (receipts.map (fun e => .rawEvent e.id)) (redact latest.payload latest.redactionClass).2 (some latest.receivedAt)
    [("receipt_count", ofNat receipts.length)]

def rawCandidate (h : Hashes) (key : String) (receipts : List RawEventReceipt) : Except Halt Candidate := do
  let latest ← okOr (maxByKey latestKey receipts) .panic
  return ⟨key, rawNode h receipts latest, latest.executionScopeId, eventOrder latest⟩

/-- The receipts of one group by their sequence, or by time where some have none. -/
def orderGroup (receipts : List RawEventReceipt) : List RawEventReceipt :=
  if receipts.any (fun e => !hasSequence e) && receipts.any hasSequence then sortBy receiptOrder receipts
  else sortBy eventOrder receipts

def sequenceDiagnostic (e : RawEventReceipt) : List ProjectionDiagnostic :=
  if e.sourceSequence.isSome && !hasSequence e then
    [⟨"invalid_source_sequence", "receipt_order_used", [.rawEvent e.id]⟩]
  else []

def groupMembers (events : List RawEventReceipt) (key : GroupKey) : List RawEventReceipt :=
  events.filter (fun e => decide (e.groupKey = some key))

def groupRawEvents (h : Hashes) (events : List RawEventReceipt) :
    Except Halt (List Candidate × List ProjectionDiagnostic) := do
  let keys ← okOr (events.mapM RawEventReceipt.groupKey) .panic
  let candidates ← (SortedSet.ofList keys).mapM
    (fun key => rawCandidate h (key.text h) (orderGroup (groupMembers events key)))
  return (candidates, events.flatMap sequenceDiagnostic)

def structuralReceiptParts (r : StructuralReceipt) : List String := ["harness.trace.structural-receipt.v2", r.id]

def structuralCandidate (h : Hashes) (r : StructuralReceipt) : Candidate :=
  ⟨"structural:" ++ r.id,
    traceNode h (structuralKind r.kind) (.obj [("kind", .str (structuralKind r.kind))])
      [.structural ("r_" ++ h.digest (structuralReceiptParts r))] "none" r.occurredAt [],
    none, toLex (⊥, toLex (r.occurredAt.getD 0, 0))⟩

def domainCandidate (h : Hashes) (e : DomainEventReceipt) : Candidate :=
  ⟨"domain:" ++ toString e.id,
    traceNode h (structuralKind e.eventType) (redact e.payload e.redactionClass).1 [.domainEvent e.id]
      (redact e.payload e.redactionClass).2 (some e.occurredAt) [],
    none, toLex (⊥, toLex (e.occurredAt, e.id))⟩

/-! ## Edges -/

def Candidate.sequenced (c : Candidate) : Bool := decide ((ofLex c.order).1 ≠ ⊥)

def scopeEdges (entries : List Candidate) : List TraceEdge :=
  let ordered := if entries.all Candidate.sequenced then sortBy Candidate.order entries
    else sortBy (fun c => (ofLex c.order).2) entries
  (ordered.zip ordered.tail).map (fun p => ⟨p.1.node.id, p.2.node.id, .next⟩)

def sequentialEdges (candidates : List Candidate) : List TraceEdge :=
  (SortedSet.ofList (candidates.filterMap Candidate.executionScopeId)).flatMap (fun scope =>
    scopeEdges (candidates.filter (fun c => c.executionScopeId == some scope)))

/-- The keys a candidate is found under: its own and those of its sources. -/
def candidateKeys (keys : KeyMap) (c : Candidate) : KeyMap :=
  (c.key :: c.node.sourceReceipts.map sourceKey).foldl (fun keys key => keys.insert key c.node.id) keys

def explicitEdge (keys : KeyMap) (r : RelationInput) : Except Halt TraceEdge := do
  let source ← okOr (keys.lookup r.source) (.error (.unknownRelationReceipt r.source))
  let target ← okOr (keys.lookup r.target) (.error (.unknownRelationReceipt r.target))
  return ⟨source, target, r.kind⟩

def TraceRelationKind.entry : TraceRelationKind → ℕ × String
  | .next          => (0, "next")
  | .contextParent => (1, "context_parent")
  | .toolResultOf  => (2, "tool_result_of")
  | .spawnedBy     => (3, "spawned_by")
  | .joinedInto    => (4, "joined_into")
  | .compactedFrom => (5, "compacted_from")
  | .retryOf       => (6, "retry_of")
  | .derivedFrom   => (7, "derived_from")
  | .supersedes    => (8, "supersedes")

def TraceEdge.place (e : TraceEdge) : String ×ₗ String ×ₗ ℕ := toLex (e.source, toLex (e.target, e.kind.entry.1))

theorem TraceRelationKind.entry_inj {k k' : TraceRelationKind} (h : k.entry.1 = k'.entry.1) : k = k' := by
  cases k <;> cases k' <;> first | rfl | cases h

theorem TraceEdge.place_inj : Function.Injective TraceEdge.place := by
  intro e e' h
  have hpair := Prod.mk.inj h
  have hrest := Prod.mk.inj hpair.2
  cases e
  cases e'
  rw [TraceEdge.mk.injEq]
  exact ⟨hpair.1, hrest.1, TraceRelationKind.entry_inj hrest.2⟩

instance : LinearOrder TraceEdge := LinearOrder.lift' TraceEdge.place TraceEdge.place_inj

/-! ## The manifest -/

def branches (h : Hashes) (nodes : List TraceNode) (edges : List TraceEdge) : Except Halt (List TraceBranch × Bool) := do
  let (found, truncated) ← collectBranches h (adjacent edges) (roots nodes edges) [] 0
  return (sortBy TraceBranch.id found, truncated)

def sourceEventRange : List RawEventReceipt → Option SourceEventRange
  | []          => none
  | e :: events => some ⟨(events.map RawEventReceipt.id).foldl min e.id, (events.map RawEventReceipt.id).foldl max e.id⟩

def SourceReceipt.value : SourceReceipt → Value
  | .rawEvent id          => .obj [("source", .str "raw_event"), ("raw_event_id", ofInt id)]
  | .domainEvent id       => .obj [("source", .str "domain_event"), ("domain_event_id", ofInt id)]
  | .structural receiptId => .obj [("source", .str "structural"), ("receipt_id", .str receiptId)]

def TraceNode.value (n : TraceNode) : Value :=
  .obj [("id", .str n.id), ("kind", .str n.kind), ("content_sha256", .str n.contentSha256),
    ("source_receipts", .arr (n.sourceReceipts.map SourceReceipt.value)), ("redaction_class", .str n.redactionClass),
    ("timestamp_ms", ofOption ofInt n.timestampMs), ("metadata", .obj n.metadata)]

def TraceEdge.value (e : TraceEdge) : Value :=
  .obj [("from", .str e.source), ("to", .str e.target), ("kind", .str e.kind.entry.2)]

def TraceBranch.value (b : TraceBranch) : Value :=
  .obj [("id", .str b.id), ("root_node_id", .str b.rootNodeId), ("leaf_node_id", .str b.leafNodeId),
    ("node_ids", ofTexts b.nodeIds), ("metadata", .obj b.metadata)]

def ProjectionDiagnostic.value (d : ProjectionDiagnostic) : Value :=
  .obj [("code", .str d.code), ("detail", .str d.detail),
    ("source_receipts", .arr (d.sourceReceipts.map SourceReceipt.value))]

def SourceEventRange.value (r : SourceEventRange) : Value :=
  .obj [("first_id", ofInt r.firstId), ("last_id", ofInt r.lastId)]

def manifestValue (m : TraceManifest) : Value :=
  .obj [("schema", .str m.schema), ("trace_id", .str m.traceId), ("run_id", .str m.runId),
    ("task_attempt_id", ofOption .str m.taskAttemptId),
    ("source_event_range", ofOption SourceEventRange.value m.sourceEventRange),
    ("runtime_digest", .str m.runtimeDigest), ("redaction_policy_digest", .str m.redactionPolicyDigest),
    ("sensitivity", .str m.sensitivity), ("nodes", .arr (m.nodes.map TraceNode.value)),
    ("edges", .arr (m.edges.map TraceEdge.value)), ("branches", .arr (m.branches.map TraceBranch.value)),
    ("diagnostics", .arr (m.diagnostics.map ProjectionDiagnostic.value)), ("sha256", .str m.sha256)]

def manifestParts (m : TraceManifest) : List String := ["harness.trace.manifest.v2", canonicalJson (manifestValue m)]

def TraceManifest.sign (h : Hashes) (m : TraceManifest) : TraceManifest :=
  { m with sha256 := h.digest (manifestParts { m with sha256 := "" }) }

def diagnosticOrder (d : ProjectionDiagnostic) : String ×ₗ String := toLex (d.code, d.detail)

def allCandidates (h : Hashes) (i : TraceInput) (groups : List Candidate) : List Candidate :=
  sortBy Candidate.key
    (groups ++ i.domainEvents.map (domainCandidate h) ++ i.structuralReceipts.map (structuralCandidate h))

def keysOf (candidates : List Candidate) : KeyMap := candidates.foldl candidateKeys []

def edgesOf (candidates : List Candidate) (explicit : List TraceEdge) : List TraceEdge :=
  SortedSet.ofList (sequentialEdges candidates ++ explicit)

def nodesOf (candidates : List Candidate) : List TraceNode := sortBy TraceNode.id (candidates.map Candidate.node)

def manifestOf (h : Hashes) (i : TraceInput) (candidates : List Candidate) (edges : List TraceEdge)
    (diagnostics : List ProjectionDiagnostic) (found : List TraceBranch) (truncated : Bool) : TraceManifest :=
  TraceManifest.sign h ⟨"harness.trace.v2", i.traceId, i.runId, i.taskAttemptId,
    sourceEventRange (orderEvents i.rawEvents).1, i.runtimeDigest, i.redactionPolicyDigest, i.sensitivity,
    nodesOf candidates, edges, found,
    sortBy diagnosticOrder diagnostics ++ (if truncated then [truncatedDiagnostic] else []), ""⟩

def connectCandidates (h : Hashes) (i : TraceInput) (candidates : List Candidate)
    (diagnostics : List ProjectionDiagnostic) : Except Halt TraceManifest := do
  let explicit ← i.relations.mapM (explicitEdge (keysOf candidates))
  validateEdges (keysOf candidates) (edgesOf candidates explicit)
  let (found, truncated) ← branches h (nodesOf candidates) (edgesOf candidates explicit)
  return manifestOf h i candidates (edgesOf candidates explicit) diagnostics found truncated

def project (h : Hashes) (i : TraceInput) : Except Halt TraceManifest := do
  validateReceipts h i
  ensure (!(i.rawEvents.isEmpty && i.structuralReceipts.isEmpty && i.domainEvents.isEmpty)) (.error .emptyInput)
  let (groups, sequencing) ← groupRawEvents h (orderEvents i.rawEvents).1
  connectCandidates h i (allCandidates h i groups) ((orderEvents i.rawEvents).2 ++ sequencing)

end TraceDag
end Bildr
