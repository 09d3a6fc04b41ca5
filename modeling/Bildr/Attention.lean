import Bildr.Approval
import Bildr.Liveness
import Bildr.Progress
/-!
# Attention — what waits for the operator

An item is opened by its source, acknowledged by the operator and closed by its source.  Every change of an item is an
event; the columns of an item are fields of its payload, and a statement that writes one writes the other, so a row is
the item.  Approvals are the one source that is mirrored into items when the control plane is read
(`refreshApprovalAttention`).
-/
namespace Bildr
namespace Control

open Json (Value)

inductive AttentionCategory
  | decision | approval | credential | policyException | destructiveAction | publication | missingEvidence
  | externalDependency | recoveryConflict | infrastructure
deriving DecidableEq, Repr

def AttentionCategory.name : AttentionCategory → String
  | .decision           => "decision"
  | .approval           => "approval"
  | .credential         => "credential"
  | .policyException    => "policy_exception"
  | .destructiveAction  => "destructive_action"
  | .publication        => "publication"
  | .missingEvidence    => "missing_evidence"
  | .externalDependency => "external_dependency"
  | .recoveryConflict   => "recovery_conflict"
  | .infrastructure     => "infrastructure"

inductive AttentionSeverity
  | info | normal | high | critical
deriving DecidableEq, Repr

def AttentionSeverity.name : AttentionSeverity → String
  | .info     => "info"
  | .normal   => "normal"
  | .high     => "high"
  | .critical => "critical"

/-- The `CASE severity` of every `ORDER BY`. -/
def AttentionSeverity.rank : AttentionSeverity → Nat
  | .critical => 0
  | .high     => 1
  | .normal   => 2
  | .info     => 3

inductive AttentionState
  | open | acknowledged | waitingExternal | resolved | declined | superseded | invalidated
deriving DecidableEq, Repr

def AttentionState.name : AttentionState → String
  | .open            => "open"
  | .acknowledged    => "acknowledged"
  | .waitingExternal => "waiting_external"
  | .resolved        => "resolved"
  | .declined        => "declined"
  | .superseded      => "superseded"
  | .invalidated     => "invalidated"

/-- The name in an error, `{:?}`. -/
def AttentionState.debug : AttentionState → String
  | .open            => "Open"
  | .acknowledged    => "Acknowledged"
  | .waitingExternal => "WaitingExternal"
  | .resolved        => "Resolved"
  | .declined        => "Declined"
  | .superseded      => "Superseded"
  | .invalidated     => "Invalidated"

def AttentionState.isTerminal (s : AttentionState) : Bool :=
  [AttentionState.resolved, .declined, .superseded, .invalidated].contains s

/-- `state IN ('open','acknowledged','waiting_external')`. -/
def AttentionState.isActive (s : AttentionState) : Bool :=
  [AttentionState.open, .acknowledged, .waitingExternal].contains s

def AttentionState.canTransitionTo (s next : AttentionState) : Bool :=
  match s with
  | .open => [AttentionState.acknowledged, .waitingExternal, .resolved, .declined, .superseded, .invalidated].contains next
  | .acknowledged => [AttentionState.waitingExternal, .resolved, .declined, .superseded, .invalidated].contains next
  | .waitingExternal => [AttentionState.open, .resolved, .declined, .superseded, .invalidated].contains next
  | s => next == s

def AttentionState.validateTransition (s next : AttentionState) (sameTerminalReceipt : Bool) : Except StoreError Unit :=
  ensure (s.canTransitionTo next && (!s.isTerminal || sameTerminalReceipt))
    (.validation ("illegal attention transition from " ++ s.debug ++ " to " ++ next.debug))

inductive AttentionSourceType
  | approval | decision | credentialRequirement | publication | policyDecision | evidenceGap | externalCondition
  | reconciliation | infrastructure
deriving DecidableEq, Repr

def AttentionSourceType.name : AttentionSourceType → String
  | .approval              => "approval"
  | .decision              => "decision"
  | .credentialRequirement => "credential_requirement"
  | .publication           => "publication"
  | .policyDecision        => "policy_decision"
  | .evidenceGap           => "evidence_gap"
  | .externalCondition     => "external_condition"
  | .reconciliation        => "reconciliation"
  | .infrastructure        => "infrastructure"

/-- The number in an error, `as u8`. -/
def AttentionSourceType.number : AttentionSourceType → Nat
  | .approval              => 0
  | .decision              => 1
  | .credentialRequirement => 2
  | .publication           => 3
  | .policyDecision        => 4
  | .evidenceGap           => 5
  | .externalCondition     => 6
  | .reconciliation        => 7
  | .infrastructure        => 8

/-! ## Items -/

structure AttentionSourceRef where
  sourceType : AttentionSourceType
  sourceId : String
  sourceRevision : Nat
deriving DecidableEq

structure AttentionResurfacingPolicy where
  policy : String
  maximumDeferMs : Nat
deriving DecidableEq

structure AttentionResolution where
  outcome : String
  actorType : String
  actorId : String
  resolvedAtMs : Int
  authorityEventId : String
  boundHeadSha : Option String
  worktreeFingerprint : Option String
  receiptSha256 : String
deriving DecidableEq

structure AttentionItem where
  schema : String
  attentionId : String
  repositoryId : Option String
  runId : Option String
  taskId : Option String
  source : AttentionSourceRef
  category : AttentionCategory
  severity : AttentionSeverity
  state : AttentionState
  title : String
  summary : String
  optionRefs : List String
  evidenceRefs : List String
  blockedRefs : List String
  dedupeKey : String
  openedEventId : String
  openedAtMs : Int
  acknowledgedAtMs : Option Int
  dueAtMs : Option Int
  resurfacing : AttentionResurfacingPolicy
  resolution : Option AttentionResolution
  version : Nat
deriving DecidableEq

def AttentionSourceRef.json (s : AttentionSourceRef) : Value :=
  .obj [("source_type", .str s.sourceType.name), ("source_id", .str s.sourceId), ("source_revision", ofNat s.sourceRevision)]

def AttentionResolution.json (r : AttentionResolution) : Value :=
  .obj [("outcome", .str r.outcome), ("actor_type", .str r.actorType), ("actor_id", .str r.actorId),
    ("resolved_at_ms", ofInt r.resolvedAtMs), ("authority_event_id", .str r.authorityEventId),
    ("bound_head_sha", ofOption .str r.boundHeadSha), ("worktree_fingerprint", ofOption .str r.worktreeFingerprint),
    ("receipt_sha256", .str r.receiptSha256)]

def AttentionItem.json (i : AttentionItem) : Value :=
  .obj [("schema", .str i.schema), ("attention_id", .str i.attentionId), ("repository_id", ofOption .str i.repositoryId),
    ("run_id", ofOption .str i.runId), ("task_id", ofOption .str i.taskId), ("source", i.source.json),
    ("category", .str i.category.name), ("severity", .str i.severity.name), ("state", .str i.state.name),
    ("title", .str i.title), ("summary", .str i.summary), ("option_refs", ofTexts i.optionRefs),
    ("evidence_refs", ofTexts i.evidenceRefs), ("blocked_refs", ofTexts i.blockedRefs), ("dedupe_key", .str i.dedupeKey),
    ("opened_event_id", .str i.openedEventId), ("opened_at_ms", ofInt i.openedAtMs),
    ("acknowledged_at_ms", ofOption ofInt i.acknowledgedAtMs), ("due_at_ms", ofOption ofInt i.dueAtMs),
    ("resurfacing", .obj [("policy", .str i.resurfacing.policy), ("maximum_defer_ms", ofNat i.resurfacing.maximumDeferMs)]),
    ("resolution", ofOption AttentionResolution.json i.resolution), ("version", ofNat i.version)]

def AttentionSourceRef.validate (s : AttentionSourceRef) : Except StoreError Unit :=
  validateIdentifier s.sourceId "attention source id"

def AttentionResolution.validate (r : AttentionResolution) : Except StoreError Unit := do
  validateIdentifier r.authorityEventId "attention authority event id"
  validateHex r.receiptSha256 "attention receipt sha256" 64
  validateOptionalHex r.boundHeadSha "attention bound head sha" 40
  validateOptionalHex r.worktreeFingerprint "attention worktree fingerprint" 64

def AttentionItem.validate (i : AttentionItem) : Except StoreError Unit := do
  ensure (i.schema == "harness.attention-item.v1") (invalidField "attention schema" "must be harness.attention-item.v1")
  i.source.validate
  validateText i.title "attention title" 240
  validateText i.summary "attention summary" 4000
  validateIdentifier i.dedupeKey "attention dedupe key"
  validateIdentifier i.openedEventId "attention opened event id"
  ensure (i.state.isTerminal == i.resolution.isSome)
    (invalidField "attention resolution" "must exist exactly for a terminal attention state")
  match i.resolution with
  | none   => .ok ()
  | some r => r.validate

/-! ## Events and links -/

inductive AttentionEventKind
  | opened | acknowledged | resolved | declined | superseded | invalidated
deriving DecidableEq, Repr

def AttentionEventKind.name : AttentionEventKind → String
  | .opened       => "opened"
  | .acknowledged => "acknowledged"
  | .resolved     => "resolved"
  | .declined     => "declined"
  | .superseded   => "superseded"
  | .invalidated  => "invalidated"

structure AttentionEvent where
  id : Nat
  attentionId : String
  source : AttentionSourceRef
  kind : AttentionEventKind
  expectedVersion : Option Nat
  resultingVersion : Nat
  payload : AttentionItem

structure AttentionTables where
  items : Table AttentionItem.attentionId
  events : Table AttentionEvent.id
  links : Links

/-- `attention:kind:version`, as the digests of a link name it. -/
def attentionText (i : AttentionItem) (kind : AttentionEventKind) : String :=
  i.attentionId ++ ":" ++ kind.name ++ ":v" ++ toString i.version

def attentionLinkOf (w : Wire) (i : AttentionItem) (kind : AttentionEventKind) (fromKind fromId toKind toId relation : String)
    (parentSpanId : Option String) (createdAtMs : Int) : Except StoreError CorrelationLink := do
  let linkId ← linkIdOf w ("harness.attention.link.v1:" ++ attentionText i kind)
  return ⟨"harness.correlation-link.v1", linkId, ⟨(w.sha256 ("harness.attention.trace.v1:" ++ i.attentionId)).take 32,
    (w.sha256 ("harness.attention.span.v1:" ++ attentionText i kind)).take 16, parentSpanId⟩,
    fromKind, fromId, toKind, toId, relation, createdAtMs⟩

def openingSpan (w : Wire) (i : AttentionItem) : String :=
  (w.sha256 ("harness.attention.span.v1:" ++ i.attentionId ++ ":opened:v1")).take 16

def attentionCorrelationLink (w : Wire) (i : AttentionItem) (kind : AttentionEventKind) :
    Except StoreError CorrelationLink :=
  match kind with
  | .opened =>
    attentionLinkOf w i kind "source_event" i.openedEventId "attention" i.attentionId "opens_attention" none i.openedAtMs
  | .acknowledged => do
    let time ← okOr i.acknowledgedAtMs
      (.validation "acknowledged attention event requires an acknowledgement timestamp")
    attentionLinkOf w i kind "attention" i.attentionId "attention_acknowledgement"
      (i.attentionId ++ ":v" ++ toString i.version) "acknowledges_attention" (some (openingSpan w i)) time
  | kind => do
    let r ← okOr i.resolution (.validation "terminal attention event requires a source authority receipt")
    attentionLinkOf w i kind "authority_event" r.authorityEventId "attention" i.attentionId "resolves_attention"
      (some (openingSpan w i)) r.resolvedAtMs

/-- `UNIQUE(source_type,source_id,source_revision,event_kind)`. -/
def insertAttentionEvent (t : Table AttentionEvent.id) (i : AttentionItem) (kind : AttentionEventKind)
    (expectedVersion : Option Nat) : Except StoreError (Table AttentionEvent.id) := do
  require (!t.rows.any (fun e => decide (e.source = i.source) && decide (e.kind = kind)))
  insertRow t ⟨Table.maxOf AttentionEvent.id t.rows + 1, i.attentionId, i.source, kind, expectedVersion, i.version, i⟩

/-! ## The calls -/

def AttentionItem.isNew (i : AttentionItem) : Bool :=
  decide (i.state = .open) && i.version == 1 && i.acknowledgedAtMs.isNone && i.resolution.isNone

def sourceActive (t : AttentionTables) (s : AttentionSourceRef) : Bool :=
  t.items.rows.any (fun i => decide (i.source.sourceType = s.sourceType) && i.source.sourceId == s.sourceId &&
    i.state.isActive)

/-- `idx_attention_items_active_dedupe`: an active item has the dedupe key. -/
def dedupeActive (t : AttentionTables) (key : String) : Bool :=
  t.items.rows.any (fun i => i.dedupeKey == key && i.state.isActive)

def upsertBody (w : Wire) (item : AttentionItem) (t : AttentionTables) :
    Except StoreError (AttentionItem × AttentionTables) := do
  item.validate
  ensure item.isNew (.validation
    "a new source attention item must be open at version one without acknowledgement or resolution")
  let _ ← toI64 item.source.sourceRevision "attention source revision"
  match t.items.rows.find? (fun i => decide (i.source = item.source)) with
  | some existing => do
    existing.validate
    ensure (existing == item) (.conflict ("attention source " ++ toString item.source.sourceType.number ++ ":" ++
      item.source.sourceId ++ " revision " ++ toString item.source.sourceRevision ++ " already has a different payload"))
    let link ← attentionCorrelationLink w existing .opened
    let links ← recordCorrelationLinkInTransaction t.links link
    return (existing, { t with links := links })
  | none => do
    ensure (!sourceActive t item.source) (.conflict
      "a source revision cannot replace an active attention item; the source adapter must record a terminal authority receipt first")
    require (!dedupeActive t item.dedupeKey)
    let items ← insertRow t.items item
    let events ← insertAttentionEvent t.events item .opened none
    let link ← attentionCorrelationLink w item .opened
    let links ← recordCorrelationLinkInTransaction t.links link
    return (item, ⟨items, events, links⟩)

def upsertSourceAttention (w : Wire) (item : AttentionItem) : Call AttentionTables AttentionItem :=
  transaction (upsertBody w item)

def readAttention (t : AttentionTables) (id : String) (expectedVersion : Nat) (why : AttentionItem → String) :
    Except StoreError AttentionItem := do
  let _ ← toI64 expectedVersion "attention expected version"
  let item ← okOr (t.items.get id) (.notFound ("attention item " ++ id))
  item.validate
  let _ ← toI64 item.version "attention version"
  ensure (item.version == expectedVersion) (.conflict (why item))
  return item

/-- The changed item in place of the one under its id, its event and its link. -/
def writeAttention (w : Wire) (item : AttentionItem) (kind : AttentionEventKind) (expectedVersion : Nat)
    (t : AttentionTables) : Except StoreError (AttentionItem × AttentionTables) := do
  item.validate
  let _ ← toI64 item.version "attention version"
  let events ← insertAttentionEvent t.events item kind (some expectedVersion)
  let link ← attentionCorrelationLink w item kind
  let links ← recordCorrelationLinkInTransaction t.links link
  let items := t.items.update (fun i => i.attentionId == item.attentionId)
    (fun i => { item with attentionId := i.attentionId }) (fun _ => rfl)
  return (item, ⟨items, events, links⟩)

def acknowledgeBody (w : Wire) (id : String) (expectedVersion : Nat) (now : Int) (t : AttentionTables) :
    Except StoreError (AttentionItem × AttentionTables) := do
  let item ← readAttention t id expectedVersion (fun i => "attention item " ++ id ++ " has version " ++
    toString i.version ++ ", expected " ++ toString expectedVersion)
  item.state.validateTransition .acknowledged false
  writeAttention w { item with state := .acknowledged, acknowledgedAtMs := some now, version := item.version + 1 }
    .acknowledged expectedVersion t

def acknowledgeAttention (w : Wire) (id : String) (expectedVersion : Nat) (now : Int) :
    Call AttentionTables AttentionItem := transaction (acknowledgeBody w id expectedVersion now)

def AttentionState.event : AttentionState → Option AttentionEventKind
  | .resolved    => some .resolved
  | .declined    => some .declined
  | .superseded  => some .superseded
  | .invalidated => some .invalidated
  | _            => none

def resolveBody (w : Wire) (id : String) (expectedVersion : Nat) (nextState : AttentionState)
    (resolution : AttentionResolution) (t : AttentionTables) : Except StoreError (AttentionItem × AttentionTables) := do
  let kind ← okOr nextState.event (.validation "source attention closure requires a terminal state")
  resolution.validate
  let item ← readAttention t id expectedVersion
    (fun _ => "attention item " ++ id ++ " has changed since the source adapter observed it")
  item.state.validateTransition nextState false
  writeAttention w { item with state := nextState, resolution := some resolution, version := item.version + 1 }
    kind expectedVersion t

def resolveAttentionFromSource (w : Wire) (id : String) (expectedVersion : Nat) (nextState : AttentionState)
    (resolution : AttentionResolution) : Call AttentionTables AttentionItem :=
  transaction (resolveBody w id expectedVersion nextState resolution)

/-! ## Approvals as a source -/

/-- What `format_timestamp` writes, read back: a year that RFC 3339 cannot write is written as the epoch. -/
def writtenTimestamp (ms : Int) : Int := if -62167219200000 ≤ ms ∧ ms ≤ 253402300799999 then ms else 0

def approvalSeverity : Approval.RiskLevel → AttentionSeverity
  | .low      => .info
  | .medium   => .normal
  | .high     => .high
  | .critical => .critical

def boundedTitle (approvalType : String) : String :=
  "Approval required: " ++ String.ofList (approvalType.toList.take 210)

def approvalAttention (id : String) (a : Approval.ApprovalSummary) : AttentionItem where
  schema := "harness.attention-item.v1"
  attentionId := id
  repositoryId := none
  runId := some a.runId
  taskId := a.taskId
  source := ⟨.approval, a.id, a.version⟩
  category := .approval
  severity := approvalSeverity a.riskLevel
  state := .open
  title := boundedTitle a.approvalType
  summary := "A controller approval is pending for run " ++ a.runId ++
    ". Review the source approval before work can continue."
  optionRefs := []
  evidenceRefs := []
  blockedRefs := a.taskId.toList
  dedupeKey := "approval:" ++ a.id
  openedEventId := "approval:" ++ a.id ++ ":" ++ toString a.version
  openedAtMs := writtenTimestamp a.createdAt
  acknowledgedAtMs := none
  dueAtMs := none
  resurfacing := ⟨"until_approval_authority_receipt", 0⟩
  resolution := none
  version := 1

def approvalTerminalState (a : Approval.ApprovalSummary) : AttentionState :=
  if a.state = .expired ∨ a.decision = some "decline" ∨ a.decision = some "cancel" then .declined else .resolved

def approvalResolution (w : Wire) (now : Int) (a : Approval.ApprovalSummary) : AttentionResolution where
  outcome := "approval_" ++ a.state.text ++ "_" ++ a.decision.getD "none"
  actorType := "controller_approval_source"
  actorId := a.id
  resolvedAtMs := (a.resolvedAt.map writtenTimestamp).getD now
  authorityEventId := "approval:" ++ a.id ++ ":" ++ toString a.version
  boundHeadSha := none
  worktreeFingerprint := none
  receiptSha256 := (w.sha256 ("approval:" ++ a.id ++ ":" ++ a.state.text ++ ":" ++ a.decision.getD "none" ++ ":" ++
    toString a.version)).hex

def laterRevision (best : Option AttentionItem) (i : AttentionItem) : Option AttentionItem :=
  match best with
  | none   => some i
  | some b => if b.source.sourceRevision < i.source.sourceRevision then some i else some b

/-- `ORDER BY source_revision DESC LIMIT 1`; the revisions of a source are distinct. -/
def attentionBySource (t : AttentionTables) (sourceType : AttentionSourceType) (sourceId : String) :
    Except StoreError (Option AttentionItem) := do
  match (t.items.rows.filter (fun i => decide (i.source.sourceType = sourceType) && i.source.sourceId == sourceId)).foldl
      laterRevision none with
  | none => return none
  | some item => do
    ensure item.validate.isOk (.sqlite .fromSqlConversionFailure)
    return some item

def mirrorApproval (w : Wire) (ids : String → String) (now : Int) (a : Approval.ApprovalSummary) : Call AttentionTables Unit :=
  fun t =>
    match attentionBySource t .approval a.id with
    | .error e => (.error e, t)
    | .ok existing =>
      match a.state, existing with
      | .pending, none => (upsertSourceAttention w (approvalAttention (ids a.id) a)).map (fun _ => ()) t
      | .pending, some item =>
        if item.state.isTerminal && decide (item.source.sourceRevision < a.version) then
          (upsertSourceAttention w (approvalAttention (ids a.id) a)).map (fun _ => ()) t
        else (.ok (), t)
      | _, some item =>
        if item.state.isTerminal then (.ok (), t)
        else (resolveAttentionFromSource w item.attentionId item.version (approvalTerminalState a)
          (approvalResolution w now a)).map (fun _ => ()) t
      | _, none => (.ok (), t)

/-- The approvals one after another; each is a transaction of its own, and the first refusal ends the refresh. -/
def refreshApprovalAttention (w : Wire) (ids : String → String) (now : Int) :
    List Approval.ApprovalSummary → Call AttentionTables Unit
  | []      => Call.ret ()
  | a :: as => (mirrorApproval w ids now a).andThen (fun _ => refreshApprovalAttention w ids now as)

end Control
end Bildr
