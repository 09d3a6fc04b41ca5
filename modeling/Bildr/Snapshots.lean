import Bildr.Conditions
import Bildr.ControlPlane
import Bildr.Investigations
import Bildr.Notifications
/-!
# Snapshots — the control plane at one moment

A snapshot lists the newest rows of every source, at most a hundred each, with the cursors of the sources: a count, a
largest id or a sum of versions.  It is stored under the digest of its cursors, and whoever asks while the cursors are
the same is answered with the stored one.  Before a snapshot is compiled the projections are brought up to date: progress
from the events, attention from the approvals, deliveries from attention.

The table `snapshot_sections`, which repeats the sections and is never read, is left out.
-/
namespace Bildr
namespace Control

open Json (Value)

/-! ## The tables a snapshot reads -/

/-- A row of `runs`, as it is listed. -/
structure RunListing where
  runId : String
  title : String
  state : String
  phase : String
  baseSha : String
  createdAtMs : Int
  updatedAtMs : Int

/-- A row of `task_attempts` with its task, as it is listed. -/
structure AttemptListing where
  attemptId : String
  runId : String
  taskId : String
  state : String
  attemptNumber : Int
  startedAtMs : Option Int
  completedAtMs : Option Int
  failureReason : Option String
  updatedAtMs : Int

structure Elsewhere where
  runs : List RunListing
  attempts : List AttemptListing
  activeAgents : Nat
  runtimeSchemaVersion : String
  approvals : List Approval.ApprovalSummary

inductive SnapshotSectionState
  | current | stale | unknown | error
deriving DecidableEq, Repr

def SnapshotSectionState.name : SnapshotSectionState → String
  | .current => "current"
  | .stale   => "stale"
  | .unknown => "unknown"
  | .error   => "error"

structure SnapshotSection where
  state : SnapshotSectionState
  rows : List Value
  sourceCursor : Nat
  truncated : Bool
  detail : Option String
deriving DecidableEq

structure SnapshotTruncation where
  sectionName : String
  omittedRows : Nat
  limit : Nat
deriving DecidableEq

inductive Source
  | attentionEvents | conditionObservations | domainEvents | externalConditions | investigationArtifacts
  | livenessEpisodes | livenessObservations | materialProgressClassifier | materialProgressEvents
  | notificationDeliveries | operatorPresence | reconciliationEpisodes
deriving DecidableEq, Repr

def Source.all : List Source :=
  [.attentionEvents, .conditionObservations, .domainEvents, .externalConditions, .investigationArtifacts,
    .livenessEpisodes, .livenessObservations, .materialProgressClassifier, .materialProgressEvents,
    .notificationDeliveries, .operatorPresence, .reconciliationEpisodes]

def Source.name : Source → String
  | .attentionEvents            => "attention_events"
  | .conditionObservations      => "condition_observations"
  | .domainEvents               => "domain_events"
  | .externalConditions         => "external_conditions"
  | .investigationArtifacts     => "investigation_artifacts"
  | .livenessEpisodes           => "liveness_episodes"
  | .livenessObservations       => "liveness_observations"
  | .materialProgressClassifier => "material_progress_classifier"
  | .materialProgressEvents     => "material_progress_events"
  | .notificationDeliveries     => "notification_deliveries"
  | .operatorPresence           => "operator_presence"
  | .reconciliationEpisodes     => "reconciliation_episodes"

structure ControlPlaneSnapshot where
  schema : String
  snapshotId : String
  revision : Nat
  compiledAtMs : Int
  eventCursor : Nat
  consistency : String
  system : SnapshotSection
  accounts : SnapshotSection
  scheduler : SnapshotSection
  runs : SnapshotSection
  attention : SnapshotSection
  attempts : SnapshotSection
  investigations : SnapshotSection
  progress : SnapshotSection
  liveness : SnapshotSection
  reconciliation : SnapshotSection
  externalConditions : SnapshotSection
  cost : SnapshotSection
  notifications : SnapshotSection
  limits : SnapshotSection
  truncation : List SnapshotTruncation
  sourceCursors : Source → Nat
  sha256 : String

/-- `control_plane_snapshots`; the other columns are fields of the payload. -/
structure SnapshotRow where
  sourceCursorsSha256 : String
  payload : ControlPlaneSnapshot

def SnapshotRow.id (r : SnapshotRow) : String := r.payload.snapshotId

structure OperatorTables where
  control : ControlTables
  events : List SourceEvent
  classifierCursor : Int
  progress : Table MaterialProgressEvent.eventId
  attention : Table AttentionItem.attentionId
  attentionEvents : Table AttentionEvent.id
  conditions : Table ExternalCondition.conditionId
  conditionObservations : Table ConditionObservation.observationId
  artifacts : Table InvestigationArtifact.artifactId
  deliveries : Table NotificationDelivery.deliveryId
  presence : Table OperatorPresence.operatorId
  elsewhere : Elsewhere
  snapshots : Table SnapshotRow.id

/-! ## Cursors -/

def cursor (t : OperatorTables) : Source → Nat
  | .attentionEvents            => Table.maxOf AttentionEvent.id t.attentionEvents.rows
  | .conditionObservations      => t.conditionObservations.rows.length
  | .domainEvents               => Table.maxOf SourceEvent.id t.events
  | .externalConditions         => t.conditions.rows.length
  | .investigationArtifacts     => t.artifacts.rows.length
  | .livenessEpisodes           => t.control.episodes.rows.length
  | .livenessObservations       => t.control.observations.rows.length
  | .materialProgressClassifier => t.classifierCursor.toNat
  | .materialProgressEvents     => t.progress.rows.length
  | .notificationDeliveries     => t.deliveries.rows.length
  | .operatorPresence           => (t.presence.rows.map OperatorPresence.version).sum
  | .reconciliationEpisodes     => t.control.reconciliations.rows.length

def sourceCursors (t : OperatorTables) : Except StoreError (Source → Nat) := do
  ensure (decide (0 ≤ t.classifierCursor)) (.validation "material progress classifier cursor is negative")
  ensure (fitsI64 (cursor t .operatorPresence)) (.sqlite .integerOverflow)
  return cursor t

def cursorsJson (c : Source → Nat) : Value := .obj (Source.all.map (fun s => (s.name, ofNat (c s))))

/-! ## Sections -/

def sectionRowLimit : Nat := 100

/-- `ORDER BY … LIMIT …`, each row read; and how many rows the limit leaves out. -/
def sectionRows {α : Type} (before : α → α → Bool) (read : α → Except StoreError Value) (rows : List α) :
    Except StoreError (List Value × Option Nat) := do
  let values ← ((rows.insertionSort (fun a b => before a b = true)).take sectionRowLimit).mapM read
  return (values, if sectionRowLimit < rows.length then some (rows.length - sectionRowLimit) else none)

/-- `ORDER BY time DESC,id DESC`. -/
def newestFirst {α : Type} (time : α → Int) (id : α → String) (a b : α) : Bool :=
  decide (time b < time a) || (decide (time a = time b) && decide (id b ≤ id a))

def attentionBefore (a b : AttentionItem) : Bool :=
  decide (a.severity.rank < b.severity.rank) || (decide (a.severity.rank = b.severity.rank) &&
    newestFirst AttentionItem.openedAtMs AttentionItem.attentionId a b)

mutual
/-- `serde_json::to_value`, which sorts the fields of every record. -/
def toValue : Value → Value
  | .arr items  => .arr (toValues items)
  | .obj fields => .obj (toMap fields)
  | v           => v

def toValues : List Value → List Value
  | []      => []
  | v :: vs => toValue v :: toValues vs

def toMap : List (String × Value) → List (String × Value)
  | []               => []
  | (k, v) :: fields => Json.insertField k (toValue v) (toMap fields)
end

def withDigest (unsigned : Value) (sha256 : String) : Value :=
  match unsigned with
  | .obj fields => .obj (fields.map (fun f => if f.1 == "sha256" then (f.1, .str sha256) else f))
  | v           => v

structure SectionRows where
  attention : List Value × Option Nat
  investigations : List Value × Option Nat
  externalConditions : List Value × Option Nat
  progress : List Value × Option Nat
  liveness : List Value × Option Nat
  reconciliation : List Value × Option Nat
  notifications : List Value × Option Nat

def attentionRows (t : OperatorTables) : Except StoreError (List Value × Option Nat) :=
  sectionRows attentionBefore (fun i => do
    ensure i.validate.isOk (.sqlite .fromSqlConversionFailure)
    return toValue i.json) (t.attention.rows.filter (fun i => i.state.isActive))

def investigationRows (w : Wire) (t : OperatorTables) : Except StoreError (List Value × Option Nat) :=
  sectionRows (newestFirst InvestigationArtifact.createdAtMs InvestigationArtifact.artifactId)
    (fun a => (checkedArtifact w a).map (fun a => toValue a.summary)) t.artifacts.rows

def externalConditionRows (w : Wire) (t : OperatorTables) : Except StoreError (List Value × Option Nat) :=
  sectionRows (newestFirst ExternalCondition.updatedAtMs ExternalCondition.conditionId)
    (fun c => (checkedCondition w c).map (fun c => toValue c.summary))
    (t.conditions.rows.filter (fun c => c.state.isActive))

def materialProgressRows (w : Wire) (t : OperatorTables) : Except StoreError (List Value × Option Nat) :=
  sectionRows (newestFirst MaterialProgressEvent.occurredAtMs MaterialProgressEvent.eventId)
    (fun p => (checkedProgress w p).map (fun p => toValue (withDigest p.unsigned p.sha256))) t.progress.rows

def livenessRows (w : Wire) (t : OperatorTables) : Except StoreError (List Value × Option Nat) :=
  sectionRows (newestFirst LivenessRow.updatedAt LivenessRow.id)
    (fun r => (readEpisode w r).map (fun e => toValue (withDigest e.unsigned e.sha256))) t.control.episodes.rows

def reconciliationRows (w : Wire) (t : OperatorTables) : Except StoreError (List Value × Option Nat) :=
  sectionRows (newestFirst ReconciliationRow.updatedAt ReconciliationRow.id)
    (fun r => (readReconciliation w r).map (fun e => toValue (withDigest e.unsigned e.sha256))) t.control.reconciliations.rows

def notificationRows (w : Wire) (t : OperatorTables) : Except StoreError (List Value × Option Nat) :=
  sectionRows (newestFirst NotificationDelivery.createdAtMs NotificationDelivery.deliveryId)
    (fun d => (checkedDelivery w d).map (fun d => toValue d.json)) t.deliveries.rows

def readSections (w : Wire) (t : OperatorTables) : Except StoreError SectionRows := do
  let attention ← attentionRows t
  let investigations ← investigationRows w t
  let externalConditions ← externalConditionRows w t
  let progress ← materialProgressRows w t
  let liveness ← livenessRows w t
  let reconciliation ← reconciliationRows w t
  let notifications ← notificationRows w t
  return ⟨attention, investigations, externalConditions, progress, liveness, reconciliation, notifications⟩

def listed {α : Type} (before : α → α → Bool) (json : α → Value) (rows : List α) : List Value × Option Nat :=
  (((rows.insertionSort (fun a b => before a b = true)).take sectionRowLimit).map json,
    if sectionRowLimit < rows.length then some (rows.length - sectionRowLimit) else none)

/-- `json!` sorts the keys. -/
def RunListing.json (r : RunListing) : Value :=
  .obj [("base_sha", .str r.baseSha), ("created_at_ms", ofInt r.createdAtMs), ("phase", .str r.phase),
    ("run_id", .str r.runId), ("state", .str r.state), ("title", .str r.title), ("updated_at_ms", ofInt r.updatedAtMs)]

def AttemptListing.json (a : AttemptListing) : Value :=
  .obj [("attempt_id", .str a.attemptId), ("attempt_number", ofInt a.attemptNumber),
    ("completed_at_ms", ofOption ofInt a.completedAtMs), ("failure_reason", ofOption .str a.failureReason),
    ("run_id", .str a.runId), ("started_at_ms", ofOption ofInt a.startedAtMs), ("state", .str a.state),
    ("task_id", .str a.taskId)]

def runRows (e : Elsewhere) : List Value × Option Nat :=
  listed (newestFirst RunListing.updatedAtMs RunListing.runId) RunListing.json e.runs

def attemptRows (e : Elsewhere) : List Value × Option Nat :=
  listed (newestFirst AttemptListing.updatedAtMs AttemptListing.attemptId) AttemptListing.json e.attempts

def currentSection (rows : List Value × Option Nat) (sourceCursor : Nat) (detail : Option String) : SnapshotSection :=
  ⟨.current, rows.1, sourceCursor, rows.2.isSome, detail⟩

def unavailable (detail : String) : SnapshotSection := ⟨.unknown, [], 0, false, some detail⟩

def backlog (c : Source → Nat) : Nat := c .domainEvents - c .materialProgressClassifier

def progressSection (c : Source → Nat) (rows : List Value × Option Nat) : SnapshotSection :=
  if 0 < backlog c then
    ⟨.stale, rows.1, c .materialProgressEvents, true,
      some ("Replayable material-progress records are catching up through domain event " ++
        toString (c .materialProgressClassifier) ++ " of " ++ toString (c .domainEvents) ++ "; " ++ toString (backlog c) ++
        " source events remain. This section is stale and cannot be treated as complete custody.")⟩
  else currentSection rows (c .materialProgressEvents)
    (some "Replayable material-progress records from the closed controller-event allow-list; ordinary activity is excluded.")

/-! ## The snapshot -/

def truncationOf (sectionName : String) (left : Option Nat) : List SnapshotTruncation :=
  left.toList.map (fun n => ⟨sectionName, n, sectionRowLimit⟩)

def truncations (c : Source → Nat) (rows : SectionRows) (e : Elsewhere) : List SnapshotTruncation :=
  truncationOf "attention" rows.attention.2 ++ truncationOf "runs" (runRows e).2 ++
    truncationOf "attempts" (attemptRows e).2 ++ truncationOf "investigations" rows.investigations.2 ++
    truncationOf "external_conditions" rows.externalConditions.2 ++ truncationOf "progress" rows.progress.2 ++
    truncationOf "liveness" rows.liveness.2 ++ truncationOf "reconciliation" rows.reconciliation.2 ++
    truncationOf "notifications" rows.notifications.2 ++
    if 0 < backlog c then [⟨"progress_classifier", backlog c, maxClassifierEventsPerPass⟩] else []

def unsignedSnapshot (id : String) (revision : Nat) (now : Int) (c : Source → Nat) (rows : SectionRows) (e : Elsewhere) :
    ControlPlaneSnapshot where
  schema := "harness.control-plane-snapshot.v1"
  snapshotId := id
  revision := revision
  compiledAtMs := now
  eventCursor := c .domainEvents
  consistency := "sqlite_immediate_transaction.v1"
  system := currentSection ([.obj [("projection", .str "operator_control_deterministic_slice"),
    ("runtime_schema_version", .str e.runtimeSchemaVersion)]], none) (c .domainEvents) none
  accounts := unavailable "Account-limit observation is not wired into this deterministic slice."
  scheduler := currentSection ([.obj [("active_agent_sessions", ofNat e.activeAgents)]], none) (c .domainEvents) none
  runs := currentSection (runRows e) (c .domainEvents) none
  attention := currentSection rows.attention (c .attentionEvents) none
  attempts := currentSection (attemptRows e) (c .domainEvents) none
  investigations := currentSection rows.investigations (c .investigationArtifacts) none
  progress := progressSection c rows.progress
  liveness := currentSection rows.liveness (c .livenessEpisodes + c .livenessObservations)
    (some "Observe-only deterministic liveness episodes. This projection never starts recovery or clears state from model prose.")
  reconciliation := currentSection rows.reconciliation (c .reconciliationEpisodes)
    (some "Closed reconciliation inventory records. This view cannot reset work, release a lease, or authorize a new attempt.")
  externalConditions := currentSection rows.externalConditions (c .externalConditions + c .conditionObservations)
    (some "Source-owned conditions plus deterministic local time gates. This view never wakes work or executes a result.")
  cost := unavailable "Cost projection is not wired into this deterministic slice."
  notifications := currentSection rows.notifications (c .notificationDeliveries)
    (some "In-product notification mirror only. Presence is stored separately and does not suppress, batch, send, or resolve any source item.")
  limits := unavailable "Rate-limit observation is not wired into this deterministic slice."
  truncation := truncations c rows e
  sourceCursors := c
  sha256 := ""

def SnapshotSection.json (s : SnapshotSection) : Value :=
  .obj [("state", .str s.state.name), ("rows", .arr s.rows), ("source_cursor", ofNat s.sourceCursor),
    ("truncated", .bool s.truncated), ("detail", ofOption .str s.detail)]

def SnapshotTruncation.json (t : SnapshotTruncation) : Value :=
  .obj [("section", .str t.sectionName), ("omitted_rows", ofNat t.omittedRows), ("limit", ofNat t.limit)]

def ControlPlaneSnapshot.sections (s : ControlPlaneSnapshot) : List (String × SnapshotSection) :=
  [("system", s.system), ("accounts", s.accounts), ("scheduler", s.scheduler), ("runs", s.runs), ("attention", s.attention),
    ("attempts", s.attempts), ("investigations", s.investigations), ("progress", s.progress), ("liveness", s.liveness),
    ("reconciliation", s.reconciliation), ("external_conditions", s.externalConditions), ("cost", s.cost),
    ("notifications", s.notifications), ("limits", s.limits)]

def ControlPlaneSnapshot.json (s : ControlPlaneSnapshot) : Value :=
  .obj ([("schema", .str s.schema), ("snapshot_id", .str s.snapshotId), ("revision", ofNat s.revision),
    ("compiled_at_ms", ofInt s.compiledAtMs), ("event_cursor", ofNat s.eventCursor), ("consistency", .str s.consistency)] ++
    s.sections.map (fun x => (x.1, x.2.json)) ++ [("truncation", .arr (s.truncation.map SnapshotTruncation.json)),
    ("source_cursors", cursorsJson s.sourceCursors), ("sha256", .str s.sha256)])

def ControlPlaneSnapshot.digest (w : Wire) (s : ControlPlaneSnapshot) : Digest := w.digestJson { s with sha256 := "" }.json

def snapshotOf (w : Wire) (id : String) (revision : Nat) (now : Int) (c : Source → Nat) (rows : SectionRows)
    (e : Elsewhere) : ControlPlaneSnapshot :=
  { unsignedSnapshot id revision now c rows e with sha256 := ((unsignedSnapshot id revision now c rows e).digest w).hex }

/-- At most `MAX_SECTION_ROWS`. -/
def SnapshotSection.validate (s : SnapshotSection) : Except StoreError Unit :=
  ensure (decide (s.rows.length ≤ 1000)) (invalidField "snapshot section rows" "exceeds the bounded section limit")

def ControlPlaneSnapshot.validate (s : ControlPlaneSnapshot) : Except StoreError Unit := do
  ensure (s.schema == "harness.control-plane-snapshot.v1")
    (invalidField "snapshot schema" "must be harness.control-plane-snapshot.v1")
  validateHex s.sha256 "snapshot sha256" 64
  s.sections.forM (fun x => x.2.validate)

def checkedSnapshot (w : Wire) (s : ControlPlaneSnapshot) : Except StoreError ControlPlaneSnapshot := do
  ensure s.validate.isOk (.sqlite .fromSqlConversionFailure)
  ensure ((s.digest w).hex == s.sha256) (.sqlite .fromSqlConversionFailure)
  return s

/-- `UNIQUE(revision)` and `UNIQUE(event_cursor,source_cursors_sha256)`. -/
def insertSnapshot (t : Table SnapshotRow.id) (r : SnapshotRow) : Except StoreError (Table SnapshotRow.id) := do
  require (!t.rows.any (fun q => q.payload.revision == r.payload.revision))
  require (!t.rows.any (fun q => q.payload.eventCursor == r.payload.eventCursor &&
    q.sourceCursorsSha256 == r.sourceCursorsSha256))
  insertRow t r

def nextRevision (t : Table SnapshotRow.id) : Nat := Table.maxOf (fun r => r.payload.revision) t.rows + 1

def compileControlPlaneSnapshot (w : Wire) (id : String) (now : Int) (t : OperatorTables) :
    Except StoreError (ControlPlaneSnapshot × OperatorTables) := do
  let c ← sourceCursors t
  let _ ← toI64 (c .domainEvents) "domain event cursor"
  let sha := (w.digestJson (cursorsJson c)).hex
  match t.snapshots.rows.find? (fun r => r.payload.eventCursor == c .domainEvents && r.sourceCursorsSha256 == sha) with
  | some r => do
    let s ← checkedSnapshot w r.payload
    return (s, t)
  | none => do
    let rows ← readSections w t
    let s := snapshotOf w id (nextRevision t.snapshots) now c rows t.elsewhere
    s.validate
    let snapshots ← insertSnapshot t.snapshots ⟨sha, s⟩
    return (s, { t with snapshots := snapshots })

/-! ## Calls on the tables of a source -/

def within {σ τ α : Type} (part : σ → τ) (put : τ → σ → σ) (c : Call τ α) : Call σ α := fun s =>
  ((c (part s)).1, put (c (part s)).2 s)

def OperatorTables.withLinks (t : OperatorTables) (links : Links) : OperatorTables :=
  { t with control := { t.control with links := links } }

def onProgress {α : Type} (c : Call ProgressTables α) : Call OperatorTables α :=
  within (fun t => ⟨t.events, t.classifierCursor, t.progress, t.control.links⟩)
    (fun p t => { t.withLinks p.links with classifierCursor := p.cursor, progress := p.progress }) c

def onAttention {α : Type} (c : Call AttentionTables α) : Call OperatorTables α :=
  within (fun t => ⟨t.attention, t.attentionEvents, t.control.links⟩)
    (fun p t => { t.withLinks p.links with attention := p.items, attentionEvents := p.events }) c

def onConditions {α : Type} (c : Call ConditionTables α) : Call OperatorTables α :=
  within (fun t => ⟨t.control, t.events, t.conditions, t.conditionObservations⟩)
    (fun p t => { t.withLinks p.control.links with
      events := p.events, conditions := p.conditions, conditionObservations := p.observations }) c

def onInvestigations {α : Type} (c : Call InvestigationTables α) : Call OperatorTables α :=
  within (fun t => ⟨t.artifacts, t.control.links⟩) (fun p t => { t.withLinks p.links with artifacts := p.artifacts }) c

def onNotifications {α : Type} (c : Call NotificationTables α) : Call OperatorTables α :=
  within (fun t => ⟨t.attention, t.deliveries, t.control.links⟩)
    (fun p t => { t.withLinks p.links with deliveries := p.deliveries }) c

def onPresence {α : Type} (c : Call (Table OperatorPresence.operatorId) α) : Call OperatorTables α :=
  within OperatorTables.presence (fun p t => { t with presence := p }) c

/-! ## Asking for a snapshot -/

/-- What a call draws: the id of a new snapshot, the ids of new attention items, and the time. -/
structure SnapshotDraw where
  snapshotId : String
  attentionIds : String → String
  now : Int

def refreshControlPlaneProjections (w : Wire) (d : SnapshotDraw) : Call OperatorTables Unit :=
  (onProgress (classifyMaterialProgress w)).andThen (fun _ =>
    Call.andThen (fun t => onAttention (refreshApprovalAttention w d.attentionIds d.now t.elsewhere.approvals) t) (fun _ =>
      (onNotifications (refreshNotificationMirror w)).map (fun _ => ())))

def controlPlaneSnapshot (w : Wire) (d : SnapshotDraw) : Call OperatorTables ControlPlaneSnapshot :=
  (refreshControlPlaneProjections w d).andThen (fun _ => transaction (compileControlPlaneSnapshot w d.snapshotId d.now))

end Control
end Bildr
