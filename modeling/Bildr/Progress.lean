import Bildr.Liveness
import Bildr.Governor
/-!
# Progress — the material-progress classifier

Domain events are appended to a ledger.  A pass of the classifier reads at most a thousand events after its cursor, makes
a progress record and a link of each event it recognizes, and moves the cursor, all in one transaction: one event whose
record fails its checks refuses the whole pass.
-/
namespace Bildr
namespace Control

open Improvement (isSafeOperatorControlIdentifier)
open Json (Value)

inductive MaterialProgressKind
  | candidateChanged | validationAdvanced | evidenceRecorded | externalConditionChanged | reconciliationAdvanced
  | attentionChanged
deriving DecidableEq, Repr

def MaterialProgressKind.name : MaterialProgressKind → String
  | .candidateChanged         => "candidate_changed"
  | .validationAdvanced       => "validation_advanced"
  | .evidenceRecorded         => "evidence_recorded"
  | .externalConditionChanged => "external_condition_changed"
  | .reconciliationAdvanced   => "reconciliation_advanced"
  | .attentionChanged         => "attention_changed"

structure MaterialProgressEvent where
  schema : String
  eventId : String
  runId : Option String
  taskId : Option String
  attemptId : Option String
  kind : MaterialProgressKind
  sourceEventId : String
  occurredAtMs : Int
  classifierVersion : String
  summary : String
  evidenceRefs : List String
  candidateSha : Option String
  milestoneRefs : List String
  sha256 : String
deriving DecidableEq

def MaterialProgressEvent.unsigned (p : MaterialProgressEvent) : Value :=
  .obj [("schema", .str p.schema), ("event_id", .str p.eventId), ("run_id", ofOption .str p.runId),
    ("task_id", ofOption .str p.taskId), ("attempt_id", ofOption .str p.attemptId), ("kind", .str p.kind.name),
    ("source_event_id", .str p.sourceEventId), ("occurred_at_ms", ofInt p.occurredAtMs),
    ("classifier_version", .str p.classifierVersion), ("summary", .str p.summary),
    ("evidence_refs", ofTexts p.evidenceRefs), ("candidate_sha", ofOption .str p.candidateSha),
    ("milestone_refs", ofTexts p.milestoneRefs), ("sha256", .str "")]

def MaterialProgressEvent.signed (w : Wire) (p : MaterialProgressEvent) : MaterialProgressEvent :=
  { p with sha256 := (w.digestJson p.unsigned).hex }

def validateOptionalHex (value : Option String) (field : String) (length : Nat) : Except StoreError Unit :=
  match value with
  | none   => .ok ()
  | some v => validateHex v field length

def MaterialProgressEvent.validate (w : Wire) (p : MaterialProgressEvent) : Except StoreError Unit := do
  ensure (p.schema == "harness.material-progress.v1")
    (invalidField "material progress schema" "must be harness.material-progress.v1")
  validateIdentifier p.eventId "material progress id"
  validateOptional p.runId "material progress run id"
  validateOptional p.taskId "material progress task id"
  validateOptional p.attemptId "material progress attempt id"
  validateIdentifier p.sourceEventId "material progress source event id"
  validateIdentifier p.classifierVersion "material progress classifier version"
  validateText p.summary "material progress summary" 4000
  validateBoundedTexts p.evidenceRefs "material progress evidence refs" 1000 4000
  validateBoundedTexts p.milestoneRefs "material progress milestone refs" 100 4000
  validateOptionalHex p.candidateSha "material progress candidate sha" 40
  ensure (decide (0 ≤ p.occurredAtMs)) (invalidField "material progress occurred at" "must not be negative")
  validateDigest p.sha256 (w.digestJson p.unsigned) "material progress sha256"

/-! ## From an event to its record -/

structure SourceEvent where
  id : Nat
  runId : Option String
  aggregateType : String
  aggregateId : String
  eventType : String
  occurredAtMs : Int
  payload : Value

def checkpointPayload (attemptId agentId : String) (c : Governor.GovernorCheckpoint) : Value :=
  .obj [("agent_id", .str agentId), ("attempt_id", .str attemptId),
    ("completed_milestones", ofNat (Governor.countStatus c "completed")),
    ("current_milestone_id", ofOption .str c.currentMilestoneId), ("revision", ofNat c.revision), ("status", .str c.status),
    ("total_milestones", ofNat c.milestones.length)]

def conditionEvents : List String :=
  ["external_condition.time_gate_satisfied", "external_condition.time_gate_deadline_elapsed",
    "external_condition.time_gate_invalid_spec", "external_condition.local_capacity_satisfied",
    "external_condition.local_capacity_deadline_elapsed", "external_condition.local_capacity_source_unavailable",
    "external_condition.local_capacity_continuity_break"]

def completesMilestone (payload : Value) : Bool :=
  ((payload.get "completed_milestones").bind Value.asU64).any (fun completed => decide (0 < completed))

def classifySourceEvent (e : SourceEvent) : Option (MaterialProgressKind × String) :=
  if e.eventType = "task.governor.candidate_materialized" then
    some (.candidateChanged, "Controller materialized a candidate from the exact task worktree.")
  else if e.eventType = "task.verified" then
    some (.validationAdvanced, "Independent verifier recorded a task validation outcome.")
  else if e.eventType = "run.integration.prepared" then
    some (.evidenceRecorded, "Controller prepared an exact integration candidate with custody evidence.")
  else if conditionEvents.contains e.eventType then
    some (.externalConditionChanged,
      "Controller recorded a terminal or unknown external-condition observation without changing execution authority.")
  else if e.eventType = "task.governor.progress_updated" ∧ completesMilestone e.payload = true then
    some (.evidenceRecorded, "Controller checkpoint records one or more completed planned milestones.")
  else none

def isIdentifier (value : String) : Bool := Improvement.token ['.', '_', ':', '-'] 160 value

def isSha (value : String) : Bool := decide (value.toList.length = 40) && value.toList.all isHexDigit

def domainEventId (e : SourceEvent) : String := "domain-event-" ++ toString e.id

def progressId (kind : MaterialProgressKind) (e : SourceEvent) : String :=
  "progress-" ++ kind.name ++ "-" ++ toString e.id

def milestoneRefsOf (payload : Value) : List String :=
  ((((payload.get "current_milestone_id").bind Value.asStr).filter (fun v => v != "")).map
    (fun v => ["milestone:" ++ v])).getD []

def progressRecord (w : Wire) (e : SourceEvent) (kind : MaterialProgressKind) (summary : String) :
    MaterialProgressEvent :=
  MaterialProgressEvent.signed w
    { schema := "harness.material-progress.v1"
      eventId := progressId kind e
      runId := e.runId
      taskId := if e.aggregateType = "task" then some e.aggregateId else none
      attemptId := ((e.payload.get "attempt_id").bind Value.asStr).filter isIdentifier
      kind := kind
      sourceEventId := domainEventId e
      occurredAtMs := e.occurredAtMs
      classifierVersion := "material-progress-v1"
      summary := summary
      evidenceRefs := [domainEventId e]
      candidateSha := (((e.payload.get "tree_sha").or (e.payload.get "head_sha")).bind Value.asStr).filter isSha
      milestoneRefs := milestoneRefsOf e.payload
      sha256 := "" }

def materialProgressFromSource (w : Wire) (e : SourceEvent) (kind : MaterialProgressKind) (summary : String) :
    Except StoreError MaterialProgressEvent := do
  validateIdentifier (progressId kind e) "MaterialProgressEventId"
  (progressRecord w e kind summary).validate w
  return progressRecord w e kind summary

def materialProgressCorrelationLink (w : Wire) (p : MaterialProgressEvent) : Except StoreError CorrelationLink :=
  derivedLink w ("harness.material-progress.trace.v1:" ++ p.sourceEventId)
    ("harness.material-progress.span.v1:" ++ p.eventId)
    ("harness.material-progress.link.v1:" ++ p.sourceEventId ++ ":" ++ p.eventId)
    "domain_event" p.sourceEventId "material_progress" p.eventId "derives_progress" p.occurredAtMs

/-! ## The classifier -/

structure ProgressTables where
  events : List SourceEvent
  cursor : Int
  progress : Table MaterialProgressEvent.eventId
  links : Links

def checkedProgress (w : Wire) (p : MaterialProgressEvent) : Except StoreError MaterialProgressEvent := do
  ensure (p.validate w).isOk (.sqlite .fromSqlConversionFailure)
  return p

/-- `WHERE kind=… AND source_event_id=…`. -/
def findProgress (t : ProgressTables) (p : MaterialProgressEvent) : Option MaterialProgressEvent :=
  t.progress.rows.find? (fun q => decide (q.kind = p.kind) && q.sourceEventId == p.sourceEventId)

def projectEvent (w : Wire) (e : SourceEvent) (classified : List MaterialProgressEvent) (t : ProgressTables) :
    Except StoreError (List MaterialProgressEvent × ProgressTables) :=
  match classifySourceEvent e with
  | none => .ok (classified, t)
  | some (kind, summary) => do
    let p ← materialProgressFromSource w e kind summary
    let link ← materialProgressCorrelationLink w p
    match findProgress t p with
    | some row => do
      let existing ← checkedProgress w row
      ensure (existing == p)
        (.conflict ("material progress classifier produced divergent content for " ++ p.sourceEventId))
      let links ← recordCorrelationLinkInTransaction t.links link
      return (classified ++ [existing], { t with links := links })
    | none => do
      let progress ← insertRow t.progress p
      let links ← recordCorrelationLinkInTransaction t.links link
      return (classified ++ [p], { t with progress := progress, links := links })

def projectEvents (w : Wire) : List SourceEvent → List MaterialProgressEvent → ProgressTables →
    Except StoreError (List MaterialProgressEvent × ProgressTables)
  | [], classified, t => .ok (classified, t)
  | e :: es, classified, t => do
    let (classified, t) ← projectEvent w e classified t
    projectEvents w es classified t

def maxClassifierEventsPerPass : Nat := 1000

/-- `WHERE id>… ORDER BY id ASC LIMIT …`; the ledger is in the order of its ids. -/
def classifierWindow (t : ProgressTables) : List SourceEvent :=
  (t.events.filter (fun e => decide (t.cursor < (e.id : Int)))).take maxClassifierEventsPerPass

def classifyBody (w : Wire) (t : ProgressTables) : Except StoreError (List MaterialProgressEvent × ProgressTables) := do
  ensure (decide (0 ≤ t.cursor)) (.validation "material progress classifier cursor is negative")
  let (classified, t') ← projectEvents w (classifierWindow t) [] t
  return (classified, { t' with cursor := ((classifierWindow t).getLast?.map (fun e => (e.id : Int))).getD t.cursor })

def classifyMaterialProgress (w : Wire) : Call ProgressTables (List MaterialProgressEvent) := transaction (classifyBody w)

end Control
end Bildr
