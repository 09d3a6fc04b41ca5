import Bildr.Improvement
import Bildr.RunLifecycle
/-!
# Authoritative — outcomes projected from the store's own records

`projectAuthoritativeOutcomes` reads the validations, evidence, findings, lifecycle events and token samples of a run
and appends one outcome revision for each, in a transaction of its own.  The key of a revision is a digest of the source
record and the label, so a source seen before is a repetition of the revision it made then.
-/
namespace Bildr
namespace Improvement

open Json (Value)

structure ValidationRow where
  id : String
  runId : String
  taskAttemptId : Option String
  validatorId : String
  proofTier : String
  sourceSha : String
  state : String
  resultClass : Option String
  commandRunId : Option String
  startedAt : Option Int
  completedAt : Option Int
  invalidatedAt : Option Int

structure EvidenceRow where
  id : String
  runId : String
  taskAttemptId : Option String
  resultClass : String
  evidenceSha256 : String
  sourceSha : String
  createdAt : Int
  invalidatedAt : Option Int

structure FindingRow where
  id : String
  runId : String
  taskAttemptId : Option String
  verifierAgentSessionId : Option String
  severity : String
  state : String
  createdAt : Int

/-- A row of `token_samples`. -/
structure SampleRow where
  threadId : String
  totalTokens : Int

/-- The tables the projection reads: besides the records, the run of each task and session and the session of each
thread. -/
structure Sources where
  validations : List ValidationRow
  evidence : List EvidenceRow
  findings : List FindingRow
  runs : Run.Tables
  tasks : List (String × String)
  sessions : List (String × String)
  threads : List (String × String)
  samples : List SampleRow

/-- The digests and texts of the ledger, and the text of a JSON value. -/
structure SourceWire extends Wire where
  json : Value → String

structure AuthoritativeOutcomeInput where
  runId : String
  subject : OutcomeSubject
  dimension : OutcomeDimension
  classification : OutcomeClassification
  code : String
  sourceKind : OutcomeSourceKind
  sourceRecordId : String
  sourceRecordSha256 : String
  sourceSha : Option String
  sourceDomainEventId : Option Int
  observedAt : Int
deriving DecidableEq

/-! ## Recording one outcome -/

def outcomeIdText (run : String) (subject : OutcomeSubject) (dimension : OutcomeDimension) : String :=
  "harness.outcome.id.v1\x00" ++ run ++ "\x00" ++ subject.kind.json ++ "\x00" ++ subject.id ++ "\x00" ++ dimension.json

def stableAuthoritativeOutcomeId (w : Wire) (i : AuthoritativeOutcomeInput) : String :=
  w.sha256 (outcomeIdText i.runId i.subject i.dimension)

def OutcomeClassification.json : OutcomeClassification → String
  | .positive => "\"positive\""
  | .negative => "\"negative\""
  | .neutral  => "\"neutral\""
  | .unknown  => "\"unknown\""

def AuthoritativeOutcomeInput.payload (w : Wire) (i : AuthoritativeOutcomeInput) : OutcomeWireV1 :=
  ⟨"harness.outcome.v1", stableAuthoritativeOutcomeId w i, i.runId, i.subject, i.dimension, i.classification, i.code,
    i.observedAt, .authoritative,
    ⟨i.sourceKind, i.sourceRecordId, i.sourceRecordSha256, i.sourceSha, i.sourceDomainEventId⟩, [], none, none,
    "outcome-redactor.v1", false⟩

def AuthoritativeOutcomeInput.identity (w : Wire) (i : AuthoritativeOutcomeInput) : String :=
  w.sha256 ("harness.outcome.authoritative.v1\x00mapping-v1\x00" ++ stableAuthoritativeOutcomeId w i ++ "\x00" ++
    i.sourceRecordSha256 ++ "\x00" ++ i.classification.json ++ "\x00" ++ i.code)

def AuthoritativeOutcomeInput.revision (w : Wire) (i : AuthoritativeOutcomeInput) : NewImprovementRevision :=
  ⟨"outcome-revision-" ++ i.identity w, .outcome, stableAuthoritativeOutcomeId w i, .outcomeV1, .observed,
    .outcome (i.payload w), w.sha256 (w.text (.outcome (i.payload w))), .internal, .governance, false,
    "outcome:authoritative:" ++ i.identity w, "outcome-event-" ++ i.identity w, none, i.sourceDomainEventId⟩

def checkAuthoritativeOutcome (w : Wire) (i : AuthoritativeOutcomeInput) : Except StoreError Unit := do
  (validateOutcomeLabel i.dimension i.classification i.code).mapError StoreError.validation
  (i.payload w).validate.mapError (fun m => .validation ("invalid authoritative outcome: " ++ m))

def recordAuthoritativeOutcome (w : Wire) (i : AuthoritativeOutcomeInput) (now : Int) : Call Tables Unit := fun t =>
  match checkAuthoritativeOutcome w i with
  | .error e => (.error e, t)
  | .ok ()   => (appendImprovementRevision w (i.revision w) now).andThen (fun _ => Call.ret ()) t

/-! ## What the sources say -/

def orderBy {α κ : Type} [LinearOrder κ] (key : α → κ) (rows : List α) : List α :=
  rows.insertionSort (fun a b => key a ≤ key b)

def outcomeSubject (run : String) : Option String → OutcomeSubject
  | some id => ⟨.taskAttempt, id⟩
  | none    => ⟨.run, run⟩

def authoritativeResultLabel (result : String) : OutcomeClassification × String :=
  if result == "success" then (.positive, "passed")
  else if ["source_failure", "infrastructure_unavailable", "quarantined_failure"].contains result then
    (.negative, "failed")
  else (.unknown, "unavailable")

def authoritativeEvidenceLabel (result : String) : OutcomeClassification × String :=
  if result == "success" then (.positive, "proved")
  else if ["source_failure", "infrastructure_unavailable", "quarantined_failure"].contains result then
    (.negative, "unproved")
  else (.unknown, "unavailable")

def jsonInt : Int → Value
  | .ofNat n   => .num (.pos n)
  | .negSucc n => .num (.neg (n + 1))

def jsonOption {α : Type} (f : α → Value) (o : Option α) : Value := (o.map f).getD .null

/-- The text `canonical_validation_receipt_sha256` digests. -/
def validationReceipt (v : ValidationRow) (result : String) (completedAt : Int) : Value :=
  .obj [("command_run_id", jsonOption Value.str v.commandRunId), ("completed_at", jsonInt completedAt), ("id", .str v.id),
    ("proof_tier", .str v.proofTier), ("result_class", .str result), ("source_sha", .str v.sourceSha),
    ("started_at", jsonOption jsonInt v.startedAt), ("task_attempt_id", jsonOption Value.str v.taskAttemptId),
    ("validator_id", .str v.validatorId)]

def validationInput (w : SourceWire) (run : String) (v : ValidationRow) (result : String) :
    Except StoreError AuthoritativeOutcomeInput := do
  let completedAt ← okOr v.completedAt (.sqlite .fromSqlConversionFailure)
  let label := authoritativeResultLabel result
  let dimension := if v.validatorId == "draft-pr-required-ci" then .ciRequiredChecks else .validation
  return ⟨run, outcomeSubject run v.taskAttemptId, dimension, label.1, label.2, .validation, v.id,
    w.sha256 (w.json (validationReceipt v result completedAt)), some v.sourceSha, none, completedAt⟩

def validationInputs (w : SourceWire) (s : Sources) (run : String) :
    Except StoreError (List AuthoritativeOutcomeInput) :=
  (orderBy ValidationRow.id (s.validations.filter (fun v => v.runId == run && v.state == "completed" &&
    v.resultClass.isSome && v.invalidatedAt.isNone))).mapM (fun v => validationInput w run v (v.resultClass.getD ""))

def evidenceInputs (s : Sources) (run : String) : List AuthoritativeOutcomeInput :=
  (orderBy EvidenceRow.id (s.evidence.filter (fun v => v.runId == run && v.invalidatedAt.isNone))).map (fun v =>
    let label := authoritativeEvidenceLabel v.resultClass
    ⟨run, outcomeSubject run v.taskAttemptId, .evidence, label.1, label.2, .evidence, v.id, v.evidenceSha256,
      some v.sourceSha, none, v.createdAt⟩)

def findingInputs (w : SourceWire) (s : Sources) (run : String) : List AuthoritativeOutcomeInput :=
  (orderBy FindingRow.id (s.findings.filter (fun v => v.runId == run && v.verifierAgentSessionId.isSome))).map (fun v =>
    ⟨run, outcomeSubject run v.taskAttemptId, .verifierFindings, .negative,
      if ["high", "critical"].contains v.severity then "blocking" else "nonblocking", .finding, v.id,
      w.sha256 ("finding\x00" ++ v.id ++ "\x00" ++ v.severity ++ "\x00" ++ v.state), none, none, v.createdAt⟩)

def runSamples (s : Sources) (run : String) : List SampleRow :=
  (s.sessions.filter (fun a => a.2 == run)).flatMap (fun a =>
    (s.threads.filter (fun c => c.2 == a.1)).flatMap (fun c => s.samples.filter (fun q => q.threadId == c.1)))

/-- `sum`, refused when a partial sum leaves 64 bits. -/
def sumTokens (rows : List SampleRow) : Except StoreError Int :=
  rows.foldlM (fun total q => do
    ensure (decide (i64Min ≤ total + q.totalTokens) && decide (total + q.totalTokens ≤ i64Max)) (.sqlite .integerOverflow)
    return total + q.totalTokens) 0

/-- The budget of a run, and how many samples with how many tokens it has. -/
structure RunLedger where
  budget : Option Int
  sampleCount : Nat
  totalTokens : Int
deriving DecidableEq

def runLedger (s : Sources) (run : String) : Except StoreError RunLedger := do
  let r ← queryRow (s.runs.runs.get run)
  let total ← sumTokens (runSamples s run)
  return ⟨r.runTokenBudget, (runSamples s run).length, total⟩

def RunLedger.json (l : RunLedger) : Value :=
  .obj [("budget", jsonOption jsonInt l.budget), ("sample_count", jsonInt l.sampleCount),
    ("total_tokens", jsonInt l.totalTokens)]

def resourceLabel (l : RunLedger) : OutcomeClassification × String :=
  if l.sampleCount = 0 then (.unknown, "unavailable")
  else
    match l.budget.filter (fun b => decide (0 < b)) with
    | some budget => if budget < l.totalTokens then (.negative, "budget_exceeded") else (.neutral, "within_budget")
    | none        => (.unknown, "unavailable")

def completionCode (next : String) : Option String :=
  if next == "COMPLETED" then some "completed"
  else if next == "BLOCKED" then some "blocked"
  else if next == "CANCELED" then some "stopped"
  else none

def lifecycleRows (s : Sources) (run : String) : List Run.DomainEvent :=
  orderBy Run.DomainEvent.id (s.runs.events.filter (fun e => e.aggregateType == "run" && e.aggregateId == run &&
    decide (e.runId = some run) && e.eventType == "run.lifecycle.transitioned"))

def resourceInput (w : SourceWire) (run : String) (l : RunLedger) (e : Run.DomainEvent) : AuthoritativeOutcomeInput :=
  ⟨run, ⟨.run, run⟩, .resourceUse, (resourceLabel l).1, (resourceLabel l).2, .domainEvent, toString e.id,
    w.sha256 (w.json e.payload ++ "\x00" ++ w.json l.json), none, some e.id, e.occurredAt⟩

/-- A completion and the use of resources at it; other moves of the run say nothing. -/
def lifecycleInputs (w : SourceWire) (run : String) (l : RunLedger) (e : Run.DomainEvent) :
    List AuthoritativeOutcomeInput :=
  match ((e.payload.get "next_state").bind Value.asStr).bind completionCode with
  | none      => []
  | some code =>
    [⟨run, ⟨.run, run⟩, .completionState, .neutral, code, .domainEvent, toString e.id, w.sha256 (w.json e.payload), none,
      some e.id, e.occurredAt⟩, resourceInput w run l e]

def verifiedInputs (w : SourceWire) (s : Sources) (run : String) : List AuthoritativeOutcomeInput :=
  (orderBy Run.DomainEvent.id (s.runs.events.filter (fun e => e.aggregateType == "task" &&
    s.tasks.contains (e.aggregateId, run) && decide (e.runId = some run) && e.eventType == "task.verified"))).map (fun e =>
    ⟨run, ⟨.run, run⟩, .verifierFindings, .positive, "none", .domainEvent, toString e.id, w.sha256 (w.json e.payload), none,
      some e.id, e.occurredAt⟩)

def authoritativeInputs (w : SourceWire) (s : Sources) (run : String) :
    Except StoreError (List AuthoritativeOutcomeInput) := do
  let validations ← validationInputs w s run
  let ledger ← runLedger s run
  return validations ++ evidenceInputs s run ++ findingInputs w s run ++
    (lifecycleRows s run).flatMap (lifecycleInputs w run ledger) ++ verifiedInputs w s run

def recordAll (w : Wire) (clock : Nat → Int) : List AuthoritativeOutcomeInput → Call Tables Unit
  | []      => Call.ret ()
  | i :: is => (recordAuthoritativeOutcome w i (clock is.length)).andThen (fun _ => recordAll w clock is)

def projectAuthoritativeOutcomes (w : SourceWire) (s : Sources) (run : String) (clock : Nat → Int) :
    Call Tables Unit := fun t =>
  match authoritativeInputs w s run with
  | .error e   => (.error e, t)
  | .ok inputs => recordAll w.toWire clock inputs t

end Improvement
end Bildr
