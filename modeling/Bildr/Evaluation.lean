import Bildr.EvalWire
import Mathlib.Data.List.Sort
/-!
# Evaluation — custody of evaluation runs, samples and verdicts

A taskset revision gets its case revisions as members, an evaluation run is launched on it and collects samples while it
is recording, a verdict compares two completed runs, and an invalidation marks a run, a sample or a verdict.  The tables
are append-only; the revisions are those of the improvement ledger, the evidence is that of the runs.
-/
namespace Bildr
namespace Eval

open Improvement (readImprovementRevision safeEvalId isLowerHex ImprovementRecordKind Payload)
open Json (Value)

inductive EvaluationRunStatus
  | recording | completed | infrastructureUnavailable | invalidated
deriving DecidableEq, Repr

inductive EvaluationArm
  | champion | challenger
deriving DecidableEq, Repr

inductive InvalidationTarget
  | evaluationRun | evaluationSample | statVerdict
deriving DecidableEq, Repr

inductive InvalidationReason
  | holdoutLeakage | graderDrift | fixtureDrift | custodyViolation
deriving DecidableEq, Repr

/-! ## Rows -/

/-- The columns of `runs` a launch reads; no statement changes them. -/
structure ControllerRun where
  id : String
  repositoryId : String
  baseSha : String
deriving DecidableEq

structure EvidenceRecord where
  id : String
  runId : String
  validationId : Option String
  sourceSha : String
  resultClass : String
  evidenceSha256 : String
  invalidatedAt : Option Int

structure Validation where
  id : String
  runId : String
  commandRunId : Option String
  sourceSha : String
  state : String
  resultClass : Option String
  invalidatedAt : Option Int

structure CommandRun where
  id : String
  runId : String
  commandSha256 : String
  sourceShaBefore : Option String
  sourceShaAfter : Option String
  timedOut : Bool
  resultClass : Option String

structure Artifact where
  id : String
  runId : Option String
  sha256 : String
  byteLength : Nat
  verifiedAt : Option Int

/-- The evidence of the runs, with `ArtifactStore::verify` of the files behind it. -/
structure Evidence where
  records : List EvidenceRecord
  validations : List Validation
  commands : List CommandRun
  artifactLinks : List (String × String)
  artifacts : List Artifact
  artifactRunBindings : List (String × String)
  verifyArtifact : String → Except StoreError Nat

structure Membership where
  tasksetRevisionId : String
  evalCaseRevisionId : String
  ordinal : Nat
  createdAt : Int
deriving DecidableEq

def Membership.key (m : Membership) : String × String := (m.tasksetRevisionId, m.evalCaseRevisionId)

structure EvaluationRun where
  id : String
  controllerRunId : String
  tasksetRevisionId : String
  graderBundleRevisionId : String
  split : Split
  baseSha : String
  fixtureDigest : String
  runtimeDigest : String
  seedPolicyDigest : String
  championPolicyDigest : String
  challengerPolicyDigest : Option String
  idempotencyKey : String
  createdAt : Int
deriving DecidableEq

structure StatusRevision where
  id : String
  evaluationRunId : String
  sequence : Nat
  status : EvaluationRunStatus
  receiptDigest : String
  idempotencyKey : String
  createdAt : Int
deriving DecidableEq

structure EvaluationSample where
  id : String
  evaluationRunId : String
  controllerEvidenceId : String
  graderEvidenceId : String
  evalCaseRevisionId : String
  arm : EvaluationArm
  seed : Nat
  classification : SampleClassification
  sampleDigest : String
  traceDigest : Option String
  evidenceDigest : Option String
  artifactDigest : Option String
  costReceiptDigest : Option String
  idempotencyKey : String
  createdAt : Int
deriving DecidableEq

structure StatVerdict where
  id : String
  championEvaluationRunId : String
  challengerEvaluationRunId : String
  decision : Decision
  inputDigest : String
  successfulPairs : Nat
  winPairs : Nat
  lossPairs : Nat
  deltaMilli : Int
  criticalRegression : Bool
  rewardIntegrityPass : Bool
  idempotencyKey : String
  createdAt : Int
deriving DecidableEq

structure HoldoutAccess where
  id : String
  tasksetRevisionId : Option String
  evalCaseRevisionId : Option String
  principal : Principal
  split : Split
  action : HoldoutAction
  granted : Bool
  custodyDigest : String
  idempotencyKey : String
  createdAt : Int
deriving DecidableEq

structure Invalidation where
  id : String
  target : InvalidationTarget
  targetId : String
  reason : InvalidationReason
  holdoutAccessLogId : Option String
  idempotencyKey : String
  createdAt : Int
deriving DecidableEq

structure Tables where
  controllerRuns : List ControllerRun
  evidence : Evidence
  ledger : Improvement.Tables
  memberships : Table Membership.key
  runs : Table EvaluationRun.id
  statuses : Table StatusRevision.id
  samples : Table EvaluationSample.id
  verdicts : Table StatVerdict.id
  accesses : Table HoldoutAccess.id
  invalidations : Table Invalidation.id

/-! ## Inputs and receipts -/

structure NewTasksetMembership where
  tasksetRevisionId : String
  evalCaseRevisionId : String
  ordinal : Nat

structure NewEvaluationRun where
  id : String
  controllerRunId : String
  tasksetRevisionId : String
  graderBundleRevisionId : String
  baseSha : String
  fixtureDigest : String
  runtimeDigest : String
  seedPolicyDigest : String
  championPolicyDigest : String
  challengerPolicyDigest : Option String
  idempotencyKey : String

structure EvaluationRunReceipt where
  id : String
  controllerRunId : String
  tasksetRevisionId : String
  graderBundleRevisionId : String
  split : Split
  status : EvaluationRunStatus
  invalidated : Bool
deriving DecidableEq

structure NewEvaluationRunStatus where
  id : String
  evaluationRunId : String
  status : EvaluationRunStatus
  receiptDigest : String
  idempotencyKey : String

structure NewEvaluationSample where
  id : String
  evaluationRunId : String
  controllerEvidenceId : String
  graderEvidenceId : String
  evalCaseRevisionId : String
  arm : EvaluationArm
  sample : EvalSampleV1
  idempotencyKey : String

structure EvaluationSampleReceipt where
  id : String
  evaluationRunId : String
  controllerEvidenceId : String
  graderEvidenceId : String
  evalCaseRevisionId : String
  arm : EvaluationArm
  seed : Nat
  classification : SampleClassification
  sampleDigest : String
  invalidated : Bool
deriving DecidableEq

structure NewPairedStatVerdict where
  id : String
  championEvaluationRunId : String
  challengerEvaluationRunId : String
  decision : Decision
  inputDigest : String
  idempotencyKey : String

structure PairedStatVerdictReceipt where
  id : String
  invalidated : Bool
deriving DecidableEq

structure NewHoldoutAccess where
  id : String
  tasksetRevisionId : Option String
  evalCaseRevisionId : Option String
  principal : Principal
  action : HoldoutAction
  custodyDigest : String
  idempotencyKey : String

structure HoldoutAccessReceipt where
  id : String
  granted : Bool
deriving DecidableEq

structure NewEvaluationInvalidation where
  id : String
  target : InvalidationTarget
  targetId : String
  reason : InvalidationReason
  holdoutAccessLogId : Option String
  idempotencyKey : String

/-! ## Reading revisions -/

def validDigest (value : String) : Except StoreError Unit :=
  ensure (isLowerHex value 64) (.validation "invalid evaluation digest")

def sqliteU64 (n : Nat) (field : String) : Except StoreError Unit :=
  ensure (fitsI64 n) (.validation (field ++ " exceeds SQLite range"))

/-- `serde_json::from_value` of a payload. -/
def fromPayload {α : Type} (parse : Value → Option α) : Payload → Except StoreError α
  | .outcome _ => .error .json
  | .other v   => okOr (parse v) .json

def payloadSelfDigest (w : EvalWire) : Payload → String
  | .outcome _ => ""
  | .other v   => w.selfDigest v

def verifyPayload (w : EvalWire) (kind : ImprovementRecordKind) (p : Payload) : Except StoreError Unit :=
  match kind with
  | .evalCase     => fromPayload w.evalCase p >>= fun c => verifyCaseV1 c (payloadSelfDigest w p)
  | .graderBundle => fromPayload w.graderBundle p >>= fun g => verifyGraderContract g (payloadSelfDigest w p)
  | .taskset      => fromPayload w.taskset p >>= fun s => verifyTasksetV1 s (payloadSelfDigest w p)
  | _             => .ok ()

def requireEvalRevision (w : EvalWire) (l : Improvement.Tables) (id : String) (kind : ImprovementRecordKind) :
    Except StoreError Unit := do
  let r ← readImprovementRevision w.toWire l id
  ensure (decide (r.aggregateKind = kind)) (.conflict "evaluation revision kind mismatch")
  verifyPayload w kind r.payload

def revisionWire {α : Type} (w : EvalWire) (parse : Value → Option α) (l : Improvement.Tables) (id : String) :
    Except StoreError α := do
  let r ← readImprovementRevision w.toWire l id
  fromPayload parse r.payload

/-- `immutable_revision_wire_tx`, the record alone. -/
def immutableRevisionWire {α : Type} (w : EvalWire) (parse : Value → Option α) (l : Improvement.Tables) (id : String)
    (kind : ImprovementRecordKind) : Except StoreError α := do
  let r ← readImprovementRevision w.toWire l id
  ensure (decide (r.aggregateKind = kind) && decide (r.schema.kind = kind)) (.conflict "immutable revision kind mismatch")
  fromPayload parse r.payload

def improvementPayloadDigest (w : EvalWire) (l : Improvement.Tables) (id : String) : Except StoreError String := do
  let r ← readImprovementRevision w.toWire l id
  return r.payloadSha256

/-! ## Members of a taskset -/

def membersOf (t : Tables) (taskset : String) : List Membership :=
  t.memberships.rows.filter (fun m => m.tasksetRevisionId == taskset)

/-- The case revisions of a taskset, `ORDER BY ordinal`. -/
def memberIds (t : Tables) (taskset : String) : List String :=
  ((membersOf t taskset).insertionSort (fun a b => a.ordinal ≤ b.ordinal)).map Membership.evalCaseRevisionId

def hasMember (t : Tables) (taskset case : String) : Bool :=
  (membersOf t taskset).any (fun m => m.evalCaseRevisionId == case)

def splitConflict : StoreError := .conflict "taskset contains multiple case splits"

def noMemberships : StoreError := .validation "taskset has no immutable memberships"

/-- The loop of `taskset_split`. -/
def commonSplit (w : EvalWire) (l : Improvement.Tables) : Option Split → List String → Except StoreError (Option Split)
  | split, []        => .ok split
  | split, id :: ids => do
    let r ← readImprovementRevision w.toWire l id
    let c ← fromPayload w.evalCase r.payload
    verifyCaseV1 c (payloadSelfDigest w r.payload)
    ensure (split.all (fun s => decide (s = c.split))) splitConflict
    commonSplit w l (some c.split) ids

def tasksetSplit (w : EvalWire) (t : Tables) (taskset : String) : Except StoreError Split := do
  let split ← commonSplit w t.ledger none (memberIds t taskset)
  okOr split noMemberships

/-- The loop of `evaluation_launch_pins_tx`: the cases, each pinned by the manifest and pinning the grader, with their
split. -/
def pinnedCases (w : EvalWire) (l : Improvement.Tables) (grader : GraderBundleV1) :
    Option Split → List (CasePin × String) → Except StoreError (Option Split × List EvalCaseV1)
  | split, []               => .ok (split, [])
  | split, (pin, id) :: ids => do
    let c ← immutableRevisionWire w w.evalCase l id .evalCase
    ensure (pin.pins c) (.conflict "taskset membership pin disagrees with immutable manifest")
    ensure (c.graderBundleId == grader.graderBundleId && c.graderBundleRevision == grader.revision &&
      c.graderBundleDigest == grader.sha256) (.conflict "eval case grader pin disagrees with immutable grader bundle")
    ensure (split.all (fun s => decide (s = c.split))) splitConflict
    let (split, cases) ← pinnedCases w l grader (some c.split) ids
    return (split, c :: cases)

/-- `evaluation_launch_pins_tx`: the split and the cases. -/
def evaluationLaunchPins (w : EvalWire) (t : Tables) (taskset grader : String) :
    Except StoreError (Split × List EvalCaseV1) := do
  let manifest ← immutableRevisionWire w w.taskset t.ledger taskset .taskset
  let bundle ← immutableRevisionWire w w.graderBundle t.ledger grader .graderBundle
  ensure (decide ((memberIds t taskset).length = manifest.cases.length))
    (.conflict "taskset membership count disagrees with immutable manifest")
  let (split, cases) ← pinnedCases w t.ledger bundle none (manifest.cases.zip (memberIds t taskset))
  let split ← okOr split noMemberships
  return (split, cases)

/-! ## Reading runs, samples and verdicts -/

def invalidated (t : Tables) (target : InvalidationTarget) (id : String) : Bool :=
  t.invalidations.rows.any (fun i => decide (i.target = target) && i.targetId == id)

def statusesOf (t : Tables) (run : String) : List StatusRevision :=
  t.statuses.rows.filter (fun s => s.evaluationRunId == run)

def maxSequence (t : Tables) (run : String) : Nat := Table.maxOf StatusRevision.sequence (statusesOf t run)

def runStatus (t : Tables) (run : String) : Option EvaluationRunStatus :=
  ((statusesOf t run).find? (fun s => s.sequence == maxSequence t run)).map StatusRevision.status

def evaluationRunStatus (t : Tables) (run : String) : Except StoreError EvaluationRunStatus :=
  okOr (runStatus t run) (.notFound run)

def readEvaluationRun (t : Tables) (id : String) : Except StoreError EvaluationRunReceipt := do
  let r ← okOr (t.runs.get id) (.notFound id)
  let status ← okOr (runStatus t id) (.sqlite .fromSqlConversionFailure)
  return ⟨r.id, r.controllerRunId, r.tasksetRevisionId, r.graderBundleRevisionId, r.split, status,
    invalidated t .evaluationRun r.id⟩

def sampleInvalidated (t : Tables) (id run : String) : Bool :=
  invalidated t .evaluationSample id || invalidated t .evaluationRun run

def readEvaluationSample (t : Tables) (id : String) : Except StoreError EvaluationSampleReceipt := do
  let s ← okOr (t.samples.get id) (.notFound id)
  ensure (decide (0 < s.seed)) (.sqlite .fromSqlConversionFailure)
  return ⟨s.id, s.evaluationRunId, s.controllerEvidenceId, s.graderEvidenceId, s.evalCaseRevisionId, s.arm, s.seed,
    s.classification, s.sampleDigest, sampleInvalidated t s.id s.evaluationRunId⟩

def evaluationSample (t : Tables) (id : String) : Except StoreError EvaluationSampleReceipt := do
  safeEvalId id 128
  let receipt ← readEvaluationSample t id
  ensure (!receipt.invalidated) (.conflict "evaluation sample is invalidated")
  return receipt

def pairedStatVerdict (t : Tables) (id : String) : Except StoreError PairedStatVerdictReceipt := do
  safeEvalId id 128
  let v ← okOr (t.verdicts.get id) (.notFound id)
  ensure (!(invalidated t .statVerdict v.id || invalidated t .evaluationRun v.championEvaluationRunId ||
    invalidated t .evaluationRun v.challengerEvaluationRunId)) (.conflict "paired verdict is invalidated")
  return ⟨id, false⟩

end Eval
end Bildr
