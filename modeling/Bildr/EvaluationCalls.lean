import Bildr.Evaluation
import Bildr.Keyed
/-!
# EvaluationCalls — the calls that write evaluation records

Each call is a transaction that looks for a row under the key of its request after its checks (`Keyed.body`).  What is
checked before the lookup differs from call to call: a sample must find its run recording, a verdict its runs valid.
-/
namespace Bildr
namespace Eval

open Improvement (readImprovementRevision safeEvalId isLowerHex ImprovementRecordKind)

/-! ## Evidence of a sample -/

/-- The records of the run with an id, each with its validation and command of the same run. -/
def evidenceChains (e : Evidence) (id run : String) : List (EvidenceRecord × Validation × CommandRun) :=
  (e.records.filter (fun r => r.id == id && r.runId == run)).flatMap (fun r =>
    (e.validations.filter (fun v => decide (r.validationId = some v.id) && v.runId == run)).flatMap (fun v =>
      (e.commands.filter (fun c => decide (v.commandRunId = some c.id) && c.runId == run)).map (fun c => (r, v, c))))

def chainAtSource (sha : String) (q : EvidenceRecord × Validation × CommandRun) : Bool :=
  q.1.sourceSha == sha && q.2.1.sourceSha == sha &&
    (decide (q.2.2.sourceShaAfter = some sha) || decide (q.2.2.sourceShaBefore = some sha))

def chainUnavailable (q : EvidenceRecord × Validation × CommandRun) : Bool :=
  q.2.2.timedOut || decide (q.2.2.resultClass = some "infrastructure_unavailable")

def chainSucceeded (q : EvidenceRecord × Validation × CommandRun) : Bool :=
  q.1.invalidatedAt.isNone && q.2.1.invalidatedAt.isNone && q.2.1.state == "completed" && q.1.resultClass == "success" &&
    decide (q.2.1.resultClass = some "success") && decide (q.2.2.resultClass = some "success")

def artifactOfRun (e : Evidence) (a : Artifact) (run : String) : Bool :=
  decide (a.runId = some run) || e.artifactRunBindings.contains (a.id, run)

def validateEvaluationSampleEvidence (e : Evidence) (i : NewEvaluationSample) (run : String)
    (artifactLength : Option Nat) : Except StoreError Unit := do
  ensure (i.controllerEvidenceId != i.graderEvidenceId)
    (.conflict "candidate and grader evidence must be independent")
  if i.sample.classification = .infrastructureUnavailable then
    ensure ((evidenceChains e i.controllerEvidenceId run).any (fun q =>
      chainAtSource i.sample.baseSha q && chainUnavailable q))
      (.conflict "infrastructure sample lacks durable unavailable command receipt")
  else do
    ensure (decide (i.sample.classification = .pass) || decide (i.sample.classification = .fail))
      (.conflict "invalidated samples cannot be recorded as evaluation evidence")
    let evidenceDigest ← okOr i.sample.evidenceDigest (.conflict "pass/fail sample requires evidence digest")
    let artifactDigest ← okOr i.sample.artifactDigest (.conflict "pass/fail sample requires artifact digest")
    let candidate := (evidenceChains e i.controllerEvidenceId run).any (fun q =>
      chainSucceeded q && chainAtSource i.sample.baseSha q && q.2.2.commandSha256 == i.sample.commandDigest)
    ensure (artifactLength.all fitsI64) (.validation "artifact length exceeds SQLite range")
    let grader := (evidenceChains e i.graderEvidenceId run).any (fun q =>
      chainSucceeded q && chainAtSource i.sample.baseSha q && q.1.evidenceSha256 == evidenceDigest &&
      e.artifacts.any (fun a => e.artifactLinks.contains (q.1.id, a.id) && artifactOfRun e a run &&
        a.sha256 == artifactDigest && a.verifiedAt.isSome && decide (some a.byteLength = artifactLength)))
    ensure (candidate && grader) (.conflict "pass/fail sample lacks independent candidate and grader evidence chains")

def sampleArtifactLength (e : Evidence) (s : EvalSampleV1) : Except StoreError (Option Nat) :=
  if s.classification = .pass ∨ s.classification = .fail then do
    let digest ← okOr s.artifactDigest (.conflict "pass/fail sample requires artifact digest")
    let length ← e.verifyArtifact digest
    return some length
  else .ok none

/-! ## Statements -/

def revisionOf (t : Tables) (id : String) (kind : ImprovementRecordKind) (schema : Improvement.ImprovementSchema) : Bool :=
  (t.ledger.revisions.get id).any (fun r => decide (r.aggregateKind = kind) && decide (r.schema = schema))

def insertMembership (t : Tables) (m : Membership) : Except StoreError Tables := do
  require (revisionOf t m.tasksetRevisionId .taskset .tasksetV1 && revisionOf t m.evalCaseRevisionId .evalCase .evalCaseV1 &&
    !t.memberships.rows.any (fun q => q.tasksetRevisionId == m.tasksetRevisionId && q.ordinal == m.ordinal))
  let memberships ← insertRow t.memberships m
  return { t with memberships := memberships }

def insertRun (t : Tables) (r : EvaluationRun) : Except StoreError Tables := do
  require (t.controllerRuns.any (·.id == r.controllerRunId) && revisionOf t r.tasksetRevisionId .taskset .tasksetV1 &&
    revisionOf t r.graderBundleRevisionId .graderBundle .graderBundleV1 && isLowerHex r.baseSha 40 &&
    [r.fixtureDigest, r.runtimeDigest, r.seedPolicyDigest, r.championPolicyDigest].all (isLowerHex · 64) &&
    r.challengerPolicyDigest.all (isLowerHex · 64) && !t.runs.rows.any (·.idempotencyKey == r.idempotencyKey))
  let runs ← insertRow t.runs r
  return { t with runs := runs }

def insertStatus (t : Tables) (s : StatusRevision) : Except StoreError Tables := do
  require ((t.runs.get s.evaluationRunId).isSome && decide (1 ≤ s.sequence) && isLowerHex s.receiptDigest 64 &&
    !t.statuses.rows.any (fun q => q.idempotencyKey == s.idempotencyKey ||
      (q.evaluationRunId == s.evaluationRunId && q.sequence == s.sequence)))
  let statuses ← insertRow t.statuses s
  return { t with statuses := statuses }

def insertSample (t : Tables) (s : EvaluationSample) : Except StoreError Tables := do
  require ((t.runs.get s.evaluationRunId).any (fun r => hasMember t r.tasksetRevisionId s.evalCaseRevisionId) &&
    t.evidence.records.any (·.id == s.controllerEvidenceId) && t.evidence.records.any (·.id == s.graderEvidenceId) &&
    isLowerHex s.sampleDigest 64 &&
    [s.traceDigest, s.evidenceDigest, s.artifactDigest, s.costReceiptDigest].all (·.all (isLowerHex · 64)) &&
    s.controllerEvidenceId != s.graderEvidenceId &&
    !t.samples.rows.any (fun q => q.idempotencyKey == s.idempotencyKey ||
      (q.evaluationRunId == s.evaluationRunId && q.evalCaseRevisionId == s.evalCaseRevisionId &&
        decide (q.arm = s.arm) && q.seed == s.seed)))
  let samples ← insertRow t.samples s
  return { t with samples := samples }

def insertVerdict (t : Tables) (v : StatVerdict) : Except StoreError Tables := do
  require ((t.runs.get v.championEvaluationRunId).isSome && (t.runs.get v.challengerEvaluationRunId).isSome &&
    v.championEvaluationRunId != v.challengerEvaluationRunId && isLowerHex v.inputDigest 64 &&
    decide (v.winPairs + v.lossPairs ≤ v.successfulPairs) &&
    !t.verdicts.rows.any (·.idempotencyKey == v.idempotencyKey))
  let verdicts ← insertRow t.verdicts v
  return { t with verdicts := verdicts }

def insertAccess (t : Tables) (a : HoldoutAccess) : Except StoreError Tables := do
  require (a.tasksetRevisionId.all (revisionOf t · .taskset .tasksetV1) &&
    a.evalCaseRevisionId.all (revisionOf t · .evalCase .evalCaseV1) && isLowerHex a.custodyDigest 64 &&
    (a.tasksetRevisionId.isSome != a.evalCaseRevisionId.isSome) &&
    (decide (a.split ≠ .holdout) || decide (a.principal ≠ .optimizer ∧ a.principal ≠ .candidateRuntime) || !a.granted) &&
    !t.accesses.rows.any (·.idempotencyKey == a.idempotencyKey))
  let accesses ← insertRow t.accesses a
  return { t with accesses := accesses }

def targetExists (t : Tables) : InvalidationTarget → String → Bool
  | .evaluationRun, id    => (t.runs.get id).isSome
  | .evaluationSample, id => (t.samples.get id).isSome
  | .statVerdict, id      => (t.verdicts.get id).isSome

/-- A log id that is null does not count for `UNIQUE`. -/
def insertInvalidation (t : Tables) (i : Invalidation) : Except StoreError Tables := do
  require (targetExists t i.target i.targetId && i.holdoutAccessLogId.all (fun id => (t.accesses.get id).isSome) &&
    (decide (i.reason ≠ .holdoutLeakage) || i.holdoutAccessLogId.isSome) &&
    !t.invalidations.rows.any (fun q => q.idempotencyKey == i.idempotencyKey ||
      (decide (q.target = i.target) && q.targetId == i.targetId && decide (q.reason = i.reason) &&
        i.holdoutAccessLogId.isSome && decide (q.holdoutAccessLogId = i.holdoutAccessLogId))))
  let invalidations ← insertRow t.invalidations i
  return { t with invalidations := invalidations }

/-! ## Memberships -/

def checkMembership (w : EvalWire) (i : NewTasksetMembership) (t : Tables) : Except StoreError Unit := do
  safeEvalId i.tasksetRevisionId 128
  safeEvalId i.evalCaseRevisionId 128
  requireEvalRevision w t.ledger i.tasksetRevisionId .taskset
  requireEvalRevision w t.ledger i.evalCaseRevisionId .evalCase
  let taskset ← revisionWire w w.taskset t.ledger i.tasksetRevisionId
  let case ← revisionWire w w.evalCase t.ledger i.evalCaseRevisionId
  ensure (taskset.cases.any (·.pins case)) (.conflict "taskset manifest does not pin eval-case revision/digest")
  sqliteU64 i.ordinal "taskset ordinal"

def memberByKey (i : NewTasksetMembership) (t : Tables) : Option Membership :=
  t.memberships.get (i.tasksetRevisionId, i.evalCaseRevisionId)

def answerMembership (i : NewTasksetMembership) (m : Membership) : Except StoreError Unit :=
  ensure (m.ordinal == i.ordinal) (.conflict "taskset membership replay has different ordinal")

def launched (t : Tables) (taskset : String) : Bool := t.runs.rows.any (fun r => r.tasksetRevisionId == taskset)

def writeMembership (i : NewTasksetMembership) (now : Int) (t : Tables) : Except StoreError (Unit × Tables) := do
  ensure (!(membersOf t i.tasksetRevisionId).any (fun m => m.ordinal == i.ordinal))
    (.conflict "taskset membership ordinal is already occupied")
  ensure (!launched t i.tasksetRevisionId) (.conflict "taskset membership is frozen after evaluation launch")
  let t ← insertMembership t ⟨i.tasksetRevisionId, i.evalCaseRevisionId, i.ordinal, now⟩
  return ((), t)

def appendTasksetMembership (w : EvalWire) (i : NewTasksetMembership) (now : Int) : Call Tables Unit :=
  transaction (Keyed.body (checkMembership w i) (memberByKey i) (fun _ m _ => answerMembership i m)
    (fun _ => writeMembership i now))

/-! ## Launching a run -/

def validateNewEvaluationRun (i : NewEvaluationRun) : Except StoreError Unit := do
  safeEvalId i.controllerRunId 160
  safeEvalId i.id 128
  safeEvalId i.tasksetRevisionId 128
  safeEvalId i.graderBundleRevisionId 128
  safeEvalId i.idempotencyKey 200
  [i.fixtureDigest, i.runtimeDigest, i.seedPolicyDigest, i.championPolicyDigest].forM validDigest
  i.challengerPolicyDigest.toList.forM validDigest
  ensure (isLowerHex i.baseSha 40) (.validation "invalid evaluation base SHA")

def controllerRun (t : Tables) (id baseSha : String) : Option ControllerRun :=
  t.controllerRuns.find? (fun r => r.id == id && r.baseSha == baseSha)

/-- What is checked of the controller run and the revisions; gives the split. -/
def checkLaunch (w : EvalWire) (i : NewEvaluationRun) (t : Tables) : Except StoreError Split := do
  validateNewEvaluationRun i
  let controller ← okOr (controllerRun t i.controllerRunId i.baseSha)
    (.conflict "evaluation base SHA does not match controller run")
  requireEvalRevision w t.ledger i.tasksetRevisionId .taskset
  requireEvalRevision w t.ledger i.graderBundleRevisionId .graderBundle
  let (split, cases) ← evaluationLaunchPins w t i.tasksetRevisionId i.graderBundleRevisionId
  ensure (cases.all (fun c => c.runtime.repositoryId == controller.repositoryId && c.runtime.baseSha == i.baseSha))
    (.conflict "evaluation case repository/base does not match controller run")
  return split

def runByKey (key : String) (t : Tables) : Option EvaluationRun := t.runs.rows.find? (fun r => r.idempotencyKey == key)

def NewEvaluationRun.describes (i : NewEvaluationRun) (r : EvaluationRun) : Bool :=
  r.tasksetRevisionId == i.tasksetRevisionId && r.graderBundleRevisionId == i.graderBundleRevisionId && r.id == i.id &&
    r.controllerRunId == i.controllerRunId && r.baseSha == i.baseSha && r.fixtureDigest == i.fixtureDigest &&
    r.runtimeDigest == i.runtimeDigest && r.seedPolicyDigest == i.seedPolicyDigest &&
    r.championPolicyDigest == i.championPolicyDigest && decide (r.challengerPolicyDigest = i.challengerPolicyDigest)

def answerRun (i : NewEvaluationRun) (r : EvaluationRun) (t : Tables) : Except StoreError EvaluationRunReceipt := do
  let receipt ← readEvaluationRun t r.id
  ensure (i.describes r) (.conflict "evaluation run idempotency collision")
  return receipt

def NewEvaluationRun.row (i : NewEvaluationRun) (split : Split) (now : Int) : EvaluationRun :=
  ⟨i.id, i.controllerRunId, i.tasksetRevisionId, i.graderBundleRevisionId, split, i.baseSha, i.fixtureDigest,
    i.runtimeDigest, i.seedPolicyDigest, i.championPolicyDigest, i.challengerPolicyDigest, i.idempotencyKey, now⟩

/-- `initial_evaluation_run_status_identifiers`; the separators of these texts are a backslash and a zero. -/
def initialStatusId (w : EvalWire) (i : NewEvaluationRun) : String :=
  "evaluation-run-status-" ++ w.sha256 ("harness.evaluation-run-status.v1\\0" ++ i.id ++ "\\0recording")

def initialStatusKey (w : EvalWire) (i : NewEvaluationRun) : String :=
  "evaluation-run-status-" ++
    w.sha256 ("harness.evaluation-run-status-idempotency.v1\\0" ++ i.idempotencyKey ++ "\\0recording")

def NewEvaluationRun.initialStatus (w : EvalWire) (i : NewEvaluationRun) (now : Int) : StatusRevision :=
  ⟨initialStatusId w i, i.id, 1, .recording, i.runtimeDigest, initialStatusKey w i, now⟩

def writeRun (w : EvalWire) (i : NewEvaluationRun) (now : Int) (split : Split) (t : Tables) :
    Except StoreError (EvaluationRunReceipt × Tables) := do
  let t ← insertRun t (i.row split now)
  let t ← insertStatus t (i.initialStatus w now)
  let receipt ← readEvaluationRun t i.id
  return (receipt, t)

def startEvaluationRun (w : EvalWire) (i : NewEvaluationRun) (now : Int) : Call Tables EvaluationRunReceipt :=
  transaction (Keyed.body (checkLaunch w i) (runByKey i.idempotencyKey) (fun _ => answerRun i) (writeRun w i now))

/-! ## The status of a run -/

def terminalError : StoreError := .conflict "invalidated evaluation run is terminal"

def statusOpen (t : Tables) (i : NewEvaluationRunStatus) : Bool :=
  !invalidated t .evaluationRun i.evaluationRunId || decide (i.status = .invalidated)

def checkStatus (i : NewEvaluationRunStatus) (t : Tables) : Except StoreError Unit := do
  safeEvalId i.id 128
  safeEvalId i.evaluationRunId 128
  safeEvalId i.idempotencyKey 200
  validDigest i.receiptDigest
  ensure (t.runs.get i.evaluationRunId).isSome (.notFound i.evaluationRunId)
  ensure (statusOpen t i) terminalError

def statusByKey (key : String) (t : Tables) : Option StatusRevision :=
  t.statuses.rows.find? (fun s => s.idempotencyKey == key)

def NewEvaluationRunStatus.describes (i : NewEvaluationRunStatus) (s : StatusRevision) : Bool :=
  s.id == i.id && s.evaluationRunId == i.evaluationRunId && decide (s.status = i.status) &&
    s.receiptDigest == i.receiptDigest

def answerStatus (i : NewEvaluationRunStatus) (s : StatusRevision) : Except StoreError Unit :=
  ensure (i.describes s) (.conflict "evaluation status idempotency collision")

def transitionAllowed (source target : EvaluationRunStatus) : Bool :=
  decide (source = .recording) && decide (target ≠ .recording)

def NewEvaluationRunStatus.row (i : NewEvaluationRunStatus) (sequence : Nat) (now : Int) : StatusRevision :=
  ⟨i.id, i.evaluationRunId, sequence, i.status, i.receiptDigest, i.idempotencyKey, now⟩

def writeStatus (i : NewEvaluationRunStatus) (now : Int) (t : Tables) : Except StoreError (Unit × Tables) := do
  let prior ← queryRow (runStatus t i.evaluationRunId)
  ensure (decide (prior ≠ .invalidated)) terminalError
  ensure (decide (i.status ≠ .invalidated) || invalidated t .evaluationRun i.evaluationRunId)
    (.conflict "invalidated status requires immutable invalidation receipt")
  ensure (transitionAllowed prior i.status) (.conflict "illegal evaluation run status transition")
  let t ← insertStatus t (i.row (maxSequence t i.evaluationRunId + 1) now)
  return ((), t)

def appendEvaluationRunStatus (i : NewEvaluationRunStatus) (now : Int) : Call Tables Unit :=
  transaction (Keyed.body (checkStatus i) (statusByKey i.idempotencyKey) (fun _ s _ => answerStatus i s)
    (fun _ => writeStatus i now))

/-! ## Samples -/

def EvaluationRun.policyDigest (r : EvaluationRun) : EvaluationArm → Option String
  | .champion   => some r.championPolicyDigest
  | .challenger => r.challengerPolicyDigest

def checkSampleBinding (w : EvalWire) (i : NewEvaluationSample) (r : EvaluationRun) (t : Tables) :
    Except StoreError Unit := do
  requireEvalRevision w t.ledger i.evalCaseRevisionId .evalCase
  let case ← revisionWire w w.evalCase t.ledger i.evalCaseRevisionId
  ensure (i.sample.caseId == case.caseId && i.sample.caseRevision == case.revision && i.sample.caseDigest == case.sha256 &&
    i.sample.setupDigest == case.runtime.setupDigest) (.conflict "sample does not exactly bind immutable eval case")
  ensure (hasMember t r.tasksetRevisionId i.evalCaseRevisionId) (.conflict "sample case is not in taskset membership")
  let taskset ← improvementPayloadDigest w t.ledger r.tasksetRevisionId
  ensure (i.sample.tasksetDigest == taskset) (.conflict "sample digest does not bind run taskset/grader")
  let grader ← improvementPayloadDigest w t.ledger r.graderBundleRevisionId
  ensure (i.sample.graderBundleDigest == grader && r.baseSha == i.sample.baseSha &&
    r.fixtureDigest == i.sample.fixtureDigest && r.runtimeDigest == i.sample.runtimeDigest)
    (.conflict "sample digest does not bind run taskset/grader")
  let policy ← okOr (r.policyDigest i.arm) (.sqlite .fromSqlConversionFailure)
  ensure (i.sample.policyDigest == policy) (.conflict "sample policy digest does not bind arm")

def checkSampleIds (i : NewEvaluationSample) : Except StoreError Unit := do
  safeEvalId i.id 128
  safeEvalId i.evaluationRunId 128
  safeEvalId i.evalCaseRevisionId 128
  safeEvalId i.idempotencyKey 200

def checkSample (w : EvalWire) (i : NewEvaluationSample) (t : Tables) : Except StoreError Unit := do
  verifySample w i.sample
  let length ← sampleArtifactLength t.evidence i.sample
  checkSampleIds i
  let receipt ← readEvaluationRun t i.evaluationRunId
  ensure (!receipt.invalidated) (.conflict "evaluation run is invalidated")
  let status ← evaluationRunStatus t i.evaluationRunId
  ensure (decide (status = .recording)) (.conflict "evaluation samples are accepted only while recording")
  let r ← queryRow (t.runs.get i.evaluationRunId)
  checkSampleBinding w i r t
  validateEvaluationSampleEvidence t.evidence i receipt.controllerRunId length

def sampleByKey (key : String) (t : Tables) : Option EvaluationSample :=
  t.samples.rows.find? (fun s => s.idempotencyKey == key)

def NewEvaluationSample.describes (i : NewEvaluationSample) (s : EvaluationSample) : Bool :=
  s.evaluationRunId == i.evaluationRunId && s.evalCaseRevisionId == i.evalCaseRevisionId && decide (s.arm = i.arm) &&
    s.seed == i.sample.seed && s.id == i.id && s.controllerEvidenceId == i.controllerEvidenceId &&
    s.graderEvidenceId == i.graderEvidenceId && s.sampleDigest == i.sample.sha256

def answerSample (i : NewEvaluationSample) (s : EvaluationSample) (t : Tables) :
    Except StoreError EvaluationSampleReceipt := do
  let receipt ← readEvaluationSample t s.id
  ensure (i.describes s) (.conflict "evaluation sample idempotency collision")
  return receipt

def NewEvaluationSample.row (i : NewEvaluationSample) (now : Int) : EvaluationSample :=
  ⟨i.id, i.evaluationRunId, i.controllerEvidenceId, i.graderEvidenceId, i.evalCaseRevisionId, i.arm, i.sample.seed,
    i.sample.classification, i.sample.sha256, i.sample.traceDigest, i.sample.evidenceDigest, i.sample.artifactDigest,
    i.sample.costReceiptDigest, i.idempotencyKey, now⟩

def writeSample (i : NewEvaluationSample) (now : Int) (t : Tables) :
    Except StoreError (EvaluationSampleReceipt × Tables) := do
  sqliteU64 i.sample.seed "sample seed"
  let t ← insertSample t (i.row now)
  let receipt ← readEvaluationSample t i.id
  return (receipt, t)

def recordEvaluationSample (w : EvalWire) (i : NewEvaluationSample) (now : Int) : Call Tables EvaluationSampleReceipt :=
  transaction (Keyed.body (checkSample w i) (sampleByKey i.idempotencyKey) (fun _ => answerSample i)
    (fun _ => writeSample i now))

/-! ## Verdicts -/

def passOrFail (c : SampleClassification) : Bool := decide (c = .pass) || decide (c = .fail)

def armSampled (t : Tables) (run : String) (arm : EvaluationArm) : Bool :=
  t.samples.rows.any (fun s => s.evaluationRunId == run && decide (s.arm = arm) && passOrFail s.classification)

def checkPair (champion challenger : String) (t : Tables) : Except StoreError Unit := do
  let a ← readEvaluationRun t champion
  let b ← readEvaluationRun t challenger
  ensure (!a.invalidated && !b.invalidated && decide (a.split = b.split) && a.tasksetRevisionId == b.tasksetRevisionId &&
    a.graderBundleRevisionId == b.graderBundleRevisionId)
    (.conflict "paired verdict runs are incompatible or invalidated")
  let x ← evaluationRunStatus t champion
  let y ← evaluationRunStatus t challenger
  ensure (decide (x = .completed) && decide (y = .completed))
    (.conflict "paired verdict requires completed evaluation runs")
  ensure (armSampled t champion .champion && armSampled t challenger .challenger)
    (.conflict "paired verdict requires successful arm samples")

def modestDecision (d : Decision) : Bool := decide (d = .inconclusive) || decide (d = .refusedSmallSample)

def checkVerdict (i : NewPairedStatVerdict) (t : Tables) : Except StoreError Unit := do
  safeEvalId i.id 128
  safeEvalId i.idempotencyKey 200
  validDigest i.inputDigest
  checkPair i.championEvaluationRunId i.challengerEvaluationRunId t
  ensure (modestDecision i.decision)
    (.validation "Store cannot authorize better/worse statistics without persisted paired wires")

def verdictByKey (key : String) (t : Tables) : Option StatVerdict :=
  t.verdicts.rows.find? (fun v => v.idempotencyKey == key)

def verdictInputDigest (w : EvalWire) (champion challenger : String) : String :=
  w.sha256 ("harness.eval.store.verdict.v1\x00" ++ champion ++ "\x00" ++ challenger)

def NewPairedStatVerdict.describes (w : EvalWire) (i : NewPairedStatVerdict) (v : StatVerdict) : Bool :=
  v.id == i.id && v.championEvaluationRunId == i.championEvaluationRunId &&
    v.challengerEvaluationRunId == i.challengerEvaluationRunId &&
    v.inputDigest == verdictInputDigest w i.championEvaluationRunId i.challengerEvaluationRunId &&
    v.successfulPairs == 0 && v.winPairs == 0 && v.lossPairs == 0 && decide (v.deltaMilli = 0) && !v.criticalRegression &&
    !v.rewardIntegrityPass && decide (v.decision = .refusedSmallSample)

def answerVerdict (w : EvalWire) (i : NewPairedStatVerdict) (v : StatVerdict) :
    Except StoreError PairedStatVerdictReceipt := do
  ensure (i.describes w v) (.conflict "paired verdict idempotency collision")
  return ⟨v.id, false⟩

def NewPairedStatVerdict.row (w : EvalWire) (i : NewPairedStatVerdict) (now : Int) : StatVerdict :=
  ⟨i.id, i.championEvaluationRunId, i.challengerEvaluationRunId, .refusedSmallSample,
    verdictInputDigest w i.championEvaluationRunId i.challengerEvaluationRunId, 0, 0, 0, 0, false, false,
    i.idempotencyKey, now⟩

def writeVerdict (w : EvalWire) (i : NewPairedStatVerdict) (now : Int) (t : Tables) :
    Except StoreError (PairedStatVerdictReceipt × Tables) := do
  let t ← insertVerdict t (i.row w now)
  return (⟨i.id, false⟩, t)

def recordPairedStatVerdict (w : EvalWire) (i : NewPairedStatVerdict) (now : Int) : Call Tables PairedStatVerdictReceipt :=
  transaction (Keyed.body (checkVerdict i) (verdictByKey i.idempotencyKey) (fun _ v _ => answerVerdict w i v)
    (fun _ => writeVerdict w i now))

/-! ## Holdout access -/

def accessSplit (w : EvalWire) (i : NewHoldoutAccess) (t : Tables) : Except StoreError Split :=
  match i.tasksetRevisionId, i.evalCaseRevisionId with
  | some id, _    => do
    safeEvalId id 128
    requireEvalRevision w t.ledger id .taskset
    tasksetSplit w t id
  | none, some id => do
    safeEvalId id 128
    requireEvalRevision w t.ledger id .evalCase
    let case ← revisionWire w w.evalCase t.ledger id
    return case.split
  | none, none    => .error (.validation "holdout access requires revision target")

def checkAccess (w : EvalWire) (i : NewHoldoutAccess) (t : Tables) : Except StoreError Split := do
  safeEvalId i.id 128
  safeEvalId i.idempotencyKey 200
  validDigest i.custodyDigest
  ensure (i.tasksetRevisionId.isSome != i.evalCaseRevisionId.isSome)
    (.validation "holdout access requires exactly one revision target")
  accessSplit w i t

def accessByKey (key : String) (t : Tables) : Option HoldoutAccess :=
  t.accesses.rows.find? (fun a => a.idempotencyKey == key)

def NewHoldoutAccess.granted (i : NewHoldoutAccess) (split : Split) : Bool :=
  !(decide (split = .holdout) && (decide (i.principal = .optimizer) || decide (i.principal = .candidateRuntime)))

def NewHoldoutAccess.describes (i : NewHoldoutAccess) (split : Split) (a : HoldoutAccess) : Bool :=
  a.id == i.id && decide (a.tasksetRevisionId = i.tasksetRevisionId) &&
    decide (a.evalCaseRevisionId = i.evalCaseRevisionId) && decide (a.principal = i.principal) &&
    decide (a.split = split) && decide (a.action = i.action) && a.granted == i.granted split &&
    a.custodyDigest == i.custodyDigest

def answerAccess (i : NewHoldoutAccess) (split : Split) (a : HoldoutAccess) : Except StoreError HoldoutAccessReceipt := do
  ensure (i.describes split a) (.conflict "holdout access idempotency collision")
  return ⟨a.id, i.granted split⟩

def NewHoldoutAccess.row (i : NewHoldoutAccess) (split : Split) (now : Int) : HoldoutAccess :=
  ⟨i.id, i.tasksetRevisionId, i.evalCaseRevisionId, i.principal, split, i.action, i.granted split, i.custodyDigest,
    i.idempotencyKey, now⟩

def writeAccess (i : NewHoldoutAccess) (now : Int) (split : Split) (t : Tables) :
    Except StoreError (HoldoutAccessReceipt × Tables) := do
  let t ← insertAccess t (i.row split now)
  return (⟨i.id, i.granted split⟩, t)

def recordHoldoutAccess (w : EvalWire) (i : NewHoldoutAccess) (now : Int) : Call Tables HoldoutAccessReceipt :=
  transaction (Keyed.body (checkAccess w i) (accessByKey i.idempotencyKey) (fun split a _ => answerAccess i split a)
    (writeAccess i now))

/-! ## Invalidations -/

def checkLeakage (i : NewEvaluationInvalidation) (t : Tables) : Except StoreError Unit :=
  if i.reason = .holdoutLeakage then do
    let id ← okOr i.holdoutAccessLogId (.validation "holdout leakage requires access receipt")
    ensure (t.accesses.get id).isSome (.notFound id)
  else .ok ()

def checkInvalidation (i : NewEvaluationInvalidation) (t : Tables) : Except StoreError Unit := do
  safeEvalId i.id 128
  safeEvalId i.targetId 128
  safeEvalId i.idempotencyKey 200
  ensure (targetExists t i.target i.targetId) (.notFound i.targetId)
  checkLeakage i t

def invalidationByKey (key : String) (t : Tables) : Option Invalidation :=
  t.invalidations.rows.find? (fun q => q.idempotencyKey == key)

def NewEvaluationInvalidation.describes (i : NewEvaluationInvalidation) (q : Invalidation) : Bool :=
  q.id == i.id && decide (q.target = i.target) && q.targetId == i.targetId && decide (q.reason = i.reason) &&
    decide (q.holdoutAccessLogId = i.holdoutAccessLogId)

def answerInvalidation (i : NewEvaluationInvalidation) (q : Invalidation) : Except StoreError Unit :=
  ensure (i.describes q) (.conflict "evaluation invalidation idempotency collision")

def NewEvaluationInvalidation.row (i : NewEvaluationInvalidation) (now : Int) : Invalidation :=
  ⟨i.id, i.target, i.targetId, i.reason, i.holdoutAccessLogId, i.idempotencyKey, now⟩

def writeInvalidation (i : NewEvaluationInvalidation) (now : Int) (t : Tables) : Except StoreError (Unit × Tables) := do
  let t ← insertInvalidation t (i.row now)
  return ((), t)

def invalidateEvaluation (i : NewEvaluationInvalidation) (now : Int) : Call Tables Unit :=
  transaction (Keyed.body (checkInvalidation i) (invalidationByKey i.idempotencyKey) (fun _ q _ => answerInvalidation i q)
    (fun _ => writeInvalidation i now))

/-! ## Requests -/

inductive Request
  | membership (i : NewTasksetMembership)
  | start (i : NewEvaluationRun)
  | status (i : NewEvaluationRunStatus)
  | sample (i : NewEvaluationSample)
  | verdict (i : NewPairedStatVerdict)
  | access (i : NewHoldoutAccess)
  | invalidation (i : NewEvaluationInvalidation)

inductive Receipt
  | done
  | run (r : EvaluationRunReceipt)
  | sample (r : EvaluationSampleReceipt)
  | verdict (r : PairedStatVerdictReceipt)
  | access (r : HoldoutAccessReceipt)
deriving DecidableEq

def exec (w : EvalWire) (q : Request) (now : Int) : Call Tables Receipt :=
  match q with
  | .membership i   => (appendTasksetMembership w i now).map (fun _ => .done)
  | .start i        => (startEvaluationRun w i now).map .run
  | .status i       => (appendEvaluationRunStatus i now).map (fun _ => .done)
  | .sample i       => (recordEvaluationSample w i now).map .sample
  | .verdict i      => (recordPairedStatVerdict w i now).map .verdict
  | .access i       => (recordHoldoutAccess w i now).map .access
  | .invalidation i => (invalidateEvaluation i now).map (fun _ => .done)

end Eval
end Bildr
