import Bildr.Improvement
import Mathlib.Data.Rat.Defs
/-!
# EvalWire — the records of an evaluation

A taskset pins eval cases, a case pins a grader bundle, a sample is the result of one case.  Each record carries the
digest of its own canonical text.  The first three are payloads of improvement revisions.
-/
namespace Bildr
namespace Eval

open Improvement (isLowerHex)
open Json (Value)

inductive Split
  | training | development | holdout | canary | quarantine
deriving DecidableEq, Repr

inductive Principal
  | optimizer | candidateRuntime | evaluator | operator
deriving DecidableEq, Repr

inductive HoldoutAction
  | readMetadata | readAnswer | execute
deriving DecidableEq, Repr

inductive SampleClassification
  | pass | fail | infrastructureUnavailable | invalidated
deriving DecidableEq, Repr

inductive IsolationCapability
  | available | infrastructureUnavailable
deriving DecidableEq, Repr

inductive GraderKind
  | deterministic | stateEffect | modelRubric | human | delayed | cost | latency | safety
deriving DecidableEq, Repr

inductive Decision
  | better | worse | inconclusive | refusedCriticalRegression | refusedSmallSample | invalidRewardIntegrity
deriving DecidableEq, Repr

def token (v : String) : Bool := Improvement.token ['_', '-', '.', ':'] 128 v

def controllerIdentifier (v : String) : Bool := Improvement.token ['_', '-', '.', ':'] 160 v

def hash (v : String) : Bool := isLowerHex v 64

def sha40 (v : String) : Bool := isLowerHex v 40

def isObject : Value → Bool
  | .obj _ => true
  | _      => false

/-! ## Tasksets and cases -/

structure CasePin where
  caseId : String
  revision : Nat
  split : Split
  caseDigest : String
deriving DecidableEq

structure TasksetV1 where
  schema : String
  tasksetId : String
  revision : Nat
  cases : List CasePin
  sha256 : String
deriving DecidableEq

structure CaseRuntime where
  repositoryId : String
  repositoryFixture : String
  baseSha : String
  setupDigest : String
  resourceClass : String
  timeoutSeconds : Nat
  tokenBudget : Nat
  seeds : Option (List Nat)
deriving DecidableEq

structure CaseCustody where
  ownedPaths : List String
  forbiddenPaths : List String
  graderIsolated : Bool
deriving DecidableEq

structure AcceptanceClaim where
  claimId : String
  spec : Option Value
deriving DecidableEq

structure EvalCaseV1 where
  schema : String
  caseId : String
  revision : Nat
  title : String
  taskFamily : String
  objective : String
  sourceLocator : String
  sourceDigest : String
  split : Split
  runtime : CaseRuntime
  custody : CaseCustody
  acceptance : List AcceptanceClaim
  graderBundleId : String
  graderBundleRevision : Nat
  graderBundleDigest : String
  sha256 : String
deriving DecidableEq

def CasePin.pins (p : CasePin) (c : EvalCaseV1) : Bool :=
  p.caseId == c.caseId && p.revision == c.revision && p.caseDigest == c.sha256 && decide (p.split = c.split)

/-! ## Grader bundles -/

structure GraderSignal where
  id : String
  kind : GraderKind
  weight : Option Rat
  required : Bool
  definitionDigest : String
  calibrationSetDigest : Option String

structure NegativeControl where
  id : String
  signalId : String
  expectedRelationship : String

structure GraderBundleV1 where
  schema : String
  graderBundleId : String
  revision : Nat
  signals : List GraderSignal
  hardGates : List String
  negativeControls : List NegativeControl
  rewardIntegrityRequired : Bool
  candidateWriteAccess : Bool
  holdoutAnswerAccess : Bool
  sha256 : String

/-! ## Samples -/

structure EvalSampleV1 where
  schema : String
  sampleId : String
  caseId : String
  caseRevision : Nat
  caseDigest : String
  tasksetDigest : String
  graderBundleDigest : String
  policyDigest : String
  baseSha : String
  fixtureDigest : String
  setupDigest : String
  runtimeDigest : String
  isolation : IsolationCapability
  commandDigest : String
  classification : SampleClassification
  traceDigest : Option String
  evidenceDigest : Option String
  artifactDigest : Option String
  costReceiptDigest : Option String
  seed : Nat
  sha256 : String
deriving DecidableEq

/-- What `serde_json` and the digests compute: the records in a payload, `canonical_digest_without_self` of a record read
from a payload, and that of a sample. -/
structure EvalWire extends Improvement.Wire where
  taskset : Value → Option TasksetV1
  evalCase : Value → Option EvalCaseV1
  graderBundle : Value → Option GraderBundleV1
  selfDigest : Value → String
  sampleDigest : EvalSampleV1 → String

/-! ## Verification -/

/-- `DigestError::DigestMismatch`, as the store reports it. -/
def verified (b : Bool) : Except StoreError Unit := ensure b (.validation "self digest mismatch")

def verifyTasksetV1 (t : TasksetV1) (digest : String) : Except StoreError Unit :=
  verified (t.schema == "harness.taskset.v1" && token t.tasksetId && decide (0 < t.revision) && !t.cases.isEmpty &&
    t.cases.all (fun c => token c.caseId && decide (0 < c.revision) && hash c.caseDigest) && digest == t.sha256)

def verifyCaseV1 (c : EvalCaseV1) (digest : String) : Except StoreError Unit :=
  verified (c.schema == "harness.eval-case.v1" && token c.caseId && decide (0 < c.revision) && c.title != "" &&
    token c.taskFamily && c.objective != "" && token c.graderBundleId && decide (0 < c.graderBundleRevision) &&
    hash c.graderBundleDigest && c.sourceLocator != "" && hash c.sourceDigest &&
    controllerIdentifier c.runtime.repositoryId && c.runtime.repositoryFixture != "" && sha40 c.runtime.baseSha &&
    hash c.runtime.setupDigest && c.runtime.resourceClass != "" && decide (0 < c.runtime.timeoutSeconds) &&
    decide (0 < c.runtime.tokenBudget) && c.custody.graderIsolated && c.custody.ownedPaths.all (· != "") &&
    c.custody.forbiddenPaths.all (· != "") &&
    c.runtime.seeds.all (fun seeds => !seeds.isEmpty && decide seeds.Nodup) && !c.acceptance.isEmpty &&
    c.acceptance.all (fun a => token a.claimId && a.spec.all isObject) && digest == c.sha256)

def verifyGraderContract (g : GraderBundleV1) (digest : String) : Except StoreError Unit :=
  verified (g.schema == "harness.grader-bundle.v1" && token g.graderBundleId && decide (0 < g.revision) &&
    !g.signals.isEmpty && !g.hardGates.isEmpty && !g.negativeControls.isEmpty &&
    g.signals.all (fun s => token s.id && hash s.definitionDigest && s.calibrationSetDigest.all hash &&
      s.weight.any (fun q => decide (0 ≤ q))) &&
    decide (g.signals.map GraderSignal.id).Nodup && g.hardGates.all (fun id => g.signals.any (·.id == id)) &&
    decide g.hardGates.Nodup &&
    g.hardGates.any (fun id => g.signals.any (fun s =>
      s.id == id && s.required && (decide (s.kind = .deterministic) || decide (s.kind = .stateEffect)))) &&
    g.negativeControls.all (fun c =>
      token c.id && g.signals.any (·.id == c.signalId) && c.expectedRelationship != "") &&
    g.rewardIntegrityRequired && !g.candidateWriteAccess && !g.holdoutAnswerAccess && digest == g.sha256)

def runnerIsolation : IsolationCapability → Option SampleClassification
  | .available                 => none
  | .infrastructureUnavailable => some .infrastructureUnavailable

def verifySample (w : EvalWire) (s : EvalSampleV1) : Except StoreError Unit :=
  verified (s.schema == "harness.eval-sample.v1" && token s.sampleId && token s.caseId && decide (0 < s.caseRevision) &&
    [s.caseDigest, s.tasksetDigest, s.graderBundleDigest, s.policyDigest, s.fixtureDigest, s.setupDigest, s.runtimeDigest,
      s.commandDigest].all hash && sha40 s.baseSha &&
    [s.traceDigest, s.evidenceDigest, s.artifactDigest, s.costReceiptDigest].all (·.all hash) &&
    (runnerIsolation s.isolation).all (fun c => decide (c = s.classification)) && w.sampleDigest s == s.sha256)

end Eval
end Bildr
