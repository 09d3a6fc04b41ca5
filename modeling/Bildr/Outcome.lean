import Bildr.Json
import Bildr.Store
/-!
# Outcome — improvement records and outcome payloads

The enumerations of the improvement ledger, the lifecycle states each kind of record may take, and the outcome payload
with its closed label space and its validation.
-/
namespace Bildr
namespace Improvement

inductive ImprovementRecordKind
  | trace | outcome | failure | taskset | evalCase | graderBundle | policyBundle | candidate | avoEpisode | experiment
  | promotion | rollback | knowledge
deriving DecidableEq, Repr

inductive ImprovementSchema
  | traceV1 | traceV2 | outcomeV1 | tasksetV1 | evalCaseV1 | graderBundleV1 | policyBundleV1 | improvementCandidateV1
  | avoEpisodeV1 | experimentV1 | knowledgeItemV1 | promotionDecisionV1 | rollbackV1
deriving DecidableEq, Repr

def ImprovementSchema.asStr : ImprovementSchema → String
  | .traceV1                => "harness.trace.v1"
  | .traceV2                => "harness.trace.v2"
  | .outcomeV1              => "harness.outcome.v1"
  | .tasksetV1              => "harness.taskset.v1"
  | .evalCaseV1             => "harness.eval-case.v1"
  | .graderBundleV1         => "harness.grader-bundle.v1"
  | .policyBundleV1         => "harness.policy-bundle.v1"
  | .improvementCandidateV1 => "harness.improvement-candidate.v1"
  | .avoEpisodeV1           => "harness.avo-episode.v1"
  | .experimentV1           => "harness.experiment.v1"
  | .knowledgeItemV1        => "harness.knowledge-item.v1"
  | .promotionDecisionV1    => "harness.promotion-decision.v1"
  | .rollbackV1             => "harness.rollback.v1"

def ImprovementSchema.kind : ImprovementSchema → ImprovementRecordKind
  | .traceV1                => .trace
  | .traceV2                => .trace
  | .outcomeV1              => .outcome
  | .tasksetV1              => .taskset
  | .evalCaseV1             => .evalCase
  | .graderBundleV1         => .graderBundle
  | .policyBundleV1         => .policyBundle
  | .improvementCandidateV1 => .candidate
  | .avoEpisodeV1           => .avoEpisode
  | .experimentV1           => .experiment
  | .knowledgeItemV1        => .knowledge
  | .promotionDecisionV1    => .promotion
  | .rollbackV1             => .rollback

inductive SensitivityClass
  | «public» | internal | confidential | restricted
deriving DecidableEq, Repr

def sensitivityRank : SensitivityClass → Nat
  | .public       => 0
  | .internal     => 1
  | .confidential => 2
  | .restricted   => 3

inductive RetentionClass
  | ephemeral | operational | evaluation | governance | legalHold
deriving DecidableEq, Repr

def retentionRank : RetentionClass → Nat
  | .ephemeral   => 0
  | .operational => 1
  | .evaluation  => 2
  | .governance  => 3
  | .legalHold   => 4

inductive ImprovementState
  | captured | observed | proposed | validated | rejected | experimentReady | superseded | active | quarantined
  | retired | revoked | running | passed | failed | inconclusive | promoted | rolledBack | requested | completed
  | candidate | expired | contradicted | decided
deriving DecidableEq, Repr

def ImprovementState.allowedFor (s : ImprovementState) : ImprovementRecordKind → Bool
  | .trace => [.captured].contains s
  | .outcome | .failure => [.observed, .superseded].contains s
  | .taskset | .evalCase | .graderBundle =>
    [.proposed, .active, .quarantined, .retired, .superseded, .revoked].contains s
  | .policyBundle => [.proposed, .quarantined, .retired, .superseded, .revoked].contains s
  | .candidate => [.proposed, .validated, .rejected, .experimentReady, .superseded].contains s
  | .avoEpisode => [.proposed, .running, .passed, .failed, .inconclusive].contains s
  | .experiment =>
    [.proposed, .validated, .running, .passed, .failed, .inconclusive, .promoted, .rolledBack, .retired].contains s
  | .promotion => [.decided].contains s
  | .rollback => [.requested, .completed].contains s
  | .knowledge => [.candidate, .active, .expired, .contradicted, .superseded, .rejected].contains s

def commonMoves : ImprovementState → List ImprovementState
  | .proposed        => [.validated, .rejected, .experimentReady, .superseded]
  | .validated       => [.experimentReady, .rejected, .superseded]
  | .experimentReady => [.running, .superseded]
  | .running         => [.passed, .failed, .inconclusive, .promoted, .rolledBack]
  | .candidate       => [.active, .rejected, .expired, .contradicted, .superseded]
  | .active          => [.quarantined, .retired, .revoked, .expired, .contradicted, .superseded]
  | .observed        => [.superseded]
  | _                => []

def improvementTransitionAllowed (kind : ImprovementRecordKind) (source target : ImprovementState) : Bool :=
  source.allowedFor kind && target.allowedFor kind &&
    (([.taskset, .evalCase, .graderBundle, .policyBundle].contains kind && source == .proposed && target == .active) ||
      ([.experiment, .avoEpisode].contains kind && source == .validated && target == .running) ||
      (kind == .avoEpisode && source == .proposed && target == .running) ||
      (kind == .rollback && source == .requested && target == .completed) ||
      source == target || (commonMoves source).contains target)

/-! ## Outcome payloads -/

inductive OutcomeDimension
  | operatorAcceptance | operatorCorrection | validation | evidence | verifierFindings | completionState | resourceUse
  | ciRequiredChecks | reviewRegression | prReopened | rollback | downstreamRegression
deriving DecidableEq, Repr

def OutcomeDimension.json : OutcomeDimension → String
  | .operatorAcceptance   => "\"operator_acceptance\""
  | .operatorCorrection   => "\"operator_correction\""
  | .validation           => "\"validation\""
  | .evidence             => "\"evidence\""
  | .verifierFindings     => "\"verifier_findings\""
  | .completionState      => "\"completion_state\""
  | .resourceUse          => "\"resource_use\""
  | .ciRequiredChecks     => "\"ci_required_checks\""
  | .reviewRegression     => "\"review_regression\""
  | .prReopened           => "\"pr_reopened\""
  | .rollback             => "\"rollback\""
  | .downstreamRegression => "\"downstream_regression\""

inductive OutcomeClassification
  | positive | negative | neutral | unknown
deriving DecidableEq, Repr

/-- The names `{:?}` prints. -/
def OutcomeDimension.debug : OutcomeDimension → String
  | .operatorAcceptance   => "OperatorAcceptance"
  | .operatorCorrection   => "OperatorCorrection"
  | .validation           => "Validation"
  | .evidence             => "Evidence"
  | .verifierFindings     => "VerifierFindings"
  | .completionState      => "CompletionState"
  | .resourceUse          => "ResourceUse"
  | .ciRequiredChecks     => "CiRequiredChecks"
  | .reviewRegression     => "ReviewRegression"
  | .prReopened           => "PrReopened"
  | .rollback             => "Rollback"
  | .downstreamRegression => "DownstreamRegression"

def OutcomeClassification.debug : OutcomeClassification → String
  | .positive => "Positive"
  | .negative => "Negative"
  | .neutral  => "Neutral"
  | .unknown  => "Unknown"

inductive OutcomeConfidence
  | authoritative | operatorAsserted
deriving DecidableEq, Repr

inductive OutcomeSubjectKind
  | run | taskAttempt | publication
deriving DecidableEq, Repr

def OutcomeSubjectKind.json : OutcomeSubjectKind → String
  | .run         => "\"run\""
  | .taskAttempt => "\"task_attempt\""
  | .publication => "\"publication\""

inductive OutcomeSourceKind
  | humanAction | validation | evidence | finding | publication | domainEvent
deriving DecidableEq, Repr

structure OutcomeSubject where
  kind : OutcomeSubjectKind
  id : String
deriving DecidableEq, Repr

structure OutcomeSource where
  kind : OutcomeSourceKind
  recordId : String
  recordSha256 : String
  sourceSha : Option String
  sourceDomainEventId : Option Int
deriving DecidableEq, Repr

structure OutcomeWireV1 where
  schema : String
  outcomeId : String
  runId : String
  subject : OutcomeSubject
  dimension : OutcomeDimension
  classification : OutcomeClassification
  code : String
  observedAt : Int
  confidence : OutcomeConfidence
  source : OutcomeSource
  supersedes : List String
  reasonCode : Option String
  correctionArtifactId : Option String
  redactorVersion : String
  freeTextRedacted : Bool
deriving DecidableEq, Repr

/-- A token of at most `maximum` characters, each of them one byte. -/
def token (extra : List Char) (maximum : Nat) (value : String) : Bool :=
  value != "" && decide (value.toList.length ≤ maximum) && value.toList.all (fun c => c.isAlphanum || extra.contains c)

def isSafeOutcomeIdentifier (value : String) (maximum : Nat) : Bool := token ['_', '-', '.'] maximum value

def isSafeOperatorControlIdentifier (value : String) : Bool := token ['_', '-', '.', ':'] 160 value

def safeEvalId (value : String) (maximum : Nat) : Except StoreError Unit :=
  ensure (token ['_', '-', '.', ':'] maximum value) (.validation "invalid bounded evaluation identifier")

def isSafeOutcomeReasonCode (value : String) : Bool :=
  value != "" && decide (value.toList.length ≤ 80) &&
    value.toList.all (fun c => c.isLower || c.isDigit || c == '_')

def isLowerHex (value : String) (length : Nat) : Bool :=
  decide (value.toList.length = length) &&
    value.toList.all (fun c => c.isDigit || (decide ('a' ≤ c) && decide (c ≤ 'f')))

def outcomeCodes : OutcomeDimension → OutcomeClassification → List String
  | .operatorAcceptance, .positive => ["accepted_without_correction", "accepted_after_correction"]
  | .operatorAcceptance, .negative => ["changes_requested", "abandoned_wrong", "abandoned_cost"]
  | .operatorCorrection, .neutral => ["correction_recorded"]
  | .operatorCorrection, .unknown => ["correction_not_available"]
  | .reviewRegression, .negative => ["review_regression"]
  | .reviewRegression, .positive => ["review_no_regression"]
  | .prReopened, .negative => ["reopened"]
  | .prReopened, .positive => ["not_reopened"]
  | .rollback, .negative => ["rollback_recorded"]
  | .rollback, .neutral => ["no_rollback"]
  | .downstreamRegression, .negative => ["downstream_regression"]
  | .downstreamRegression, .positive => ["no_downstream_regression"]
  | .validation, .positive => ["passed"]
  | .validation, .negative => ["failed"]
  | .validation, .unknown => ["unavailable"]
  | .evidence, .positive => ["proved"]
  | .evidence, .negative => ["unproved"]
  | .evidence, .unknown => ["unavailable"]
  | .verifierFindings, .positive => ["none"]
  | .verifierFindings, .negative => ["blocking", "nonblocking"]
  | .verifierFindings, .unknown => ["unavailable"]
  | .completionState, .neutral => ["completed", "blocked", "stopped"]
  | .completionState, .unknown => ["unknown"]
  | .resourceUse, .neutral => ["within_budget"]
  | .resourceUse, .negative => ["budget_exceeded"]
  | .resourceUse, .unknown => ["unavailable"]
  | .ciRequiredChecks, .positive => ["passed"]
  | .ciRequiredChecks, .negative => ["failed", "head_mismatch"]
  | .ciRequiredChecks, .unknown => ["unavailable"]
  | _, _ => []

def validateOutcomeLabel (d : OutcomeDimension) (c : OutcomeClassification) (code : String) : Except String Unit :=
  ensure ((outcomeCodes d c).contains code)
    ("invalid " ++ c.debug ++ " code \"" ++ code ++ "\" for " ++ d.debug)

def operatorDimension (d : OutcomeDimension) : Bool :=
  [.operatorAcceptance, .operatorCorrection, .reviewRegression, .prReopened, .rollback, .downstreamRegression].contains d

def validateOperatorOutcomeLabel (d : OutcomeDimension) (c : OutcomeClassification) (code : String) :
    Except String Unit := do
  ensure (operatorDimension d) (d.debug ++ " is not an operator-entered outcome dimension")
  validateOutcomeLabel d c code

def sourceAllowed : OutcomeDimension → OutcomeConfidence → OutcomeSourceKind → Bool
  | .validation, .authoritative, .validation => true
  | .evidence, .authoritative, .evidence => true
  | .verifierFindings, .authoritative, .finding => true
  | .verifierFindings, .authoritative, .domainEvent => true
  | .completionState, .authoritative, .domainEvent => true
  | .resourceUse, .authoritative, .domainEvent => true
  | .ciRequiredChecks, .authoritative, .validation => true
  | .ciRequiredChecks, .authoritative, .evidence => true
  | d, .operatorAsserted, .humanAction => operatorDimension d
  | _, _, _ => false

def validField (b : Bool) (field : String) : Except String Unit := ensure b ("invalid outcome wire field: " ++ field)

def OutcomeWireV1.validate (o : OutcomeWireV1) : Except String Unit := do
  validField (o.schema == "harness.outcome.v1") "schema"
  validField (isSafeOutcomeIdentifier o.outcomeId 128) "outcome_id"
  validField (isSafeOperatorControlIdentifier o.runId) "run_id"
  validField (isSafeOperatorControlIdentifier o.subject.id) "subject.id"
  validateOutcomeLabel o.dimension o.classification o.code
  validField (sourceAllowed o.dimension o.confidence o.source.kind) "dimension/confidence/source"
  validField (decide (0 ≤ o.observedAt)) "observed_at"
  validField (isSafeOutcomeIdentifier o.source.recordId 128 && isLowerHex o.source.recordSha256 64 &&
    o.source.sourceSha.all (fun v => isLowerHex v 40) && o.source.sourceDomainEventId.all (fun v => decide (0 < v)))
    "source"
  validField (o.supersedes.all (fun v => isSafeOutcomeIdentifier v 128) && o.reasonCode.all isSafeOutcomeReasonCode &&
    o.correctionArtifactId.all (fun v => isSafeOutcomeIdentifier v 128) && isSafeOutcomeIdentifier o.redactorVersion 128)
    "bounded identifiers"

end Improvement
end Bildr
