import Bildr.Attention
import Bildr.PlanContract
/-!
# Investigations — artifacts of read-only investigations

An artifact is stored once and never changed.  It cites the one context the controller admitted and nothing else, and
every conclusion in it cites that context.
-/
namespace Bildr
namespace Control

open Json (Value)

inductive InvestigationFindingClassification
  | confirmed | supported | hypothesis | disproven | inconclusive
deriving DecidableEq, Repr

def InvestigationFindingClassification.name : InvestigationFindingClassification → String
  | .confirmed    => "confirmed"
  | .supported    => "supported"
  | .hypothesis   => "hypothesis"
  | .disproven    => "disproven"
  | .inconclusive => "inconclusive"

inductive InvestigationSensitivity
  | public_ | internal | restricted
deriving DecidableEq, Repr

def InvestigationSensitivity.name : InvestigationSensitivity → String
  | .public_    => "public"
  | .internal   => "internal"
  | .restricted => "restricted"

def validateBoundedIdentifiers (values : List String) (field : String) (maximumItems : Nat) : Except StoreError Unit := do
  ensure (decide (values.length ≤ maximumItems)) (invalidField field "exceeds the bounded item limit")
  values.forM (fun v => validateIdentifier v field)

/-! ## Conclusions -/

structure InvestigationFinding where
  findingId : String
  classification : InvestigationFindingClassification
  summary : String
  confidenceMilli : Nat
  evidenceRefs : List String
  affectedRefs : List String
  risk : AttentionSeverity
  limitations : List String
deriving DecidableEq

def InvestigationFinding.json (f : InvestigationFinding) : Value :=
  .obj [("finding_id", .str f.findingId), ("classification", .str f.classification.name), ("summary", .str f.summary),
    ("confidence_milli", ofNat f.confidenceMilli), ("evidence_refs", ofTexts f.evidenceRefs),
    ("affected_refs", ofTexts f.affectedRefs), ("risk", .str f.risk.name), ("limitations", ofTexts f.limitations)]

def InvestigationFinding.validate (f : InvestigationFinding) : Except StoreError Unit := do
  validateIdentifier f.findingId "investigation finding id"
  validateText f.summary "investigation finding summary" 4000
  ensure (decide (f.confidenceMilli ≤ 1000)) (invalidField "investigation finding confidence" "must be in 0..=1000")
  validateBoundedTexts f.evidenceRefs "investigation finding evidence refs" 1000 160
  validateBoundedIdentifiers f.affectedRefs "investigation finding affected refs" 1000
  validateBoundedTexts f.limitations "investigation finding limitations" 1000 4000

structure InvestigationRecommendation where
  recommendationId : String
  summary : String
  requiredAuthority : String
  evidenceRefs : List String
  alternatives : List String
  risk : AttentionSeverity
  nextVerification : String
deriving DecidableEq

def InvestigationRecommendation.json (r : InvestigationRecommendation) : Value :=
  .obj [("recommendation_id", .str r.recommendationId), ("summary", .str r.summary),
    ("required_authority", .str r.requiredAuthority), ("evidence_refs", ofTexts r.evidenceRefs),
    ("alternatives", ofTexts r.alternatives), ("risk", .str r.risk.name), ("next_verification", .str r.nextVerification)]

def InvestigationRecommendation.validate (r : InvestigationRecommendation) : Except StoreError Unit := do
  validateIdentifier r.recommendationId "investigation recommendation id"
  validateText r.summary "investigation recommendation summary" 4000
  validateIdentifier r.requiredAuthority "investigation recommendation required authority"
  validateBoundedTexts r.evidenceRefs "investigation recommendation evidence refs" 1000 160
  validateBoundedTexts r.alternatives "investigation recommendation alternatives" 1000 4000
  validateText r.nextVerification "investigation recommendation next verification" 4000

structure DecisionInventoryItem where
  decisionId : String
  question : String
  state : String
  options : List String
  evidenceRefs : List String
  impact : String
  recommendedOption : Option String
  requiredActor : String
  blockingRefs : List String
  independentWorkCanContinue : Bool
deriving DecidableEq

def DecisionInventoryItem.json (d : DecisionInventoryItem) : Value :=
  .obj [("decision_id", .str d.decisionId), ("question", .str d.question), ("state", .str d.state),
    ("options", ofTexts d.options), ("evidence_refs", ofTexts d.evidenceRefs), ("impact", .str d.impact),
    ("recommended_option", ofOption .str d.recommendedOption), ("required_actor", .str d.requiredActor),
    ("blocking_refs", ofTexts d.blockingRefs), ("independent_work_can_continue", .bool d.independentWorkCanContinue)]

def DecisionInventoryItem.validate (d : DecisionInventoryItem) : Except StoreError Unit := do
  validateIdentifier d.decisionId "investigation decision id"
  validateText d.question "investigation decision question" 4000
  validateIdentifier d.state "investigation decision state"
  validateBoundedTexts d.options "investigation decision options" 1000 4000
  validateBoundedTexts d.evidenceRefs "investigation decision evidence refs" 1000 160
  validateText d.impact "investigation decision impact" 4000
  d.recommendedOption.toList.forM (fun v => validateText v "investigation decision recommended option" 4000)
  validateIdentifier d.requiredActor "investigation decision required actor"
  validateBoundedIdentifiers d.blockingRefs "investigation decision blocking refs" 1000

/-! ## Artifacts -/

structure InvestigationArtifact where
  schema : String
  artifactId : String
  runId : String
  taskId : String
  attemptId : String
  question : String
  scope : Plan.InvestigationScope
  baseSha : String
  repositoryStateDigest : String
  methods : List String
  sources : List String
  findings : List InvestigationFinding
  recommendations : List InvestigationRecommendation
  decisionInventory : List DecisionInventoryItem
  limitations : List String
  rejectedHypotheses : List String
  sensitivity : InvestigationSensitivity
  artifactRefs : List String
  createdAtMs : Int
  sha256 : String
deriving DecidableEq

def scopeJson (s : Plan.InvestigationScope) : Value :=
  .obj [("owned_read_paths", ofTexts s.ownedReadPaths), ("forbidden_paths", ofTexts s.forbiddenPaths),
    ("time_budget_ms", ofNat s.timeBudgetMs), ("token_budget", ofNat s.tokenBudget)]

def InvestigationArtifact.json (a : InvestigationArtifact) : Value :=
  .obj [("schema", .str a.schema), ("artifact_id", .str a.artifactId), ("run_id", .str a.runId), ("task_id", .str a.taskId),
    ("attempt_id", .str a.attemptId), ("question", .str a.question), ("scope", scopeJson a.scope),
    ("base_sha", .str a.baseSha), ("repository_state_digest", .str a.repositoryStateDigest),
    ("methods", ofTexts a.methods), ("sources", ofTexts a.sources),
    ("findings", .arr (a.findings.map InvestigationFinding.json)),
    ("recommendations", .arr (a.recommendations.map InvestigationRecommendation.json)),
    ("decision_inventory", .arr (a.decisionInventory.map DecisionInventoryItem.json)),
    ("limitations", ofTexts a.limitations), ("rejected_hypotheses", ofTexts a.rejectedHypotheses),
    ("sensitivity", .str a.sensitivity.name), ("artifact_refs", ofTexts a.artifactRefs),
    ("created_at_ms", ofInt a.createdAtMs), ("sha256", .str a.sha256)]

def InvestigationArtifact.digest (w : Wire) (a : InvestigationArtifact) : Digest := w.digestJson { a with sha256 := "" }.json

def InvestigationArtifact.context (a : InvestigationArtifact) : String := "context:" ++ a.repositoryStateDigest

def InvestigationArtifact.citations (a : InvestigationArtifact) : List (List String) :=
  a.findings.map InvestigationFinding.evidenceRefs ++ a.recommendations.map InvestigationRecommendation.evidenceRefs ++
    a.decisionInventory.map DecisionInventoryItem.evidenceRefs

def InvestigationArtifact.validateHead (a : InvestigationArtifact) : Except StoreError Unit := do
  ensure (a.schema == "harness.investigation-artifact.v1")
    (invalidField "investigation artifact schema" "must be harness.investigation-artifact.v1")
  validateIdentifier a.artifactId "investigation artifact id"
  validateIdentifier a.runId "investigation run id"
  validateIdentifier a.taskId "investigation task id"
  validateIdentifier a.attemptId "investigation attempt id"
  validateText a.question "investigation question" 4000
  a.scope.validate.mapError (fun e => .validation e.text)
  validateLowerHex a.baseSha "investigation base SHA" 40
  validateLowerHex a.repositoryStateDigest "investigation repository state digest" 64
  ensure (decide (0 ≤ a.createdAtMs))
    (invalidField "investigation creation time" "must be a UTC epoch millisecond timestamp")

def InvestigationArtifact.validateLists (a : InvestigationArtifact) : Except StoreError Unit := do
  validateBoundedTexts a.methods "investigation methods" 1000 4000
  validateBoundedTexts a.sources "investigation sources" 1000 160
  ensure (decide (a.findings.length ≤ 200) && decide (a.recommendations.length ≤ 100) &&
      decide (a.decisionInventory.length ≤ 100))
    (invalidField "investigation artifact collections" "exceeds the contract bounds")
  a.findings.forM InvestigationFinding.validate
  a.recommendations.forM InvestigationRecommendation.validate
  a.decisionInventory.forM DecisionInventoryItem.validate
  validateBoundedTexts a.limitations "investigation limitations" 1000 4000
  validateBoundedTexts a.rejectedHypotheses "investigation rejected hypotheses" 1000 4000
  validateBoundedTexts a.artifactRefs "investigation artifact refs" 1000 160

def InvestigationArtifact.validateCustody (a : InvestigationArtifact) : Except StoreError Unit := do
  ensure (a.sources == [a.context] && a.artifactRefs.isEmpty) (invalidField "investigation artifact evidence custody"
    "must cite only its controller-admitted immutable context and no external artifacts")
  ensure (!(a.findings.isEmpty && a.recommendations.isEmpty && a.decisionInventory.isEmpty))
    (invalidField "investigation artifact conclusions"
      "must contain at least one evidence-backed finding, recommendation, or decision")
  ensure (a.citations.all (fun refs => !refs.isEmpty && refs.all (fun r => r == a.context)))
    (invalidField "investigation artifact conclusion evidence refs"
      "each conclusion must cite only its controller-admitted immutable context evidence")

def InvestigationArtifact.validate (w : Wire) (a : InvestigationArtifact) : Except StoreError Unit := do
  a.validateHead
  a.validateLists
  a.validateCustody
  ensure (decide (w.byteLength a.json ≤ 2097152))
    (invalidField "investigation artifact payload" "exceeds the 2 MiB contract bound")
  validateLowerHex a.sha256 "investigation artifact sha256" 64
  ensure ((a.digest w).hex == a.sha256)
    (invalidField "investigation artifact sha256" "does not match the canonical artifact payload")

/-- `InvestigationArtifactSummary`, as it is serialized. -/
def InvestigationArtifact.summary (a : InvestigationArtifact) : Value :=
  .obj [("schema", .str "harness.investigation-artifact-summary.v1"), ("artifact_id", .str a.artifactId),
    ("run_id", .str a.runId), ("task_id", .str a.taskId), ("attempt_id", .str a.attemptId), ("question", .str a.question),
    ("sensitivity", .str a.sensitivity.name), ("base_sha", .str a.baseSha), ("finding_count", ofNat a.findings.length),
    ("recommendation_count", ofNat a.recommendations.length), ("decision_count", ofNat a.decisionInventory.length),
    ("created_at_ms", ofInt a.createdAtMs), ("artifact_sha256", .str a.sha256)]

/-! ## Recording -/

structure InvestigationTables where
  artifacts : Table InvestigationArtifact.artifactId
  links : Links

def checkedArtifact (w : Wire) (a : InvestigationArtifact) : Except StoreError InvestigationArtifact := do
  ensure (a.validate w).isOk (.sqlite .fromSqlConversionFailure)
  return a

def investigationArtifactCorrelationLink (w : Wire) (a : InvestigationArtifact) : Except StoreError CorrelationLink :=
  derivedLink w ("harness.investigation-artifact.trace.v1:" ++ a.attemptId)
    ("harness.investigation-artifact.span.v1:" ++ a.artifactId)
    ("harness.investigation-artifact.link.v1:" ++ a.attemptId ++ ":" ++ a.artifactId)
    "task_attempt" a.attemptId "investigation_artifact" a.artifactId "has_investigation_artifact" a.createdAtMs

def artifactBody (w : Wire) (a : InvestigationArtifact) (t : InvestigationTables) :
    Except StoreError (InvestigationArtifact × InvestigationTables) := do
  a.validate w
  let link ← investigationArtifactCorrelationLink w a
  match t.artifacts.get a.artifactId with
  | some row => do
    let existing ← checkedArtifact w row
    ensure (existing == a) (.conflict ("investigation artifact " ++ a.artifactId ++
      " already exists with different immutable content"))
    requireCorrelationLinkInTransaction t.links link
    return (existing, t)
  | none => do
    let artifacts ← insertRow t.artifacts a
    let links ← recordCorrelationLinkInTransaction t.links link
    return (a, ⟨artifacts, links⟩)

def recordInvestigationArtifact (w : Wire) (a : InvestigationArtifact) : Call InvestigationTables InvestigationArtifact :=
  transaction (artifactBody w a)

end Control
end Bildr
