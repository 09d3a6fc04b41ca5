import Bildr.Contracts
/-!
# Avo — a bounded episode of variations

`harness.avo-episode.v1` records a champion and the variations that were tried on it, one after the other.  A variation
names the incumbent as its parent; one that passed correctness has a score and improves the incumbent if it is better.
Verifying an episode and summarizing its trajectory are two loops over the same variations.
-/
namespace Bildr
namespace Promotion

open Json (Value)

/-! ## The record -/

inductive TaskFamily
  | developmentEval | shadowReplay | canaryTraffic
deriving DecidableEq, Repr

inductive VariationStrategy
  | refine | repair | reframe | retrieval
deriving DecidableEq, Repr

inductive CorrectnessResult
  | passed | failed | inconclusive | infrastructureUnavailable
deriving DecidableEq, Repr

inductive VariationOutcome
  | improved | notImproved | rejected | inconclusive
deriving DecidableEq, Repr

inductive AvoDirective
  | continue | requestAdvisoryRedirect | stopBudget
deriving DecidableEq, Repr

structure AvoVariationV1 where
  sequence : UInt16
  variationId : String
  parentCandidateId : Option String
  strategy : VariationStrategy
  parentScoreMilli : UInt64
  candidateId : String
  candidateReceipt : Receipt
  correctness : CorrectnessResult
  correctnessEvidence : Receipt
  candidateScoreMilli : Option UInt64
  outcome : VariationOutcome
deriving DecidableEq, Repr

structure AvoEpisodeV1 where
  schema : String
  episodeId : String
  taskFamily : TaskFamily
  championBundleId : String
  championBundleReceipt : Receipt
  knowledgeSnapshotDigest : String
  hardGatePolicyDigest : String
  initialScoreMilli : UInt64
  variationBudget : UInt16
  stagnationLimit : UInt16
  variations : List AvoVariationV1
  sha256 : String
deriving DecidableEq, Repr

structure AvoTrajectory where
  incumbentScoreMilli : UInt64
  incumbentCandidateId : Option String
  completedVariations : UInt16
  stagnantVariations : UInt16
  directive : AvoDirective
deriving DecidableEq, Repr

/-! ## Its JSON -/

def TaskFamily.name : TaskFamily → String
  | .developmentEval => "development_eval"
  | .shadowReplay    => "shadow_replay"
  | .canaryTraffic   => "canary_traffic"

def VariationStrategy.name : VariationStrategy → String
  | .refine    => "refine"
  | .repair    => "repair"
  | .reframe   => "reframe"
  | .retrieval => "retrieval"

def CorrectnessResult.name : CorrectnessResult → String
  | .passed                    => "passed"
  | .failed                    => "failed"
  | .inconclusive              => "inconclusive"
  | .infrastructureUnavailable => "infrastructure_unavailable"

def VariationOutcome.name : VariationOutcome → String
  | .improved     => "improved"
  | .notImproved  => "not_improved"
  | .rejected     => "rejected"
  | .inconclusive => "inconclusive"

def ofShort (n : UInt16) : Value := .num (.pos n.toNat)

def AvoVariationV1.json (v : AvoVariationV1) : Value := .obj [
  ("sequence", ofShort v.sequence),
  ("variation_id", .str v.variationId),
  ("parent_candidate_id", (v.parentCandidateId.map Value.str).getD .null),
  ("strategy", .str v.strategy.name),
  ("parent_score_milli", ofWord v.parentScoreMilli),
  ("candidate_id", .str v.candidateId),
  ("candidate_receipt", v.candidateReceipt.json),
  ("correctness", .str v.correctness.name),
  ("correctness_evidence", v.correctnessEvidence.json),
  ("candidate_score_milli", (v.candidateScoreMilli.map ofWord).getD .null),
  ("outcome", .str v.outcome.name)]

def AvoEpisodeV1.fields (e : AvoEpisodeV1) : List (String × Value) := [
  ("schema", .str e.schema),
  ("episode_id", .str e.episodeId),
  ("task_family", .str e.taskFamily.name),
  ("champion_bundle_id", .str e.championBundleId),
  ("champion_bundle_receipt", e.championBundleReceipt.json),
  ("knowledge_snapshot_digest", .str e.knowledgeSnapshotDigest),
  ("hard_gate_policy_digest", .str e.hardGatePolicyDigest),
  ("initial_score_milli", ofWord e.initialScoreMilli),
  ("variation_budget", ofShort e.variationBudget),
  ("stagnation_limit", ofShort e.stagnationLimit),
  ("variations", .arr (e.variations.map AvoVariationV1.json)),
  ("sha256", .str e.sha256)]

def AvoEpisodeV1.signed (digestJson : Value → String) (e : AvoEpisodeV1) : AvoEpisodeV1 :=
  { e with sha256 := digestWithoutSelf digestJson e.fields }

/-! ## Verifying an episode -/

def maxVariationsPerEpisode : UInt16 := 64

def validOutcome (v : AvoVariationV1) : Bool :=
  match v.correctness with
  | .passed =>
    v.candidateScoreMilli.any (fun score =>
      match v.outcome with
      | .improved     => decide (v.parentScoreMilli < score)
      | .notImproved  => decide (score ≤ v.parentScoreMilli)
      | .rejected     => false
      | .inconclusive => false)
  | .failed                    => v.candidateScoreMilli.isNone && v.outcome == .rejected
  | .inconclusive              => v.candidateScoreMilli.isNone && v.outcome == .inconclusive
  | .infrastructureUnavailable => v.candidateScoreMilli.isNone && v.outcome == .inconclusive

def verifyVariation (v : AvoVariationV1) (expectedParentScore : UInt64) : Except ContractError Unit := do
  ensure (isId v.variationId && isId v.candidateId && v.parentCandidateId.all isId &&
    v.parentScoreMilli == expectedParentScore && v.candidateReceipt.validAs .candidate &&
    v.candidateReceipt.id == v.candidateId && v.correctnessEvidence.validAs .hardGate) .invalid
  ensure (validOutcome v) .hardGate

/-- What the loop over the variations carries; the ids that were seen are sets. -/
structure Lineage where
  score : UInt64
  incumbent : Option String
  seenCandidates : List String
  seenVariations : List String

def sequenceAt (index : Nat) : Except ContractError UInt16 :=
  if index + 1 < 65536 then .ok (UInt16.ofNat (index + 1)) else .error .budget

def acceptVariation (l : Lineage) (indexed : AvoVariationV1 × Nat) : Except ContractError Lineage := do
  let v := indexed.1
  let sequence ← sequenceAt indexed.2
  ensure (v.sequence == sequence && !l.seenVariations.contains v.variationId &&
    !l.seenCandidates.contains v.candidateId && v.parentCandidateId == l.incumbent) .stageOrder
  verifyVariation v l.score
  let seenCandidates := v.candidateId :: l.seenCandidates
  let seenVariations := v.variationId :: l.seenVariations
  if v.outcome = .improved then do
    let score ← okOr v.candidateScoreMilli .hardGate
    return ⟨score, some v.candidateId, seenCandidates, seenVariations⟩
  else return ⟨l.score, l.incumbent, seenCandidates, seenVariations⟩

def verifyHeader (digestJson : Value → String) (e : AvoEpisodeV1) : Bool :=
  e.schema == "harness.avo-episode.v1" && isId e.episodeId && isId e.championBundleId &&
    e.championBundleReceipt.validAs .championBundle && e.championBundleReceipt.id == e.championBundleId &&
    isDigest e.knowledgeSnapshotDigest && isDigest e.hardGatePolicyDigest && e.variationBudget != 0 &&
    decide (e.variationBudget ≤ maxVariationsPerEpisode) && e.stagnationLimit != 0 &&
    decide (e.stagnationLimit ≤ e.variationBudget) && decide (e.variations.length ≤ e.variationBudget.toNat) &&
    digestWithoutSelf digestJson e.fields == e.sha256

def verifyAvoEpisode (digestJson : Value → String) (e : AvoEpisodeV1) : Except ContractError Unit := do
  ensure (verifyHeader digestJson e) .digest
  let _ ← e.variations.zipIdx.foldlM acceptVariation ⟨e.initialScoreMilli, none, [], []⟩
  return ()

/-! ## The trajectory -/

inductive TrajectoryFault
  | panic
  | error (e : ContractError)
deriving DecidableEq, Repr

structure Incumbent where
  scoreMilli : UInt64
  candidateId : Option String
  stagnant : UInt16

def saturatingSucc (n : UInt16) : UInt16 := if n = 65535 then n else n + 1

def followVariation (i : Incumbent) (v : AvoVariationV1) : Except TrajectoryFault Incumbent :=
  if v.outcome = .improved then
    match v.candidateScoreMilli with
    | some score => .ok ⟨score, some v.candidateId, 0⟩
    | none       => .error .panic
  else .ok { i with stagnant := saturatingSucc i.stagnant }

def avoTrajectory (digestJson : Value → String) (e : AvoEpisodeV1) : Except TrajectoryFault AvoTrajectory := do
  (verifyAvoEpisode digestJson e).mapError .error
  let i ← e.variations.foldlM followVariation ⟨e.initialScoreMilli, none, 0⟩
  ensure (decide (e.variations.length < 65536)) (.error .budget)
  let completed := UInt16.ofNat e.variations.length
  let directive : AvoDirective :=
    if completed = e.variationBudget then .stopBudget
    else if e.stagnationLimit ≤ i.stagnant then .requestAdvisoryRedirect
    else .continue
  return ⟨i.scoreMilli, i.candidateId, completed, i.stagnant, directive⟩

end Promotion
end Bildr
