import Bildr.Correlation
/-!
# Liveness — episodes, observations and intervention receipts

An episode follows one attempt.  Observations move its state (`reduceEpisode`), intervention receipts only count.  Each
record checks its own fields; each observation and each receipt has one causal link, derived from its ids.
-/
namespace Bildr
namespace Control

open Json (Value)

inductive LivenessState
  | healthy | quietActive | waitingExternal | degraded | suspectedStall | confirmedStall | ownershipUncertain
  | recoveryRequired | terminal
deriving DecidableEq, Repr

def LivenessState.name : LivenessState → String
  | .healthy            => "healthy"
  | .quietActive        => "quiet_active"
  | .waitingExternal    => "waiting_external"
  | .degraded           => "degraded"
  | .suspectedStall     => "suspected_stall"
  | .confirmedStall     => "confirmed_stall"
  | .ownershipUncertain => "ownership_uncertain"
  | .recoveryRequired   => "recovery_required"
  | .terminal           => "terminal"

inductive LivenessObservationKind
  | materialProgress | runtimeHeartbeat | commandActivity | externalWait | ownershipEvidence
deriving DecidableEq, Repr

def LivenessObservationKind.name : LivenessObservationKind → String
  | .materialProgress  => "material_progress"
  | .runtimeHeartbeat  => "runtime_heartbeat"
  | .commandActivity   => "command_activity"
  | .externalWait      => "external_wait"
  | .ownershipEvidence => "ownership_evidence"

inductive InterventionKind
  | wait | pauseForOperator | requestOperatorDecision | requestReconciliation | queueReadOnlyReview
deriving DecidableEq, Repr

def InterventionKind.name : InterventionKind → String
  | .wait                    => "wait"
  | .pauseForOperator        => "pause_for_operator"
  | .requestOperatorDecision => "request_operator_decision"
  | .requestReconciliation   => "request_reconciliation"
  | .queueReadOnlyReview     => "queue_read_only_review"

/-! ## Observations -/

structure LivenessObservation where
  schema : String
  observationId : String
  episodeId : String
  observationKind : LivenessObservationKind
  sourceEventId : String
  observedAtMs : Int
  value : Value
  classifierVersion : String
  sha256 : String
deriving DecidableEq

def LivenessObservation.unsigned (o : LivenessObservation) : Value :=
  .obj [("schema", .str o.schema), ("observation_id", .str o.observationId), ("episode_id", .str o.episodeId),
    ("observation_kind", .str o.observationKind.name), ("source_event_id", .str o.sourceEventId),
    ("observed_at_ms", ofInt o.observedAtMs), ("value", o.value), ("classifier_version", .str o.classifierVersion),
    ("sha256", .str "")]

def LivenessObservation.validate (w : Wire) (o : LivenessObservation) : Except StoreError Unit := do
  ensure (o.schema == "harness.liveness-observation.v1")
    (invalidField "liveness observation schema" "must be harness.liveness-observation.v1")
  validateIdentifier o.observationId "liveness observation id"
  validateIdentifier o.episodeId "liveness episode id"
  validateIdentifier o.sourceEventId "liveness observation source event id"
  validateIdentifier o.classifierVersion "liveness observation classifier version"
  ensure (decide (0 ≤ o.observedAtMs)) (invalidField "liveness observation observed at" "must not be negative")
  ensure (decide (w.byteLength o.value ≤ maxConditionPayloadBytes))
    (invalidField "liveness observation value" "exceeds the bounded payload limit")
  validateDigest o.sha256 (w.digestJson o.unsigned) "liveness observation sha256"

/-! ## Episodes -/

structure LivenessEpisode where
  schema : String
  episodeId : String
  runId : Option String
  taskId : Option String
  attemptId : Option String
  state : LivenessState
  version : Nat
  openedAtMs : Int
  updatedAtMs : Int
  stateReasonCodes : List String
  lastMaterialProgressAtMs : Option Int
  nextReviewAtMs : Option Int
  interventionCount : Nat
  outcome : Option String
  sha256 : String
deriving DecidableEq

def LivenessEpisode.unsigned (e : LivenessEpisode) : Value :=
  .obj [("schema", .str e.schema), ("episode_id", .str e.episodeId), ("run_id", ofOption Value.str e.runId),
    ("task_id", ofOption Value.str e.taskId), ("attempt_id", ofOption Value.str e.attemptId), ("state", .str e.state.name),
    ("version", ofNat e.version), ("opened_at_ms", ofInt e.openedAtMs), ("updated_at_ms", ofInt e.updatedAtMs),
    ("state_reason_codes", ofTexts e.stateReasonCodes),
    ("last_material_progress_at_ms", ofOption ofInt e.lastMaterialProgressAtMs),
    ("next_review_at_ms", ofOption ofInt e.nextReviewAtMs), ("intervention_count", ofNat e.interventionCount),
    ("outcome", ofOption Value.str e.outcome), ("sha256", .str "")]

def LivenessEpisode.signed (w : Wire) (e : LivenessEpisode) : LivenessEpisode :=
  { e with sha256 := (w.digestJson e.unsigned).hex }

def LivenessEpisode.validate (w : Wire) (e : LivenessEpisode) : Except StoreError Unit := do
  ensure (e.schema == "harness.liveness-episode.v1")
    (invalidField "liveness episode schema" "must be harness.liveness-episode.v1")
  validateIdentifier e.episodeId "liveness episode id"
  validateOptional e.runId "liveness episode run id"
  validateOptional e.taskId "liveness episode task id"
  validateOptional e.attemptId "liveness episode attempt id"
  validateOptional e.outcome "liveness episode outcome"
  ensure (!(e.version == 0) && decide (0 ≤ e.openedAtMs) && decide (e.openedAtMs ≤ e.updatedAtMs))
    (invalidField "liveness episode timing/version" "must have a positive version and monotonic non-negative timestamps")
  ensure (e.lastMaterialProgressAtMs.all (fun v => decide (e.openedAtMs ≤ v) && decide (v ≤ e.updatedAtMs)))
    (invalidField "liveness last material progress" "must be within the episode lifetime")
  ensure (e.nextReviewAtMs.all (fun v => decide (e.updatedAtMs ≤ v)))
    (invalidField "liveness next review" "must not precede the current episode revision")
  validateBoundedTexts e.stateReasonCodes "liveness state reason codes" 32 160
  validateDigest e.sha256 (w.digestJson e.unsigned) "liveness episode sha256"

/-! ## The reducer -/

def observeReviewDelayMs : Int := 300000

/-- The time of the next review; an `i64` sum, which wraps. -/
def reviewAt (observedAtMs : Int) : Int :=
  if observedAtMs + observeReviewDelayMs ≤ i64Max then observedAtMs + observeReviewDelayMs
  else observedAtMs + observeReviewDelayMs - 18446744073709551616

def flag (v : Value) (key : String) : Bool :=
  match v.get key with
  | some (.bool b) => b
  | _              => false

def activeExternalWait (o : LivenessObservation) : Bool := flag o.value "active_external_wait"

def ownershipUncertain (o : LivenessObservation) : Bool :=
  (o.value.get "ownership").bind Value.asStr == some "uncertain"

def noProgressBoundary (o : LivenessObservation) : Bool := flag o.value "no_material_progress_boundary"

def repeatedFailures (o : LivenessObservation) : Nat :=
  ((o.value.get "repeated_semantic_failures").bind Value.asU64).getD 0

def freshInspection (o : LivenessObservation) : Bool := flag o.value "fresh_inspection"

/-- What an observation makes of an episode: a new state with its reasons, or none. -/
def verdict (e : LivenessEpisode) (o : LivenessObservation) : Option (LivenessState × List String) :=
  if o.observationKind = .materialProgress then some (.healthy, ["material_progress"])
  else if o.observationKind = .ownershipEvidence ∧ ownershipUncertain o = true then
    some (.ownershipUncertain, ["ownership_uncertain"])
  else if o.observationKind = .externalWait ∧ activeExternalWait o = true then
    some (.waitingExternal, ["active_external_wait"])
  else if noProgressBoundary o = true ∧ activeExternalWait o = false ∧ ownershipUncertain o = false then
    if 2 ≤ repeatedFailures o ∧ freshInspection o = true then
      some (.confirmedStall, ["no_material_progress", "repeated_semantic_failure", "fresh_inspection"])
    else some (.suspectedStall, ["no_material_progress_boundary"])
  else if (o.observationKind = .runtimeHeartbeat ∨ o.observationKind = .commandActivity) ∧
      (e.state = .healthy ∨ e.state = .quietActive) then
    some (.quietActive, ["activity_without_material_progress"])
  else none

/-- `reduce_episode`: every state but the one of material progress comes with a review; without a verdict the state, its
reasons and the review stay. -/
def reduceEpisode (e : LivenessEpisode) (o : LivenessObservation) : LivenessEpisode :=
  match verdict e o with
  | none => e
  | some (state, reasons) =>
    if o.observationKind = .materialProgress then
      { e with
        state := state, stateReasonCodes := reasons, nextReviewAtMs := none
        lastMaterialProgressAtMs := some o.observedAtMs }
    else { e with state := state, stateReasonCodes := reasons, nextReviewAtMs := some (reviewAt o.observedAtMs) }

theorem reduceEpisode_frame (e : LivenessEpisode) (o : LivenessObservation) :
    (reduceEpisode e o).episodeId = e.episodeId ∧ (reduceEpisode e o).attemptId = e.attemptId ∧
      (reduceEpisode e o).openedAtMs = e.openedAtMs ∧ (reduceEpisode e o).interventionCount = e.interventionCount ∧
      (reduceEpisode e o).updatedAtMs = e.updatedAtMs ∧ (reduceEpisode e o).schema = e.schema ∧
      (reduceEpisode e o).runId = e.runId ∧ (reduceEpisode e o).taskId = e.taskId ∧
      (reduceEpisode e o).outcome = e.outcome := by
  unfold reduceEpisode
  split
  · exact ⟨rfl, rfl, rfl, rfl, rfl, rfl, rfl, rfl, rfl⟩
  · split
    · exact ⟨rfl, rfl, rfl, rfl, rfl, rfl, rfl, rfl, rfl⟩
    · exact ⟨rfl, rfl, rfl, rfl, rfl, rfl, rfl, rfl, rfl⟩

/-! ## Receipts -/

structure InterventionReceipt where
  schema : String
  interventionId : String
  episodeId : String
  kind : InterventionKind
  sourceEventId : String
  targetVersion : Nat
  policyVersion : String
  requestedBy : String
  createdAtMs : Int
  sha256 : String
deriving DecidableEq

def InterventionReceipt.unsigned (r : InterventionReceipt) : Value :=
  .obj [("schema", .str r.schema), ("intervention_id", .str r.interventionId), ("episode_id", .str r.episodeId),
    ("kind", .str r.kind.name), ("source_event_id", .str r.sourceEventId), ("target_version", ofNat r.targetVersion),
    ("policy_version", .str r.policyVersion), ("requested_by", .str r.requestedBy),
    ("created_at_ms", ofInt r.createdAtMs), ("sha256", .str "")]

def InterventionReceipt.signed (w : Wire) (r : InterventionReceipt) : InterventionReceipt :=
  { r with sha256 := (w.digestJson r.unsigned).hex }

def InterventionReceipt.validate (w : Wire) (r : InterventionReceipt) : Except StoreError Unit := do
  ensure (r.schema == "harness.intervention-receipt.v1" && !(r.targetVersion == 0) && decide (0 ≤ r.createdAtMs))
    (invalidField "intervention receipt" "must use v1 with a target version and non-negative timestamp")
  validateIdentifier r.interventionId "intervention id"
  validateIdentifier r.episodeId "intervention episode id"
  validateIdentifier r.sourceEventId "intervention source event id"
  validateIdentifier r.policyVersion "intervention policy version"
  validateIdentifier r.requestedBy "intervention requester"
  validateDigest r.sha256 (w.digestJson r.unsigned) "intervention sha256"

/-! ## Links -/

/-- `CorrelationLinkId::parse` of an id made of a digest. -/
def linkIdOf (w : Wire) (text : String) : Except StoreError String := do
  let id := "correlation-" ++ (w.sha256 text).take 48
  validateIdentifier id "CorrelationLinkId"
  return id

def derivedLink (w : Wire) (traceText spanText linkText fromKind fromId toKind toId relation : String) (createdAtMs : Int) :
    Except StoreError CorrelationLink := do
  let linkId ← linkIdOf w linkText
  return ⟨"harness.correlation-link.v1", linkId, ⟨(w.sha256 traceText).take 32, (w.sha256 spanText).take 16, none⟩,
    fromKind, fromId, toKind, toId, relation, createdAtMs⟩

def livenessObservationCorrelationLink (w : Wire) (o : LivenessObservation) : Except StoreError CorrelationLink :=
  derivedLink w ("harness.liveness-observation.trace.v1:" ++ o.episodeId)
    ("harness.liveness-observation.span.v1:" ++ o.observationId)
    ("harness.liveness-observation.link.v1:" ++ o.observationId)
    "liveness_episode" o.episodeId "liveness_observation" o.observationId "has_observation" o.observedAtMs

def interventionCorrelationLink (w : Wire) (r : InterventionReceipt) : Except StoreError CorrelationLink :=
  derivedLink w ("harness.intervention.trace.v1:" ++ r.interventionId)
    ("harness.intervention.span.v1:" ++ r.interventionId)
    ("harness.intervention.link.v1:" ++ r.interventionId)
    "liveness_episode" r.episodeId "intervention_receipt" r.interventionId "has_intervention" r.createdAtMs

end Control
end Bildr
