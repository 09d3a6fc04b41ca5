import Bildr.Liveness
/-!
# Reconciliation — episodes, findings, action receipts and ownership proofs

An episode collects what the controller found after a loss and what it did about it.  A finding or a receipt is known by
its kind and its source event; its causal link names the source event only.
-/
namespace Bildr
namespace Control

open Json (Value)

inductive ReconciliationTrigger
  | daemonRestart | appServerLoss | processLoss | versionTransition | accountHandoff | worktreeMismatch
  | uncertainCommandCompletion
deriving DecidableEq, Repr

def ReconciliationTrigger.name : ReconciliationTrigger → String
  | .daemonRestart              => "daemon_restart"
  | .appServerLoss              => "app_server_loss"
  | .processLoss                => "process_loss"
  | .versionTransition          => "version_transition"
  | .accountHandoff             => "account_handoff"
  | .worktreeMismatch           => "worktree_mismatch"
  | .uncertainCommandCompletion => "uncertain_command_completion"

inductive ReconciliationState
  | «open» | claimed | awaitingEvidence | resolved | refused
deriving DecidableEq, Repr

def ReconciliationState.name : ReconciliationState → String
  | .open             => "open"
  | .claimed          => "claimed"
  | .awaitingEvidence => "awaiting_evidence"
  | .resolved         => "resolved"
  | .refused          => "refused"

/-- `IN ('open','claimed','awaiting_evidence')`. -/
def ReconciliationState.active (s : ReconciliationState) : Bool := !(decide (s = .resolved) || decide (s = .refused))

inductive ReconciliationFindingKind
  | liveOwner | unknownOwner | preservedCandidate | staleApproval | ambiguousExternalEffect
deriving DecidableEq, Repr

def ReconciliationFindingKind.name : ReconciliationFindingKind → String
  | .liveOwner               => "live_owner"
  | .unknownOwner            => "unknown_owner"
  | .preservedCandidate      => "preserved_candidate"
  | .staleApproval           => "stale_approval"
  | .ambiguousExternalEffect => "ambiguous_external_effect"

inductive ReconciliationActionKind
  | preserve | resumeProvenOwner | invalidateStaleApproval | releaseProvenDeadLease | authorizeFreshAttempt
  | openAttention
deriving DecidableEq, Repr

def ReconciliationActionKind.name : ReconciliationActionKind → String
  | .preserve                => "preserve"
  | .resumeProvenOwner       => "resume_proven_owner"
  | .invalidateStaleApproval => "invalidate_stale_approval"
  | .releaseProvenDeadLease  => "release_proven_dead_lease"
  | .authorizeFreshAttempt   => "authorize_fresh_attempt"
  | .openAttention           => "open_attention"

def ReconciliationActionKind.changesState (k : ReconciliationActionKind) : Bool :=
  decide (k = .resumeProvenOwner) || decide (k = .invalidateStaleApproval) || decide (k = .releaseProvenDeadLease) ||
    decide (k = .authorizeFreshAttempt)

def isObject : Value → Bool
  | .obj _ => true
  | _      => false

/-! ## Episodes -/

structure ReconciliationEpisode where
  schema : String
  episodeId : String
  runId : Option String
  triggerKind : ReconciliationTrigger
  state : ReconciliationState
  version : Nat
  openedAtMs : Int
  updatedAtMs : Int
  sourceEventId : String
  inventorySha256 : String
  findingCount : Nat
  actionCount : Nat
  report : Option String
  sha256 : String
deriving DecidableEq

def ReconciliationEpisode.unsigned (e : ReconciliationEpisode) : Value :=
  .obj [("schema", .str e.schema), ("episode_id", .str e.episodeId), ("run_id", ofOption Value.str e.runId),
    ("trigger_kind", .str e.triggerKind.name), ("state", .str e.state.name), ("version", ofNat e.version),
    ("opened_at_ms", ofInt e.openedAtMs), ("updated_at_ms", ofInt e.updatedAtMs),
    ("source_event_id", .str e.sourceEventId), ("inventory_sha256", .str e.inventorySha256),
    ("finding_count", ofNat e.findingCount), ("action_count", ofNat e.actionCount),
    ("report", ofOption Value.str e.report), ("sha256", .str "")]

def ReconciliationEpisode.signed (w : Wire) (e : ReconciliationEpisode) : ReconciliationEpisode :=
  { e with sha256 := (w.digestJson e.unsigned).hex }

def ReconciliationEpisode.validate (w : Wire) (e : ReconciliationEpisode) : Except StoreError Unit := do
  ensure (e.schema == "harness.reconciliation-episode.v1")
    (invalidField "reconciliation episode schema" "must be harness.reconciliation-episode.v1")
  validateIdentifier e.episodeId "reconciliation episode id"
  validateOptional e.runId "reconciliation run id"
  validateIdentifier e.sourceEventId "reconciliation source event id"
  match e.report with
  | none        => .ok ()
  | some report => validateText report "reconciliation report" 4000
  ensure (!(e.version == 0) && decide (0 ≤ e.openedAtMs) && decide (e.openedAtMs ≤ e.updatedAtMs))
    (invalidField "reconciliation timing/version" "must have a positive version and monotonic non-negative timestamps")
  validateLowerHex e.inventorySha256 "reconciliation inventory sha256" 64
  validateDigest e.sha256 (w.digestJson e.unsigned) "reconciliation sha256"

/-! ## Findings and receipts -/

structure ReconciliationFinding where
  schema : String
  episodeId : String
  kind : ReconciliationFindingKind
  sourceEventId : String
  observedAtMs : Int
  payload : Value
  sha256 : String
deriving DecidableEq

def ReconciliationFinding.unsigned (f : ReconciliationFinding) : Value :=
  .obj [("schema", .str f.schema), ("episode_id", .str f.episodeId), ("kind", .str f.kind.name),
    ("source_event_id", .str f.sourceEventId), ("observed_at_ms", ofInt f.observedAtMs), ("payload", f.payload),
    ("sha256", .str "")]

def ReconciliationFinding.validate (w : Wire) (f : ReconciliationFinding) : Except StoreError Unit := do
  ensure (f.schema == "harness.reconciliation-finding.v1")
    (invalidField "reconciliation finding schema" "must be harness.reconciliation-finding.v1")
  validateIdentifier f.episodeId "reconciliation finding episode id"
  validateIdentifier f.sourceEventId "reconciliation finding source event id"
  ensure (decide (0 ≤ f.observedAtMs))
    (invalidField "reconciliation finding observed at" "must be a UTC epoch millisecond timestamp")
  ensure (isObject f.payload) (invalidField "reconciliation finding payload" "must be a JSON object")
  ensure (decide (w.byteLength f.payload ≤ maxConditionPayloadBytes))
    (invalidField "reconciliation finding payload" "exceeds the bounded payload limit")
  validateDigest f.sha256 (w.digestJson f.unsigned) "reconciliation finding sha256"

structure ReconciliationActionReceipt where
  schema : String
  episodeId : String
  kind : ReconciliationActionKind
  sourceEventId : String
  authorityEventId : Option String
  createdAtMs : Int
  payload : Value
  sha256 : String
deriving DecidableEq

def ReconciliationActionReceipt.unsigned (r : ReconciliationActionReceipt) : Value :=
  .obj [("schema", .str r.schema), ("episode_id", .str r.episodeId), ("kind", .str r.kind.name),
    ("source_event_id", .str r.sourceEventId), ("authority_event_id", ofOption Value.str r.authorityEventId),
    ("created_at_ms", ofInt r.createdAtMs), ("payload", r.payload), ("sha256", .str "")]

def ReconciliationActionReceipt.validate (w : Wire) (r : ReconciliationActionReceipt) : Except StoreError Unit := do
  ensure (r.schema == "harness.reconciliation-action-receipt.v1")
    (invalidField "reconciliation action receipt schema" "must be harness.reconciliation-action-receipt.v1")
  validateIdentifier r.episodeId "reconciliation action receipt episode id"
  validateIdentifier r.sourceEventId "reconciliation action receipt source event id"
  validateOptional r.authorityEventId "reconciliation action receipt authority event id"
  ensure (!(r.kind.changesState && r.authorityEventId.isNone))
    (invalidField "reconciliation action receipt authority event id"
      "is required for a state-changing reconciliation action")
  ensure (decide (0 ≤ r.createdAtMs))
    (invalidField "reconciliation action receipt created at" "must be a UTC epoch millisecond timestamp")
  ensure (isObject r.payload) (invalidField "reconciliation action receipt payload" "must be a JSON object")
  ensure (decide (w.byteLength r.payload ≤ maxConditionPayloadBytes))
    (invalidField "reconciliation action receipt payload" "exceeds the bounded payload limit")
  validateDigest r.sha256 (w.digestJson r.unsigned) "reconciliation action receipt sha256"

/-! ## Ownership proofs -/

structure OwnershipProof where
  schema : String
  proofId : String
  runId : String
  taskId : String
  priorAttemptId : String
  worktreeId : String
  sourceEventId : String
  headSha : String
  worktreeFingerprint : String
  leaseGeneration : Nat
  processState : String
  sessionState : String
  commandState : String
  externalEffectState : String
  candidateState : String
  approvedActions : List String
  observedAtMs : Int
  expiresAtMs : Int
  sha256 : String
deriving DecidableEq

def OwnershipProof.unsigned (p : OwnershipProof) : Value :=
  .obj [("schema", .str p.schema), ("proof_id", .str p.proofId), ("run_id", .str p.runId), ("task_id", .str p.taskId),
    ("prior_attempt_id", .str p.priorAttemptId), ("worktree_id", .str p.worktreeId),
    ("source_event_id", .str p.sourceEventId), ("head_sha", .str p.headSha),
    ("worktree_fingerprint", .str p.worktreeFingerprint), ("lease_generation", ofNat p.leaseGeneration),
    ("process_state", .str p.processState), ("session_state", .str p.sessionState),
    ("command_state", .str p.commandState), ("external_effect_state", .str p.externalEffectState),
    ("candidate_state", .str p.candidateState), ("approved_actions", ofTexts p.approvedActions),
    ("observed_at_ms", ofInt p.observedAtMs), ("expires_at_ms", ofInt p.expiresAtMs), ("sha256", .str "")]

def OwnershipProof.validate (w : Wire) (p : OwnershipProof) : Except StoreError Unit := do
  ensure (p.schema == "harness.exclusive-ownership-proof.v1")
    (invalidField "ownership proof schema" "must be harness.exclusive-ownership-proof.v1")
  validateIdentifier p.proofId "ownership proof id"
  validateIdentifier p.runId "ownership proof run id"
  validateIdentifier p.taskId "ownership proof task id"
  validateIdentifier p.priorAttemptId "ownership proof attempt id"
  validateIdentifier p.worktreeId "ownership proof worktree id"
  validateIdentifier p.sourceEventId "ownership proof source event id"
  validateHex p.headSha "ownership proof head sha" 40
  validateLowerHex p.worktreeFingerprint "ownership proof worktree fingerprint" 64
  ensure (p.processState == "proven_absent" && p.sessionState == "proven_closed" &&
      p.commandState == "terminal_or_none" && p.externalEffectState == "none_or_reconciled" &&
      p.candidateState == "preserved" && p.approvedActions == ["authorize_fresh_attempt"])
    (invalidField "ownership proof exclusivity fields"
      "must prove the closed exclusive-ownership state for a fresh attempt")
  ensure (decide (0 ≤ p.observedAtMs) && decide (p.observedAtMs < p.expiresAtMs))
    (invalidField "ownership proof timestamps" "must be nonnegative and expire after observation")
  validateDigest p.sha256 (w.digestJson p.unsigned) "ownership proof sha256"

/-! ## Links -/

def reconciliationEpisodeCorrelationLink (w : Wire) (e : ReconciliationEpisode) : Except StoreError CorrelationLink :=
  derivedLink w ("harness.reconciliation.trace.v1:" ++ e.episodeId)
    ("harness.reconciliation.episode.span.v1:" ++ e.episodeId)
    ("harness.reconciliation.episode.link.v1:" ++ e.episodeId)
    "source_event" e.sourceEventId "reconciliation_episode" e.episodeId "opens_reconciliation" e.openedAtMs

def ownershipProofCorrelationLink (w : Wire) (p : OwnershipProof) : Except StoreError CorrelationLink :=
  derivedLink w ("harness.ownership-proof.trace.v1:" ++ p.proofId)
    ("harness.ownership-proof.span.v1:" ++ p.proofId)
    ("harness.ownership-proof.link.v1:" ++ p.proofId)
    "source_event" p.sourceEventId "ownership_proof" p.proofId "establishes_ownership_proof" p.observedAtMs

/-- The texts name the kind of the record, the link itself does not. -/
def reconciliationCorrelationLink (w : Wire) (episodeId recordClass recordKind sourceEventId toKind relation : String)
    (createdAtMs : Int) : Except StoreError CorrelationLink :=
  derivedLink w ("harness.reconciliation.trace.v1:" ++ episodeId)
    ("harness.reconciliation." ++ recordClass ++ ".span.v1:" ++ episodeId ++ ":" ++ recordKind ++ ":" ++ sourceEventId)
    ("harness.reconciliation." ++ recordClass ++ ".link.v1:" ++ episodeId ++ ":" ++ recordKind ++ ":" ++ sourceEventId)
    "reconciliation_episode" episodeId toKind sourceEventId relation createdAtMs

def reconciliationFindingCorrelationLink (w : Wire) (f : ReconciliationFinding) : Except StoreError CorrelationLink :=
  reconciliationCorrelationLink w f.episodeId "finding" f.kind.name f.sourceEventId "reconciliation_finding"
    "has_finding" f.observedAtMs

def reconciliationActionCorrelationLink (w : Wire) (r : ReconciliationActionReceipt) :
    Except StoreError CorrelationLink :=
  reconciliationCorrelationLink w r.episodeId "action" r.kind.name r.sourceEventId "reconciliation_action"
    "has_action" r.createdAtMs

end Control
end Bildr
