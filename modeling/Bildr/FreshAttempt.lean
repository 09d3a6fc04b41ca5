import Bildr.ReconciliationCalls
/-!
# FreshAttempt — an ownership proof authorizes one replacement attempt

`consumeOwnershipProofForFreshAttempt` checks a stored proof against the tables and creates the attempt it authorizes;
`leaseAuthorizedFreshAttempt` hands it to the scheduler.  The launch of a leased attempt may recompose its base.
-/
namespace Bildr
namespace Control

open Json (Value)

structure CustodyWire extends Wire where
  packetText : Plan.Packet → String

structure NewTaskAttempt where
  id : String
  taskId : String
  attemptNumber : Nat
  state : String
  packet : Plan.Packet
  packetSha256 : String
  baseSha : String
  requestedModelRoute : String

structure FreshAttemptRequest where
  proofId : String
  receipt : ReconciliationActionReceipt
  expectedEpisodeVersion : Nat
  replacement : NewTaskAttempt
  expectedTaskVersion : Nat

/-! ## Before the tables are read -/

def checkRequest (w : CustodyWire) (q : FreshAttemptRequest) : Except StoreError CorrelationLink := do
  q.receipt.validate w.toWire
  let link ← reconciliationActionCorrelationLink w.toWire q.receipt
  ensure (decide (q.receipt.kind = .authorizeFreshAttempt))
    (.validation "ownership-proof consumption requires an authorize_fresh_attempt receipt")
  ensure (q.replacement.state == "AUTHORIZED") (.validation "fresh replacement attempt must begin in AUTHORIZED")
  (q.replacement.packet.validateExecutionContract).mapError
    (fun e => .validation ("fresh replacement packet is invalid: " ++ e.text))
  ensure ((w.sha256 (w.packetText q.replacement.packet)).hex == q.replacement.packetSha256)
    (.validation "fresh replacement packet sha256 does not match its canonical payload")
  return link

/-! ## A proof that was consumed before -/

def existingConsumption (t : ControlTables) (proofId : String) : Option (Consumption × ActionRow × AttemptRow) := do
  let c ← t.consumptions.get proofId
  let a ← t.actions.get c.actionId
  let attempt ← t.custody.attempts.get c.replacementAttemptId
  if attempt.taskId == c.taskId then some (c, a, attempt) else none

def sameReplacement (w : CustodyWire) (n : NewTaskAttempt) (c : Consumption) (a : AttemptRow) : Bool :=
  c.replacementAttemptId == n.id && c.taskId == n.taskId && a.attemptNumber == (n.attemptNumber : Int) &&
    a.taskPacketJson == w.packetText n.packet && a.taskPacketSha256 == n.packetSha256 && a.baseSha == n.baseSha &&
    a.requestedModelRoute == n.requestedModelRoute

def replayConsumption (w : CustodyWire) (q : FreshAttemptRequest) (link : CorrelationLink) (t : ControlTables)
    (c : Consumption) (a : ActionRow) (attempt : AttemptRow) : Except StoreError Unit := do
  let consumed := StoreError.conflict ("ownership proof " ++ q.proofId ++
    " was already consumed by replacement attempt " ++ c.replacementAttemptId)
  ensure (sameReplacement w q.replacement c attempt) consumed
  let receipt ← checkedActionReceipt w.toWire a.receipt
  ensure (receipt == q.receipt) consumed
  requireCorrelationLinkInTransaction t.links link

/-! ## What the tables have to say -/

/-- `u32::try_from(n).unwrap_or(u32::MAX)`. -/
def clampU32 (n : Int) : Int := if 0 ≤ n ∧ n ≤ (u32Max : Int) then n else u32Max

def checkTask (q : FreshAttemptRequest) (p : OwnershipProof) (task : TaskRow) : Except StoreError Unit := do
  ensure (task.version == clampI64 q.expectedTaskVersion)
    (.conflict ("task " ++ q.replacement.taskId ++ " changed before ownership-proof consumption"))
  ensure (task.state.canTransitionTo .ready)
    (.conflict ("task " ++ q.replacement.taskId ++ " in " ++ task.state.text ++
      " cannot accept a fresh authorized attempt"))
  ensure (p.runId == task.runId && p.taskId == q.replacement.taskId && q.replacement.packet.taskId != "" &&
      q.replacement.packet.taskId == task.externalTaskId)
    (.validation "ownership proof, replacement task, and replacement packet must bind the same task/run identity")
  ensure (q.replacement.baseSha == p.headSha && q.replacement.packet.baseSha == q.replacement.baseSha)
    (.validation "replacement packet/base must be pinned to the proven preserved head")
  ensure (decide (task.currentAttemptNumber < i64Max)) (.validation "task attempt number overflow")
  ensure ((q.replacement.attemptNumber : Int) == clampU32 (task.currentAttemptNumber + 1))
    (.conflict ("replacement attempt number " ++ toString q.replacement.attemptNumber ++
      " does not follow task attempt " ++ toString task.currentAttemptNumber))

def terminalAttempt (state : String) : Bool := ["FAILED", "INTERRUPTED", "STALLED"].contains state

def terminalAgent (state : String) : Bool :=
  ["COMPLETED", "FAILED", "CANCELED", "CANCELLED", "SHUTDOWN", "TERMINATED", "TURN_COMPLETE", "STALLED",
    "INTERRUPTED"].contains state

def checkPrior (c : Custody) (p : OwnershipProof) (task : TaskRow) : Except StoreError Unit := do
  let prior ← okOr ((c.attempts.get p.priorAttemptId).filter (fun a => a.taskId == task.id))
    (.notFound ("prior attempt " ++ p.priorAttemptId))
  ensure (prior.attemptNumber == task.currentAttemptNumber && terminalAttempt prior.state &&
      prior.headSha == some p.headSha)
    (.conflict "ownership proof no longer matches a terminal preserved prior attempt")
  let worktree ← okOr (c.worktrees.get p.worktreeId) (.notFound ("proven worktree " ++ p.worktreeId))
  ensure (worktree.taskAttemptId == some p.priorAttemptId && worktree.runId == p.runId &&
      worktree.headSha == some p.headSha && worktree.state == "PRESERVED")
    (.conflict "ownership proof no longer matches its preserved worktree")
  ensure (!c.pathLeases.any (fun l => l.taskAttemptId == p.priorAttemptId && l.releasedAt.isNone)) (.conflict
    "ownership proof cannot authorize a replacement while the prior path lease remains active")
  ensure (!c.agentSessions.any (fun a => a.taskAttemptId == some p.priorAttemptId && !terminalAgent a.state)) (.conflict
    "ownership proof cannot authorize a replacement while the prior agent remains nonterminal")
  ensure (!c.commandRuns.any (fun r => r == some p.priorAttemptId)) (.conflict
    "ownership proof cannot authorize a replacement while prior command effects remain outside the reconciled proof boundary")

def payloadString (payload : Value) (field : String) : Except StoreError String :=
  okOr (((payload.get field).bind Value.asStr).filter (fun v => v != ""))
    (.validation ("fresh-attempt receipt payload must contain non-empty string " ++ field))

def payloadU64 (payload : Value) (field : String) : Except StoreError Nat :=
  okOr ((payload.get field).bind Value.asU64)
    (.validation ("fresh-attempt receipt payload must contain unsigned integer " ++ field))

/-- A positive `i64`. -/
def payloadI64 (payload : Value) (field : String) : Except StoreError Nat :=
  okOr (((payload.get field).bind Value.asU64).filter (fun n => decide (0 < n) && fitsI64 n))
    (.validation ("fresh-attempt receipt payload must contain positive integer " ++ field))

def unbound : StoreError :=
  .validation "fresh-attempt receipt must bind the exact stored proof and replacement identity"

def checkReceipt (q : FreshAttemptRequest) (p : OwnershipProof) : Except StoreError Unit := do
  ensure (q.receipt.authorityEventId == some p.sourceEventId) unbound
  [("proof_id", p.proofId), ("run_id", p.runId), ("task_id", p.taskId), ("prior_attempt_id", p.priorAttemptId),
    ("worktree_id", p.worktreeId), ("head_sha", p.headSha), ("worktree_fingerprint", p.worktreeFingerprint)].forM
    (fun (field, expected) => do
      let value ← payloadString q.receipt.payload field
      ensure (value == expected) unbound)
  let generation ← payloadU64 q.receipt.payload "lease_generation"
  ensure (generation == p.leaseGeneration) unbound
  let replacement ← payloadString q.receipt.payload "replacement_attempt_id"
  ensure (replacement == q.replacement.id) unbound

def checkHumanAction (q : FreshAttemptRequest) (p : OwnershipProof) (t : ControlTables) : Except StoreError Unit := do
  let actionId ← payloadI64 q.receipt.payload "human_action_id"
  ensure (t.humanActions.rows.any (fun a => a.id == (actionId : Int) && a.runId == some p.runId &&
      a.taskAttemptId == some p.priorAttemptId && a.actionType == "retry_task" && a.targetType == "task" &&
      a.targetId == q.replacement.taskId))
    (.conflict "fresh-attempt receipt does not bind a durable operator retry action")

/-! ## The transaction -/

def attemptOf (w : CustodyWire) (n : NewTaskAttempt) : AttemptRow :=
  ⟨n.id, n.taskId, n.attemptNumber, "AUTHORIZED", w.packetText n.packet, n.packetSha256, n.baseSha, none,
    n.requestedModelRoute⟩

/-- `INSERT INTO task_attempts`, refused when the number is taken. -/
def insertAttempt (c : Custody) (a : AttemptRow) : Except StoreError Custody := do
  require (!c.attempts.rows.any (fun b => b.taskId == a.taskId && b.attemptNumber == a.attemptNumber))
  let attempts ← insertRow c.attempts a
  return { c with attempts := attempts }

def TaskRow.readied (number : Int) (r : TaskRow) : TaskRow :=
  { r with currentAttemptNumber := number, state := .ready, version := r.version + 1 }

def materialize (w : CustodyWire) (q : FreshAttemptRequest) (c : Custody) : Except StoreError Custody := do
  let c ← insertAttempt c (attemptOf w q.replacement)
  ensure ((c.tasks.get q.replacement.taskId).any (fun r => r.version == clampI64 q.expectedTaskVersion))
    (.conflict ("task " ++ q.replacement.taskId ++ " changed during ownership-proof consumption"))
  let tasks := c.tasks.update (fun r => r.id == q.replacement.taskId) (TaskRow.readied q.replacement.attemptNumber)
    (fun _ => rfl)
  let taskResults ← insertRow c.taskResults q.replacement.id
  return { c with tasks := tasks, taskResults := taskResults }

def insertConsumption (t : ControlTables) (c : Consumption) : Except StoreError ControlTables := do
  require (!t.consumptions.rows.any (fun d => d.actionId == c.actionId ||
    d.replacementAttemptId == c.replacementAttemptId))
  let consumptions ← insertRow t.consumptions c
  return { t with consumptions := consumptions }

def authorize (w : CustodyWire) (q : FreshAttemptRequest) (link : CorrelationLink) (p : OwnershipProof) (now : Int)
    (t : ControlTables) : Except StoreError ControlTables := do
  let (_, t) ← advanceReconciliationEpisode w.toWire t q.receipt.episodeId q.expectedEpisodeVersion
    q.receipt.createdAtMs .action
  let (actionId, t) ← insertAction t q.receipt
  let links ← recordCorrelationLinkInTransaction t.links link
  let custody ← materialize w q t.custody
  insertConsumption { t with links := links, custody := custody }
    ⟨p.proofId, q.receipt.episodeId, actionId, q.replacement.taskId, p.priorAttemptId, q.replacement.id, now⟩

def checkConsumption (w : CustodyWire) (q : FreshAttemptRequest) (p : OwnershipProof) (now : Int) (t : ControlTables) :
    Except StoreError Unit := do
  ensure (decide (now < p.expiresAtMs))
    (.conflict ("ownership proof " ++ q.proofId ++ " expired before replacement authorization"))
  let task ← okOr (t.custody.tasks.get q.replacement.taskId) (.notFound ("task " ++ q.replacement.taskId))
  checkTask q p task
  checkPrior t.custody p task
  let e ← reconciliationEpisodeInTransaction w.toWire t q.receipt.episodeId
  ensure (e.runId == some p.runId && e.state.active)
    (.conflict "reconciliation episode is not active for the ownership proof run")
  checkReceipt q p
  checkHumanAction q p t

def consumeBody (w : CustodyWire) (q : FreshAttemptRequest) (now : Int) (t : ControlTables) :
    Except StoreError ControlTables := do
  let link ← checkRequest w q
  let row ← okOr (t.proofs.get q.proofId) (.notFound ("ownership proof " ++ q.proofId))
  let p ← checkedProof w.toWire row
  match existingConsumption t q.proofId with
  | some (c, a, attempt) => do
    replayConsumption w q link t c a attempt
    return t
  | none => do
    checkConsumption w q p now t
    authorize w q link p now t

def consumeOwnershipProofForFreshAttempt (w : CustodyWire) (q : FreshAttemptRequest) (now : Int) :
    Call ControlTables Unit :=
  commit (consumeBody w q now)

/-! ## Leasing and launching -/

def leaseBody (taskId attemptId : String) (t : ControlTables) : Except StoreError ControlTables := do
  ensure ((t.custody.attempts.get attemptId).any (fun a => a.taskId == taskId && a.state == "AUTHORIZED") &&
      t.consumptions.rows.any (fun c => c.replacementAttemptId == attemptId))
    (.conflict ("fresh attempt " ++ attemptId ++ " is no longer authorized for leasing"))
  let attempts := t.custody.attempts.update (fun a => a.id == attemptId) (fun a => { a with state := "LEASED" })
    (fun _ => rfl)
  ensure ((t.custody.tasks.get taskId).any (fun r => decide (r.state = .ready) &&
      (attempts.get attemptId).any (fun a => r.currentAttemptNumber == a.attemptNumber)))
    (.conflict ("task " ++ taskId ++ " is no longer ready for its authorized fresh attempt"))
  let tasks := t.custody.tasks.update (fun r => r.id == taskId)
    (fun r => { r with state := .leased, version := r.version + 1 }) (fun _ => rfl)
  return { t with custody := { t.custody with attempts := attempts, tasks := tasks } }

def leaseAuthorizedFreshAttempt (taskId attemptId : String) : Call ControlTables Unit := commit (leaseBody taskId attemptId)

/-- A launch composes the base of its attempt from the commits of the dependencies. -/
def setAttemptComposedBase (w : CustodyWire) (attemptId : String) (packet : Plan.Packet) (baseSha : String) :
    Call ControlTables Unit :=
  commit (fun t => do
    ensure (t.custody.attempts.get attemptId).isSome (.notFound ("attempt " ++ attemptId))
    return { t with custody := { t.custody with
      attempts := t.custody.attempts.update (fun a => a.id == attemptId)
        (fun a => { a with
          taskPacketJson := w.packetText packet
          taskPacketSha256 := (w.sha256 (w.packetText packet)).hex
          baseSha := baseSha })
        (fun _ => rfl) } })

end Control
end Bildr
