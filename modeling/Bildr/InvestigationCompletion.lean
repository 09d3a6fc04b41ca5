import Bildr.Conditions
import Bildr.Investigations
/-!
# InvestigationCompletion — finishing the attempt of a stored artifact

An artifact that is stored proves its attempt done, whatever became of the attempt in between: one transaction reads the
artifact again, finds its task, attempt, agent and live worktree, moves them to their terminal states, drops the deadline
and writes one receipt for the agent and one for the run.  A receipt is found by the artifact it names.

Payloads of events are JSON values, so the check that a stored payload is JSON does not appear.
-/
namespace Bildr
namespace Completion

open Control (SourceEvent Wire InvestigationArtifact InvestigationTables ofNat)
open Json (Value)

/-! ## The rows of an attempt -/

structure TaskRow where
  id : String
  runId : String
  externalTaskId : String
  state : TaskState
  failureReason : Option String
  updatedAt : Int
  version : Nat

structure AttemptRow where
  id : String
  taskId : String
  baseSha : String
  headSha : Option String
  state : String
  terminalClass : Option String
  failureReason : Option String
  startedAt : Option Int
  completedAt : Option Int
  updatedAt : Int
  version : Nat

structure AgentRow where
  id : String
  runId : String
  taskAttemptId : Option String
  role : String
  state : String
  completedAt : Option Int
  lastHeartbeatAt : Option Int
  failureClass : Option String
  failureReason : Option String
  version : Nat

/-- A row of `agent_runtime_details`. -/
structure DetailsRow where
  agentSessionId : String
  activeTurnId : Option String
  currentAction : Option String
  lastActivityKind : Option String
  lastActivityAt : Option Int
  updatedAt : Int

structure WorktreeRow where
  id : String
  taskAttemptId : Option String
  state : String
  preservedReason : Option String
  createdAt : Int
  reconciledAt : Option Int
  removedAt : Option Int
  version : Nat

/-- A row of `runtime_metadata`. -/
structure MetadataRow where
  key : String
  value : String

structure LifecycleTables where
  tasks : Table TaskRow.id
  attempts : Table AttemptRow.id
  agents : Table AgentRow.id
  details : Table DetailsRow.agentSessionId
  worktrees : Table WorktreeRow.id
  metadata : Table MetadataRow.key

structure CompletionTables where
  lifecycle : LifecycleTables
  investigations : InvestigationTables
  events : List SourceEvent

/-! ## Receipts -/

/-- One event of a lookup; `n` counts the receipts of the artifact. -/
def matchReceipt (artifactId : String) (payload : Value) (n : Nat) (e : SourceEvent) : Except StoreError Nat := do
  let existingId ← okOr (e.payload.findText ["artifact_id"])
    (.conflict "investigation lifecycle completion receipt is missing its artifact identity")
  if existingId == artifactId then do
    ensure (e.payload == payload) (.conflict "investigation lifecycle completion receipt differs from immutable custody")
    return n + 1
  else return n

def investigationCompletionEventExists (events : List SourceEvent) (runId aggregateType aggregateId eventType : String)
    (payload : Value) : Except StoreError Bool := do
  let artifactId ← okOr (payload.findText ["artifact_id"])
    (.validation "investigation completion receipt must bind an artifact ID")
  let existing := events.filter (fun e => e.runId == some runId && e.aggregateType == aggregateType &&
    e.aggregateId == aggregateId && e.eventType == eventType)
  let matching ← existing.foldlM (matchReceipt artifactId payload) 0
  ensure (decide (matching ≤ 1)) (.conflict "investigation lifecycle completion receipt is duplicated")
  return matching == 1

def recordInvestigationCompletionEvent (events : List SourceEvent) (runId aggregateType aggregateId eventType : String)
    (payload : Value) (now : Int) : Except StoreError (List SourceEvent) := do
  let there ← investigationCompletionEventExists events runId aggregateType aggregateId eventType payload
  ensure (!there) (.conflict
    "investigation lifecycle completion receipt already exists before its atomic lifecycle transition")
  return events ++ [⟨Control.nextEventId events, some runId, aggregateType, aggregateId, eventType, now, payload⟩]

def agentReceiptType : String := "agent.investigation.artifact_recorded"

def runReceiptType : String := "run.investigation.completed"

def agentReceipt (a : InvestigationArtifact) (taskId attemptId : String) : Value :=
  .obj [("artifact_id", .str a.artifactId), ("artifact_sha256", .str a.sha256), ("attempt_id", .str attemptId),
    ("mutable_candidate", .bool false), ("path_leases", ofNat 0), ("task_id", .str taskId)]

def runReceipt (a : InvestigationArtifact) (taskId attemptId : String) : Value :=
  .obj [("artifact_id", .str a.artifactId), ("attempt_id", .str attemptId), ("automatic_implementation", .bool false),
    ("task_id", .str taskId)]

/-! ## The rows an artifact binds -/

structure InvestigationLifecycleBinding where
  task : TaskRow
  attempt : AttemptRow
  agent : AgentRow
  worktree : WorktreeRow

/-- `w.task_attempt_id=a.id AND w.removed_at IS NULL`. -/
def WorktreeRow.live (attemptId : String) (r : WorktreeRow) : Bool :=
  r.taskAttemptId == some attemptId && r.removedAt.isNone

/-- `ORDER BY w.created_at DESC LIMIT 1`. -/
def liveWorktree (l : LifecycleTables) (attemptId : String) : Option WorktreeRow :=
  ((l.worktrees.rows.filter (WorktreeRow.live attemptId)).insertionSort (fun a b => b.createdAt ≤ a.createdAt)).head?

def lifecycleBinding (l : LifecycleTables) (taskId attemptId agentId : String) : Option InvestigationLifecycleBinding :=
  (l.tasks.get taskId).bind (fun task =>
    ((l.attempts.get attemptId).filter (fun attempt => attempt.taskId == task.id)).bind (fun attempt =>
      (l.agents.get agentId).bind (fun agent =>
        (liveWorktree l attempt.id).map (fun worktree => ⟨task, attempt, agent, worktree⟩))))

def InvestigationLifecycleBinding.binds (b : InvestigationLifecycleBinding) (a : InvestigationArtifact)
    (attemptId : String) : Bool :=
  a.runId == b.task.runId && a.taskId == b.task.externalTaskId && a.baseSha == b.attempt.baseSha &&
    b.agent.runId == b.task.runId && b.agent.taskAttemptId == some attemptId && b.agent.role == "investigator"

def recoverableTask : TaskState → Bool
  | .leased | .starting | .implementing | .needsHelp | .failed | .blocked | .stalled | .interrupted | .closed => true
  | _ => false

def InvestigationLifecycleBinding.recoverable (b : InvestigationLifecycleBinding) : Bool :=
  recoverableTask b.task.state && ["LEASED", "RUNNING", "FAILED", "COMPLETED"].contains b.attempt.state &&
    ["STARTING", "RUNNING", "FAILED", "COMPLETED"].contains b.agent.state

def InvestigationLifecycleBinding.completed (b : InvestigationLifecycleBinding) : Bool :=
  b.task.state == .closed && b.attempt.state == "COMPLETED" && b.agent.state == "COMPLETED" &&
    b.worktree.state == "PRESERVED"

/-! ## The terminal rows -/

def WorktreeRow.preserve (now : Int) (r : WorktreeRow) : WorktreeRow :=
  { r with
    state := "PRESERVED"
    preservedReason := some "immutable investigation artifact recorded; no mutable candidate exists"
    reconciledAt := some now
    version := r.version + 1 }

def AttemptRow.complete (baseSha : String) (now : Int) (a : AttemptRow) : AttemptRow :=
  { a with
    state := "COMPLETED"
    headSha := a.headSha.or (some baseSha)
    terminalClass := none
    failureReason := none
    startedAt := a.startedAt.or (some now)
    completedAt := a.completedAt.or (some now)
    updatedAt := now
    version := a.version + 1 }

def TaskRow.close (now : Int) (k : TaskRow) : TaskRow :=
  { k with state := .closed, failureReason := none, updatedAt := now, version := k.version + 1 }

def AgentRow.complete (now : Int) (g : AgentRow) : AgentRow :=
  { g with
    state := "COMPLETED"
    completedAt := g.completedAt.or (some now)
    lastHeartbeatAt := some now
    failureClass := none
    failureReason := none
    version := g.version + 1 }

def DetailsRow.record (now : Int) (d : DetailsRow) : DetailsRow :=
  { d with
    activeTurnId := none
    currentAction := some "Controller recorded the immutable investigation artifact"
    lastActivityKind := some "runtime"
    lastActivityAt := some now
    updatedAt := now }

theorem WorktreeRow.preserve_id (now : Int) (r : WorktreeRow) : (r.preserve now).id = r.id := rfl

theorem AttemptRow.complete_id (baseSha : String) (now : Int) (a : AttemptRow) : (a.complete baseSha now).id = a.id := rfl

theorem TaskRow.close_id (now : Int) (k : TaskRow) : (k.close now).id = k.id := rfl

theorem AgentRow.complete_id (now : Int) (g : AgentRow) : (g.complete now).id = g.id := rfl

theorem DetailsRow.record_id (now : Int) (d : DetailsRow) : (d.record now).agentSessionId = d.agentSessionId := rfl

def LifecycleTables.complete (l : LifecycleTables) (worktreeId attemptId taskId agentId deadlineKey baseSha : String)
    (now : Int) : LifecycleTables where
  worktrees := l.worktrees.update (fun r => r.id == worktreeId) (WorktreeRow.preserve now) (WorktreeRow.preserve_id now)
  attempts := l.attempts.update (fun a => a.id == attemptId) (AttemptRow.complete baseSha now)
    (AttemptRow.complete_id baseSha now)
  tasks := l.tasks.update (fun k => k.id == taskId) (TaskRow.close now) (TaskRow.close_id now)
  agents := l.agents.update (fun g => g.id == agentId) (AgentRow.complete now) (AgentRow.complete_id now)
  details := l.details.update (fun d => d.agentSessionId == agentId) (DetailsRow.record now) (DetailsRow.record_id now)
  metadata := l.metadata.delete (fun m => m.key == deadlineKey)

/-! ## Finishing -/

/-- What `finalize_investigation_artifact_lifecycle` is given. -/
structure FinalizeRequest where
  artifact : InvestigationArtifact
  taskId : String
  attemptId : String
  agentId : String
  deadlineKey : String

def persistedArtifact (w : Wire) (t : InvestigationTables) (q : FinalizeRequest) :
    Except StoreError InvestigationArtifact := do
  q.artifact.validate w
  ensure (q.artifact.attemptId == q.attemptId)
    (.conflict "investigation artifact does not bind the requested task attempt")
  let row ← okOr (t.artifacts.get q.artifact.artifactId) (.notFound q.artifact.artifactId)
  let persisted ← Control.checkedArtifact w row
  ensure (persisted == q.artifact)
    (.conflict "persisted investigation artifact differs from the controller-validated artifact")
  return persisted

/-- The rows of the request, bound to the artifact and in states that can be finished. -/
def boundLifecycle (l : LifecycleTables) (persisted : InvestigationArtifact) (q : FinalizeRequest) :
    Except StoreError InvestigationLifecycleBinding := do
  let b ← okOr (lifecycleBinding l q.taskId q.attemptId q.agentId) (.conflict
    "investigation lifecycle no longer has the exact task, attempt, agent, and worktree binding")
  ensure (b.binds persisted q.attemptId)
    (.conflict "investigation artifact lifecycle binding differs from persisted controller custody")
  ensure b.recoverable (.conflict "investigation artifact cannot recover an unrelated lifecycle state")
  return b

def recordReceipts (events : List SourceEvent) (persisted : InvestigationArtifact) (q : FinalizeRequest) (runId : String)
    (there : Bool) (now : Int) : Except StoreError (List SourceEvent) :=
  if there then .ok events
  else do
    let events ← recordInvestigationCompletionEvent events runId "agent" q.agentId agentReceiptType
      (agentReceipt persisted q.taskId q.attemptId) now
    recordInvestigationCompletionEvent events runId "run" runId runReceiptType
      (runReceipt persisted q.taskId q.attemptId) now

def finalizeBody (w : Wire) (q : FinalizeRequest) (now : Int) (t : CompletionTables) :
    Except StoreError (Unit × CompletionTables) := do
  let persisted ← persistedArtifact w t.investigations q
  let b ← boundLifecycle t.lifecycle persisted q
  let runId := b.task.runId
  let deadlinePresent := (t.lifecycle.metadata.get q.deadlineKey).isSome
  let agentReceiptExists ← investigationCompletionEventExists t.events runId "agent" q.agentId agentReceiptType
    (agentReceipt persisted q.taskId q.attemptId)
  let runReceiptExists ← investigationCompletionEventExists t.events runId "run" runId runReceiptType
    (runReceipt persisted q.taskId q.attemptId)
  if b.completed then do
    ensure (!deadlinePresent) (.conflict "terminal investigation lifecycle retains its deadline metadata")
    ensure (agentReceiptExists && runReceiptExists)
      (.conflict "terminal investigation lifecycle is missing an atomic completion receipt")
    return ((), t)
  else do
    ensure (agentReceiptExists == runReceiptExists)
      (.conflict "incomplete investigation lifecycle has only a partial completion receipt")
    let events ← recordReceipts t.events persisted q runId agentReceiptExists now
    return ((), { t with
      lifecycle := t.lifecycle.complete b.worktree.id q.attemptId q.taskId q.agentId q.deadlineKey persisted.baseSha now
      events := events })

def finalizeInvestigationArtifactLifecycle (w : Wire) (q : FinalizeRequest) (now : Int) : Call CompletionTables Unit :=
  transaction (finalizeBody w q now)

end Completion
end Bildr
