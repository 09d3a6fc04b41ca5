import Bildr.InvestigationCompletion
import Bildr.Projection
/-!
# ChildQuarantine — a child thread that no route admits

`quarantine_unenforceable_native_child` stops a run whose agent started a thread of its own: in one transaction it pauses
the scheduler, fails the agent and its attempt, asks for help with the task, keeps the worktrees and writes two events.
SQLite checks the columns of a statement when it prepares it, whatever rows the statement meets, so the model carries the
columns the migrations give each table.
-/
namespace Bildr
namespace Quarantine

open Completion (LifecycleTables TaskRow AttemptRow AgentRow DetailsRow WorktreeRow)
open Session (RawEventInput RawEvent Journal DomainEvent)
open Json (Value)

inductive QuarantineError
  | store (e : StoreError)
  | noSuchColumn (name : String)
deriving DecidableEq, Repr

/-! ## The tables -/

inductive UpdatedTable
  | runs | agentSessions | agentRuntimeDetails | taskAttempts | tasks | worktrees
deriving DecidableEq, Repr

def UpdatedTable.columns : UpdatedTable → List String
  | .runs => ["id", "repository_id", "title", "requested_objective", "mode", "publication_mode", "state", "phase",
      "base_ref", "base_sha", "integration_branch", "integration_sha", "authority_digest", "profile_digest",
      "codex_version", "protocol_schema_sha256", "requested_by", "scheduler_paused", "run_token_budget", "created_at",
      "updated_at", "started_at", "completed_at", "failure_class", "failure_reason", "version", "pinned"]
  | .agentSessions => ["id", "run_id", "task_attempt_id", "parent_agent_session_id", "runtime_kind", "role", "nickname",
      "requested_model", "effective_model", "requested_reasoning_effort", "effective_reasoning_effort", "sandbox_mode",
      "approval_policy", "cwd", "state", "current_goal", "goal_status", "token_budget", "goal_tokens_used",
      "goal_time_used_seconds", "started_at", "completed_at", "last_heartbeat_at", "failure_class", "failure_reason",
      "version", "codex_account_id"]
  | .agentRuntimeDetails => ["agent_session_id", "active_turn_id", "current_action", "last_activity_kind",
      "last_activity_at", "protocol_request_id", "updated_at", "context_strategy", "context_source_attempt_id",
      "context_reuse_reason"]
  | .taskAttempts => ["id", "task_id", "attempt_number", "state", "task_packet_json", "task_packet_sha256", "base_sha",
      "head_sha", "requested_model_route", "token_budget", "tool_budget", "diff_file_budget", "diff_line_budget",
      "started_at", "completed_at", "terminal_class", "failure_reason", "created_at", "updated_at", "version"]
  | .tasks => ["id", "run_id", "plan_revision_id", "external_task_id", "title", "objective", "priority", "owner_profile",
      "reviewer_profile", "state", "current_attempt_number", "created_at", "updated_at", "version", "failure_reason"]
  | .worktrees => ["id", "run_id", "task_attempt_id", "kind", "path", "branch", "base_sha", "head_sha", "state",
      "preserved_reason", "detected_external_mutation", "created_at", "reconciled_at", "removed_at", "version"]

structure RunRow where
  id : String
  schedulerPaused : Bool
  updatedAt : Int
  version : Nat

structure ContainmentTables where
  runs : Table RunRow.id
  lifecycle : LifecycleTables
  journal : Journal
  domainEvents : List DomainEvent
  checkpoint : Option Nat

/-- What is asked: an agent, the thread it started, and the event that said so. -/
structure QuarantineCall where
  agentId : String
  childThreadId : String
  sourceKind : String
  direction : String
  rawEvent : RawEventInput
  now : Int

/-- The run, whether the rejection is new, and the journalled event. -/
structure Reply where
  runId : String
  recorded : Bool
  rawId : Nat
deriving DecidableEq, Repr

/-! ## The statements -/

def prepare (table : UpdatedTable) (names : List String) : Except QuarantineError Unit :=
  match names.find? (fun name => !table.columns.contains name) with
  | some name => .error (.noSuchColumn name)
  | none      => .ok ()

/-- The event of the journal that has the thread and the sequence of the input. -/
def journalled (t : ContainmentTables) (input : RawEventInput) : Option RawEvent :=
  match input.threadId, input.sourceSequence with
  | some thread, some sequence =>
    t.journal.events.find? (fun e => e.threadId == some thread && e.sourceSequence == some sequence)
  | _, _ => none

def appendRawEvent (t : ContainmentTables) (input : RawEventInput) (now : Int) :
    Except QuarantineError (Nat × ContainmentTables) :=
  if (journalled t input).isNone && input.runId.all (fun r => (t.runs.get r).isSome) &&
      input.agentSessionId.all (fun a => (t.lifecycle.agents.get a).isSome) then
    .ok (t.journal.sequence + 1, { t with journal := t.journal.append input now })
  else if input.threadId.isSome && input.sourceSequence.isSome then do
    let e ← (queryRow (journalled t input)).mapError QuarantineError.store
    return (e.id, t)
  else .error (.store (.conflict "duplicate raw event"))

def touchCheckpoint (t : ContainmentTables) (rawId : Nat) : ContainmentTables :=
  { t with checkpoint := some (max (t.checkpoint.getD 0) rawId) }

def insertDomainEvent (e : DomainEvent) (t : ContainmentTables) : Except QuarantineError ContainmentTables := do
  ensure (!t.domainEvents.any (Session.sameEvent e) && e.runId.all (fun r => (t.runs.get r).isSome))
    (.store (.sqlite .constraintViolation))
  return { t with domainEvents := t.domainEvents ++ [e] }

/-- An `UPDATE` that names these columns. -/
def execute (table : UpdatedTable) (names : List String) (update : ContainmentTables → ContainmentTables)
    (t : ContainmentTables) : Except QuarantineError ContainmentTables := do
  prepare table names
  return update t

/-- `scheduler_paused=1`, of a run that is not paused. -/
def pauseScheduler (runId : String) (now : Int) (t : ContainmentTables) : ContainmentTables :=
  let runs := t.runs.update (fun r => r.id == runId && !r.schedulerPaused)
    (fun r => { r with schedulerPaused := true, updatedAt := now, version := r.version + 1 }) (fun _ => rfl)
  { t with runs := runs }

def failAgent (agentId reason : String) (now : Int) (t : ContainmentTables) : ContainmentTables :=
  let agents := t.lifecycle.agents.update (fun g => g.id == agentId)
    (fun g => { g with
      state := "FAILED", lastHeartbeatAt := some now, completedAt := some now, failureClass := some "protocol_error",
      failureReason := some reason, version := g.version + 1 })
    (fun _ => rfl)
  { t with lifecycle := { t.lifecycle with agents := agents } }

def describeAgent (agentId : String) (now : Int) (t : ContainmentTables) : ContainmentTables :=
  let details := t.lifecycle.details.update (fun d => d.agentSessionId == agentId)
    (fun d => { d with
      currentAction := some "Qwodex native child detected; parent quarantined", lastActivityKind := some "runtime",
      lastActivityAt := some now, updatedAt := now })
    (fun _ => rfl)
  { t with lifecycle := { t.lifecycle with details := details } }

def failAttempt (attemptId reason : String) (now : Int) (t : ContainmentTables) : ContainmentTables :=
  let attempts := t.lifecycle.attempts.update (fun a => a.id == attemptId)
    (fun a => { a with
      state := "FAILED", terminalClass := some "protocol_error", failureReason := some reason,
      startedAt := a.startedAt.or (some now), completedAt := some now, updatedAt := now, version := a.version + 1 })
    (fun _ => rfl)
  { t with lifecycle := { t.lifecycle with attempts := attempts } }

/-- `state NOT IN ('CLOSED','FAILED','SUPERSEDED','CANCELED')`. -/
def terminalTask (s : TaskState) : Bool := [TaskState.closed, .failed, .superseded, .canceled].contains s

def askForHelp (taskId reason : String) (now : Int) (t : ContainmentTables) : ContainmentTables :=
  let tasks := t.lifecycle.tasks.update (fun k => k.id == taskId && !terminalTask k.state)
    (fun k => { k with
      state := .needsHelp, failureReason := some reason, updatedAt := now, version := k.version + 1 })
    (fun _ => rfl)
  { t with lifecycle := { t.lifecycle with tasks := tasks } }

/-- The column `updated_at` that the statement also sets is not one of the table. -/
def preserveWorktrees (attemptId reason : String) (now : Int) (t : ContainmentTables) : ContainmentTables :=
  let worktrees := t.lifecycle.worktrees.update (fun w => w.taskAttemptId == some attemptId && w.state != "REMOVED")
    (fun w => { w with
      state := "PRESERVED", preservedReason := some reason, reconciledAt := some now, version := w.version + 1 })
    (fun _ => rfl)
  { t with lifecycle := { t.lifecycle with worktrees := worktrees } }

/-! ## The call -/

def rejection (childThreadId sourceKind : String) : String :=
  "Qwodex single-model containment rejected unbound native child thread " ++ childThreadId ++ " (" ++ sourceKind ++ ")"

def rejected (reason : String) (g : AgentRow) : Bool :=
  g.state == "FAILED" && g.failureClass == some "protocol_error" && g.failureReason == some reason

def containAttempt (attemptId reason : String) (now : Int) (t : ContainmentTables) :
    Except QuarantineError (Option String × ContainmentTables) := do
  let t ← execute .taskAttempts ["state", "terminal_class", "failure_reason", "started_at", "completed_at", "updated_at",
    "version", "id"] (failAttempt attemptId reason now) t
  match t.lifecycle.attempts.get attemptId with
  | some attempt => do
    let t ← execute .tasks ["state", "failure_reason", "updated_at", "version", "id"]
      (askForHelp attempt.taskId reason now) t
    let t ← execute .worktrees ["state", "preserved_reason", "reconciled_at", "updated_at", "version", "task_attempt_id"]
      (preserveWorktrees attemptId reason now) t
    return (some attempt.taskId, t)
  | none => return (none, t)

def containWork (attemptId : Option String) (reason : String) (now : Int) (t : ContainmentTables) :
    Except QuarantineError (Option String × ContainmentTables) :=
  match attemptId with
  | some id => containAttempt id reason now t
  | none    => .ok (none, t)

def textOrNull : Option String → Value
  | some text => .str text
  | none      => .null

def containmentPayload (c : QuarantineCall) (attemptId taskId : Option String) : Value :=
  .obj [("schema", .str "harness.qwodex-native-child-containment.v1"), ("agent_id", .str c.agentId),
    ("child_thread_id", .str c.childThreadId), ("source_kind", .str c.sourceKind), ("attempt_id", textOrNull attemptId),
    ("task_id", textOrNull taskId), ("scheduler_paused", .bool true),
    ("reason", .str (rejection c.childThreadId c.sourceKind))]

def agentEvent (runId agentId : String) (payload : Value) (rawId : Nat) : DomainEvent :=
  ⟨some runId, "agent", agentId, "agent.qwodex.native_child.quarantined", payload, some rawId⟩

def runEvent (runId : String) (payload : Value) (rawId : Nat) : DomainEvent :=
  ⟨some runId, "run", runId, "run.qwodex.native_child.quarantined", payload, some rawId⟩

def containAgent (c : QuarantineCall) (runId : String) (t : ContainmentTables) :
    Except QuarantineError ContainmentTables := do
  let t ← execute .runs ["scheduler_paused", "updated_at", "version", "id"] (pauseScheduler runId c.now) t
  let t ← execute .agentSessions ["state", "last_heartbeat_at", "completed_at", "failure_class", "failure_reason",
    "version", "id"] (failAgent c.agentId (rejection c.childThreadId c.sourceKind) c.now) t
  execute .agentRuntimeDetails ["current_action", "last_activity_kind", "last_activity_at", "updated_at",
    "agent_session_id"] (describeAgent c.agentId c.now) t

def record (c : QuarantineCall) (g : AgentRow) (rawId : Nat) (t : ContainmentTables) :
    Except QuarantineError (Reply × ContainmentTables) := do
  let t ← containAgent c g.runId t
  let work ← containWork g.taskAttemptId (rejection c.childThreadId c.sourceKind) c.now t
  let payload := containmentPayload c g.taskAttemptId work.1
  let t ← insertDomainEvent (agentEvent g.runId c.agentId payload rawId) work.2
  let t ← insertDomainEvent (runEvent g.runId payload rawId) t
  return (⟨g.runId, true, rawId⟩, touchCheckpoint t rawId)

def boundTo (c : QuarantineCall) (g : AgentRow) : Bool :=
  c.rawEvent.runId == some g.runId && c.rawEvent.agentSessionId == some c.agentId && c.direction == "inbound" &&
    c.rawEvent.method != ""

def quarantineBody (c : QuarantineCall) (t : ContainmentTables) : Except QuarantineError (Reply × ContainmentTables) := do
  ensure (Session.trim c.childThreadId != "" && decide (c.childThreadId.toList.length ≤ 512))
    (.store (.validation "native child thread id is missing or exceeds 512 characters"))
  ensure (["thread_started", "subagent_activity"].contains c.sourceKind)
    (.store (.validation "native child quarantine source is unknown"))
  let g ← okOr (t.lifecycle.agents.get c.agentId) (.store (.notFound ("agent " ++ c.agentId)))
  ensure (boundTo c g) (.store (.validation "native-child raw event is not bound to the quarantined parent"))
  let raw ← appendRawEvent t c.rawEvent c.now
  if rejected (rejection c.childThreadId c.sourceKind) g then
    return (⟨g.runId, false, raw.1⟩, touchCheckpoint raw.2 raw.1)
  else record c g raw.1 raw.2

def quarantineUnenforceableNativeChild (c : QuarantineCall) (t : ContainmentTables) :
    Except QuarantineError Reply × ContainmentTables :=
  match quarantineBody c t with
  | .ok (reply, t') => (.ok reply, t')
  | .error e        => (.error e, t)

end Quarantine
end Bildr
