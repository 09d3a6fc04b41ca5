import Bildr.Calls
import Bildr.Json
import Bildr.Store
/-!
# Approval — approvals and the requests that wait for them

An approval and the runtime request it answers are two rows under one key.  `createApproval` inserts both,
`decideApproval` records a decision on the approval, `markApprovalDelivered` closes both once the answer reached the
runtime or puts the approval back when it did not, `expirePendingApprovals` closes whatever a dead runtime left open.
`decideApproval` is not one transaction: it reads the approval, writes the decision and reads the approval again, each
under a lock of its own, which `DecideCall` follows step by step.
-/
namespace Bildr
namespace Approval

open Json (Value)

inductive RiskLevel
  | low | medium | high | critical
deriving DecidableEq, Repr

inductive ApprovalState
  | pending | delivering | resolved | expired
deriving DecidableEq, Repr

def ApprovalState.text : ApprovalState → String
  | .pending    => "pending"
  | .delivering => "delivering"
  | .resolved   => "resolved"
  | .expired    => "expired"

inductive RpcState
  | pending | resolved | expired
deriving DecidableEq, Repr

/-- A row of `approvals`. -/
structure ApprovalRow where
  id : String
  runId : String
  taskAttemptId : Option String
  agentSessionId : Option String
  threadId : String
  turnId : Option String
  itemId : Option String
  approvalType : String
  riskLevel : RiskLevel
  request : Value
  expectedHeadSha : Option String
  expectedWorktreeFingerprint : Option String
  state : ApprovalState
  decision : Option String
  decisionNote : Option String
  decidedBy : Option String
  createdAt : Int
  resolvedAt : Option Int
  deliveredAt : Option Int
  deliveryError : Option String
  version : Nat
deriving DecidableEq, Repr

/-- A row of `runtime_rpc_requests`. -/
structure RpcRequest where
  requestKey : String
  rpcId : Value
  method : String
  runId : String
  agentSessionId : Option String
  threadId : String
  turnId : Option String
  itemId : Option String
  payload : Value
  state : RpcState
  receivedAt : Int
  resolvedAt : Option Int
deriving DecidableEq, Repr

structure TaskAttempt where
  id : String
  taskId : String
deriving DecidableEq, Repr

structure Referenced where
  runs : List String
  agents : List String
  attempts : List TaskAttempt
  tasks : List String

structure Tables where
  referenced : Referenced
  approvals : Table ApprovalRow.id
  rpcs : Table RpcRequest.requestKey

/-! ## Creation -/

structure NewApproval where
  id : String
  runId : String
  taskAttemptId : Option String
  agentSessionId : Option String
  threadId : String
  turnId : Option String
  itemId : Option String
  approvalType : String
  riskLevel : RiskLevel
  request : Value
  expectedHeadSha : Option String
  expectedWorktreeFingerprint : Option String

def NewApproval.row (input : NewApproval) (now : Int) : ApprovalRow :=
  ⟨input.id, input.runId, input.taskAttemptId, input.agentSessionId, input.threadId, input.turnId, input.itemId,
    input.approvalType, input.riskLevel, input.request, input.expectedHeadSha, input.expectedWorktreeFingerprint,
    .pending, none, none, none, now, none, none, none, 1⟩

def NewApproval.rpc (input : NewApproval) (rpcId : Value) (now : Int) : RpcRequest :=
  ⟨input.id, rpcId, input.approvalType, input.runId, input.agentSessionId, input.threadId, input.turnId, input.itemId,
    input.request, .pending, now, none⟩

def NewApproval.refers (input : NewApproval) (w : Referenced) : Bool :=
  w.runs.contains input.runId && input.taskAttemptId.all (fun k => w.attempts.any (fun a => a.id == k)) &&
    input.agentSessionId.all w.agents.contains

def createApproval (input : NewApproval) (rpcId : Value) (now : Int) : Call Tables Unit :=
  transaction (fun t => do
    require (input.refers t.referenced)
    let approvals ← insertRow t.approvals (input.row now)
    let rpcs ← insertRow t.rpcs (input.rpc rpcId now)
    return ((), { t with approvals := approvals, rpcs := rpcs }))

/-! ## Decision -/

structure ApprovalSummary where
  id : String
  runId : String
  agentId : Option String
  taskId : Option String
  threadId : String
  turnId : Option String
  approvalType : String
  riskLevel : RiskLevel
  request : Value
  state : ApprovalState
  decision : Option String
  createdAt : Int
  resolvedAt : Option Int
  version : Nat
deriving DecidableEq, Repr

def taskOf (w : Referenced) (a : ApprovalRow) : Option String :=
  a.taskAttemptId.bind (fun k => (w.attempts.find? (fun x => x.id == k)).bind (fun x => w.tasks.find? (· == x.taskId)))

def mapApproval (w : Referenced) (a : ApprovalRow) : ApprovalSummary :=
  ⟨a.id, a.runId, a.agentSessionId, taskOf w a, a.threadId, a.turnId, a.approvalType, a.riskLevel, a.request, a.state,
    a.decision, a.createdAt, a.resolvedAt, a.version⟩

def approval (t : Tables) (id : String) : Except StoreError ApprovalSummary :=
  match t.approvals.get id with
  | some a => .ok (mapApproval t.referenced a)
  | none   => .error (.notFound ("approval " ++ id))

structure Decision where
  decision : String
  note : Option String
  actor : String
  expectedVersion : Option Nat
  now : Int

/-- The first read of `decide_approval` and its two checks. -/
def readPending (t : Tables) (id : String) (d : Decision) : Except StoreError ApprovalSummary := do
  let a ← approval t id
  ensure (decide (a.state = .pending)) (.conflict ("approval " ++ id ++ " is already " ++ a.state.text))
  ensure (!d.expectedVersion.any (fun v => v != a.version)) (.conflict ("approval " ++ id ++ " changed concurrently"))
  return a

/-- `SELECT rpc_id_json … WHERE request_key=? AND state='pending'`. -/
def pendingRpc (t : Tables) (id : String) : Option Value :=
  (t.rpcs.rows.find? (fun r => r.requestKey == id && decide (r.state = .pending))).map RpcRequest.rpcId

def sqliteVersion (version : Nat) : Except StoreError Nat :=
  ensure (fitsI64 version) (.validation "resource version exceeds SQLite range") >>= fun _ => .ok version

def decided (d : Decision) (a : ApprovalRow) : ApprovalRow :=
  { a with
    state := .delivering, decision := some d.decision, decisionNote := d.note, decidedBy := some d.actor,
    resolvedAt := some d.now, version := a.version + 1 }

theorem decided_id (d : Decision) (a : ApprovalRow) : (decided d a).id = a.id := rfl

/-- The write transaction of `decide_approval`; how many rows the update changed is not looked at. -/
def writeDecision (id : String) (d : Decision) (seen : ApprovalSummary) : Call Tables Value :=
  transaction (fun t => do
    let rpc ← queryRow (pendingRpc t id)
    let current ← sqliteVersion seen.version
    return (rpc, { t with
      approvals := t.approvals.update (fun a => a.id == id && a.version == current) (decided d) (decided_id d) }))

def decideApproval (id : String) (d : Decision) : Call Tables (ApprovalSummary × Value) := fun t =>
  match readPending t id d with
  | .error e => (.error e, t)
  | .ok seen =>
    match writeDecision id d seen t with
    | (.error e, t') => (.error e, t')
    | (.ok rpc, t')  => ((approval t' id).map (fun a => (a, rpc)), t')

/-! ## Delivery and expiry -/

def delivered (deliveryError : Option String) (now : Int) (a : ApprovalRow) : ApprovalRow :=
  { a with
    state := if deliveryError.isSome then .pending else .resolved
    deliveredAt := if deliveryError.isSome then a.deliveredAt else some now
    deliveryError := deliveryError
    version := a.version + 1 }

theorem delivered_id (deliveryError : Option String) (now : Int) (a : ApprovalRow) :
    (delivered deliveryError now a).id = a.id := rfl

def markApprovalDelivered (id : String) (deliveryError : Option String) (now : Int) : Call Tables Unit := fun t =>
  let approvals := t.approvals.update (fun a => a.id == id) (delivered deliveryError now) (delivered_id deliveryError now)
  let rpcs := if deliveryError.isSome then t.rpcs else
    t.rpcs.update (fun r => r.requestKey == id) (fun r => { r with state := .resolved, resolvedAt := some now })
      (fun _ => rfl)
  (.ok (), { t with approvals := approvals, rpcs := rpcs })

def expired (reason : String) (now : Int) (a : ApprovalRow) : ApprovalRow :=
  { a with
    state := .expired, decision := some "cancel", decisionNote := some reason, decidedBy := some "harnessd-recovery",
    resolvedAt := some now, deliveryError := some "originating App Server process is unavailable",
    version := a.version + 1 }

theorem expired_id (reason : String) (now : Int) (a : ApprovalRow) : (expired reason now a).id = a.id := rfl

def expirePendingApprovals (run reason : String) (now : Int) : Call Tables Unit := fun t =>
  (.ok (), { t with
    approvals := t.approvals.update
      (fun a => a.runId == run && (decide (a.state = .pending) || decide (a.state = .delivering))) (expired reason now)
      (expired_id reason now)
    rpcs := t.rpcs.update (fun r => r.runId == run && decide (r.state = .pending))
      (fun r => { r with state := .expired, resolvedAt := some now }) (fun _ => rfl) })

/-! ## A decision in flight -/

inductive Phase
  | start
  | read (seen : ApprovalSummary)
  | wrote (rpc : Value)
  | failed (e : StoreError)
  | ok (answer : ApprovalSummary) (rpc : Value)
deriving DecidableEq

structure DecideCall where
  id : String
  input : Decision
  phase : Phase

def next (t : Tables) (c : DecideCall) : Tables × DecideCall :=
  match c.phase with
  | .start =>
    match readPending t c.id c.input with
    | .error e => (t, { c with phase := .failed e })
    | .ok seen => (t, { c with phase := .read seen })
  | .read seen =>
    match writeDecision c.id c.input seen t with
    | (.error e, t') => (t', { c with phase := .failed e })
    | (.ok rpc, t')  => (t', { c with phase := .wrote rpc })
  | .wrote rpc =>
    match approval t c.id with
    | .error e => (t, { c with phase := .failed e })
    | .ok a    => (t, { c with phase := .ok a rpc })
  | .failed _ => (t, c)
  | .ok _ _   => (t, c)

/-- A command that waits for approval, as the store's own test creates it. -/
def commandApproval : NewApproval :=
  ⟨"approval", "run", none, none, "thread", some "turn", none, "item/commandExecution/requestApproval", .low,
    .obj [("command", .str "true")], none, none⟩

/-! ## What each step does -/

theorem approval_ok {t : Tables} {id : String} {a : ApprovalSummary} (h : approval t id = .ok a) :
    ∃ r, t.approvals.get id = some r ∧ a = mapApproval t.referenced r := by
  unfold approval at h
  cases hg : t.approvals.get id with
  | none => rw [hg] at h; cases h
  | some r => rw [hg] at h; cases h; exact ⟨r, rfl, rfl⟩

theorem readPending_ok {t : Tables} {id : String} {d : Decision} {a : ApprovalSummary} (h : readPending t id d = .ok a) :
    ∃ r, t.approvals.get id = some r ∧ r.state = .pending ∧ a = mapApproval t.referenced r := by
  unfold readPending at h
  obtain ⟨b, hb, h⟩ := bind_ok h
  obtain ⟨_, hp, h⟩ := bind_ok h
  obtain ⟨_, -, h⟩ := bind_ok h
  cases h
  obtain ⟨r, hr, rfl⟩ := approval_ok hb
  exact ⟨r, hr, of_decide_eq_true (ensure_ok hp), rfl⟩

def recordDecision (id : String) (d : Decision) (version : Nat) (t : Tables) : Tables :=
  { t with approvals := t.approvals.update (fun a => a.id == id && a.version == version) (decided d) (decided_id d) }

/-- **The write transaction** fails without effect, or updates the row if its version is the one seen. -/
theorem writeDecision_cases (id : String) (d : Decision) (seen : ApprovalSummary) (t : Tables) :
    (∃ e, writeDecision id d seen t = (.error e, t) ∧ ((pendingRpc t id).isSome && fitsI64 seen.version) = false) ∨
    ∃ rpc, pendingRpc t id = some rpc ∧ fitsI64 seen.version = true ∧
      writeDecision id d seen t = (.ok rpc, recordDecision id d seen.version t) := by
  unfold writeDecision transaction sqliteVersion recordDecision
  cases hr : pendingRpc t id with
  | none => exact Or.inl ⟨_, by simp only [hr, queryRow, okOr, error_bind]; rfl, by simp⟩
  | some rpc =>
    cases hv : fitsI64 seen.version with
    | true => exact Or.inr ⟨rpc, rfl, rfl, by simp only [hr, queryRow, okOr, ensure_true, ok_bind]; rfl⟩
    | false => exact Or.inl ⟨_, by simp only [hr, queryRow, okOr, ensure_false, ok_bind, error_bind]; rfl, by simp⟩

end Approval
end Bildr
