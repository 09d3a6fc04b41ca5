import Bildr.Progress
import Bildr.Reconciliation
/-!
# Supervision — decisions, actions and expert consultations

A review of a snapshot ends in one decision; its actions are proposals.  A decision that a later material event has
overtaken is stored as stale, with its actions (`recordCurrentSupervisorDecision`).  An action runs through policy and
execution under guarded updates; an accepted request for an expert owns one expert request, which is bound to a session,
started, and finished or answered.  Digest columns are left out: a stored row is the row that was written.
-/
namespace Bildr
namespace Control

open Json (Value)

/-! ## Material events -/

/-- `material_trigger`: what wakes the supervisor, by the type of the event and for one type by its payload. -/
def materialTrigger (e : SourceEvent) : Option String :=
  if e.eventType == "run.lifecycle.transitioned" && (e.payload.get "next_state").bind Value.asStr == some "EXECUTING" then
    some "run_execution_started"
  else if ["task.start_failed", "agent.governor.warm_continuation_failed"].contains e.eventType then some "attempt_failed"
  else if e.eventType == "task.governor.candidate_recovery_deferred" then some "task_needs_help"
  else if e.eventType == "agent.native_subagent.terminal" then some "attempt_interrupted"
  else if e.eventType == "task.verified" then some "verifier_completed"
  else if e.eventType == "run.integration.prepared" then some "validation_completed"
  else if e.eventType == "run.final_audit.rejected" then some "attempt_failed"
  else if e.eventType == "task.github_resource_recovered" then some "dependency_unblocked"
  else if ["run.token_budget.reached", "agent.governor.budget_hard_stop", "agent.native_subagent.budget_hard_stop",
      "agent.run_budget.hard_stop", "agent.session_budget.hard_stop"].contains e.eventType then
    some "budget_boundary_crossed"
  else if ["run.plan.revision_requested", "run.plan.review_resume_requested",
      "run.supervision.operator_review_requested"].contains e.eventType then some "operator_steered"
  else if e.eventType == "run.supervision.expert_completed" then some "expert_completed"
  else if e.eventType == "run.supervision.expert_failed" then some "expert_failed"
  else if conditionEvents.contains e.eventType then some "external_condition_changed"
  else if ["task.governor.candidate_materialized", "run.final_audit.accepted"].contains e.eventType then
    some "agent_completed"
  else none

def decisionEventTypes : List String :=
  ["run.lifecycle.transitioned", "task.start_failed", "agent.governor.warm_continuation_failed",
    "task.governor.candidate_recovery_deferred", "agent.native_subagent.terminal", "task.verified",
    "run.integration.prepared", "run.final_audit.rejected", "task.github_resource_recovered", "run.token_budget.reached",
    "agent.governor.budget_hard_stop", "agent.native_subagent.budget_hard_stop", "agent.run_budget.hard_stop",
    "agent.session_budget.hard_stop", "run.plan.revision_requested", "run.plan.review_resume_requested",
    "run.supervision.operator_review_requested", "task.governor.candidate_materialized", "run.final_audit.accepted"]

/-! ## Rows -/

inductive SupervisorReviewState
  | starting | running | completed | failed | stale
deriving DecidableEq, Repr

structure SupervisorReview where
  id : String
  runId : String
  snapshotId : String
  agentSessionId : String
  expectedDecisionId : String
  state : SupervisorReviewState
  completedAt : Option Int
  failureReason : Option String
deriving DecidableEq

inductive PolicyState
  | advisory | stale
deriving DecidableEq, Repr

structure SupervisorDecision where
  id : String
  reviewId : String
  runId : String
  snapshotId : String
  agentSessionId : String
  policyState : PolicyState
  payload : Value
  byteLength : Nat
  createdAt : Int
deriving DecidableEq

inductive SupervisorActionKind
  | wait | continueAttempt | steerActiveTurn | startFollowupTurn | retryFreshAttempt | spawnExplorer | spawnReviewer
  | rerouteAttempt | requestExpert | requestReplan | requestVerification | queueIntegration | cancelAttempt | pauseForHuman
  | stopRun
deriving DecidableEq, Repr

def SupervisorActionKind.name : SupervisorActionKind → String
  | .wait                => "wait"
  | .continueAttempt     => "continue_attempt"
  | .steerActiveTurn     => "steer_active_turn"
  | .startFollowupTurn   => "start_followup_turn"
  | .retryFreshAttempt   => "retry_fresh_attempt"
  | .spawnExplorer       => "spawn_explorer"
  | .spawnReviewer       => "spawn_reviewer"
  | .rerouteAttempt      => "reroute_attempt"
  | .requestExpert       => "request_expert"
  | .requestReplan       => "request_replan"
  | .requestVerification => "request_verification"
  | .queueIntegration    => "queue_integration"
  | .cancelAttempt       => "cancel_attempt"
  | .pauseForHuman       => "pause_for_human"
  | .stopRun             => "stop_run"

def SupervisorActionKind.all : List SupervisorActionKind :=
  [.wait, .continueAttempt, .steerActiveTurn, .startFollowupTurn, .retryFreshAttempt, .spawnExplorer, .spawnReviewer,
    .rerouteAttempt, .requestExpert, .requestReplan, .requestVerification, .queueIntegration, .cancelAttempt, .pauseForHuman,
    .stopRun]

def SupervisorActionKind.ofName (name : String) : Option SupervisorActionKind :=
  SupervisorActionKind.all.find? (fun k => k.name == name)

inductive SupervisorActionState
  | proposed | policyAccepted | policyRejected | executing | succeeded | failed | stale
deriving DecidableEq, Repr

def SupervisorActionState.isHeld (s : SupervisorActionState) : Bool :=
  [SupervisorActionState.policyAccepted, .executing].contains s

structure SupervisorAction where
  id : String
  decisionId : String
  runId : String
  snapshotId : String
  proposalActionId : String
  kind : SupervisorActionKind
  target : Value
  proposal : Value
  dedupeKey : String
  state : SupervisorActionState
  policyReason : Option String
  executionReceipt : Option Value
  createdAt : Int
  evaluatedAt : Option Int
  executionStartedAt : Option Int
  completedAt : Option Int
deriving DecidableEq

/-- The states a request can be in; no call writes the other names of the column. -/
inductive ExpertRequestState
  | queued | running | completed | failed | inconclusive | canceled | stale
deriving DecidableEq, Repr

def ExpertRequestState.isActive (s : ExpertRequestState) : Bool := [ExpertRequestState.queued, .running].contains s

def ExpertRequestState.isAnswered (s : ExpertRequestState) : Bool :=
  [ExpertRequestState.completed, .inconclusive].contains s

structure ExpertRequest where
  id : String
  actionId : String
  decisionId : String
  runId : String
  snapshotId : String
  signature : String
  state : ExpertRequestState
  payload : Value
  requestedModel : String
  requestedEffort : String
  expiresAt : Int
  createdAt : Int
  startedAt : Option Int
  completedAt : Option Int
  failureReason : Option String
  agentSessionId : Option String
deriving DecidableEq

structure ExpertResponse where
  id : String
  requestId : String
  runId : String
  snapshotId : String
  payload : Value
  byteLength : Nat
  createdAt : Int
deriving DecidableEq

/-- `agent_sessions`: the run and the role of a session. -/
structure AgentRole where
  id : String
  runId : String
  role : String
deriving DecidableEq

structure SupervisionTables where
  events : List SourceEvent
  agents : Table AgentRole.id
  reviews : Table SupervisorReview.id
  decisions : Table SupervisorDecision.id
  actions : Table SupervisorAction.id
  requests : Table ExpertRequest.id
  responses : Table ExpertResponse.id

/-! ## Texts -/

def boundedText (value : String) (maximum : Nat) (field : String) : Except StoreError String := do
  ensure (!(Session.trim value).isEmpty && decide ((Session.trim value).toList.length ≤ maximum))
    (.validation (field ++ " is invalid"))
  return Session.trim value

def exactSha256 (value field : String) : Except StoreError String := do
  ensure (Improvement.isLowerHex value 64) (.validation (field ++ " must be lowercase SHA-256"))
  return value

def textField (v : Value) (key : String) : Option String := (v.get key).bind Value.asStr

/-! ## Decisions -/

def laterEvents (events : List SourceEvent) (runId : String) (cursor : Int) : List SourceEvent :=
  events.filter (fun e => decide (e.runId = some runId) && decide (cursor < (e.id : Int)))

def decisionBound (payload : Value) (review : SupervisorReview) : Bool :=
  textField payload "schema" == some "harness.supervisor-decision.v1" &&
    textField payload "decision_id" == some review.expectedDecisionId &&
    textField payload "snapshot_id" == some review.snapshotId && textField payload "run_id" == some review.runId

/-- The query asks for some types of events only; the caller's predicate looks at what it finds. -/
def decisionPolicyState (t : SupervisionTables) (runId : String) (cursor : Int) (isMaterial : SourceEvent → Bool) :
    PolicyState :=
  if ((laterEvents t.events runId cursor).filter (fun e => decisionEventTypes.contains e.eventType)).any isMaterial then
    .stale
  else .advisory

def actionState : PolicyState → SupervisorActionState
  | .stale    => .stale
  | .advisory => .proposed

def actionProposal (w : Wire) (d : SupervisorDecision) (id : String) (action : Value) :
    Except StoreError SupervisorAction := do
  ensure (isObject action) (.validation "supervisor decision action must be an object")
  let name ← okOr (textField action "action_id") (.validation "supervisor action lacks action_id")
  let proposalActionId ← boundedText name 128 "supervisor action id"
  let kindName ← okOr (textField action "kind") (.validation "supervisor action lacks kind")
  let kind ← okOr (SupervisorActionKind.ofName kindName)
    (.validation ("supervisor action " ++ proposalActionId ++ " has an unknown kind"))
  let target ← okOr (action.get "target") (.validation "supervisor action lacks target")
  let key ← okOr (textField action "dedupe_key") (.validation "supervisor action lacks dedupe key")
  let dedupeKey ← boundedText key 256 "supervisor action dedupe key"
  ensure (decide (w.byteLength target ≤ 16384) && decide (w.byteLength action ≤ 65536))
    (.validation "supervisor action proposal exceeds its bounded custody limit")
  return ⟨id, d.id, d.runId, d.snapshotId, proposalActionId, kind, target, action, dedupeKey, actionState d.policyState, none,
    none, d.createdAt, none, none, none⟩

/-- `UNIQUE(decision_id, proposal_action_id)`. -/
def insertProposal (t : Table SupervisorAction.id) (a : SupervisorAction) : Except StoreError (Table SupervisorAction.id) := do
  require (!t.rows.any (fun r => r.decisionId == a.decisionId && r.proposalActionId == a.proposalActionId))
  insertRow t a

/-- The proposals one after another, the `k`-th under the `k`-th drawn id. -/
def insertProposals (w : Wire) (d : SupervisorDecision) (draw : Nat → String) :
    Nat → List Value → Table SupervisorAction.id → Except StoreError (Table SupervisorAction.id)
  | _, [], t      => .ok t
  | k, v :: vs, t => do
    let a ← actionProposal w d (draw k) v
    let t ← insertProposal t a
    insertProposals w d draw (k + 1) vs t

def insertSupervisorActionProposals (w : Wire) (d : SupervisorDecision) (draw : Nat → String)
    (t : Table SupervisorAction.id) : Except StoreError (Table SupervisorAction.id) :=
  match d.payload.get "actions" with
  | none         => .ok t
  | some actions => do
    let actions ← okOr actions.asArray (.validation "supervisor decision actions must be an array")
    ensure (!actions.isEmpty && decide (actions.length ≤ 50)) (.validation "supervisor decision action count is invalid")
    insertProposals w d draw 0 actions t

def SupervisorReviewState.isOpen (s : SupervisorReviewState) : Bool :=
  [SupervisorReviewState.starting, .running].contains s

def SupervisorReview.ended (r : SupervisorReview) (policy : PolicyState) (now : Int) : SupervisorReview :=
  { r with state := if policy = .stale then .stale else .completed, completedAt := some now, failureReason := none }

def decisionBody (w : Wire) (reviewId : String) (cursor : Int) (payload : Value) (isMaterial : SourceEvent → Bool)
    (draw : Nat → String) (now : Int) (t : SupervisionTables) :
    Except StoreError (SupervisorDecision × SupervisionTables) := do
  ensure (!(w.byteLength payload == 0) && decide (w.byteLength payload ≤ 262144))
    (.validation "supervisor decision byte length is invalid")
  let review ← okOr (t.reviews.get reviewId) (.notFound ("supervisor review " ++ reviewId))
  ensure review.state.isOpen (.conflict ("supervisor review " ++ reviewId ++ " is not active"))
  ensure (decisionBound payload review)
    (.validation "supervisor decision does not match its immutable review envelope")
  let policy := decisionPolicyState t review.runId cursor isMaterial
  let d : SupervisorDecision := ⟨review.expectedDecisionId, review.id, review.runId, review.snapshotId, review.agentSessionId,
    policy, payload, w.byteLength payload, now⟩
  require (!t.decisions.rows.any (fun r => r.reviewId == review.id))
  let decisions ← insertRow t.decisions d
  let actions ← insertSupervisorActionProposals w d draw t.actions
  let reviews := t.reviews.update (fun r => r.id == review.id) (fun r => r.ended policy now) (fun _ => rfl)
  return (d, { t with decisions := decisions, actions := actions, reviews := reviews })

def recordCurrentSupervisorDecision (w : Wire) (reviewId : String) (cursor : Int) (payload : Value)
    (isMaterial : SourceEvent → Bool) (draw : Nat → String) (now : Int) : Call SupervisionTables SupervisorDecision :=
  transaction (decisionBody w reviewId cursor payload isMaterial draw now)

def laterMaterialEventExists (t : SupervisionTables) (runId : String) (cursor : Int) (isMaterial : SourceEvent → Bool) :
    Bool :=
  decide (10000 < ((laterEvents t.events runId cursor).take 10001).length) ||
    ((laterEvents t.events runId cursor).take 10001).any isMaterial

/-! ## Actions -/

/-- `UPDATE … WHERE id=… AND state IN (…)`: the row must be in one of the states, and two actions of a run under one dedupe
key are never held together. -/
def updateAction (t : SupervisionTables) (id : String) (states : List SupervisorActionState)
    (f : SupervisorAction → SupervisorAction) (hf : ∀ a, (f a).id = a.id) (why : String) :
    Except StoreError (SupervisorAction × SupervisionTables) := do
  let a ← okOr ((t.actions.get id).filter (fun a => states.contains a.state)) (.conflict why)
  require (!(f a).state.isHeld || !t.actions.rows.any (fun r => !(r.id == id) && r.runId == (f a).runId &&
    r.dedupeKey == (f a).dedupeKey && r.state.isHeld))
  return (f a, { t with actions := t.actions.update (fun r => r.id == id) f hf })

def SupervisorAction.judged (a : SupervisorAction) (state : SupervisorActionState) (reason : String) (now : Int) :
    SupervisorAction := { a with state := state, policyReason := some reason, evaluatedAt := some now }

def SupervisorAction.done (a : SupervisorAction) (state : SupervisorActionState) (receipt : Value) (now : Int) :
    SupervisorAction := { a with state := state, executionReceipt := some receipt, completedAt := some now }

def evaluateSupervisorAction (id : String) (accepted : Bool) (reason : String) (now : Int) :
    Call SupervisionTables SupervisorAction := transaction (fun t => do
  let reason ← boundedText reason 4000 "supervisor action policy reason"
  updateAction t id [.proposed] (fun a => a.judged (if accepted then .policyAccepted else .policyRejected) reason now)
    (fun _ => rfl) ("supervisor action " ++ id ++ " is not pending policy evaluation"))

def staleSupervisorAction (id : String) (reason : String) (now : Int) : Call SupervisionTables SupervisorAction :=
  transaction (fun t => do
    let reason ← boundedText reason 4000 "supervisor action stale reason"
    updateAction t id [.proposed, .policyAccepted] (fun a => a.judged .stale reason now) (fun _ => rfl)
      ("supervisor action " ++ id ++ " is not eligible to become stale"))

def beginSupervisorAction (id : String) (now : Int) : Call SupervisionTables SupervisorAction := transaction (fun t =>
  updateAction t id [.policyAccepted] (fun a => { a with state := .executing, executionStartedAt := some now }) (fun _ => rfl)
    ("supervisor action " ++ id ++ " is not policy-accepted"))

def completeSupervisorAction (w : Wire) (id : String) (succeeded : Bool) (receipt : Value) (now : Int) :
    Call SupervisionTables SupervisorAction := transaction (fun t => do
  ensure (!(w.byteLength receipt == 0) && decide (w.byteLength receipt ≤ 65536))
    (.validation "supervisor action receipt exceeds its bounded custody limit")
  updateAction t id [.executing] (fun a => a.done (if succeeded then .succeeded else .failed) receipt now) (fun _ => rfl)
    ("supervisor action " ++ id ++ " is not executing"))

/-! ## Expert requests -/

structure NewExpertRequest where
  id : String
  actionId : String
  eventCursor : Int
  signature : String
  payload : Value
  requestedModel : String
  requestedEffort : String
  expiresAtMs : Int
  maxCompletedPerSignature : Nat

/-- The unique indexes over active requests, by run and by signature, and over the action of a request. -/
def insertExpertRequest (t : Table ExpertRequest.id) (r : ExpertRequest) : Except StoreError (Table ExpertRequest.id) := do
  require (!t.rows.any (fun q => q.actionId == r.actionId))
  require (!t.rows.any (fun q => q.state.isActive && (q.runId == r.runId || q.signature == r.signature)))
  insertRow t r

def answeredCount (t : SupervisionTables) (runId signature : String) : Nat :=
  t.requests.rows.countP (fun q => q.runId == runId && q.signature == signature && q.state.isAnswered)

/-- `checkedAt` is the clock when the expiry is checked, `now` when the row is written. -/
def expertRequestBody (w : Wire) (input : NewExpertRequest) (isMaterial : SourceEvent → Bool) (checkedAt now : Int)
    (t : SupervisionTables) : Except StoreError (ExpertRequest × SupervisionTables) := do
  let signature ← exactSha256 input.signature "expert escalation signature"
  let requestedModel ← boundedText input.requestedModel 128 "expert model"
  let requestedEffort ← boundedText input.requestedEffort 32 "expert effort"
  ensure (decide (checkedAt < input.expiresAtMs)) (.validation "expert request expiry must be in the future")
  ensure (decide (1 ≤ input.maxCompletedPerSignature) && decide (input.maxCompletedPerSignature ≤ 2))
    (.validation "expert completed-signature cap must be one or two")
  ensure (!(w.byteLength input.payload == 0) && decide (w.byteLength input.payload ≤ 131072))
    (.validation "expert request payload exceeds its bounded custody limit")
  let a ← okOr (t.actions.get input.actionId) (.notFound ("supervisor action " ++ input.actionId))
  ensure (decide (a.kind = .requestExpert) && a.state.isHeld)
    (.conflict "only a policy-accepted request_expert action may create an expert request")
  ensure (!laterMaterialEventExists t a.runId input.eventCursor isMaterial)
    (.conflict "a newer material controller event superseded the expert request snapshot")
  ensure (!t.requests.rows.any (fun q => q.runId == a.runId && q.state.isActive))
    (.conflict "an expert consultation is already active for this run")
  ensure (decide (answeredCount t a.runId signature < input.maxCompletedPerSignature))
    (.conflict "the exact expert escalation signature has reached its completed-response cap")
  let r : ExpertRequest := ⟨input.id, input.actionId, a.decisionId, a.runId, a.snapshotId, signature, .queued, input.payload,
    requestedModel, requestedEffort, input.expiresAtMs, now, none, none, none, none⟩
  let requests ← insertExpertRequest t.requests r
  return (r, { t with requests := requests })

def createExpertRequestIfMateriallyCurrent (w : Wire) (input : NewExpertRequest) (isMaterial : SourceEvent → Bool)
    (checkedAt now : Int) : Call SupervisionTables ExpertRequest :=
  transaction (expertRequestBody w input isMaterial checkedAt now)

def createExpertRequest (w : Wire) (input : NewExpertRequest) (checkedAt now : Int) : Call SupervisionTables ExpertRequest :=
  createExpertRequestIfMateriallyCurrent w input (fun _ => true) checkedAt now

/-- `UPDATE … WHERE id=… AND …`: the request must meet the guard. -/
def updateRequest (t : SupervisionTables) (id : String) (guard : ExpertRequest → Bool) (f : ExpertRequest → ExpertRequest)
    (hf : ∀ r, (f r).id = r.id) (why : String) : Except StoreError (ExpertRequest × SupervisionTables) := do
  let r ← okOr ((t.requests.get id).filter guard) (.conflict why)
  return (f r, { t with requests := t.requests.update (fun q => q.id == id) f hf })

def ExpertRequest.startable (r : ExpertRequest) (now : Int) : Bool :=
  decide (r.state = .queued) && decide (now < r.expiresAt) && r.agentSessionId.isSome

def startRequest (t : SupervisionTables) (id : String) (now : Int) : Except StoreError (ExpertRequest × SupervisionTables) :=
  updateRequest t id (fun r => r.startable now) (fun r => { r with state := .running, startedAt := some now }) (fun _ => rfl)
    ("expert request " ++ id ++ " is not queueable or has expired")

def beginExpertRequest (id : String) (now : Int) : Call SupervisionTables ExpertRequest :=
  transaction (fun t => startRequest t id now)

def beginExpertRequestIfMateriallyCurrent (id runId : String) (cursor : Int) (isMaterial : SourceEvent → Bool) (now : Int) :
    Call SupervisionTables ExpertRequest := transaction (fun t => do
  let r ← okOr (t.requests.get id) (.notFound ("expert request " ++ id))
  ensure (r.runId == runId) (.validation "expert request run does not match its current snapshot run")
  ensure (!laterMaterialEventExists t runId cursor isMaterial)
    (.conflict "a newer material controller event superseded the expert request before runtime launch")
  startRequest t id now)

def beginExpertRequestIfCurrent (id runId : String) (cursor : Int) (now : Int) : Call SupervisionTables ExpertRequest :=
  beginExpertRequestIfMateriallyCurrent id runId cursor (fun _ => true) now

def attachExpertAgent (id agentSessionId : String) : Call SupervisionTables ExpertRequest := transaction (fun t => do
  let r ← okOr (t.requests.get id) (.notFound ("expert request " ++ id))
  let agent ← okOr (t.agents.get agentSessionId) (.notFound ("agent session " ++ agentSessionId))
  ensure (agent.runId == r.runId && agent.role == "expert")
    (.validation "expert request agent must be an Expert session on the same run")
  let updated ← updateRequest t id (fun r => decide (r.state = .queued) && r.agentSessionId.isNone)
    (fun r => { r with agentSessionId := some agentSessionId }) (fun _ => rfl)
    ("expert request " ++ id ++ " is not an unbound queued request")
  require (!t.requests.rows.any (fun q => !(q.id == id) && q.agentSessionId == some agentSessionId))
  return updated)

def terminalRequestState : String → Option ExpertRequestState
  | "COMPLETED"    => some .completed
  | "FAILED"       => some .failed
  | "INCONCLUSIVE" => some .inconclusive
  | "CANCELED"     => some .canceled
  | "STALE"        => some .stale
  | _              => none

def ExpertRequest.finish (r : ExpertRequest) (state : ExpertRequestState) (now : Int) (reason : Option String) :
    ExpertRequest := { r with state := state, completedAt := some now, failureReason := reason }

def finishExpertRequest (id state : String) (failureReason : Option String) (now : Int) :
    Call SupervisionTables ExpertRequest := transaction (fun t => do
  let next ← okOr (terminalRequestState state) (.validation "expert request terminal state is invalid")
  let reason ← (match failureReason with
    | none       => .ok none
    | some value => (boundedText value 4000 "expert request failure reason").map some : Except StoreError (Option String))
  updateRequest t id (fun r => r.state.isActive) (fun r => r.finish next now reason) (fun _ => rfl)
    ("expert request " ++ id ++ " is not active"))

/-! ## Responses -/

def runningRequest (w : Wire) (id : String) (payload : Value) (t : SupervisionTables) : Except StoreError ExpertRequest := do
  ensure (!(w.byteLength payload == 0) && decide (w.byteLength payload ≤ 131072))
    (.validation "expert response payload exceeds its bounded custody limit")
  let r ← okOr (t.requests.get id) (.notFound ("expert request " ++ id))
  ensure (decide (r.state = .running) && r.agentSessionId.isSome)
    (.conflict ("expert request " ++ id ++ " is not a bound running request"))
  return r

def ExpertRequest.end (r : ExpertRequest) (state : ExpertRequestState) (now : Int) (reason : Option String) :
    ExpertRequest :=
  if r.state = .running then r.finish state now reason else r

theorem ExpertRequest.end_id (r : ExpertRequest) (state : ExpertRequestState) (now : Int) (reason : Option String) :
    (r.end state now reason).id = r.id := by
  unfold ExpertRequest.end
  split
  · rfl
  · rfl

def endRequest (t : SupervisionTables) (id : String) (state : ExpertRequestState) (now : Int) (reason : Option String) :
    SupervisionTables :=
  { t with requests := t.requests.update (fun q => q.id == id) (fun q => q.end state now reason) (fun q => q.end_id _ _ _) }

def responseBody (w : Wire) (r : ExpertRequest) (responseId : String) (payload : Value) (now : Int) (t : SupervisionTables) :
    Except StoreError (ExpertResponse × SupervisionTables) := do
  let response : ExpertResponse := ⟨responseId, r.id, r.runId, r.snapshotId, payload, w.byteLength payload, now⟩
  require (!t.responses.rows.any (fun q => q.requestId == r.id))
  let responses ← insertRow t.responses response
  return (response, { endRequest t r.id .completed now none with responses := responses })

/-- An answer to a running request.  A request that has expired is committed as stale, and the answer is refused. -/
def recordExpertResponse (w : Wire) (id responseId : String) (payload : Value) (now : Int) :
    Call SupervisionTables ExpertResponse := fun t =>
  match runningRequest w id payload t with
  | .error e => (.error e, t)
  | .ok r    =>
    if r.expiresAt ≤ now then
      (.error (.conflict ("expert request " ++ id ++ " expired before response intake")),
        endRequest t r.id .stale now (some "expert request expired before its response was accepted"))
    else transaction (responseBody w r responseId payload now) t

end Control
end Bildr
