import Bildr.Session
import Mathlib.Data.String.Basic
/-!
# TurnStart — pending turn starts

Before `turn/start` is sent its receipt is stored under a key of the agent and journalled.  The acknowledgement, the
notification, the containment and the resolution of the start race for that receipt; each call is one transaction.
-/
namespace Bildr
namespace Session

open Json (Value)

def pendingKey (agent : String) : String := "pending-turn-start:" ++ agent

def containmentKey (agent : String) : String := "pending-turn-start-containment:" ++ agent

section Calls
-- the hex SHA-256 of the serialized receipt
variable (digest : Value → String)

def aggregateId (agent : String) (receipt : Value) : String := agent ++ ":" ++ digest receipt

inductive StartEvent
  | pending | containmentInitiated | resolved
deriving DecidableEq

def StartEvent.text : StartEvent → String
  | .pending              => "agent.turn_start.pending"
  | .containmentInitiated => "agent.turn_start.containment_initiated"
  | .resolved             => "agent.turn_start.resolved"

def startEvent (run agent : String) (receipt : Value) (kind : StartEvent) (payload : Value) : DomainEvent :=
  ⟨some run, "agent", aggregateId digest agent receipt, kind.text, payload, none⟩

def isStartEvent (run agent : String) (receipt : Value) (kind : StartEvent) (e : DomainEvent) : Bool :=
  e.runId == some run && e.aggregateType == "agent" && e.aggregateId == aggregateId digest agent receipt &&
    e.eventType == kind.text && e.sourceRawEventId == none

def ownerRun (t : Tables) (agent : String) : Except StoreError String :=
  okOr ((t.agents.get agent).map AgentSession.runId) (.notFound ("agent " ++ agent))

def retains (t : Tables) (key : String) (receipt : Value) : Bool :=
  t.metadata.rows.any (fun m => m.key == key && decide (m.value = receipt))

def keepReceipt (t : Tables) (key : String) (receipt : Value) (conflict : String) : Except StoreError Tables :=
  match t.metadata.get key with
  | some existing => do
    ensure (decide (existing.value = receipt)) (.conflict conflict)
    return t
  | none => do
    let metadata ← insertRow t.metadata ⟨key, receipt⟩
    return { t with metadata := metadata }

def recordPendingTurnStart (run agent key : String) (receipt : Value) : Call Tables Unit := commit (fun t => do
  let owner ← ownerRun t agent
  ensure (owner == run) (.conflict "pending turn-start receipt is not owned by its run")
  ensure (key == pendingKey agent) (.validation "pending turn-start metadata key is not bound to its agent")
  let t ← keepReceipt t key receipt "pending turn-start receipt conflicts with an existing receipt"
  match t.domainEvents.find? (isStartEvent digest run agent receipt .pending) with
  | some e => do
    ensure (decide (e.payload = receipt))
      (.conflict "pending turn-start journal receipt conflicts with its existing receipt")
    return t
  | none =>
    return { t with domainEvents := t.domainEvents ++ [startEvent digest run agent receipt .pending receipt] })

/-- Both entries of the agent are deleted and the resolution is journalled. -/
def closeReceipt (run agent key : String) (receipt resolution : Value) (t : Tables) : Tables :=
  { t with
    metadata := (t.metadata.delete (fun m => m.key == key)).delete (fun m => m.key == containmentKey agent)
    domainEvents := t.domainEvents ++ [startEvent digest run agent receipt .resolved resolution] }

def resolvePendingTurnStart (run agent key : String) (receipt resolution : Value) : Call Tables Unit :=
  commit (fun t => do
    let stored ← okOr (t.metadata.get key) (.notFound "pending turn-start receipt")
    ensure (decide (stored.value = receipt))
      (.conflict "pending turn-start resolution does not match the retained receipt")
    let owner ← ownerRun t agent
    ensure (owner == run && key == pendingKey agent)
      (.conflict "pending turn-start resolution is not bound to its agent/run")
    return closeReceipt digest run agent key receipt resolution t)

def beginPendingTurnStartContainment (run agent pending containment : String) (receipt : Value) : Call Tables Unit :=
  commit (fun t => do
    let stored ← okOr (t.metadata.get pending) (.notFound "pending turn-start receipt")
    ensure (decide (stored.value = receipt) && pending == pendingKey agent && containment == containmentKey agent)
      (.conflict "pending turn-start containment is not bound to its exact receipt")
    let owner ← ownerRun t agent
    ensure (owner == run) (.conflict "pending turn-start containment agent is not owned by its run")
    let t ← keepReceipt t containment receipt "pending turn-start containment conflicts with its retained receipt"
    if t.domainEvents.any (isStartEvent digest run agent receipt .containmentInitiated) then return t
    else return { t with
      domainEvents := t.domainEvents ++ [startEvent digest run agent receipt .containmentInitiated receipt] })

def containmentExists (t : Tables) (agent : String) : Bool := (t.metadata.get (containmentKey agent)).isSome

/-- The acknowledged turn: the agent is starting and the turn is its active one unless there is one. -/
def acknowledge (agent thread turn : String) (t : Tables) : Except StoreError Tables := do
  let t ← startTurn t thread turn none none
  return updateAgent t agent (fun a => { a with
    activeTurnId := coalesce a.activeTurnId (some turn), lastActivityKind := some "turn", state := .starting,
    currentAction := some "turn/start RPC acknowledged; awaiting authoritative turn/started notification" })
    (fun _ => rfl)

def recordPendingTurnStartResponse (run agent key : String) (receipt : Value) (thread turn : String) :
    Call Tables (Option Bool) := transaction (fun t =>
  if retains t key receipt then do
    let owner ← ownerRun t agent
    ensure (owner == run && key == pendingKey agent)
      (.conflict "pending turn-start response is not bound to its exact agent/run")
    if containmentExists t agent then return (none, t)
    let t ← acknowledge agent thread turn t
    return (some true, t)
  else .ok (some false, t))

def promote (agent thread turn model effort : String) (t : Tables) : Tables :=
  let turns := t.turns.update (fun q => q.threadId == thread && q.turnId == turn) (fun q => { q with
    requestedModel := coalesce q.requestedModel (some model),
    requestedReasoningEffort := coalesce q.requestedReasoningEffort (some effort), status := "inProgress" }) (fun _ => rfl)
  updateAgent { t with turns := turns } agent (fun a => { a with
    activeTurnId := some turn, lastActivityKind := some "turn",
    currentAction := some "turn/start acknowledged against immutable pending receipt", state := .running,
    effectiveModel := coalesce a.effectiveModel (some model),
    effectiveReasoningEffort := coalesce a.effectiveReasoningEffort (some effort) }) (fun _ => rfl)

def acceptPendingTurnStartNotification (run agent key : String) (receipt : Value) (thread turn model effort : String)
    (resolution : Value) : Call Tables (Option Bool) := transaction (fun t =>
  if retains t key receipt then do
    let owner ← ownerRun t agent
    ensure (owner == run && key == pendingKey agent)
      (.conflict "pending turn-start notification is not bound to its exact agent/run")
    if containmentExists t agent then return (none, t)
    let observed ← okOr (t.turns.rows.find? (fun q => q.threadId == thread && q.turnId == turn))
      (.conflict "pending turn-start notification has no exact projected thread/turn record")
    ensure (observed.requestedModel.all (fun v => v == model) &&
      observed.requestedReasoningEffort.all (fun v => v == effort))
      (.conflict "pending turn-start notification route conflicts with its receipt")
    return (some true, closeReceipt digest run agent key receipt resolution (promote agent thread turn model effort t))
  else .ok (some false, t))

end Calls

end Session
end Bildr
