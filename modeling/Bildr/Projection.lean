import Bildr.Column
import Bildr.Session
import Bildr.Usage
/-!
# Projection — ingesting runtime notifications

A notification is journalled and then projected onto turns, items, agents and usage, and mirrored as a domain event.
Each part commits on its own: an error leaves what was written before it.  A notification the journal has already is not
journalled again, but it is projected again.
-/
namespace Bildr
namespace Session

open Json (Value)
open Usage

structure ProtocolProjection where
  pricing : String → Option PricingSnapshot
  storeRawReasoning : Bool
  storeReasoningSummaries : Bool

structure ProjectionContext where
  runId : Option String
  agentSessionId : Option String

structure Notification where
  context : ProjectionContext
  method : String
  payload : Value

inductive Method
  | threadStarted | turnStarted | turnCompleted | itemStarted | itemCompleted | planUpdated | goalUpdated | goalCleared
  | tokenUsageUpdated | modelRerouted | other
deriving DecidableEq, Repr

def Method.of (method : String) : Method :=
  if method = "thread/started" then .threadStarted
  else if method = "turn/started" then .turnStarted
  else if method = "turn/completed" then .turnCompleted
  else if method = "item/started" then .itemStarted
  else if method = "item/completed" then .itemCompleted
  else if method = "turn/plan/updated" then .planUpdated
  else if method = "thread/goal/updated" then .goalUpdated
  else if method = "thread/goal/cleared" then .goalCleared
  else if method = "thread/tokenUsage/updated" then .tokenUsageUpdated
  else if method = "model/rerouted" then .modelRerouted
  else .other

/-! ## What is stored of a payload -/

/-- The fields of a reasoning item that are not retained are emptied. -/
def dropReasoning (pj : ProtocolProjection) (payload : Value) : Value × Bool × Bool :=
  match payload.get "item" with
  | some (.obj fields) =>
    if (Value.obj fields).findText ["type"] = some "reasoning" then
      let item := Value.obj fields
      let item := if pj.storeRawReasoning then item else item.put "content" (.arr [])
      let item := if pj.storeReasoningSummaries then item else item.put "summary" (.arr [])
      (payload.put "item" item, !pj.storeRawReasoning, !pj.storeReasoningSummaries)
    else (payload, false, false)
  | _ => (payload, false, false)

def redactReasoning (pj : ProtocolProjection) (method : String) (payload : Value) : Value × String :=
  if pj.storeRawReasoning && pj.storeReasoningSummaries then (payload, "none")
  else
    let rawDelta := !pj.storeRawReasoning && method == "item/reasoning/textDelta"
    let summaryDelta := !pj.storeReasoningSummaries && method == "item/reasoning/summaryTextDelta"
    let payload := if rawDelta || summaryDelta then payload.put "delta" (.str "[not retained]") else payload
    let (payload, rawItem, summaryItem) := dropReasoning pj payload
    (payload, match rawDelta || rawItem, summaryDelta || summaryItem with
      | true, true   => "reasoning_dropped"
      | true, false  => "raw_reasoning_dropped"
      | false, true  => "reasoning_summary_dropped"
      | false, false => "none")

def isWhitespace (c : Char) : Bool :=
  let n := c.toNat
  decide (9 ≤ n ∧ n ≤ 13) || decide (0x2000 ≤ n ∧ n ≤ 0x200a) ||
    [0x20, 0x85, 0xa0, 0x1680, 0x2028, 0x2029, 0x202f, 0x205f, 0x3000].contains n

def trim (s : String) : String :=
  String.ofList (((s.toList.dropWhile isWhitespace).reverse.dropWhile isWhitespace).reverse)

def truncate (s : String) (max : Nat) : String :=
  if s.toList.length ≤ max then s else String.ofList (s.toList.take (max - 1)) ++ "…"

def summarizeCollaboration (item : Value) : String :=
  let receivers := (((item.get "receiverThreadIds").bind Value.asArray).map List.length).getD 0
  let targets :=
    if receivers = 0 then "delegated threads" else if receivers = 1 then "1 delegated thread"
    else toString receivers ++ " delegated threads"
  let status := item.findText ["status"]
  let action :=
    match item.findText ["tool"] with
    | none => "Collaboration activity"
    | some tool =>
      if tool = "wait" then
        if status = some "inProgress" then "Waiting for delegated threads"
        else if status = some "completed" then "Delegated-thread wait completed"
        else if status = some "failed" then "Delegated-thread wait failed"
        else "Waited for " ++ targets
      else if tool = "spawnAgent" then "Started a delegated thread"
      else if tool = "sendInput" then "Sent direction to " ++ targets
      else if tool = "resumeAgent" then "Continued " ++ targets
      else if tool = "closeAgent" then "Stopped " ++ targets
      else "Collaboration action " ++ tool
  let shown :=
    if status = some "inProgress" then "in progress" else if status = some "completed" then "complete"
    else if status = some "failed" then "failed" else "updated"
  match (item.findText ["prompt"]).filter (fun v => trim v != "") with
  | some prompt => action ++ " · " ++ shown ++ " · " ++ truncate (trim prompt) 120
  | none => action ++ " · " ++ shown

def reasoningText (item : Value) : Option String :=
  (((item.get "summary").bind Value.asArray).bind List.head?).bind (fun part => ((part.get "text").getD part).asStr)

def summarizeItem (item : Value) : Option String := do
  let kind ← item.findText ["type"]
  if kind = "agentMessage" then (item.findText ["text"]).map (fun text => truncate text 240)
  else if kind = "reasoning" then
    some (((reasoningText item).map (fun text => truncate text 240)).getD "Reasoning summary updated")
  else if kind = "commandExecution" then (item.findText ["command"]).map (fun command => truncate command 240)
  else if kind = "fileChange" then
    some (toString ((((item.get "changes").bind Value.asArray).map List.length).getD 0) ++ " file changes")
  else if kind = "collabAgentToolCall" then some (summarizeCollaboration item)
  else if kind = "subAgentActivity" then some ("Subagent " ++ (item.findText ["kind"]).getD "activity")
  else if kind = "contextCompaction" then some "Context compacted"
  else some kind

/-! ## The journal -/

/-- The `UNIQUE(thread_id, source_sequence)` row a new event would repeat. -/
def rawDuplicate (t : Tables) (thread sequence : Option String) : Option RawEvent :=
  match thread, sequence with
  | some thread, some sequence =>
    t.journal.events.find? (fun e => e.threadId == some thread && e.sourceSequence == some sequence)
  | _, _ => none

def referencesExist (t : Tables) (run agent : Option String) : Bool :=
  run.all t.runs.contains && agent.all (fun a => (t.agents.get a).isSome)

/-- A refused insert is answered with the event of the same thread and sequence; other refusals are errors. -/
def appendRawEvent (input : RawEventInput) (now : Int) : Call Tables Nat := fun t =>
  if (rawDuplicate t input.threadId input.sourceSequence).isNone &&
      referencesExist t input.runId input.agentSessionId then
    (.ok (t.journal.sequence + 1), { t with journal := t.journal.append input now })
  else if input.threadId.isSome && input.sourceSequence.isSome then
    (queryRow ((rawDuplicate t input.threadId input.sourceSequence).map RawEvent.id), t)
  else (.error (.conflict "duplicate raw event"), t)

def touchProjector (id : Nat) : Call Tables Unit := fun t =>
  (.ok (), { t with checkpoint := some (max (t.checkpoint.getD 0) id) })

/-- `UNIQUE(aggregate_type, aggregate_id, event_type, source_raw_event_id)`; a `NULL` source repeats nothing. -/
def sameEvent (e q : DomainEvent) : Bool :=
  q.aggregateType == e.aggregateType && q.aggregateId == e.aggregateId && q.eventType == e.eventType &&
    q.sourceRawEventId.isSome && q.sourceRawEventId == e.sourceRawEventId

/-- `INSERT OR IGNORE`. -/
def emitDomainEvent (e : DomainEvent) : Call Tables Unit := commit (fun t =>
  if t.domainEvents.any (sameEvent e) then .ok t
  else do
    require (e.runId.all t.runs.contains)
    return { t with domainEvents := t.domainEvents ++ [e] })

/-! ## Threads, turns and agents -/

def attachCodexThread (agent thread : String) (parent branch sha : Option String) : Call Tables Unit := commit (fun t => do
  require ((t.agents.get agent).isSome &&
    !t.threads.rows.any (fun q => q.agentSessionId == agent && q.threadId != thread))
  match t.threads.get thread with
  | some _ =>
    let threads := t.threads.update (fun q => q.threadId == thread)
      (fun q => { q with agentSessionId := agent, parentThreadId := parent }) (fun _ => rfl)
    return { t with threads := threads }
  | none => do
    let threads ← insertRow t.threads ⟨thread, agent, parent, branch, sha⟩
    return { t with threads := threads })

def projectThreadStarted (c : ProjectionContext) (payload : Value) : Call Tables Unit :=
  match c.agentSessionId, payload.findText ["thread", "id"] with
  | some agent, some thread => attachCodexThread agent thread (payload.findText ["thread", "parentThreadId"])
      (payload.findText ["thread", "gitInfo", "branch"]) (payload.findText ["thread", "gitInfo", "sha"])
  | _, _ => Call.ret ()

/-- The turn of a notification is the active one whatever was active. -/
def attachCodexTurn (agent thread turn : String) (model effort : Option String) : Call Tables Unit := commit (fun t => do
  let t ← startTurn t thread turn model effort
  return updateAgent t agent
    (fun a => { a with activeTurnId := some turn, lastActivityKind := some "turn", state := .running }) (fun _ => rfl))

def projectTurnStarted (c : ProjectionContext) (payload : Value) : Call Tables Unit :=
  match c.agentSessionId, payload.findText ["threadId"], payload.findText ["turn", "id"] with
  | some agent, some thread, some turn =>
    attachCodexTurn agent thread turn (payload.findText ["turn", "model"]) (payload.findText ["turn", "effort"])
  | _, _, _ => Call.ret ()

def completedState (status : String) : AgentState :=
  if status = "completed" then .turnComplete else if status = "interrupted" then .interrupted else .failed

def completeTurn (turn status : String) (error : Option Value) (t : Tables) : Tables :=
  let turns := t.turns.update (fun q => q.turnId == turn) (fun q => { q with status := status, error := error })
    (fun _ => rfl)
  { t with turns := turns }

def projectTurnCompleted (c : ProjectionContext) (payload : Value) : Call Tables Unit := fun t =>
  match payload.findText ["turn", "id"] with
  | none => (.ok (), t)
  | some turn =>
    let status := (payload.findText ["turn", "status"]).getD "failed"
    let t := completeTurn turn status (payload.find ["turn", "error"]) t
    match c.agentSessionId with
    | none => (.ok (), t)
    | some agent => (.ok (), updateAgent t agent (fun a => { a with
        activeTurnId := none, currentAction := some ("Turn " ++ status), lastActivityKind := some "turn",
        state := completedState status }) (fun _ => rfl))

def updateAgentState (agent : String) (state : AgentState) (action model : Option String) : Call Tables Unit :=
  commit (fun t => do
    ensure (t.agents.get agent).isSome (.notFound ("agent " ++ agent))
    return updateAgent t agent (fun a => { a with
      state := state, effectiveModel := coalesce model a.effectiveModel, failureClass := none, failureReason := none,
      currentAction := coalesce action a.currentAction }) (fun _ => rfl))

def prepareAgentContinuation (agent : String) (tokenBudget : Nat) (action : String) : Call Tables Unit :=
  commit (fun t => do
    ensure (t.agents.get agent).isSome (.notFound ("agent " ++ agent))
    return updateAgent t agent (fun a => { a with
      tokenBudget := some (asI64 tokenBudget), state := .starting, failureClass := none, failureReason := none,
      activeTurnId := none, currentAction := some action, lastActivityKind := some "turn" }) (fun _ => rfl))

/-! ## Items, plans and goals -/

/-- The row is inserted, or its content is replaced; its thread, turn and type stay. -/
def upsertItem (i : ProjectedItem) (state : String) (t : Tables) : Tables :=
  match t.items.insert i with
  | some items => { t with items := items }
  | none => { t with items := t.items.update (fun q => q.itemId == i.itemId) (fun q => { q with
      state := state, summary := i.summary, payload := i.payload, sourceRawEventId := i.sourceRawEventId }) (fun _ => rfl) }

/-- An agent in one of these states is not set running by an item. -/
def quiescent (s : AgentState) : Bool :=
  [.completed, .turnComplete, .failed, .interrupted, .canceled, .stalled].contains s

def noteActivity (thread : String) (summary : Option String) : Call Tables Unit := fun t =>
  match t.threads.get thread with
  | none => (.ok (), t)
  | some row =>
    match t.agents.get row.agentSessionId with
    | none => (.error (.notFound ("agent " ++ row.agentSessionId)), t)
    | some a =>
      if a.activeTurnId.isSome && !quiescent a.state then updateAgentState row.agentSessionId .running summary none t
      else (.ok (), t)

def itemState (completed : Bool) : String := if completed then "completed" else "in_progress"

def projectItem (completed : Bool) (rawId : Nat) (payload : Value) : Call Tables Unit := fun t =>
  match payload.get "item" with
  | none => (.ok (), t)
  | some item =>
    match item.findText ["id"] with
    | none => (.ok (), t)
    | some itemId =>
      let thread := (payload.findText ["threadId"]).getD "unknown"
      let summary := summarizeItem item
      noteActivity thread summary (upsertItem ⟨itemId, thread, payload.findText ["turnId"],
        (item.findText ["type"]).getD "unknown", itemState completed, summary, item, some rawId⟩ (itemState completed) t)

/-- The plan of a turn is an item; an update leaves its state as it is. -/
def projectPlan (rawId : Nat) (payload : Value) : Call Tables Unit := fun t =>
  let turn := (payload.findText ["turnId"]).getD "unknown"
  match t.turns.get turn with
  | none => (.ok (), t)
  | some row =>
    let id := "plan-" ++ turn
    let summary := ((payload.get "plan").bind Value.asArray).map (fun steps => toString steps.length ++ " plan steps")
    (.ok (), upsertItem ⟨id, row.threadId, some turn, "plan", "in_progress", summary, payload, some rawId⟩
      (((t.items.get id).map ProjectedItem.state).getD "in_progress") t)

def projectGoal (c : ProjectionContext) (payload : Value) : Call Tables Unit := fun t =>
  match c.agentSessionId with
  | none => (.ok (), t)
  | some agent =>
    let goal := (payload.get "goal").getD payload
    (.ok (), updateAgent t agent (fun a => { a with
      currentGoal := goal.findText ["objective"], goalStatus := goal.findText ["status"],
      tokenBudget := coalesce ((goal.findU64 ["tokenBudget"]).map asI64) a.tokenBudget,
      goalTimeUsedSeconds := coalesce ((goal.findU64 ["timeUsedSeconds"]).map asI64) a.goalTimeUsedSeconds })
      (fun _ => rfl))

def clearGoal (c : ProjectionContext) : Call Tables Unit := fun t =>
  match c.agentSessionId with
  | none => (.ok (), t)
  | some agent => (.ok (), updateAgent t agent (fun a => { a with currentGoal := none, goalStatus := none }) (fun _ => rfl))

def rerouteTurn (payload : Value) : Call Tables Unit := fun t =>
  match payload.findText ["turnId"], payload.findText ["toModel"] with
  | some turn, some model =>
    let turns := t.turns.update (fun q => q.turnId == turn) (fun q => { q with effectiveModel := some model })
      (fun _ => rfl)
    (.ok (), { t with turns := turns })
  | _, _ => (.ok (), t)

def projectModelReroute (c : ProjectionContext) (payload : Value) : Call Tables Unit :=
  match c.agentSessionId with
  | some agent => (updateAgentState agent .running (some "Runtime model rerouted") (payload.findText ["toModel"])).andThen
      (fun _ => rerouteTurn payload)
  | none => rerouteTurn payload

/-! ## Usage -/

def usageMethod : String := "thread/tokenUsage/updated"

def usageAgent (t : Tables) (thread : String) (fallback : Option String) : Option String :=
  ((t.threads.get thread).map CodexThread.agentSessionId).or fallback

def usageModel (t : Tables) (agent : Option String) (turn : String) : String :=
  match agent.bind t.agents.get with
  | some a => ((((t.turns.get turn).bind CodexTurn.effectiveModel).or a.effectiveModel).getD a.requestedModel)
  | none => "unknown"

/-- The usage updates of a turn, which the journal has in the order of their ids. -/
def usageRows (t : Tables) (thread turn : String) : List (Nat × Value) :=
  (t.journal.events.filter (fun e => e.threadId == some thread && e.turnId == some turn && e.method == usageMethod)).map
    (fun e => (e.id, e.payload))

/-- `cost_entries` refuses bounds that are negative or out of order. -/
def costEntry (p : PricingSnapshot) (c : CostEstimate) : Option CostEntry :=
  if 0 ≤ asI64 c.lowerMicrousd ∧ asI64 c.lowerMicrousd ≤ asI64 c.upperMicrousd then
    some ⟨p.id, asI64 c.lowerMicrousd, asI64 c.upperMicrousd⟩
  else none

def turnSample (pricing : Option PricingSnapshot) (thread turn model : String) (p : Progress) : TokenSample where
  turnId := turn
  threadId := thread
  effectiveModel := model
  inputTokens := asI64 p.summary.inputTokens
  cachedInputTokens := asI64 p.summary.cachedInputTokens
  cacheWriteInputTokens := p.summary.cacheWriteInputTokens.map asI64
  outputTokens := asI64 p.summary.outputTokens
  reasoningOutputTokens := asI64 p.summary.reasoningOutputTokens
  totalTokens := asI64 p.summary.totalTokens
  modelContextWindow := p.contextWindow.map asI64
  sourceEventId := some p.lastSource
  cost := pricing.bind (fun snapshot => costEntry snapshot p.summary.cost)

/-- The `CHECK`s of `token_samples`. -/
def TokenSample.accepted (s : TokenSample) : Bool :=
  decide (0 ≤ s.inputTokens) && decide (0 ≤ s.cachedInputTokens) &&
    s.cacheWriteInputTokens.all (fun n => decide (0 ≤ n)) && decide (0 ≤ s.outputTokens) &&
    decide (0 ≤ s.reasoningOutputTokens) && decide (0 ≤ s.totalTokens) &&
    decide (s.cachedInputTokens ≤ s.inputTokens) && decide (s.reasoningOutputTokens ≤ s.outputTokens)

/-- The sample of the turn is inserted or replaced; a replaced one stays on its thread. -/
def putSample (s : TokenSample) (t : Tables) : Tables :=
  match t.samples.insert s with
  | some samples => { t with samples := samples }
  | none => { t with samples := t.samples.update (fun q => q.turnId == s.turnId) (fun q => { s with
      turnId := q.turnId, threadId := q.threadId }) (fun _ => rfl) }

/-- `sum(ts.total_tokens)` over the samples of the agent's threads. -/
def agentTokens (t : Tables) (agent : String) : Int :=
  ((t.threads.rows.filter (fun q => q.agentSessionId == agent)).flatMap (fun q =>
    (t.samples.rows.filter (fun s => s.threadId == q.threadId)).map TokenSample.totalTokens)).sum

def countGoalTokens (agent : String) (t : Tables) : Except StoreError Tables := do
  ensure (decide (agentTokens t agent ≤ i64Max)) (.sqlite .integerOverflow)
  let total := agentTokens t agent
  return updateAgent t agent (fun a => { a with goalTokensUsed := some total }) (fun _ => rfl)

def writeSample (agent : Option String) (s : TokenSample) : Call Tables Unit := commit (fun t => do
  require s.accepted
  match agent with
  | some agent => countGoalTokens agent (putSample s t)
  | none => return putSample s t)

def rebuildTurnUsage (pj : ProtocolProjection) (thread turn : String) (source : Nat) (fallback : Option String) :
    Call Tables Unit := fun t =>
  let agent := usageAgent t thread fallback
  let model := usageModel t agent turn
  match summarizeTurn (pj.pricing model) source (usageRows t thread turn) with
  | .error e => (.error e, t)
  | .ok p =>
    if p.summary.totalTokens = 0 then (.ok (), t)
    else writeSample agent (turnSample (pj.pricing model) thread turn model p) t

def projectUsage (pj : ProtocolProjection) (c : ProjectionContext) (rawId : Nat) (payload : Value) : Call Tables Unit :=
  match payload.findText ["threadId"], payload.findText ["turnId"] with
  | some thread, some turn => rebuildTurnUsage pj thread turn rawId c.agentSessionId
  | _, _ => Call.ret ()

/-! ## Ingesting -/

def notificationThread (payload : Value) : Option String :=
  (payload.findText ["threadId"]).or (payload.findText ["thread", "id"])

def notificationTurn (payload : Value) : Option String :=
  (payload.findText ["turnId"]).or (payload.findText ["turn", "id"])

def Notification.raw (pj : ProtocolProjection) (n : Notification) : RawEventInput :=
  let (payload, redaction) := redactReasoning pj n.method n.payload
  ⟨n.context.runId, n.context.agentSessionId, notificationThread payload, notificationTurn payload, n.method, payload,
    payload.findText ["sequence"], redaction⟩

def project (pj : ProtocolProjection) (c : ProjectionContext) (method : String) (rawId : Nat) (payload : Value) :
    Call Tables Unit :=
  match Method.of method with
  | .threadStarted     => projectThreadStarted c payload
  | .turnStarted       => projectTurnStarted c payload
  | .turnCompleted     => projectTurnCompleted c payload
  | .itemStarted       => projectItem false rawId payload
  | .itemCompleted     => projectItem true rawId payload
  | .planUpdated       => projectPlan rawId payload
  | .goalUpdated       => projectGoal c payload
  | .goalCleared       => clearGoal c
  | .tokenUsageUpdated => projectUsage pj c rawId payload
  | .modelRerouted     => projectModelReroute c payload
  | .other             => Call.ret ()

def isTransientStreamDelta (method : String) : Bool :=
  method == "item/reasoning/textDelta" || method == "item/agentMessage/delta"

def eventType (method : String) : String := String.ofList (method.toList.map (fun c => if c = '/' then '.' else c))

def Notification.event (n : Notification) (thread : Option String) (payload : Value) (rawId : Nat) : DomainEvent :=
  ⟨n.context.runId, if n.context.agentSessionId.isSome then "agent" else "runtime",
    (n.context.agentSessionId.or thread).getD "runtime", eventType n.method, payload, some rawId⟩

def ingestNotification (pj : ProtocolProjection) (n : Notification) (now : Int) : Call Tables Nat :=
  Call.andThen (appendRawEvent (n.raw pj) now) (fun id =>
    let payload := (redactReasoning pj n.method n.payload).1
    Call.andThen (project pj n.context n.method id payload) (fun _ =>
      Call.andThen (touchProjector id) (fun _ =>
        if isTransientStreamDelta n.method then Call.ret id
        else Call.andThen (emitDomainEvent (n.event (notificationThread payload) payload id)) (fun _ => Call.ret id))))

end Session
end Bildr
