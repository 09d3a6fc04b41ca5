import Bildr.Projection
import Bildr.Trace
/-!
# ProjectionLate — what notifications do to a finished agent

A notification writes the state of an agent in four handlers: started turns and rerouted models set it running, completed
turns set what their status says, and items set it running unless the agent is quiescent.  So late reroutes and late
completions move a finished agent, and nothing else but a started turn does (`finished_agent_stays`).
-/
namespace Bildr
namespace Session

open Json (Value)
open Trace

/-! ## The state of an agent -/

def agentState (agent : String) (t : Tables) : Option AgentState := (t.agents.get agent).map AgentSession.state

theorem agentState_updateAgent (agent id : String) (t : Tables) (f : AgentSession → AgentSession) (hf) :
    agentState agent (updateAgent t id f hf) =
      if agent = id then (t.agents.get agent).map (fun a => (f a).state) else agentState agent t := by
  simp only [agentState, updateAgent, Table.get_update, Option.map_map]
  cases hg : t.agents.get agent with
  | none => simp
  | some a =>
    have ha : a.id = agent := Table.key_of_get hg
    by_cases h : agent = id
    · simp [ha, h]
    · simp [ha, h]

theorem agentState_updateAgent_same (agent id : String) (t : Tables) (f : AgentSession → AgentSession) (hf)
    (hs : ∀ a, (f a).state = a.state) : agentState agent (updateAgent t id f hf) = agentState agent t := by
  rw [agentState_updateAgent]
  split
  · simp only [hs]
    rfl
  · rfl

theorem agentState_appendRawEvent (agent : String) (input : RawEventInput) (now : Int) (t : Tables) :
    agentState agent (appendRawEvent input now t).2 = agentState agent t := by
  unfold appendRawEvent
  split
  · rfl
  · split <;> rfl

theorem ingest_refused {pj : ProtocolProjection} {n : Notification} {now : Int} {t : Tables} {e : StoreError}
    (h : (appendRawEvent (n.raw pj) now t).1 = .error e) :
    ingestNotification pj n now t = (.error e, (appendRawEvent (n.raw pj) now t).2) := andThen_error h

theorem ingest_projects {γ : Type} (g : Tables → γ) (hc : ∀ t c, g { t with checkpoint := c } = g t)
    (he : ∀ t e, g { t with domainEvents := e } = g t) {pj : ProtocolProjection} {n : Notification} {now : Int}
    {t : Tables} {id : Nat} (h : (appendRawEvent (n.raw pj) now t).1 = .ok id) :
    g (ingestNotification pj n now t).2 =
      g (project pj n.context n.method id (redactReasoning pj n.method n.payload).1
        (appendRawEvent (n.raw pj) now t).2).2 := by
  have hemit : ∀ e t, g (emitDomainEvent e t).2 = g t := by
    intro e t
    refine commit_keeps g (fun t' h => ?_)
    split at h
    · cases h
      rfl
    · obtain ⟨_, -, h⟩ := bind_ok h
      cases h
      exact he t _
  unfold ingestNotification
  rw [andThen_ok h]
  refine andThen_keeps g (fun _ => ?_)
  refine (andThen_keeps g (fun _ => ?_)).trans (hc _ _)
  split
  · rfl
  · exact (andThen_keeps g (fun _ => rfl)).trans (hemit _ _)

theorem agentState_ingest (agent : String) {pj : ProtocolProjection} {n : Notification} {now : Int} {t : Tables} {id : Nat}
    (h : (appendRawEvent (n.raw pj) now t).1 = .ok id) :
    agentState agent (ingestNotification pj n now t).2 =
      agentState agent (project pj n.context n.method id (redactReasoning pj n.method n.payload).1
        (appendRawEvent (n.raw pj) now t).2).2 :=
  ingest_projects (agentState agent) (fun _ _ => rfl) (fun _ _ => rfl) h

/-! ## What each handler does to the state of an agent -/

theorem agentState_updateAgentState {agent id : String} {state : AgentState} {action model : Option String} {t : Tables}
    (h : (t.agents.get id).isSome = true) :
    agentState agent (updateAgentState id state action model t).2 =
      if agent = id then some state else agentState agent t := by
  have hb : updateAgentState id state action model t = (.ok (), updateAgent t id (fun a => { a with
      state := state, effectiveModel := coalesce model a.effectiveModel, failureClass := none, failureReason := none,
      currentAction := coalesce action a.currentAction }) (fun _ => rfl)) := by
    unfold updateAgentState
    refine commit_ok ?_
    rw [h]
    rfl
  rw [hb, agentState_updateAgent]
  split
  · rename_i he
    obtain ⟨a, ha⟩ := Option.isSome_iff_exists.1 h
    rw [he, ha, Option.map_some]
  · rfl

theorem agentState_attachCodexThread (agent id thread : String) (parent branch sha : Option String) (t : Tables) :
    agentState agent (attachCodexThread id thread parent branch sha t).2 = agentState agent t := by
  refine commit_keeps (agentState agent) (fun t' h => ?_)
  obtain ⟨_, -, h⟩ := bind_ok h
  split at h
  · cases h
    rfl
  · obtain ⟨_, -, h⟩ := bind_ok h
    cases h
    rfl

theorem agentState_projectThreadStarted (agent : String) (c : ProjectionContext) (payload : Value) (t : Tables) :
    agentState agent (projectThreadStarted c payload t).2 = agentState agent t := by
  unfold projectThreadStarted
  cases c.agentSessionId with
  | none => rfl
  | some id =>
    cases payload.findText ["thread", "id"] with
    | none => rfl
    | some thread => exact agentState_attachCodexThread agent id thread _ _ _ t

theorem agentState_projectTurnCompleted (agent : String) (c : ProjectionContext) (payload : Value) (t : Tables) :
    agentState agent (projectTurnCompleted c payload t).2 =
      if (payload.findText ["turn", "id"]).isSome ∧ c.agentSessionId = some agent then
        (agentState agent t).map (fun _ => completedState ((payload.findText ["turn", "status"]).getD "failed"))
      else agentState agent t := by
  unfold projectTurnCompleted
  cases hturn : payload.findText ["turn", "id"] with
  | none => simp
  | some turn =>
    cases hagent : c.agentSessionId with
    | none => simp [completeTurn, agentState]
    | some id =>
      simp only [agentState_updateAgent, Option.isSome_some, true_and, Option.some.injEq]
      by_cases h : agent = id
      · rw [if_pos h, if_pos h.symm]
        simp [completeTurn, agentState, Function.comp_def]
      · rw [if_neg h, if_neg (Ne.symm h)]
        rfl

theorem agentState_upsertItem (agent : String) (i : ProjectedItem) (state : String) (t : Tables) :
    agentState agent (upsertItem i state t) = agentState agent t := by
  unfold upsertItem
  split <;> rfl

theorem agentState_noteActivity (agent thread : String) (summary : Option String) (t : Tables) {s : AgentState}
    (hs : agentState agent t = some s) (hq : quiescent s = true) :
    agentState agent (noteActivity thread summary t).2 = some s := by
  unfold noteActivity
  split
  · exact hs
  · rename_i row _
    split
    · exact hs
    · rename_i a ha
      split
      · rename_i hactive
        rw [agentState_updateAgentState (by rw [ha]; rfl)]
        split
        · rename_i heq
          subst heq
          have hstate : a.state = s := by
            rw [agentState, ha, Option.map_some] at hs
            exact Option.some.inj hs
          simp [hstate, hq] at hactive
        · exact hs
      · exact hs

theorem agentState_projectItem (agent : String) (completed : Bool) (rawId : Nat) (payload : Value) (t : Tables)
    {s : AgentState} (hs : agentState agent t = some s) (hq : quiescent s = true) :
    agentState agent (projectItem completed rawId payload t).2 = some s := by
  unfold projectItem
  split
  · exact hs
  · split
    · exact hs
    · exact agentState_noteActivity agent _ _ _ ((agentState_upsertItem agent _ _ t).trans hs) hq

theorem agentState_rerouteTurn (agent : String) (payload : Value) (t : Tables) :
    agentState agent (rerouteTurn payload t).2 = agentState agent t := by
  unfold rerouteTurn
  split <;> rfl

theorem agentState_projectModelReroute (agent : String) (c : ProjectionContext) (payload : Value) (t : Tables) :
    agentState agent (projectModelReroute c payload t).2 =
      if c.agentSessionId = some agent then (agentState agent t).map (fun _ => AgentState.running)
      else agentState agent t := by
  unfold projectModelReroute
  cases hagent : c.agentSessionId with
  | none => simp only [reduceCtorEq, if_false, agentState_rerouteTurn]
  | some id =>
    refine (andThen_keeps (agentState agent) (fun _ => agentState_rerouteTurn agent payload _)).trans ?_
    cases hg : t.agents.get id with
    | some a =>
      rw [agentState_updateAgentState (by rw [hg]; rfl)]
      by_cases h : agent = id
      · subst h
        simp [agentState, hg]
      · simp [h, Ne.symm h]
    | none =>
      have hb : (updateAgentState id .running (some "Runtime model rerouted") (payload.findText ["toModel"]) t).2 = t := by
        unfold updateAgentState
        rw [commit_error (e := .notFound ("agent " ++ id))]
        rw [hg]
        rfl
      rw [hb]
      by_cases h : agent = id
      · subst h
        simp [agentState, hg]
      · simp [Ne.symm h]

theorem agentState_putSample (agent : String) (s : TokenSample) (t : Tables) :
    agentState agent (putSample s t) = agentState agent t := by
  unfold putSample
  split <;> rfl

theorem agentState_rebuildTurnUsage (agent : String) (pj : ProtocolProjection) (thread turn : String) (source : Nat)
    (fallback : Option String) (t : Tables) :
    agentState agent (rebuildTurnUsage pj thread turn source fallback t).2 = agentState agent t := by
  unfold rebuildTurnUsage
  simp only
  split
  · rfl
  · split
    · rfl
    · refine commit_keeps (agentState agent) (fun t' h => ?_)
      obtain ⟨_, -, h⟩ := bind_ok h
      split at h
      · obtain ⟨_, -, h⟩ := bind_ok h
        cases h
        rw [agentState_updateAgent_same]
        · exact agentState_putSample agent _ t
        · intro a
          rfl
      · cases h
        exact agentState_putSample agent _ t

/-! ## Runs -/

def terminal (s : AgentState) : Bool := [.completed, .failed, .interrupted, .canceled].contains s

theorem quiescent_of_terminal {s : AgentState} (h : terminal s = true) : quiescent s = true := by
  cases s <;> first | rfl | simp [terminal] at h

theorem not_terminal_running : terminal .running = false := by decide

inductive ProjectionOp
  | ingest (n : Notification) (now : Int)
  | continuation (agent : String) (tokenBudget : Nat) (action : String)

section Runs
variable (pj : ProtocolProjection) (agent : String)

def projectionStep (t : Tables) : ProjectionOp → Tables
  | .ingest n now                           => (ingestNotification pj n now t).2
  | .continuation agent' tokenBudget action => (prepareAgentContinuation agent' tokenBudget action t).2

/-- A notification that is no started turn leaves the agent in its terminal state. -/
def KeepsFinished (t : Tables) : ProjectionOp → Prop
  | .ingest n now => Method.of n.method ≠ .turnStarted → ∀ s, agentState agent t = some s → terminal s = true →
      agentState agent (ingestNotification pj n now t).2 = some s
  | .continuation _ _ _ => True

def payloadState (payload : Value) : AgentState := completedState ((payload.findText ["turn", "status"]).getD "failed")

/-- A journalled notification for the finished agent is no rerouted model, and no completed turn that leads to another
state. -/
def NoLateChange (t : Tables) : ProjectionOp → Prop
  | .ingest n now => (appendRawEvent (n.raw pj) now t).1.isOk = true → n.context.agentSessionId = some agent →
      ∀ s, agentState agent t = some s → terminal s = true → Method.of n.method ≠ .modelRerouted ∧
        (Method.of n.method = .turnCompleted →
          ((redactReasoning pj n.method n.payload).1.findText ["turn", "id"]).isSome = true →
            payloadState (redactReasoning pj n.method n.payload).1 = s)
  | .continuation _ _ _ => True

variable {pj agent}

theorem agentState_project {c : ProjectionContext} {method : String} {rawId : Nat} {payload : Value} {t : Tables}
    {s : AgentState} (hs : agentState agent t = some s) (ht : terminal s = true)
    (hm : Method.of method ≠ .turnStarted) :
    agentState agent (project pj c method rawId payload t).2 = some s ↔
      (c.agentSessionId = some agent → Method.of method ≠ .modelRerouted ∧
        (Method.of method = .turnCompleted → (payload.findText ["turn", "id"]).isSome = true → payloadState payload = s)) := by
  have hq := quiescent_of_terminal ht
  unfold project
  cases hk : Method.of method with
  | turnStarted => exact absurd hk hm
  | threadStarted => simp [agentState_projectThreadStarted, hs]
  | turnCompleted =>
    simp only [agentState_projectTurnCompleted, hs, Option.map_some]
    by_cases h : (payload.findText ["turn", "id"]).isSome = true ∧ c.agentSessionId = some agent
    · rw [if_pos h]
      simp [h.1, h.2, payloadState]
    · rw [if_neg h]
      simp only [true_iff]
      intro hc
      refine ⟨nofun, fun _ hturn => absurd ⟨hturn, hc⟩ h⟩
  | itemStarted => simp [agentState_projectItem agent false rawId payload t hs hq]
  | itemCompleted => simp [agentState_projectItem agent true rawId payload t hs hq]
  | planUpdated =>
    have : agentState agent (projectPlan rawId payload t).2 = some s := by
      unfold projectPlan
      simp only
      split
      · exact hs
      · exact (agentState_upsertItem agent _ _ t).trans hs
    simp [this]
  | goalUpdated =>
    have : agentState agent (projectGoal c payload t).2 = some s := by
      unfold projectGoal
      split
      · exact hs
      · rw [agentState_updateAgent_same]
        · exact hs
        · intro a
          rfl
    simp [this]
  | goalCleared =>
    have : agentState agent (clearGoal c t).2 = some s := by
      unfold clearGoal
      split
      · exact hs
      · rw [agentState_updateAgent_same]
        · exact hs
        · intro a
          rfl
    simp [this]
  | tokenUsageUpdated =>
    have : agentState agent (projectUsage pj c rawId payload t).2 = some s := by
      unfold projectUsage
      cases payload.findText ["threadId"] with
      | none => exact hs
      | some thread =>
        cases payload.findText ["turnId"] with
        | none => exact hs
        | some turn => exact (agentState_rebuildTurnUsage agent pj thread turn rawId _ t).trans hs
    simp [this]
  | modelRerouted =>
    simp only [agentState_projectModelReroute, hs, Option.map_some]
    split
    · rename_i hc
      have hne : AgentState.running ≠ s := by
        rintro rfl
        rw [not_terminal_running] at ht
        cases ht
      simp [hc, hne]
    · rename_i hc
      simp [hc]
  | other => simp [Call.ret, hs]

theorem keepsFinished_iff (t : Tables) (op : ProjectionOp) : NoLateChange pj agent t op ↔ KeepsFinished pj agent t op := by
  cases op with
  | continuation => exact Iff.rfl
  | ingest n now =>
    cases hj : (appendRawEvent (n.raw pj) now t).1 with
    | error e =>
      refine ⟨fun _ _ s hs _ => ?_, fun _ hok => ?_⟩
      · rw [ingest_refused hj, agentState_appendRawEvent]
        exact hs
      · rw [hj] at hok
        cases hok
    | ok id =>
      have hsame := agentState_appendRawEvent agent (n.raw pj) now t
      have hok : (appendRawEvent (n.raw pj) now t).1.isOk = true := by rw [hj]; rfl
      simp only [NoLateChange, KeepsFinished, agentState_ingest agent hj, hok, true_implies]
      constructor
      · intro h hm s hs ht
        exact (agentState_project (hsame.trans hs) ht hm).2 (fun hc => h hc s hs ht)
      · intro h hc s hs ht
        by_cases hm : Method.of n.method = .turnStarted
        · rw [hm]
          exact ⟨nofun, nofun⟩
        · exact (agentState_project (hsame.trans hs) ht hm).1 (h hm s hs ht) hc

/-- **A finished agent stays finished along exactly the runs without late reroutes and late completions** for it. -/
theorem finished_agent_stays (t : Tables) (ops : List ProjectionOp) :
    Along (projectionStep pj) (NoLateChange pj agent) t ops ↔ Along (projectionStep pj) (KeepsFinished pj agent) t ops :=
  along_congr (V := fun _ => True) (fun _ => True) (fun s i _ _ => keepsFinished_iff s i) (fun _ _ _ _ _ => trivial)
    trivial (fun _ _ => trivial)

end Runs

/-! ## A late reroute -/

def noRedaction : ProtocolProjection := ⟨fun _ => none, true, true⟩

def lateReroute : Notification :=
  ⟨⟨some "run", some "agent"⟩, "model/rerouted",
    .obj [("threadId", .str "thread"), ("toModel", .str "model-2"), ("turnId", .str "turn")]⟩

def completedAgent : Tables :=
  singleAgent ⟨"agent", "run", .completed, "model", none, none, none, none, none, none, none, none, none, none, none, none⟩

/-- **A rerouted model sets a completed agent running.** -/
theorem late_reroute_revives_agent :
    ¬ Along (projectionStep noRedaction) (KeepsFinished noRedaction "agent") completedAgent [.ingest lateReroute 0] := by
  intro h
  have hstate := h.1 (by decide) .completed (by decide) (by decide)
  have hrunning : agentState "agent" (ingestNotification noRedaction lateReroute 0 completedAgent).2 = some .running := by
    decide
  rw [hrunning] at hstate
  cases hstate

end Session
end Bildr
