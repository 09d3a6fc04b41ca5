import Bildr.ProjectionLate
/-!
# ProjectionReplay — a notification delivered twice

The journal and the domain events know a repeated notification; the projection in between runs again.  Delivered again, a
notification is harmless exactly when what it projects is in place already (`redelivery_harmless_iff`): the turn it
starts is still the active one, the item it updates has not moved on, the usage it counts is counted under the same
model.
-/
namespace Bildr
namespace Session

open Json (Value)
open Trace
open Usage

structure Content where
  journal : List RawEvent
  domainEvents : List DomainEvent
  items : List ProjectedItem
  turns : List (String × String)
  agents : List (String × AgentState × Option String × Option Int)
  samples : List TokenSample
deriving DecidableEq

def CodexTurn.shown (q : CodexTurn) : String × String := (q.turnId, q.status)

def AgentSession.shown (a : AgentSession) : String × AgentState × Option String × Option Int :=
  (a.id, a.state, a.activeTurnId, a.goalTokensUsed)

def content (t : Tables) : Content :=
  ⟨t.journal.events, t.domainEvents, t.items.rows, t.turns.rows.map CodexTurn.shown, t.agents.rows.map AgentSession.shown,
    t.samples.rows⟩

/-! ## What is in place -/

def turnStartedInPlace (t : Tables) (agent turn : String) : Prop :=
  (∃ q, t.turns.get turn = some q ∧ q.status = "inProgress") ∧
    ∀ a, t.agents.get agent = some a → a.state = .running ∧ a.activeTurnId = some turn

/-- The turn has the status, and its agent has no active turn and the state the status leads to. -/
def turnCompletedInPlace (t : Tables) (agent : Option String) (turn status : String) : Prop :=
  (∀ q, t.turns.get turn = some q → q.status = status) ∧
    ∀ id, agent = some id → ∀ a, t.agents.get id = some a → a.state = completedState status ∧ a.activeTurnId = none

/-- The item shows the payload, and an agent that an item would set running runs. -/
def itemInPlace (t : Tables) (completed : Bool) (rawId : Nat) (itemId thread : String) (item : Value) : Prop :=
  (∃ i, t.items.get itemId = some i ∧ i.state = itemState completed ∧ i.summary = summarizeItem item ∧ i.payload = item ∧
    i.sourceRawEventId = some rawId) ∧
  ∀ row, t.threads.get thread = some row → ∃ a, t.agents.get row.agentSessionId = some a ∧
    ((a.activeTurnId.isSome && !quiescent a.state) = true → a.state = .running)

def planInPlace (t : Tables) (rawId : Nat) (turn : String) (payload : Value) : Prop :=
  ∀ q, t.turns.get turn = some q → ∃ i, t.items.get ("plan-" ++ turn) = some i ∧
    i.summary = ((payload.get "plan").bind Value.asArray).map (fun steps => toString steps.length ++ " plan steps") ∧
    i.payload = payload ∧ i.sourceRawEventId = some rawId

/-- The sample of the turn is the one its updates give under the present model, and the agent's tokens are counted. -/
def usageInPlace (pj : ProtocolProjection) (t : Tables) (thread turn : String) (rawId : Nat) (fallback : Option String) :
    Prop :=
  let agent := usageAgent t thread fallback
  let model := usageModel t agent turn
  ∃ p, summarizeTurn (pj.pricing model) rawId (usageRows t thread turn) = .ok p ∧
    (p.summary.totalTokens = 0 ∨
      (turnSample (pj.pricing model) thread turn model p).accepted = true ∧
      (∃ s, t.samples.get turn = some s ∧
        s = { turnSample (pj.pricing model) thread turn model p with threadId := s.threadId }) ∧
      ∀ id, agent = some id → agentTokens t id ≤ i64Max ∧
        ∀ a, t.agents.get id = some a → a.goalTokensUsed = some (agentTokens t id))

def inPlace (pj : ProtocolProjection) (t : Tables) (c : ProjectionContext) (method : String) (rawId : Nat)
    (payload : Value) : Prop :=
  match Method.of method with
  | .threadStarted =>
    -- the thread can be attached: its agent exists and has no other thread
    ∀ agent thread, c.agentSessionId = some agent → payload.findText ["thread", "id"] = some thread →
      (t.agents.get agent).isSome = true ∧ ∀ q ∈ t.threads.rows, q.agentSessionId = agent → q.threadId = thread
  | .turnStarted =>
    ∀ agent thread turn, c.agentSessionId = some agent → payload.findText ["threadId"] = some thread →
      payload.findText ["turn", "id"] = some turn → turnStartedInPlace t agent turn
  | .turnCompleted =>
    ∀ turn, payload.findText ["turn", "id"] = some turn →
      turnCompletedInPlace t c.agentSessionId turn ((payload.findText ["turn", "status"]).getD "failed")
  | .itemStarted =>
    ∀ item itemId, payload.get "item" = some item → item.findText ["id"] = some itemId →
      itemInPlace t false rawId itemId ((payload.findText ["threadId"]).getD "unknown") item
  | .itemCompleted =>
    ∀ item itemId, payload.get "item" = some item → item.findText ["id"] = some itemId →
      itemInPlace t true rawId itemId ((payload.findText ["threadId"]).getD "unknown") item
  | .planUpdated => planInPlace t rawId ((payload.findText ["turnId"]).getD "unknown") payload
  | .goalUpdated | .goalCleared | .other => True
  | .tokenUsageUpdated =>
    ∀ thread turn, payload.findText ["threadId"] = some thread → payload.findText ["turnId"] = some turn →
      usageInPlace pj t thread turn rawId c.agentSessionId
  | .modelRerouted =>
    ∀ agent, c.agentSessionId = some agent → ∃ a, t.agents.get agent = some a ∧ a.state = .running

/-- The domain event of the notification was emitted and its projection is in place. -/
def Settled (pj : ProtocolProjection) (t : Tables) (n : Notification) (rawId : Nat) : Prop :=
  let payload := (redactReasoning pj n.method n.payload).1
  inPlace pj t n.context n.method rawId payload ∧
    (isTransientStreamDelta n.method = true ∨
      t.domainEvents.any (sameEvent (n.event (notificationThread payload) payload rawId)) = true)

/-! ## Each handler -/

def Harmless (c : Call Tables Unit) (t : Tables) : Prop := (c t).1 = .ok () ∧ content (c t).2 = content t

theorem harmless_of_eq {c : Call Tables Unit} {t t' : Tables} (h : c t = (.ok (), t')) :
    Harmless c t ↔ content t' = content t := by
  simp [Harmless, h]

theorem not_harmless_of_error {c : Call Tables Unit} {t t' : Tables} {e : StoreError} (h : c t = (.error e, t')) :
    ¬ Harmless c t := by
  simp [Harmless, h]

theorem content_updateAgent (t : Tables) (id : String) (f : AgentSession → AgentSession) (hf) :
    content (updateAgent t id f hf) = content t ↔ ∀ a, t.agents.get id = some a → (f a).shown = a.shown := by
  rw [← Table.map_update_key AgentSession.shown t.agents id f hf]
  simp [content, updateAgent]

theorem content_turns_updateAgent (t : Tables) (turns : Table CodexTurn.turnId) (id : String)
    (f : AgentSession → AgentSession) (hf) :
    content (updateAgent { t with turns := turns } id f hf) = content t ↔
      turns.rows.map CodexTurn.shown = t.turns.rows.map CodexTurn.shown ∧
        ∀ a, t.agents.get id = some a → (f a).shown = a.shown := by
  rw [← Table.map_update_key AgentSession.shown t.agents id f hf]
  simp [content, updateAgent]

theorem attachCodexThread_harmless (agent thread : String) (parent branch sha : Option String) (t : Tables) :
    Harmless (attachCodexThread agent thread parent branch sha) t ↔
      (t.agents.get agent).isSome = true ∧ ∀ q ∈ t.threads.rows, q.agentSessionId = agent → q.threadId = thread := by
  have hreq : ((t.agents.get agent).isSome &&
      !t.threads.rows.any (fun q => q.agentSessionId == agent && q.threadId != thread)) = true ↔
      (t.agents.get agent).isSome = true ∧ ∀ q ∈ t.threads.rows, q.agentSessionId = agent → q.threadId = thread := by
    simp
  rw [← hreq]
  cases hb : ((t.agents.get agent).isSome &&
      !t.threads.rows.any (fun q => q.agentSessionId == agent && q.threadId != thread)) with
  | false =>
    have heq : attachCodexThread agent thread parent branch sha t = (.error (.sqlite .constraintViolation), t) :=
      commit_error (by rw [hb]; rfl)
    exact iff_of_false (not_harmless_of_error heq) (by simp)
  | true =>
    refine iff_of_true ?_ rfl
    cases hg : t.threads.get thread with
    | some q =>
      let u := t.threads.update (fun q => q.threadId == thread)
        (fun q => { q with agentSessionId := agent, parentThreadId := parent }) (fun _ => rfl)
      have heq : attachCodexThread agent thread parent branch sha t = (.ok (), { t with threads := u }) :=
        commit_ok (by rw [hb, hg]; rfl)
      exact (harmless_of_eq heq).2 rfl
    | none =>
      obtain ⟨u, hu⟩ := Table.insert_isSome (t := t.threads) (r := ⟨thread, agent, parent, branch, sha⟩) hg
      have heq : attachCodexThread agent thread parent branch sha t = (.ok (), { t with threads := u }) :=
        commit_ok (by rw [hb, hg]; simp only [require, ensure_true, ok_bind, insertRow, hu, pure_ok])
      exact (harmless_of_eq heq).2 rfl

theorem attachCodexTurn_harmless (agent thread turn : String) (model effort : Option String) (t : Tables) :
    Harmless (attachCodexTurn agent thread turn model effort) t ↔ turnStartedInPlace t agent turn := by
  unfold attachCodexTurn turnStartedInPlace
  cases hg : t.turns.get turn with
  | some q =>
    let turns := t.turns.update (fun q => q.turnId == turn) (fun q => q.restarted model effort) (fun _ => rfl)
    have hstart : startTurn t thread turn model effort = .ok { t with turns := turns } := by
      unfold startTurn
      rw [hg]
    have hturns : turns.rows.map CodexTurn.shown = t.turns.rows.map CodexTurn.shown ↔
        ∀ r, t.turns.get turn = some r → (r.restarted model effort).shown = r.shown :=
      Table.map_update_key CodexTurn.shown t.turns turn _ _
    rw [harmless_of_eq (commit_ok (by rw [hstart, ok_bind, pure_ok])), content_turns_updateAgent, hturns, hg]
    simp [CodexTurn.shown, CodexTurn.restarted, AgentSession.shown, eq_comm, and_comm]
  | none =>
    refine iff_of_false ?_ (by simp)
    cases hth : (t.threads.get thread).isSome with
    | false =>
      refine not_harmless_of_error (commit_error (e := .sqlite .constraintViolation) ?_)
      simp [startTurn, hg, hth, require]
    | true =>
      obtain ⟨u, hu⟩ := Table.insert_isSome (t := t.turns) (r := ⟨turn, thread, "inProgress", model, none, effort, none⟩) hg
      have hstart : startTurn t thread turn model effort = .ok { t with turns := u } := by
        simp only [startTurn, hg, hth, require, ensure_true, ok_bind, insertRow, hu, pure_ok]
      rw [harmless_of_eq (commit_ok (by rw [hstart, ok_bind, pure_ok])), content_turns_updateAgent]
      -- a row more is a row more
      intro h
      have := congrArg List.length h.1
      rw [List.length_map, List.length_map, (Table.insert_some hu).2, List.length_append, List.length_singleton] at this
      omega

theorem projectTurnCompleted_harmless (c : ProjectionContext) (payload : Value) (t : Tables) :
    Harmless (projectTurnCompleted c payload) t ↔ ∀ turn, payload.findText ["turn", "id"] = some turn →
      turnCompletedInPlace t c.agentSessionId turn ((payload.findText ["turn", "status"]).getD "failed") := by
  cases hturn : payload.findText ["turn", "id"] with
  | none => simp [Harmless, projectTurnCompleted, hturn]
  | some turn =>
    simp only [Option.some.injEq, forall_eq', turnCompletedInPlace]
    have hturns : ∀ status error, (completeTurn turn status error t).turns.rows.map CodexTurn.shown =
        t.turns.rows.map CodexTurn.shown ↔ ∀ q, t.turns.get turn = some q → q.status = status := by
      intro status error
      rw [completeTurn, Table.map_update_key CodexTurn.shown]
      simp [CodexTurn.shown, eq_comm]
    cases hagent : c.agentSessionId with
    | none =>
      have heq : projectTurnCompleted c payload t = (.ok (), completeTurn turn
          ((payload.findText ["turn", "status"]).getD "failed") (payload.find ["turn", "error"]) t) := by
        simp only [projectTurnCompleted, hturn, hagent]
      rw [harmless_of_eq heq]
      simp only [reduceCtorEq, false_implies, implies_true, and_true, ← hturns _ (payload.find ["turn", "error"])]
      simp [content, completeTurn]
    | some agent =>
      rw [harmless_of_eq (by simp only [projectTurnCompleted, hturn, hagent]; rfl), completeTurn, content_turns_updateAgent]
      refine and_congr (hturns _ (payload.find ["turn", "error"])) ?_
      simp only [Option.some.injEq, forall_eq', AgentSession.shown]
      simp [eq_comm]

theorem upsertItem_eq (i : ProjectedItem) (state : String) (t : Tables) :
    ∃ u, upsertItem i state t = { t with items := u } ∧ (u.rows = t.items.rows ↔
      ∃ q, t.items.get i.itemId = some q ∧ q.state = state ∧ q.summary = i.summary ∧ q.payload = i.payload ∧
        q.sourceRawEventId = i.sourceRawEventId) := by
  unfold upsertItem
  cases hi : t.items.insert i with
  | some u =>
    have hnone : t.items.get i.itemId = none := (Table.insert_some hi).1
    refine ⟨u, rfl, iff_of_false (Table.rows_insert_ne hi) ?_⟩
    rw [hnone]
    simp
  | none =>
    obtain ⟨q, hq⟩ := Option.isSome_iff_exists.1 (Table.insert_none.1 hi)
    refine ⟨_, rfl, ?_⟩
    rw [Table.rows_update_key, hq]
    obtain ⟨_, _, _, _, s, m, p, r⟩ := q
    simp [eq_comm]

theorem content_items (t : Tables) (u : Table ProjectedItem.itemId) :
    content { t with items := u } = content t ↔ u.rows = t.items.rows := by
  simp [content]

theorem updateAgentState_harmless {agent : String} {a : AgentSession} {t : Tables} (ha : t.agents.get agent = some a)
    (state : AgentState) (action model : Option String) :
    (updateAgentState agent state action model t).1 = .ok () ∧
      (content (updateAgentState agent state action model t).2 = content t ↔ a.state = state) := by
  have heq : updateAgentState agent state action model t = (.ok (), updateAgent t agent (fun a => { a with
      state := state, effectiveModel := coalesce model a.effectiveModel, failureClass := none, failureReason := none,
      currentAction := coalesce action a.currentAction }) (fun _ => rfl)) := by
    unfold updateAgentState
    exact commit_ok (by rw [ha]; rfl)
  rw [heq, content_updateAgent, ha]
  simp [AgentSession.shown, eq_comm]

theorem noteActivity_harmless (thread : String) (summary : Option String) (t : Tables) :
    Harmless (noteActivity thread summary) t ↔ ∀ row, t.threads.get thread = some row →
      ∃ a, t.agents.get row.agentSessionId = some a ∧
        ((a.activeTurnId.isSome && !quiescent a.state) = true → a.state = .running) := by
  cases hrow : t.threads.get thread with
  | none => simp [Harmless, noteActivity, hrow]
  | some row =>
    cases ha : t.agents.get row.agentSessionId with
    | none =>
      have heq : noteActivity thread summary t = (.error (.notFound ("agent " ++ row.agentSessionId)), t) := by
        simp only [noteActivity, hrow, ha]
      exact iff_of_false (not_harmless_of_error heq) (by simp [ha])
    | some a =>
      simp only [Option.some.injEq, forall_eq', ha, exists_eq_left']
      by_cases hactive : (a.activeTurnId.isSome && !quiescent a.state) = true
      · have heq : noteActivity thread summary t = updateAgentState row.agentSessionId .running summary none t := by
          simp only [noteActivity, hrow, ha, hactive, if_true]
        obtain ⟨hok, hcontent⟩ := updateAgentState_harmless ha .running summary none
        unfold Harmless
        rw [heq, hcontent]
        simp [hok, hactive]
      · have heq : noteActivity thread summary t = (.ok (), t) := by
          simp only [noteActivity, hrow, ha, hactive, if_false, Bool.false_eq_true]
        rw [harmless_of_eq heq]
        simp [hactive]

theorem noteActivity_items (thread : String) (summary : Option String) (t : Tables) :
    (noteActivity thread summary t).2.items = t.items := by
  unfold noteActivity
  split
  · rfl
  · split
    · rfl
    · split
      · refine commit_keeps Tables.items (fun t' h => ?_)
        obtain ⟨_, -, h⟩ := bind_ok h
        cases h
        rfl
      · rfl

theorem projectItem_harmless (completed : Bool) (rawId : Nat) (payload : Value) (t : Tables) :
    Harmless (projectItem completed rawId payload) t ↔ ∀ item itemId, payload.get "item" = some item →
      item.findText ["id"] = some itemId →
        itemInPlace t completed rawId itemId ((payload.findText ["threadId"]).getD "unknown") item := by
  cases hitem : payload.get "item" with
  | none => simp [Harmless, projectItem, hitem]
  | some item =>
    cases hid : item.findText ["id"] with
    | none =>
      refine iff_of_true (by simp [Harmless, projectItem, hitem, hid]) (fun item' itemId h h' => ?_)
      cases h
      rw [hid] at h'
      cases h'
    | some itemId =>
      have hall : (∀ item' itemId', some item = some item' → item'.findText ["id"] = some itemId' →
          itemInPlace t completed rawId itemId' ((payload.findText ["threadId"]).getD "unknown") item') ↔
          itemInPlace t completed rawId itemId ((payload.findText ["threadId"]).getD "unknown") item := by
        refine ⟨fun h => h item itemId rfl hid, fun h item' itemId' hi hi' => ?_⟩
        cases hi
        rw [hid] at hi'
        cases hi'
        exact h
      rw [hall]
      obtain ⟨u, hu, hrows⟩ := upsertItem_eq ⟨itemId, (payload.findText ["threadId"]).getD "unknown",
        payload.findText ["turnId"], (item.findText ["type"]).getD "unknown", itemState completed, summarizeItem item, item,
        some rawId⟩ (itemState completed) t
      have heq : projectItem completed rawId payload t =
          noteActivity ((payload.findText ["threadId"]).getD "unknown") (summarizeItem item) { t with items := u } := by
        simp only [projectItem, hitem, hid, hu]
      have hnote := noteActivity_harmless ((payload.findText ["threadId"]).getD "unknown") (summarizeItem item)
        { t with items := u }
      unfold itemInPlace Harmless
      rw [heq]
      refine Iff.trans ?_ (and_congr hrows Iff.rfl)
      constructor
      · intro ⟨hok, hcontent⟩
        -- the agents are set after the items, so the items were unchanged by then
        have hsame : u.rows = t.items.rows := by
          have := congrArg Content.items hcontent
          rwa [show (content _).items = (noteActivity _ _ { t with items := u }).2.items.rows from rfl,
            noteActivity_items] at this
        exact ⟨hsame, hnote.1 ⟨hok, hcontent.trans ((content_items t u).2 hsame).symm⟩⟩
      · intro ⟨hsame, hplace⟩
        obtain ⟨hok, hcontent⟩ := hnote.2 hplace
        exact ⟨hok, hcontent.trans ((content_items t u).2 hsame)⟩

theorem projectPlan_harmless (rawId : Nat) (payload : Value) (t : Tables) :
    Harmless (projectPlan rawId payload) t ↔ planInPlace t rawId ((payload.findText ["turnId"]).getD "unknown") payload := by
  generalize hturn : (payload.findText ["turnId"]).getD "unknown" = turn
  unfold planInPlace
  cases hg : t.turns.get turn with
  | none => simp [Harmless, projectPlan, hturn, hg]
  | some row =>
    simp only [Option.some.injEq, forall_eq']
    obtain ⟨u, hu, hrows⟩ := upsertItem_eq ⟨"plan-" ++ turn, row.threadId, some turn, "plan", "in_progress",
      ((payload.get "plan").bind Value.asArray).map (fun steps => toString steps.length ++ " plan steps"), payload,
      some rawId⟩ (((t.items.get ("plan-" ++ turn)).map ProjectedItem.state).getD "in_progress") t
    have heq : projectPlan rawId payload t = (.ok (), { t with items := u }) := by
      simp only [projectPlan, hturn, hg, hu]
    rw [harmless_of_eq heq, content_items, hrows]
    refine exists_congr (fun i => and_congr_right (fun hi => ?_))
    rw [hi]
    simp

theorem putSample_eq (s : TokenSample) (t : Tables) :
    ∃ u, putSample s t = { t with samples := u } ∧ (u.rows = t.samples.rows ↔
      ∃ q, t.samples.get s.turnId = some q ∧ q = { s with threadId := q.threadId }) := by
  unfold putSample
  cases hi : t.samples.insert s with
  | some u =>
    have hnone : t.samples.get s.turnId = none := (Table.insert_some hi).1
    refine ⟨u, rfl, iff_of_false (Table.rows_insert_ne hi) ?_⟩
    rw [hnone]
    simp
  | none =>
    obtain ⟨q, hq⟩ := Option.isSome_iff_exists.1 (Table.insert_none.1 hi)
    have hkey : q.turnId = s.turnId := Table.key_of_get hq
    refine ⟨_, rfl, ?_⟩
    rw [Table.rows_update_key, hq]
    simp only [Option.some.injEq, forall_eq', exists_eq_left', hkey]
    exact eq_comm

theorem writeSample_harmless (agent : Option String) (s : TokenSample) (t : Tables) :
    Harmless (writeSample agent s) t ↔ s.accepted = true ∧
      (∃ q, t.samples.get s.turnId = some q ∧ q = { s with threadId := q.threadId }) ∧
      ∀ id, agent = some id → agentTokens t id ≤ i64Max ∧
        ∀ a, t.agents.get id = some a → a.goalTokensUsed = some (agentTokens t id) := by
  obtain ⟨u, hu, hrows⟩ := putSample_eq s t
  cases hacc : s.accepted with
  | false =>
    have heq : writeSample agent s t = (.error (.sqlite .constraintViolation), t) := commit_error (by rw [hacc]; rfl)
    exact iff_of_false (not_harmless_of_error heq) (by simp)
  | true =>
    rw [← hrows]
    -- a sample that changes nothing leaves the tables as they are
    have hsame : u.rows = t.samples.rows → putSample s t = t := by
      intro h
      rw [hu, Table.ext_rows h]
    cases agent with
    | none =>
      have heq : writeSample none s t = (.ok (), putSample s t) := commit_ok (by rw [hacc]; rfl)
      rw [harmless_of_eq heq, hu]
      simp [content]
    | some id =>
      by_cases hle : agentTokens (putSample s t) id ≤ i64Max
      · have heq : writeSample (some id) s t = (.ok (), updateAgent (putSample s t) id
            (fun a => { a with goalTokensUsed := some (agentTokens (putSample s t) id) }) (fun _ => rfl)) :=
          commit_ok (by simp only [hacc, require, ensure_true, ok_bind, countGoalTokens, hle, decide_true, pure_ok])
        rw [harmless_of_eq heq]
        simp only [true_and, Option.some.injEq, forall_eq']
        constructor
        · intro h
          have hrows' : u.rows = t.samples.rows := by
            have := congrArg Content.samples h
            rwa [hu] at this
          rw [hsame hrows'] at h hle
          refine ⟨hrows', hle, fun a ha => ?_⟩
          have := (content_updateAgent t id _ _).1 h a ha
          simpa [AgentSession.shown, eq_comm] using this
        · rintro ⟨hrows', -, hgoal⟩
          rw [hsame hrows', content_updateAgent]
          intro a ha
          simp [AgentSession.shown, hgoal a ha]
      · have heq : writeSample (some id) s t = (.error (.sqlite .integerOverflow), t) :=
          commit_error (by simp only [hacc, require, ensure_true, ok_bind, countGoalTokens, hle, decide_false]; rfl)
        refine iff_of_false (not_harmless_of_error heq) ?_
        rintro ⟨-, hrows', h⟩
        rw [hsame hrows'] at hle
        exact hle (h id rfl).1

theorem rebuildTurnUsage_harmless (pj : ProtocolProjection) (thread turn : String) (rawId : Nat) (fallback : Option String)
    (t : Tables) :
    Harmless (rebuildTurnUsage pj thread turn rawId fallback) t ↔ usageInPlace pj t thread turn rawId fallback := by
  unfold usageInPlace
  dsimp only
  generalize hagent : usageAgent t thread fallback = agent
  generalize hmodel : usageModel t agent turn = model
  cases hsum : summarizeTurn (pj.pricing model) rawId (usageRows t thread turn) with
  | error e =>
    have heq : rebuildTurnUsage pj thread turn rawId fallback t = (.error e, t) := by
      simp only [rebuildTurnUsage, hagent, hmodel, hsum]
    refine iff_of_false (not_harmless_of_error heq) ?_
    rintro ⟨p, hp, -⟩
    cases hp
  | ok p =>
    simp only [Except.ok.injEq, exists_eq_left']
    by_cases hzero : p.summary.totalTokens = 0
    · have heq : rebuildTurnUsage pj thread turn rawId fallback t = (.ok (), t) := by
        simp only [rebuildTurnUsage, hagent, hmodel, hsum, hzero, if_true]
      rw [harmless_of_eq heq]
      simp [hzero]
    · have heq : rebuildTurnUsage pj thread turn rawId fallback t =
          writeSample agent (turnSample (pj.pricing model) thread turn model p) t := by
        simp only [rebuildTurnUsage, hagent, hmodel, hsum, hzero, if_false]
      have hwrite := writeSample_harmless agent (turnSample (pj.pricing model) thread turn model p) t
      unfold Harmless at hwrite ⊢
      rw [heq, hwrite]
      simp only [hzero, false_or]
      rfl

theorem projectModelReroute_harmless (c : ProjectionContext) (payload : Value) (t : Tables) :
    Harmless (projectModelReroute c payload) t ↔
      ∀ agent, c.agentSessionId = some agent → ∃ a, t.agents.get agent = some a ∧ a.state = .running := by
  have hturn : ∀ t, Harmless (rerouteTurn payload) t := by
    intro t
    unfold Harmless rerouteTurn
    split
    · refine ⟨rfl, ?_⟩
      simp only [content, Content.mk.injEq, true_and, and_true]
      rw [Table.map_update_key]
      exact fun _ _ => rfl
    · exact ⟨rfl, rfl⟩
  cases hc : c.agentSessionId with
  | none => simp [projectModelReroute, hc, hturn]
  | some agent =>
    simp only [Option.some.injEq, forall_eq']
    cases ha : t.agents.get agent with
    | none =>
      have heq : updateAgentState agent .running (some "Runtime model rerouted") (payload.findText ["toModel"]) t =
          (.error (.notFound ("agent " ++ agent)), t) := commit_error (by rw [ha]; rfl)
      have herr : projectModelReroute c payload t = (.error (.notFound ("agent " ++ agent)), t) := by
        simp only [projectModelReroute, hc]
        rw [andThen_error (by rw [heq]), heq]
      exact iff_of_false (not_harmless_of_error herr) (by simp)
    | some a =>
      obtain ⟨hok, hcontent⟩ := updateAgentState_harmless ha .running (some "Runtime model rerouted")
        (payload.findText ["toModel"])
      simp only [Option.some.injEq, exists_eq_left', ← hcontent]
      unfold Harmless
      simp only [projectModelReroute, hc]
      rw [andThen_ok hok, (hturn _).1, (hturn _).2]
      simp

/-- **The projection of a notification is harmless exactly when what it writes is in place.** -/
theorem project_harmless (pj : ProtocolProjection) (c : ProjectionContext) (method : String) (rawId : Nat) (payload : Value)
    (t : Tables) :
    Harmless (project pj c method rawId payload) t ↔ inPlace pj t c method rawId payload := by
  have hret : Harmless (Call.ret ()) t := ⟨rfl, rfl⟩
  unfold project inPlace
  cases Method.of method with
  | threadStarted =>
    simp only [projectThreadStarted]
    cases c.agentSessionId with
    | none => simp [hret]
    | some agent =>
      cases payload.findText ["thread", "id"] with
      | none => simp [hret]
      | some thread =>
        refine (attachCodexThread_harmless agent thread _ _ _ t).trans ?_
        simp
  | turnStarted =>
    simp only [projectTurnStarted]
    cases c.agentSessionId with
    | none => simp [hret]
    | some agent =>
      cases payload.findText ["threadId"] with
      | none => simp [hret]
      | some thread =>
        cases payload.findText ["turn", "id"] with
        | none => simp [hret]
        | some turn =>
          refine (attachCodexTurn_harmless agent thread turn _ _ t).trans ?_
          simp
  | turnCompleted => exact projectTurnCompleted_harmless c payload t
  | itemStarted => exact projectItem_harmless false rawId payload t
  | itemCompleted => exact projectItem_harmless true rawId payload t
  | planUpdated => exact projectPlan_harmless rawId payload t
  | goalUpdated =>
    refine iff_of_true ?_ trivial
    unfold Harmless projectGoal
    cases c.agentSessionId with
    | none => exact ⟨rfl, rfl⟩
    | some agent => exact ⟨rfl, (content_updateAgent t agent _ _).2 (fun _ _ => rfl)⟩
  | goalCleared =>
    refine iff_of_true ?_ trivial
    unfold Harmless clearGoal
    cases c.agentSessionId with
    | none => exact ⟨rfl, rfl⟩
    | some agent => exact ⟨rfl, (content_updateAgent t agent _ _).2 (fun _ _ => rfl)⟩
  | tokenUsageUpdated =>
    simp only [projectUsage]
    cases payload.findText ["threadId"] with
    | none => simp [hret]
    | some thread =>
      cases payload.findText ["turnId"] with
      | none => simp [hret]
      | some turn =>
        refine (rebuildTurnUsage_harmless pj thread turn rawId c.agentSessionId t).trans ?_
        simp
  | modelRerouted => exact projectModelReroute_harmless c payload t
  | other => exact iff_of_true hret trivial

/-! ## The logs -/

def logs (t : Tables) : List String × Journal × List DomainEvent × Table Metadata.key :=
  (t.runs, t.journal, t.domainEvents, t.metadata)

theorem logs_startTurn {t t' : Tables} {thread turn : String} {model effort : Option String}
    (h : startTurn t thread turn model effort = .ok t') : logs t' = logs t := by
  unfold startTurn at h
  split at h
  · cases h
    rfl
  · obtain ⟨_, -, h⟩ := bind_ok h
    obtain ⟨_, -, h⟩ := bind_ok h
    cases h
    rfl

theorem logs_updateAgentState (agent : String) (state : AgentState) (action model : Option String) (t : Tables) :
    logs (updateAgentState agent state action model t).2 = logs t := by
  refine commit_keeps logs (fun t' h => ?_)
  obtain ⟨_, -, h⟩ := bind_ok h
  cases h
  rfl

theorem logs_upsertItem (i : ProjectedItem) (state : String) (t : Tables) : logs (upsertItem i state t) = logs t := by
  obtain ⟨u, hu, -⟩ := upsertItem_eq i state t
  rw [hu]
  rfl

theorem logs_noteActivity (thread : String) (summary : Option String) (t : Tables) :
    logs (noteActivity thread summary t).2 = logs t := by
  unfold noteActivity
  split
  · rfl
  · split
    · rfl
    · split
      · exact logs_updateAgentState _ _ _ _ t
      · rfl

theorem logs_projectItem (completed : Bool) (rawId : Nat) (payload : Value) (t : Tables) :
    logs (projectItem completed rawId payload t).2 = logs t := by
  unfold projectItem
  split
  · rfl
  · split
    · rfl
    · exact (logs_noteActivity _ _ _).trans (logs_upsertItem _ _ t)

theorem logs_writeSample (agent : Option String) (s : TokenSample) (t : Tables) :
    logs (writeSample agent s t).2 = logs t := by
  obtain ⟨u, hu, -⟩ := putSample_eq s t
  refine commit_keeps logs (fun t' h => ?_)
  obtain ⟨_, -, h⟩ := bind_ok h
  rw [hu] at h
  split at h
  · obtain ⟨_, -, h⟩ := bind_ok h
    cases h
    rfl
  · cases h
    rfl

theorem logs_project (pj : ProtocolProjection) (c : ProjectionContext) (method : String) (rawId : Nat) (payload : Value)
    (t : Tables) : logs (project pj c method rawId payload t).2 = logs t := by
  unfold project
  cases Method.of method with
  | threadStarted =>
    simp only [projectThreadStarted]
    cases c.agentSessionId with
    | none => rfl
    | some agent =>
      cases payload.findText ["thread", "id"] with
      | none => rfl
      | some thread =>
        refine commit_keeps logs (fun t' h => ?_)
        obtain ⟨_, -, h⟩ := bind_ok h
        split at h
        · cases h
          rfl
        · obtain ⟨_, -, h⟩ := bind_ok h
          cases h
          rfl
  | turnStarted =>
    simp only [projectTurnStarted]
    cases c.agentSessionId with
    | none => rfl
    | some agent =>
      cases payload.findText ["threadId"] with
      | none => rfl
      | some thread =>
        cases payload.findText ["turn", "id"] with
        | none => rfl
        | some turn =>
          refine commit_keeps logs (fun t' h => ?_)
          obtain ⟨t₁, hstart, h⟩ := bind_ok h
          cases h
          show logs t₁ = logs t
          exact logs_startTurn hstart
  | turnCompleted =>
    simp only [projectTurnCompleted]
    split
    · rfl
    · split <;> rfl
  | itemStarted => exact logs_projectItem false rawId payload t
  | itemCompleted => exact logs_projectItem true rawId payload t
  | planUpdated =>
    simp only [projectPlan]
    split
    · rfl
    · exact logs_upsertItem _ _ t
  | goalUpdated =>
    simp only [projectGoal]
    split <;> rfl
  | goalCleared =>
    simp only [clearGoal]
    split <;> rfl
  | tokenUsageUpdated =>
    simp only [projectUsage]
    cases payload.findText ["threadId"] with
    | none => rfl
    | some thread =>
      cases payload.findText ["turnId"] with
      | none => rfl
      | some turn =>
        simp only [rebuildTurnUsage]
        split
        · rfl
        · split
          · rfl
          · exact logs_writeSample _ _ _
  | modelRerouted =>
    have hturn : ∀ t, logs (rerouteTurn payload t).2 = logs t := by
      intro t
      unfold rerouteTurn
      split <;> rfl
    simp only [projectModelReroute]
    cases c.agentSessionId with
    | none => exact hturn t
    | some agent =>
      exact (andThen_keeps logs (fun _ => hturn _)).trans (logs_updateAgentState agent _ _ _ t)
  | other => rfl

/-! ## The same notification again -/

theorem emitDomainEvent_known {e : DomainEvent} {t : Tables} (h : t.domainEvents.any (sameEvent e) = true) :
    emitDomainEvent e t = (.ok (), t) := commit_ok (if_pos h)

theorem emitDomainEvent_new {e : DomainEvent} {t : Tables} (h : t.domainEvents.any (sameEvent e) = false)
    (hok : (emitDomainEvent e t).1 = .ok ()) : (emitDomainEvent e t).2.domainEvents = t.domainEvents ++ [e] := by
  unfold emitDomainEvent at hok ⊢
  rcases commit_cases _ t with ⟨_, -, ht⟩ | ⟨t', hb, ht⟩
  · rw [ht] at hok
    cases hok
  · rw [ht]
    rw [h] at hb
    obtain ⟨_, -, hb⟩ := bind_ok hb
    cases hb
    rfl

theorem ingest_harmless_iff {pj : ProtocolProjection} {n : Notification} {now : Int} {t : Tables} {id : Nat}
    (happend : appendRawEvent (n.raw pj) now t = (.ok id, t)) :
    ((ingestNotification pj n now t).1 = .ok id ∧ content (ingestNotification pj n now t).2 = content t) ↔
      Settled pj t n id := by
  have hlogs := logs_project pj n.context n.method id (redactReasoning pj n.method n.payload).1 t
  unfold Settled ingestNotification
  dsimp only
  rw [andThen_ok (by rw [happend]), happend, ← project_harmless pj n.context n.method id]
  generalize hcall : project pj n.context n.method id (redactReasoning pj n.method n.payload).1 = c at hlogs
  cases hres : (c t).1 with
  | error e =>
    rw [andThen_error hres]
    simp [Harmless, hres]
  | ok u =>
    rw [andThen_ok hres]
    have htouch : touchProjector id (c t).2 =
        (.ok (), { (c t).2 with checkpoint := some (max ((c t).2.checkpoint.getD 0) id) }) :=
      rfl
    have hdom : (c t).2.domainEvents = t.domainEvents := congrArg (fun l => l.2.2.1) hlogs
    rw [andThen_ok (by rw [htouch]), htouch]
    by_cases htransient : isTransientStreamDelta n.method = true
    · simp only [htransient, if_true, Call.ret, true_or, and_true, true_and]
      unfold Harmless
      rw [hres]
      exact ⟨fun h => ⟨rfl, h⟩, fun h => h.2⟩
    · simp only [htransient, if_false, false_or, Bool.false_eq_true]
      generalize n.event (notificationThread (redactReasoning pj n.method n.payload).1)
        (redactReasoning pj n.method n.payload).1 id = e
      generalize hv : ({ (c t).2 with checkpoint := some (max ((c t).2.checkpoint.getD 0) id) } : Tables) = v
      have hvc : content v = content (c t).2 := by rw [← hv]; rfl
      have hvd : v.domainEvents = t.domainEvents := by rw [← hv]; exact hdom
      cases hknown : t.domainEvents.any (sameEvent e) with
      | true =>
        rw [andThen_ok (by rw [emitDomainEvent_known (by rw [hvd]; exact hknown)]),
          emitDomainEvent_known (by rw [hvd]; exact hknown)]
        unfold Harmless
        simp only [Call.ret, hres, hvc, and_true, true_and]
      | false =>
        refine iff_of_false ?_ (by simp)
        cases hemit : (emitDomainEvent e v).1 with
        | error e' =>
          rw [andThen_error hemit]
          simp
        | ok u' =>
          rw [andThen_ok hemit]
          rintro ⟨-, hcontent⟩
          have hlen := congrArg (fun x => x.domainEvents.length) hcontent
          simp only [Call.ret, content, emitDomainEvent_new (by rw [hvd]; exact hknown) hemit, hvd, List.length_append,
            List.length_singleton] at hlen
          omega

/-! ## Histories -/

theorem rawDuplicate_grows {t t' : Tables} (h : t.journal.events <+: t'.journal.events) {thread sequence : Option String}
    {e : RawEvent} (he : rawDuplicate t thread sequence = some e) : rawDuplicate t' thread sequence = some e := by
  unfold rawDuplicate at he ⊢
  split at he
  · obtain ⟨l, hl⟩ := h
    rw [← hl, List.find?_append, he, Option.some_or]
  · cases he

theorem journal_appendRawEvent (input : RawEventInput) (now : Int) (t : Tables) :
    t.journal.events <+: (appendRawEvent input now t).2.journal.events := by
  unfold appendRawEvent
  split
  · exact List.prefix_append _ _
  · split <;> exact List.prefix_refl _

theorem rawDuplicate_of_append {input : RawEventInput} {now : Int} {t : Tables} {id : Nat} {thread sequence : String}
    (hth : input.threadId = some thread) (hsq : input.sourceSequence = some sequence)
    (h : (appendRawEvent input now t).1 = .ok id) :
    ∃ e, rawDuplicate (appendRawEvent input now t).2 (some thread) (some sequence) = some e ∧ e.id = id := by
  unfold appendRawEvent at h ⊢
  rw [hth, hsq] at h ⊢
  split at h
  · rename_i hnew
    rw [if_pos hnew]
    simp only [Bool.and_eq_true, Option.isNone_iff_eq_none] at hnew
    have hnone := hnew.1
    simp only [rawDuplicate] at hnone ⊢
    refine ⟨⟨input, t.journal.sequence + 1, now⟩, ?_, Except.ok.inj h⟩
    simp only [Journal.append, List.find?_append, hnone, Option.none_or]
    simp [hth, hsq]
  · rename_i hold
    rw [if_neg hold]
    simp only [Option.isSome_some, Bool.and_self, if_true] at h ⊢
    obtain ⟨e, he, hid⟩ := Option.map_eq_some_iff.1 (okOr_ok h)
    exact ⟨e, he, hid⟩

theorem appendRawEvent_known {input : RawEventInput} {now : Int} {t : Tables} {e : RawEvent} {thread sequence : String}
    (hth : input.threadId = some thread) (hsq : input.sourceSequence = some sequence)
    (h : rawDuplicate t (some thread) (some sequence) = some e) : appendRawEvent input now t = (.ok e.id, t) := by
  simp [appendRawEvent, hth, hsq, h, queryRow, okOr]

theorem journal_ingest (pj : ProtocolProjection) (n : Notification) (now : Int) (t : Tables) :
    (ingestNotification pj n now t).2.journal = (appendRawEvent (n.raw pj) now t).2.journal := by
  cases h : (appendRawEvent (n.raw pj) now t).1 with
  | error e => rw [ingest_refused h]
  | ok id =>
    refine (ingest_projects Tables.journal (fun _ _ => rfl) (fun _ _ => rfl) h).trans ?_
    exact congrArg (fun l => l.2.1) (logs_project pj n.context n.method id _ _)

section Histories
variable (pj : ProtocolProjection)

def ingestStep (t : Tables) (i : Notification × Int) : Tables := (ingestNotification pj i.1 i.2 t).2

theorem run_ingestStep_journal : ∀ (is : List (Notification × Int)) (t : Tables),
    t.journal.events <+: (run (ingestStep pj) t is).journal.events
  | [], _ => List.prefix_refl _
  | i :: is, t => by
    refine List.IsPrefix.trans ?_ (run_ingestStep_journal is (ingestStep pj t i))
    rw [ingestStep, journal_ingest]
    exact journal_appendRawEvent (i.1.raw pj) i.2 t

/-- **A notification delivered again is harmless exactly when it is settled.**  The notification carries a thread and a
sequence and was journalled before, at any point of the history; it is delivered again after whatever came between. -/
theorem redelivery_harmless_iff (t₀ : Tables) (before between : List (Notification × Int)) (n : Notification)
    (now later : Int) (thread sequence : String) (id : Nat) (hth : (n.raw pj).threadId = some thread)
    (hsq : (n.raw pj).sourceSequence = some sequence)
    (hfirst : (appendRawEvent (n.raw pj) now (run (ingestStep pj) t₀ before)).1 = .ok id) :
    let t := run (ingestStep pj) t₀ (before ++ (n, now) :: between)
    ((ingestNotification pj n later t).1 = .ok id ∧ content (ingestNotification pj n later t).2 = content t) ↔
      Settled pj t n id := by
  intro t
  obtain ⟨e, he, rfl⟩ := rawDuplicate_of_append hth hsq hfirst
  have hgrow : (appendRawEvent (n.raw pj) now (run (ingestStep pj) t₀ before)).2.journal.events <+: t.journal.events := by
    rw [← journal_ingest]
    simp only [t, run_append, run_cons]
    exact run_ingestStep_journal pj between _
  exact ingest_harmless_iff (appendRawEvent_known hth hsq (rawDuplicate_grows hgrow he))

end Histories

/-! ## A started turn delivered again -/

def turnStartedNotice : Notification :=
  ⟨⟨some "run", some "agent"⟩, "turn/started",
    .obj [("sequence", .str "1"), ("threadId", .str "thread"), ("turn", .obj [("id", .str "turn")])]⟩

def turnCompletedNotice : Notification :=
  ⟨⟨some "run", some "agent"⟩, "turn/completed",
    .obj [("sequence", .str "2"), ("threadId", .str "thread"),
      ("turn", .obj [("id", .str "turn"), ("status", .str "completed")])]⟩

/-- Delivered again at once, the started turn is settled. -/
theorem redelivery_harmless_iff_at_once :
    Settled noRedaction (run (ingestStep noRedaction) completedAgent [(turnStartedNotice, 0)]) turnStartedNotice 1 :=
  (redelivery_harmless_iff noRedaction completedAgent [] [] turnStartedNotice 0 5 "thread" "1" 1 (by decide)
    (by decide) (by decide)).1 (by decide)

/-- **Delivered again after the turn completed, it starts the turn again.** -/
theorem redelivery_restarts_turn :
    let t := run (ingestStep noRedaction) completedAgent [(turnStartedNotice, 0), (turnCompletedNotice, 1)]
    (appendRawEvent (turnStartedNotice.raw noRedaction) 0 completedAgent).1 = .ok 1 ∧
      ¬ ((ingestNotification noRedaction turnStartedNotice 5 t).1 = .ok 1 ∧
        content (ingestNotification noRedaction turnStartedNotice 5 t).2 = content t) := by
  decide

end Session
end Bildr
