import Bildr.ChildQuarantine
/-!
# ChildContainment — which rejections of a child thread land

The statement that keeps the worktrees names a column they do not have, so no new rejection of an agent that works on an
attempt lands.  Where rejections land, the agent's row carries the last of them alone: a repeat is recognised as long as
no other child of the agent was rejected since (`quarantine_lands_once`).
-/
namespace Bildr
namespace Quarantine

open Completion (LifecycleTables AgentRow)
open Session (RawEventInput RawEvent Journal DomainEvent)

structure ForeignKeys (t : ContainmentTables) : Prop where
  agentRun : ∀ g ∈ t.lifecycle.agents.rows, (t.runs.get g.runId).isSome = true
  agentAttempt : ∀ g ∈ t.lifecycle.agents.rows, ∀ id, g.taskAttemptId = some id →
    (t.lifecycle.attempts.get id).isSome = true
  eventSource : ∀ e ∈ t.domainEvents, ∀ id, e.sourceRawEventId = some id → id ≤ t.journal.sequence

/-- The call is about an agent of the store, a child id of bounded length, and an event of the agent. -/
structure Bound (t : ContainmentTables) (c : QuarantineCall) (g : AgentRow) : Prop where
  agent : t.lifecycle.agents.get c.agentId = some g
  child : c.childThreadId ≠ ""
  short : c.childThreadId.toList.length ≤ 512
  source : ["thread_started", "subagent_activity"].contains c.sourceKind = true
  event : boundTo c g = true

def reasonOf (c : QuarantineCall) : String := rejection c.childThreadId c.sourceKind

/-! ## The texts of two rejections -/

theorem append_started_ne (x y : List Char) : x ++ " (thread_started)".toList ≠ y ++ " (subagent_activity)".toList := by
  intro h
  have hlast := congrArg (fun l => l.reverse.take 2) h
  simp at hlast

theorem rejection_inj {child child' source source' : String}
    (hs : ["thread_started", "subagent_activity"].contains source = true)
    (hs' : ["thread_started", "subagent_activity"].contains source' = true)
    (h : rejection child source = rejection child' source') : child = child' := by
  have hl : child.toList ++ (" (" ++ source ++ ")").toList = child'.toList ++ (" (" ++ source' ++ ")").toList := by
    have h := congrArg String.toList h
    unfold rejection at h
    simp only [String.toList_append, List.append_assoc, List.append_cancel_left_eq] at h ⊢
    exact h
  simp only [List.contains_cons, List.contains_nil, Bool.or_false, Bool.or_eq_true, beq_iff_eq] at hs hs'
  rcases hs with rfl | rfl <;> rcases hs' with rfl | rfl
  · exact String.toList_injective (List.append_cancel_right hl)
  · exact absurd hl (append_started_ne _ _)
  · exact absurd hl.symm (append_started_ne _ _)
  · exact String.toList_injective (List.append_cancel_right hl)

/-! ## The journal -/

def rawIdOf (t : ContainmentTables) (c : QuarantineCall) : Nat :=
  match journalled t c.rawEvent with
  | some e => e.id
  | none   => t.journal.sequence + 1

def withRaw (t : ContainmentTables) (c : QuarantineCall) : ContainmentTables :=
  match journalled t c.rawEvent with
  | some _ => t
  | none   => { t with journal := t.journal.append c.rawEvent c.now }

theorem journalled_some {t : ContainmentTables} {input : RawEventInput} {e : RawEvent} (h : journalled t input = some e) :
    input.threadId.isSome = true ∧ input.sourceSequence.isSome = true ∧ e ∈ t.journal.events := by
  unfold journalled at h
  split at h
  · rename_i thread sequence hthread hsequence
    rw [hthread, hsequence]
    exact ⟨rfl, rfl, List.mem_of_find?_eq_some h⟩
  · cases h

theorem rawIdOf_le {t : ContainmentTables} (c : QuarantineCall) : rawIdOf t c ≤ (withRaw t c).journal.sequence := by
  unfold rawIdOf withRaw
  split
  · rename_i e he
    exact t.journal.bounded e (journalled_some he).2.2
  · exact Nat.le_refl _

theorem sequence_le_withRaw (t : ContainmentTables) (c : QuarantineCall) :
    t.journal.sequence ≤ (withRaw t c).journal.sequence := by
  unfold withRaw
  split
  · exact Nat.le_refl _
  · exact Nat.le_succ _

theorem withRaw_other (t : ContainmentTables) (c : QuarantineCall) :
    (withRaw t c).runs = t.runs ∧ (withRaw t c).lifecycle = t.lifecycle ∧
      (withRaw t c).domainEvents = t.domainEvents := by
  unfold withRaw
  split <;> exact ⟨rfl, rfl, rfl⟩

theorem appendRawEvent_bound {t : ContainmentTables} {c : QuarantineCall} {g : AgentRow} (hkeys : ForeignKeys t)
    (h : Bound t c g) : appendRawEvent t c.rawEvent c.now = .ok (rawIdOf t c, withRaw t c) := by
  have hevent := h.event
  unfold boundTo at hevent
  simp only [Bool.and_eq_true, beq_iff_eq] at hevent
  obtain ⟨⟨⟨hrun, hagent⟩, -⟩, -⟩ := hevent
  have hrow := hkeys.agentRun g (Table.mem_of_get h.agent)
  unfold appendRawEvent rawIdOf withRaw
  cases he : journalled t c.rawEvent with
  | none => simp [hrun, hagent, hrow, h.agent]
  | some e =>
    obtain ⟨hthread, hsequence, -⟩ := journalled_some he
    simp [hthread, hsequence, queryRow, okOr, Except.mapError]

/-! ## A new rejection -/

def contained (c : QuarantineCall) (runId : String) (t : ContainmentTables) : ContainmentTables :=
  describeAgent c.agentId c.now (failAgent c.agentId (reasonOf c) c.now (pauseScheduler runId c.now t))

theorem containAgent_ok (c : QuarantineCall) (runId : String) (t : ContainmentTables) :
    containAgent c runId t = .ok (contained c runId t) := by
  have hruns : prepare .runs ["scheduler_paused", "updated_at", "version", "id"] = .ok () := by decide
  have hagents : prepare .agentSessions ["state", "last_heartbeat_at", "completed_at", "failure_class", "failure_reason",
    "version", "id"] = .ok () := by decide
  have hdetails : prepare .agentRuntimeDetails ["current_action", "last_activity_kind", "last_activity_at", "updated_at",
    "agent_session_id"] = .ok () := by decide
  unfold containAgent execute
  rw [hruns, hagents, hdetails]
  rfl

/-- **The worktrees have no column `updated_at`**: nothing of an attempt that exists is contained. -/
theorem containAttempt_error {attemptId : String} {t : ContainmentTables} (reason : String) (now : Int)
    (h : (t.lifecycle.attempts.get attemptId).isSome = true) :
    containAttempt attemptId reason now t = .error (.noSuchColumn "updated_at") := by
  have hattempts : prepare .taskAttempts ["state", "terminal_class", "failure_reason", "started_at", "completed_at",
    "updated_at", "version", "id"] = .ok () := by decide
  have htasks : prepare .tasks ["state", "failure_reason", "updated_at", "version", "id"] = .ok () := by decide
  have hworktrees : prepare .worktrees ["state", "preserved_reason", "reconciled_at", "updated_at", "version",
    "task_attempt_id"] = .error (.noSuchColumn "updated_at") := by decide
  have hthere : ((failAttempt attemptId reason now t).lifecycle.attempts.get attemptId).isSome = true := by
    unfold failAttempt
    dsimp only
    rw [Table.get_update, Option.isSome_map]
    exact h
  obtain ⟨attempt, hattempt⟩ := Option.isSome_iff_exists.1 hthere
  unfold containAttempt execute
  rw [hattempts, htasks, hworktrees]
  simp only [ok_bind, pure_ok, hattempt, error_bind]

structure Unspent (t : ContainmentTables) (c : QuarantineCall) (g : AgentRow) : Prop where
  agent : ∀ e ∈ t.domainEvents, e.sourceRawEventId = some (rawIdOf t c) → e.aggregateType = "agent" →
    e.aggregateId = c.agentId → e.eventType ≠ "agent.qwodex.native_child.quarantined"
  run : ∀ e ∈ t.domainEvents, e.sourceRawEventId = some (rawIdOf t c) → e.aggregateType = "run" →
    e.aggregateId = g.runId → e.eventType ≠ "run.qwodex.native_child.quarantined"

theorem unspent_iff (t : ContainmentTables) (c : QuarantineCall) (g : AgentRow) (payload : Json.Value) :
    Unspent t c g ↔
      t.domainEvents.any (Session.sameEvent (agentEvent g.runId c.agentId payload (rawIdOf t c))) = false ∧
      t.domainEvents.any (Session.sameEvent (runEvent g.runId payload (rawIdOf t c))) = false := by
  simp only [List.any_eq_false, Session.sameEvent, agentEvent, runEvent, Bool.and_eq_true, beq_iff_eq, not_and]
  constructor
  · rintro ⟨hagent, hrun⟩
    exact ⟨fun e he h₁ h₂ => hagent e he h₂ h₁.1.1.1 h₁.1.1.2 h₁.1.2,
      fun e he h₁ h₂ => hrun e he h₂ h₁.1.1.1 h₁.1.1.2 h₁.1.2⟩
  · rintro ⟨hagent, hrun⟩
    exact ⟨fun e he h₁ h₂ h₃ h₄ => hagent e he ⟨⟨⟨h₂, h₃⟩, h₄⟩, by rw [h₁]; rfl⟩ h₁,
      fun e he h₁ h₂ h₃ h₄ => hrun e he ⟨⟨⟨h₂, h₃⟩, h₄⟩, by rw [h₁]; rfl⟩ h₁⟩

def recordedAfter (t : ContainmentTables) (c : QuarantineCall) (g : AgentRow) : ContainmentTables :=
  touchCheckpoint
    { contained c g.runId (withRaw t c) with
      domainEvents := t.domainEvents ++ [agentEvent g.runId c.agentId (containmentPayload c none none) (rawIdOf t c)] ++
        [runEvent g.runId (containmentPayload c none none) (rawIdOf t c)] }
    (rawIdOf t c)

theorem contained_run (c : QuarantineCall) (runId id : String) (t : ContainmentTables) :
    ((contained c runId t).runs.get id).isSome = (t.runs.get id).isSome := by
  unfold contained describeAgent failAgent pauseScheduler
  dsimp only
  rw [Table.get_update, Option.isSome_map]

theorem record_noAttempt {t : ContainmentTables} {c : QuarantineCall} {g : AgentRow} (hrun : (t.runs.get g.runId).isSome = true)
    (hnone : g.taskAttemptId = none) :
    (Unspent t c g → record c g (rawIdOf t c) (withRaw t c) = .ok (⟨g.runId, true, rawIdOf t c⟩, recordedAfter t c g)) ∧
    (¬ Unspent t c g → ∃ e, record c g (rawIdOf t c) (withRaw t c) = .error e) := by
  have hthere : ((contained c g.runId (withRaw t c)).runs.get g.runId).isSome = true := by
    rw [contained_run, (withRaw_other t c).1]
    exact hrun
  have hevents : (contained c g.runId (withRaw t c)).domainEvents = t.domainEvents := (withRaw_other t c).2.2
  have hother : Session.sameEvent (runEvent g.runId (containmentPayload c none none) (rawIdOf t c))
      (agentEvent g.runId c.agentId (containmentPayload c none none) (rawIdOf t c)) = false := rfl
  rw [unspent_iff t c g (containmentPayload c none none)]
  unfold record insertDomainEvent
  simp only [containAgent_ok, ok_bind, hnone, containWork, hevents]
  constructor
  · rintro ⟨hagent, hnew⟩
    have hagentRun : (agentEvent g.runId c.agentId (containmentPayload c none none) (rawIdOf t c)).runId = some g.runId := rfl
    have hrunRun : (runEvent g.runId (containmentPayload c none none) (rawIdOf t c)).runId = some g.runId := rfl
    simp only [hagent, hagentRun, hrunRun, Option.all_some, hthere, Bool.not_false, Bool.and_self, ensure_true, ok_bind,
      pure_ok, List.any_append, hnew, List.any_cons, hother, List.any_nil, Bool.or_self]
    rfl
  · intro hspent
    cases hagent : t.domainEvents.any
        (Session.sameEvent (agentEvent g.runId c.agentId (containmentPayload c none none) (rawIdOf t c))) with
    | true => exact ⟨_, rfl⟩
    | false =>
      cases hnew : t.domainEvents.any
          (Session.sameEvent (runEvent g.runId (containmentPayload c none none) (rawIdOf t c))) with
      | false => exact absurd ⟨hagent, hnew⟩ hspent
      | true =>
        simp only [agentEvent, Option.all_some, hthere, Bool.not_false, Bool.and_self, ensure_true, ok_bind, pure_ok,
          List.any_append]
        simp only [runEvent] at hnew ⊢
        rw [hnew]
        exact ⟨_, rfl⟩

theorem record_attempt {t : ContainmentTables} {c : QuarantineCall} {g : AgentRow} {id : String} (rawId : Nat)
    (hid : g.taskAttemptId = some id) (hattempt : (t.lifecycle.attempts.get id).isSome = true) :
    record c g rawId (withRaw t c) = .error (.noSuchColumn "updated_at") := by
  have hthere : ((contained c g.runId (withRaw t c)).lifecycle.attempts.get id).isSome = true := by
    have hsame : (contained c g.runId (withRaw t c)).lifecycle.attempts = (withRaw t c).lifecycle.attempts := rfl
    rw [hsame, (withRaw_other t c).2.1]
    exact hattempt
  unfold record
  simp only [containAgent_ok, ok_bind, hid, containWork, containAttempt_error _ _ hthere, error_bind]

/-! ## What a call does -/

/-- A rejection the agent does not carry, of an agent without an attempt, by an event that no rejection rests on. -/
structure Recordable (t : ContainmentTables) (c : QuarantineCall) (g : AgentRow) : Prop where
  fresh : rejected (reasonOf c) g = false
  attempt : g.taskAttemptId = none
  unspent : Unspent t c g

def Records (t : ContainmentTables) (c : QuarantineCall) : Prop :=
  ∃ g, Bound t c g ∧ Session.trim c.childThreadId ≠ "" ∧ Recordable t c g

theorem body_bound {t : ContainmentTables} {c : QuarantineCall} {q : Reply × ContainmentTables}
    (h : quarantineBody c t = .ok q) : ∃ g, Bound t c g ∧ Session.trim c.childThreadId ≠ "" := by
  unfold quarantineBody at h
  obtain ⟨_, hchild, h⟩ := bind_ok h
  obtain ⟨_, hsource, h⟩ := bind_ok h
  obtain ⟨g, hg, h⟩ := bind_ok h
  obtain ⟨_, hevent, -⟩ := bind_ok h
  have hchild := ensure_ok hchild
  simp only [Bool.and_eq_true, bne_iff_ne, decide_eq_true_eq] at hchild
  refine ⟨g, ⟨okOr_ok hg, fun h => hchild.1 ?_, hchild.2, ensure_ok hsource, ensure_ok hevent⟩, hchild.1⟩
  rw [h]
  rfl

theorem body_eq {t : ContainmentTables} {c : QuarantineCall} {g : AgentRow} (hkeys : ForeignKeys t) (h : Bound t c g)
    (htrim : Session.trim c.childThreadId ≠ "") :
    quarantineBody c t = if rejected (reasonOf c) g then
        .ok (⟨g.runId, false, rawIdOf t c⟩, touchCheckpoint (withRaw t c) (rawIdOf t c))
      else record c g (rawIdOf t c) (withRaw t c) := by
  unfold quarantineBody
  rw [bne_iff_ne.2 htrim, decide_eq_true h.short, h.source, h.agent]
  simp only [okOr, Bool.and_self, ensure_true, ok_bind, h.event, appendRawEvent_bound hkeys h]
  rfl

theorem quarantine_ok {t t' : ContainmentTables} {c : QuarantineCall} {reply : Reply}
    (h : quarantineBody c t = .ok (reply, t')) : quarantineUnenforceableNativeChild c t = (.ok reply, t') := by
  unfold quarantineUnenforceableNativeChild
  rw [h]

theorem quarantine_error {t : ContainmentTables} {c : QuarantineCall} {e : QuarantineError}
    (h : quarantineBody c t = .error e) : quarantineUnenforceableNativeChild c t = (.error e, t) := by
  unfold quarantineUnenforceableNativeChild
  rw [h]

/-- **A call is refused, repeats what the agent carries, or records a rejection.** -/
theorem quarantine_cases {t : ContainmentTables} (hkeys : ForeignKeys t) (c : QuarantineCall) :
    (∃ e, quarantineUnenforceableNativeChild c t = (.error e, t) ∧ ¬ Records t c ∧
      ∀ g, Bound t c g → Session.trim c.childThreadId ≠ "" → rejected (reasonOf c) g = false) ∨
    (∃ g, Bound t c g ∧ Session.trim c.childThreadId ≠ "" ∧ rejected (reasonOf c) g = true ∧
      quarantineUnenforceableNativeChild c t =
        (.ok ⟨g.runId, false, rawIdOf t c⟩, touchCheckpoint (withRaw t c) (rawIdOf t c))) ∨
    ∃ g, Bound t c g ∧ Session.trim c.childThreadId ≠ "" ∧ Recordable t c g ∧
      quarantineUnenforceableNativeChild c t = (.ok ⟨g.runId, true, rawIdOf t c⟩, recordedAfter t c g) := by
  by_cases hb : ∃ g, Bound t c g ∧ Session.trim c.childThreadId ≠ ""
  · obtain ⟨g, hg, htrim⟩ := hb
    have hbody := body_eq hkeys hg htrim
    have hunique : ∀ g', Bound t c g' → g' = g := fun g' hg' => Option.some.inj (hg'.agent.symm.trans hg.agent)
    cases hr : rejected (reasonOf c) g with
    | true =>
      rw [hr, if_pos rfl] at hbody
      exact Or.inr (Or.inl ⟨g, hg, htrim, hr, quarantine_ok hbody⟩)
    | false =>
      rw [hr, if_neg Bool.false_ne_true] at hbody
      have hrefused : ∀ e, record c g (rawIdOf t c) (withRaw t c) = .error e →
          ¬ (g.taskAttemptId = none ∧ Unspent t c g) →
          ∃ e, quarantineUnenforceableNativeChild c t = (.error e, t) ∧ ¬ Records t c ∧
            ∀ g, Bound t c g → Session.trim c.childThreadId ≠ "" → rejected (reasonOf c) g = false := by
        intro e he hnot
        refine ⟨e, quarantine_error (hbody.trans he), ?_, fun g' hg' _ => hunique g' hg' ▸ hr⟩
        rintro ⟨g', hg', -, hrec⟩
        rw [hunique g' hg'] at hrec
        exact hnot ⟨hrec.attempt, hrec.unspent⟩
      have hrow := Table.mem_of_get hg.agent
      cases hattempt : g.taskAttemptId with
      | some id =>
        exact Or.inl (hrefused _ (record_attempt _ hattempt (hkeys.agentAttempt g hrow id hattempt))
          (fun h => by rw [hattempt] at h; cases h.1))
      | none =>
        obtain ⟨hnew, hspent⟩ := record_noAttempt (c := c) (hkeys.agentRun g hrow) hattempt
        by_cases hu : Unspent t c g
        · exact Or.inr (Or.inr ⟨g, hg, htrim, ⟨hr, hattempt, hu⟩, quarantine_ok (hbody.trans (hnew hu))⟩)
        · obtain ⟨e, he⟩ := hspent hu
          exact Or.inl (hrefused e he (fun h => hu h.2))
  · cases hbody : quarantineBody c t with
    | ok q => exact absurd (body_bound hbody) hb
    | error e =>
      refine Or.inl ⟨e, quarantine_error hbody, ?_, fun g hg htrim => absurd ⟨g, hg, htrim⟩ hb⟩
      rintro ⟨g, hg, htrim, -⟩
      exact hb ⟨g, hg, htrim⟩

/-! ## The row of the agent -/

theorem get_recordedAfter (t : ContainmentTables) (c : QuarantineCall) (g : AgentRow) (id : String) :
    (recordedAfter t c g).lifecycle.agents.get id = (t.lifecycle.agents.get id).map (fun r =>
      if r.id == c.agentId then
        { r with
          state := "FAILED", lastHeartbeatAt := some c.now, completedAt := some c.now,
          failureClass := some "protocol_error", failureReason := some (reasonOf c), version := r.version + 1 }
      else r) := by
  have hagents : (recordedAfter t c g).lifecycle.agents =
      (failAgent c.agentId (reasonOf c) c.now (withRaw t c)).lifecycle.agents := rfl
  rw [hagents]
  unfold failAgent
  dsimp only
  rw [Table.get_update, (withRaw_other t c).2.1]

theorem step_row {t : ContainmentTables} (hkeys : ForeignKeys t) (c : QuarantineCall) {id : String} {g : AgentRow}
    (hg : t.lifecycle.agents.get id = some g) :
    ∃ g', (quarantineUnenforceableNativeChild c t).2.lifecycle.agents.get id = some g' ∧ g'.runId = g.runId ∧
      g'.taskAttemptId = g.taskAttemptId := by
  rcases quarantine_cases hkeys c with ⟨e, h, -⟩ | ⟨g₀, -, -, -, h⟩ | ⟨g₀, -, -, -, h⟩
  · rw [h]
    exact ⟨g, hg, rfl, rfl⟩
  · rw [h]
    have hsame : (touchCheckpoint (withRaw t c) (rawIdOf t c)).lifecycle = t.lifecycle := (withRaw_other t c).2.1
    rw [hsame]
    exact ⟨g, hg, rfl, rfl⟩
  · rw [h, get_recordedAfter, hg, Option.map_some]
    refine ⟨_, rfl, ?_⟩
    split <;> exact ⟨rfl, rfl⟩

theorem step_keys {t : ContainmentTables} (hkeys : ForeignKeys t) (c : QuarantineCall) :
    ForeignKeys (quarantineUnenforceableNativeChild c t).2 := by
  rcases quarantine_cases hkeys c with ⟨e, h, -⟩ | ⟨g, -, -, -, h⟩ | ⟨g, -, -, -, h⟩
  · rw [h]
    exact hkeys
  · rw [h]
    obtain ⟨hruns, hlifecycle, hevents⟩ := withRaw_other t c
    constructor
    · intro r hr
      unfold touchCheckpoint at hr ⊢
      dsimp only at hr ⊢
      rw [hlifecycle] at hr
      rw [hruns]
      exact hkeys.agentRun r hr
    · intro r hr id hid
      unfold touchCheckpoint at hr ⊢
      dsimp only at hr ⊢
      rw [hlifecycle] at hr ⊢
      exact hkeys.agentAttempt r hr id hid
    · intro e he id hid
      unfold touchCheckpoint at he ⊢
      dsimp only at he ⊢
      rw [hevents] at he
      exact (hkeys.eventSource e he id hid).trans (sequence_le_withRaw t c)
  · rw [h]
    have hrows : ∀ r ∈ (recordedAfter t c g).lifecycle.agents.rows, ∃ q ∈ t.lifecycle.agents.rows,
        r.runId = q.runId ∧ r.taskAttemptId = q.taskAttemptId := by
      intro r hr
      have hget := Table.get_of_mem hr
      rw [get_recordedAfter, Option.map_eq_some_iff] at hget
      obtain ⟨q, hq, rfl⟩ := hget
      refine ⟨q, Table.mem_of_get hq, ?_⟩
      split <;> exact ⟨rfl, rfl⟩
    constructor
    · intro r hr
      obtain ⟨q, hq, hrun, -⟩ := hrows r hr
      have hthere := contained_run c g.runId r.runId (withRaw t c)
      rw [(withRaw_other t c).1, hrun] at hthere
      rw [hrun]
      exact hthere.trans (hkeys.agentRun q hq)
    · intro r hr id hid
      obtain ⟨q, hq, -, hattempt⟩ := hrows r hr
      have hsame : (recordedAfter t c g).lifecycle.attempts = (withRaw t c).lifecycle.attempts := rfl
      rw [hsame, (withRaw_other t c).2.1]
      exact hkeys.agentAttempt q hq id (hattempt ▸ hid)
    · intro e he id hid
      have hsequence : (recordedAfter t c g).journal.sequence = (withRaw t c).journal.sequence := rfl
      rw [hsequence]
      have he : e ∈ t.domainEvents ++ [agentEvent g.runId c.agentId (containmentPayload c none none) (rawIdOf t c)] ++
        [runEvent g.runId (containmentPayload c none none) (rawIdOf t c)] := he
      rcases List.mem_append.1 he with he | he
      · rcases List.mem_append.1 he with he | he
        · exact (hkeys.eventSource e he id hid).trans (sequence_le_withRaw t c)
        · rw [List.mem_singleton.1 he] at hid
          exact Option.some.inj hid ▸ rawIdOf_le c
      · rw [List.mem_singleton.1 he] at hid
        exact Option.some.inj hid ▸ rawIdOf_le c

def Carries (t : ContainmentTables) (c : QuarantineCall) : Prop :=
  ∃ g, t.lifecycle.agents.get c.agentId = some g ∧ rejected (reasonOf c) g = true

theorem carries_step {t : ContainmentTables} (hkeys : ForeignKeys t) {c d : QuarantineCall}
    (hsource : ["thread_started", "subagent_activity"].contains c.sourceKind = true)
    (hchild : d.childThreadId ≠ c.childThreadId) :
    Carries (quarantineUnenforceableNativeChild d t).2 c ↔ Carries t c ∧ ¬ (d.agentId = c.agentId ∧ Records t d) := by
  rcases quarantine_cases hkeys d with ⟨e, h, hnot, -⟩ | ⟨g, hg, -, hr, h⟩ | ⟨g, hg, htrim, hrec, h⟩
  · rw [h]
    exact ⟨fun hc => ⟨hc, fun hd => hnot hd.2⟩, fun hc => hc.1⟩
  · rw [h]
    have hnot : ¬ Records t d := by
      rintro ⟨g', hg', -, hrec⟩
      rw [Option.some.inj (hg'.agent.symm.trans hg.agent), hrec.fresh] at *
      cases hr
    have hsame : (touchCheckpoint (withRaw t d) (rawIdOf t d)).lifecycle = t.lifecycle := (withRaw_other t d).2.1
    unfold Carries
    rw [hsame]
    exact ⟨fun hc => ⟨hc, fun hd => hnot hd.2⟩, fun hc => hc.1⟩
  · rw [h]
    have hrecords : Records t d := ⟨g, hg, htrim, hrec⟩
    unfold Carries
    rw [get_recordedAfter]
    constructor
    · rintro ⟨g', hg', hr⟩
      rw [Option.map_eq_some_iff] at hg'
      obtain ⟨q, hq, rfl⟩ := hg'
      by_cases hid : d.agentId = c.agentId
      · rw [if_pos (by rw [Table.key_of_get hq, hid]; exact beq_self_eq_true _)] at hr
        simp only [rejected, Bool.and_eq_true, beq_iff_eq, Option.some.injEq] at hr
        exact absurd (rejection_inj hg.source hsource hr.2) hchild
      · rw [if_neg (by rw [Table.key_of_get hq]; exact fun h => hid (beq_iff_eq.1 h).symm)] at hr
        exact ⟨⟨q, hq, hr⟩, fun hd => hid hd.1⟩
    · rintro ⟨⟨q, hq, hr⟩, hnot⟩
      have hid : d.agentId ≠ c.agentId := fun hid => hnot ⟨hid, hrecords⟩
      refine ⟨q, ?_, hr⟩
      rw [hq, Option.map_some, if_neg (by rw [Table.key_of_get hq]; exact fun h => hid (beq_iff_eq.1 h).symm)]

/-! ## Runs -/

def quarantineAll (calls : List QuarantineCall) (t : ContainmentTables) : ContainmentTables :=
  calls.foldl (fun t c => (quarantineUnenforceableNativeChild c t).2) t

def Undisturbed (agentId : String) : List QuarantineCall → ContainmentTables → Prop
  | [], _     => True
  | d :: l, t => ¬ (d.agentId = agentId ∧ Records t d) ∧
      Undisturbed agentId l (quarantineUnenforceableNativeChild d t).2

theorem run_row (l : List QuarantineCall) : ∀ {t : ContainmentTables}, ForeignKeys t → ∀ {id : String} {g : AgentRow},
    t.lifecycle.agents.get id = some g → ForeignKeys (quarantineAll l t) ∧
      ∃ g', (quarantineAll l t).lifecycle.agents.get id = some g' ∧ g'.runId = g.runId := by
  induction l with
  | nil => exact fun hkeys _ g hg => ⟨hkeys, g, hg, rfl⟩
  | cons d l ih =>
    intro t hkeys id g hg
    obtain ⟨g₁, hg₁, hrun₁, -⟩ := step_row hkeys d hg
    obtain ⟨hkeys', g', hg', hrun'⟩ := ih (step_keys hkeys d) hg₁
    exact ⟨hkeys', g', hg', hrun'.trans hrun₁⟩

theorem carries_run {c : QuarantineCall} (hsource : ["thread_started", "subagent_activity"].contains c.sourceKind = true) :
    ∀ (l : List QuarantineCall) {t : ContainmentTables}, ForeignKeys t → (∀ d ∈ l, d.childThreadId ≠ c.childThreadId) →
      (Carries (quarantineAll l t) c ↔ Carries t c ∧ Undisturbed c.agentId l t)
  | [], t, _, _ => (and_iff_left trivial).symm
  | d :: l, t, hkeys, hother => by
    have hrest := carries_run hsource l (step_keys hkeys d) (fun e he => hother e (List.mem_cons_of_mem d he))
    have hstep := carries_step hkeys hsource (hother d List.mem_cons_self)
    have hcons : quarantineAll (d :: l) t = quarantineAll l (quarantineUnenforceableNativeChild d t).2 := rfl
    rw [hcons, hrest, hstep, and_assoc]
    rfl

/-! ## Landing -/

/-- The scheduler is paused, the agent and its attempt have failed, the task asks for help, and the worktrees are kept. -/
structure Contained (t : ContainmentTables) (g : AgentRow) : Prop where
  run : ∃ r, t.runs.get g.runId = some r ∧ r.schedulerPaused = true
  agent : g.state = "FAILED"
  attempt : ∀ id, g.taskAttemptId = some id → ∃ a, t.lifecycle.attempts.get id = some a ∧ a.state = "FAILED" ∧
    (∃ k, t.lifecycle.tasks.get a.taskId = some k ∧ (k.state = .needsHelp ∨ terminalTask k.state = true)) ∧
    ∀ w ∈ t.lifecycle.worktrees.rows, w.taskAttemptId = some id → w.state ≠ "REMOVED" → w.state = "PRESERVED"

def Lands (t : ContainmentTables) (c : QuarantineCall) : Prop :=
  ∃ reply g, (quarantineUnenforceableNativeChild c t).1 = .ok reply ∧
    (quarantineUnenforceableNativeChild c t).2.lifecycle.agents.get c.agentId = some g ∧
    Contained (quarantineUnenforceableNativeChild c t).2 g

def Silent (t : ContainmentTables) (c : QuarantineCall) : Prop :=
  ∃ reply, (quarantineUnenforceableNativeChild c t).1 = .ok reply ∧ reply.recorded = false ∧
    (quarantineUnenforceableNativeChild c t).2.domainEvents = t.domainEvents

/-- The child id is not blank, and either the agent carries the rejection and is contained, or it works on no attempt
and the event is the source of no earlier rejection. -/
structure LandsWhen (t : ContainmentTables) (c : QuarantineCall) (g : AgentRow) : Prop where
  child : Session.trim c.childThreadId ≠ ""
  state : (rejected (reasonOf c) g = true ∧ Contained t g) ∨ Recordable t c g

theorem contained_recordedAfter {t : ContainmentTables} {c : QuarantineCall} {g : AgentRow}
    (hrun : (t.runs.get g.runId).isSome = true) (hg : t.lifecycle.agents.get c.agentId = some g)
    (hnone : g.taskAttemptId = none) :
    ∃ g', (recordedAfter t c g).lifecycle.agents.get c.agentId = some g' ∧ rejected (reasonOf c) g' = true ∧
      Contained (recordedAfter t c g) g' := by
  have hid : g.id = c.agentId := Table.key_of_get hg
  refine ⟨_, by rw [get_recordedAfter, hg, Option.map_some, if_pos (by rw [hid]; exact beq_self_eq_true _)], ?_, ?_⟩
  · simp [rejected]
  · obtain ⟨r, hr⟩ := Option.isSome_iff_exists.1 hrun
    have hpaused : (recordedAfter t c g).runs = (pauseScheduler g.runId c.now (withRaw t c)).runs := rfl
    refine ⟨?_, rfl, fun id h => by rw [hnone] at h; cases h⟩
    rw [hpaused]
    unfold pauseScheduler
    dsimp only
    rw [Table.get_update, (withRaw_other t c).1, hr, Option.map_some]
    refine ⟨_, rfl, ?_⟩
    have hkey : r.id = g.runId := Table.key_of_get hr
    cases hp : r.schedulerPaused with
    | true => simp [hp]
    | false => simp [hkey]

theorem lands_iff {t : ContainmentTables} {c : QuarantineCall} {g : AgentRow} (hkeys : ForeignKeys t) (h : Bound t c g) :
    (Lands t c ↔ LandsWhen t c g) ∧ (Lands t c → Carries (quarantineUnenforceableNativeChild c t).2 c) := by
  have hunique : ∀ g', Bound t c g' → g' = g := fun g' hg' => Option.some.inj (hg'.agent.symm.trans h.agent)
  unfold Lands
  rcases quarantine_cases hkeys c with ⟨e, heq, hnot, hfresh⟩ | ⟨g', hg', htrim, hr, heq⟩ | ⟨g', hg', htrim, hrec, heq⟩
  · rw [heq]
    refine ⟨⟨fun ⟨_, _, hok, _⟩ => (by cases hok), fun hw => ?_⟩, fun ⟨_, _, hok, _⟩ => (by cases hok)⟩
    rcases hw.state with ⟨hr, -⟩ | hrec
    · rw [hfresh g h hw.child] at hr
      cases hr
    · exact absurd ⟨g, h, hw.child, hrec⟩ hnot
  · obtain rfl := hunique g' hg'
    rw [heq]
    obtain ⟨hruns, hlifecycle, -⟩ := withRaw_other t c
    have hl : (touchCheckpoint (withRaw t c) (rawIdOf t c)).lifecycle = t.lifecycle := hlifecycle
    have hrs : (touchCheckpoint (withRaw t c) (rawIdOf t c)).runs = t.runs := hruns
    have hsame : Contained (touchCheckpoint (withRaw t c) (rawIdOf t c)) g' ↔ Contained t g' := by
      constructor
      · rintro ⟨hrun, hagent, hattempt⟩
        rw [hl] at hattempt
        exact ⟨hrs ▸ hrun, hagent, hattempt⟩
      · rintro ⟨hrun, hagent, hattempt⟩
        refine ⟨hrs.symm ▸ hrun, hagent, ?_⟩
        rw [hl]
        exact hattempt
    have hrow : (touchCheckpoint (withRaw t c) (rawIdOf t c)).lifecycle.agents.get c.agentId = some g' := by
      rw [hl]
      exact hg'.agent
    refine ⟨⟨fun ⟨_, g₁, _, hg₁, hc⟩ => ?_, fun hw => ?_⟩, fun _ => ⟨g', hrow, hr⟩⟩
    · rw [Option.some.inj (hg₁.symm.trans hrow)] at hc
      exact ⟨htrim, Or.inl ⟨hr, hsame.1 hc⟩⟩
    · rcases hw.state with ⟨-, hc⟩ | hrec
      · exact ⟨_, g', rfl, hrow, hsame.2 hc⟩
      · rw [hrec.fresh] at hr
        cases hr
  · obtain rfl := hunique g' hg'
    rw [heq]
    obtain ⟨g₁, hg₁, hr, hc⟩ := contained_recordedAfter (hkeys.agentRun g' (Table.mem_of_get hg'.agent)) hg'.agent hrec.attempt
    exact ⟨⟨fun _ => ⟨htrim, Or.inr hrec⟩, fun _ => ⟨_, g₁, rfl, hg₁, hc⟩⟩, fun _ => ⟨g₁, hg₁, hr⟩⟩

theorem silent_iff {t : ContainmentTables} {c : QuarantineCall} {g : AgentRow} (hkeys : ForeignKeys t) (h : Bound t c g)
    (htrim : Session.trim c.childThreadId ≠ "") : Silent t c ↔ Carries t c := by
  have hunique : ∀ g', Bound t c g' → g' = g := fun g' hg' => Option.some.inj (hg'.agent.symm.trans h.agent)
  have hrow : Carries t c ↔ rejected (reasonOf c) g = true :=
    ⟨fun ⟨g', hg', hr⟩ => Option.some.inj (hg'.symm.trans h.agent) ▸ hr, fun hr => ⟨g, h.agent, hr⟩⟩
  rw [hrow]
  unfold Silent
  rcases quarantine_cases hkeys c with ⟨e, heq, -, hfresh⟩ | ⟨g', hg', -, hr, heq⟩ | ⟨g', hg', -, hrec, heq⟩
  · rw [heq, hfresh g h htrim]
    exact ⟨fun ⟨_, hok, _⟩ => (by cases hok), fun hf => (by cases hf)⟩
  · obtain rfl := hunique g' hg'
    rw [heq]
    exact ⟨fun _ => hr, fun _ => ⟨_, rfl, rfl, (withRaw_other t c).2.2⟩⟩
  · obtain rfl := hunique g' hg'
    rw [heq, hrec.fresh]
    refine ⟨fun ⟨_, hok, hold, _⟩ => ?_, fun hf => by cases hf⟩
    cases hok
    cases hold

/-- **Which rejections land, and which repeats are recognised.**  After a rejection landed and rejections of other
children followed, the same one asked again is silent exactly when none of those was of the same agent and new. -/
theorem quarantine_lands_once {t : ContainmentTables} {c : QuarantineCall} {g : AgentRow} (hkeys : ForeignKeys t)
    (hbound : Bound t c g) :
    (Lands t c ↔ LandsWhen t c g) ∧
    (Lands t c → ∀ later again, (∀ d ∈ later, d.childThreadId ≠ c.childThreadId) → Bound t again g →
      again.agentId = c.agentId → again.childThreadId = c.childThreadId → again.sourceKind = c.sourceKind →
      (Silent (quarantineAll later (quarantineUnenforceableNativeChild c t).2) again ↔
        Undisturbed c.agentId later (quarantineUnenforceableNativeChild c t).2)) := by
  refine ⟨(lands_iff hkeys hbound).1, fun hlands later again hothers hagain hagent hchild hsource => ?_⟩
  have htrim := ((lands_iff hkeys hbound).1.1 hlands).child
  obtain ⟨g₁, hg₁, hrun₁, -⟩ := step_row hkeys c hbound.agent
  obtain ⟨hkeys', g', hg', hrun'⟩ := run_row later (step_keys hkeys c) hg₁
  have hbound' : Bound (quarantineAll later (quarantineUnenforceableNativeChild c t).2) again g' := by
    refine ⟨hagent ▸ hg', hagain.child, hagain.short, hagain.source, ?_⟩
    have hevent := hagain.event
    unfold boundTo at hevent ⊢
    rw [hrun', hrun₁]
    exact hevent
  have hsame : Carries (quarantineAll later (quarantineUnenforceableNativeChild c t).2) again ↔
      Carries (quarantineAll later (quarantineUnenforceableNativeChild c t).2) c := by
    unfold Carries reasonOf
    rw [hagent, hchild, hsource]
  rw [silent_iff hkeys' hbound' (hchild ▸ htrim), hsame,
    carries_run hbound.source later (step_keys hkeys c) hothers]
  exact and_iff_right ((lands_iff hkeys hbound).2 hlands)

/-! ## One agent -/

def soleAgent (attempt : Option String) : AgentRow := ⟨"agent", "run", attempt, "worker", "RUNNING", none, none, none, none, 1⟩

def oneAgent (attempt : Option String) : ContainmentTables where
  runs := ⟨[⟨"run", false, 0, 1⟩], List.nodup_singleton _⟩
  lifecycle :=
    { tasks := ⟨[⟨"task", "run", "T", .implementing, none, 0, 1⟩], List.nodup_singleton _⟩
      attempts := ⟨[⟨"attempt", "task", "", none, "RUNNING", none, none, none, none, 0, 1⟩], List.nodup_singleton _⟩
      agents := ⟨[soleAgent attempt], List.nodup_singleton _⟩
      details := ∅
      worktrees := ⟨[⟨"tree", some "attempt", "ACTIVE", none, 0, none, none, 1⟩], List.nodup_singleton _⟩
      metadata := ∅ }
  journal := .empty
  domainEvents := []
  checkpoint := none

def childStarted (child : String) : QuarantineCall :=
  ⟨"agent", child, "thread_started", "inbound",
    ⟨some "run", some "agent", some "parent", none, "thread/started", .null, none, "none"⟩, 0⟩

theorem oneAgent_keys (attempt : Option String) (h : attempt.all (fun id => id == "attempt") = true) :
    ForeignKeys (oneAgent attempt) := by
  have hrow : ∀ g ∈ (oneAgent attempt).lifecycle.agents.rows, g = soleAgent attempt := fun g hg =>
    List.mem_singleton.1 hg
  constructor
  · intro g hg
    rw [hrow g hg]
    rfl
  · intro g hg id hid
    rw [hrow g hg] at hid
    cases attempt with
    | none => cases hid
    | some attempt =>
      cases hid
      rw [beq_iff_eq.1 h]
      rfl
  · exact fun e he => by cases he

theorem oneAgent_bound (attempt : Option String) : Bound (oneAgent attempt) (childStarted "a") (soleAgent attempt) :=
  ⟨rfl, by decide, by decide, rfl, rfl⟩

theorem quarantine_lands_once_oneAgent :
    Lands (oneAgent none) (childStarted "a") ↔ LandsWhen (oneAgent none) (childStarted "a") (soleAgent none) :=
  (quarantine_lands_once (oneAgent_keys none rfl) (oneAgent_bound none)).1

/-- **The child of an agent with an attempt is not contained, and of two children the first is rejected twice.** -/
theorem attempt_not_contained :
    (Bound (oneAgent (some "attempt")) (childStarted "a") (soleAgent (some "attempt")) ∧
      ¬ Lands (oneAgent (some "attempt")) (childStarted "a")) ∧
    ¬ Silent (quarantineAll [childStarted "a", childStarted "b"] (oneAgent none)) (childStarted "a") := by
  refine ⟨⟨oneAgent_bound _, fun ⟨reply, g, hok, _⟩ => ?_⟩, fun ⟨reply, hok, hold, _⟩ => ?_⟩
  · have herror : (quarantineUnenforceableNativeChild (childStarted "a") (oneAgent (some "attempt"))).1 =
        .error (.noSuchColumn "updated_at") := by decide
    rw [herror] at hok
    cases hok
  · have hnew : (quarantineUnenforceableNativeChild (childStarted "a")
        (quarantineAll [childStarted "a", childStarted "b"] (oneAgent none))).1 = .ok ⟨"run", true, 3⟩ := by decide
    rw [hnew] at hok
    cases hok
    cases hold

end Quarantine
end Bildr
