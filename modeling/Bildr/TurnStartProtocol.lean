import Bildr.TurnStart
import Bildr.Trace
/-!
# TurnStartProtocol — what the pending turn-start calls keep

The calls of one agent move its view: the receipt that is retained, the containment marker, and the journal (`Move`).
Along runs that record no resolved receipt again every state has the protocol's properties
(`pending_turn_start_protocol`); a receipt recorded again after its resolution can be resolved twice
(`resolved_receipt_rearmed`).
-/
namespace Bildr
namespace Session

open Json (Value)
open Trace

/-! ## The view of one agent -/

structure View where
  owner : Option String
  retained : Option Value
  marker : Option Value
  journal : List DomainEvent

def stored (t : Tables) (key : String) : Option Value := (t.metadata.get key).map Metadata.value

def view (agent : String) (t : Tables) : View :=
  ⟨(t.agents.get agent).map AgentSession.runId, stored t (pendingKey agent), stored t (containmentKey agent),
    t.domainEvents⟩

theorem append_ne {p q : String} (a b : String) (hle : p.toList.length ≤ q.toList.length)
    (hne : q.toList.take p.toList.length ≠ p.toList) : p ++ a ≠ q ++ b := by
  intro h
  have hl := congrArg (fun k => k.toList.take p.toList.length) h
  simp only [String.toList_append] at hl
  rw [List.take_left' rfl, List.take_append_of_le_length hle] at hl
  exact hne hl.symm

theorem pendingKey_ne_containmentKey (agent : String) : pendingKey agent ≠ containmentKey agent :=
  append_ne agent agent (by decide) (by decide)

theorem retains_iff {t : Tables} {key : String} {receipt : Value} :
    retains t key receipt = true ↔ stored t key = some receipt := by
  unfold retains stored
  rw [List.any_eq_true, Option.map_eq_some_iff]
  refine exists_congr (fun m => ?_)
  rw [Table.get_some, Bool.and_eq_true, beq_iff_eq, decide_eq_true_eq, and_assoc]

theorem ownerRun_ok {t : Tables} {agent run : String} (h : ownerRun t agent = .ok run) :
    (t.agents.get agent).map AgentSession.runId = some run := okOr_ok h

theorem keepReceipt_ok {t t' : Tables} {key conflict : String} {receipt : Value}
    (h : keepReceipt t key receipt conflict = .ok t') :
    (stored t key = none ∨ stored t key = some receipt) ∧ stored t' key = some receipt ∧
      (∀ k, k ≠ key → stored t' k = stored t k) ∧ t'.agents = t.agents ∧ t'.domainEvents = t.domainEvents := by
  unfold keepReceipt at h
  cases hg : t.metadata.get key with
  | some m =>
    rw [hg] at h
    obtain ⟨_, hm, h⟩ := bind_ok h
    cases h
    have hv : m.value = receipt := by simpa using ensure_ok hm
    have hs : stored t key = some receipt := by rw [stored, hg, Option.map_some, hv]
    exact ⟨Or.inr hs, hs, fun _ _ => rfl, rfl, rfl⟩
  | none =>
    rw [hg] at h
    obtain ⟨u, hu, h⟩ := bind_ok h
    cases h
    have hget := Table.get_insert (insertRow_ok hu)
    refine ⟨Or.inl (by rw [stored, hg, Option.map_none]), ?_, fun k hk => ?_, rfl, rfl⟩
    · show (u.get key).map Metadata.value = some receipt
      rw [hget key, if_pos rfl, Option.map_some]
    · show (u.get k).map Metadata.value = (t.metadata.get k).map Metadata.value
      rw [hget k, if_neg hk]

section Moves
variable (digest : Value → String) (agent : String)

theorem view_closeReceipt (run : String) (receipt resolution : Value) (t : Tables) :
    view agent (closeReceipt digest run agent (pendingKey agent) receipt resolution t) =
      { view agent t with
        retained := none, marker := none,
        journal := t.domainEvents ++ [startEvent digest run agent receipt .resolved resolution] } := by
  have gone : ∀ k, k = pendingKey agent ∨ k = containmentKey agent →
      stored (closeReceipt digest run agent (pendingKey agent) receipt resolution t) k = none := by
    intro k hk
    simp only [stored, closeReceipt, Table.get_delete, Option.filter_filter]
    cases hg : t.metadata.get k with
    | none => rfl
    | some m =>
      have hm : m.key = k := Table.key_of_get hg
      rw [Option.filter_some_neg]
      · rfl
      · rcases hk with rfl | rfl <;> simp [hm]
  simp only [view, gone _ (Or.inl rfl), gone _ (Or.inr rfl)]
  rfl

inductive Move (v : View) : View → Prop
  | stay : Move v v
  | again (run : String) (r : Value) (e : DomainEvent) (owner : v.owner = some run)
      (free : v.retained = none ∧ v.journal.any (isStartEvent digest run agent r .resolved) = false ∨
        v.retained = some r)
      (found : v.journal.find? (isStartEvent digest run agent r .pending) = some e) (same : e.payload = r) :
      Move v { v with retained := some r }
  | first (run : String) (r : Value) (owner : v.owner = some run) (free : v.retained = none ∨ v.retained = some r)
      (fresh : v.journal.find? (isStartEvent digest run agent r .pending) = none) :
      Move v { v with retained := some r, journal := v.journal ++ [startEvent digest run agent r .pending r] }
  | contain (run : String) (r : Value) (es : List DomainEvent) (held : v.retained = some r)
      (free : v.marker = none ∨ v.marker = some r)
      (added : es = [] ∨ es = [startEvent digest run agent r .containmentInitiated r]) :
      Move v { v with marker := some r, journal := v.journal ++ es }
  | close (run : String) (r resolution : Value) (owner : v.owner = some run) (held : v.retained = some r) :
      Move v { v with retained := none, marker := none,
                      journal := v.journal ++ [startEvent digest run agent r .resolved resolution] }

/-! ## What each call does -/

theorem record_ok {run key : String} {r : Value} {t : Tables}
    (h : (recordPendingTurnStart digest run agent key r t).1 = .ok ()) :
    (view agent t).owner = some run ∧ key = pendingKey agent ∧
      ((view agent t).retained = none ∨ (view agent t).retained = some r) ∧
      ((∃ e, t.domainEvents.find? (isStartEvent digest run agent r .pending) = some e ∧ e.payload = r ∧
          view agent (recordPendingTurnStart digest run agent key r t).2 = { view agent t with retained := some r }) ∨
        t.domainEvents.find? (isStartEvent digest run agent r .pending) = none ∧
          view agent (recordPendingTurnStart digest run agent key r t).2 =
            { view agent t with
              retained := some r, journal := t.domainEvents ++ [startEvent digest run agent r .pending r] }) := by
  unfold recordPendingTurnStart commit at h ⊢
  rcases transaction_cases _ t with ⟨e, -, ht⟩ | ⟨u, t', hb, ht⟩
  · rw [ht] at h; cases h
  · rw [ht]
    obtain ⟨t₃, hbody, hpure⟩ := bind_ok hb
    cases hpure
    obtain ⟨owner, howner, hbody⟩ := bind_ok hbody
    obtain ⟨_, hrun, hbody⟩ := bind_ok hbody
    obtain ⟨_, hkey, hbody⟩ := bind_ok hbody
    obtain ⟨t₁, hkeep, hlast⟩ := bind_ok hbody
    clear hbody
    obtain rfl : owner = run := by simpa using ensure_ok hrun
    obtain rfl : key = pendingKey agent := by simpa using ensure_ok hkey
    obtain ⟨hfree, hnew, hothers, hagents, hevents⟩ := keepReceipt_ok hkeep
    have hview : ∀ js, view agent { t₁ with domainEvents := js } =
        { view agent t with retained := some r, journal := js } := by
      intro js
      simp only [view, stored, hagents]
      exact congrArg₂ (fun a b => View.mk _ a b js) hnew (hothers _ (pendingKey_ne_containmentKey agent).symm)
    refine ⟨ownerRun_ok howner, rfl, hfree, ?_⟩
    rw [hevents] at hlast
    cases hf : t.domainEvents.find? (isStartEvent digest owner agent r .pending) with
    | some e =>
      rw [hf] at hlast
      obtain ⟨_, hsame, hlast⟩ := bind_ok hlast
      cases hlast
      have := hview t.domainEvents
      rw [← hevents] at this
      exact Or.inl ⟨e, rfl, by simpa using ensure_ok hsame, by rw [this, hevents]; rfl⟩
    | none =>
      rw [hf] at hlast
      cases hlast
      exact Or.inr ⟨rfl, hview _⟩

theorem resolve_ok {run key : String} {r resolution : Value} {t : Tables}
    (h : (resolvePendingTurnStart digest run agent key r resolution t).1 = .ok ()) :
    (view agent t).owner = some run ∧ key = pendingKey agent ∧ (view agent t).retained = some r ∧
      view agent (resolvePendingTurnStart digest run agent key r resolution t).2 =
        { view agent t with
          retained := none, marker := none,
          journal := t.domainEvents ++ [startEvent digest run agent r .resolved resolution] } := by
  unfold resolvePendingTurnStart commit at h ⊢
  rcases transaction_cases _ t with ⟨e, -, ht⟩ | ⟨u, t', hb, ht⟩
  · rw [ht] at h; cases h
  · rw [ht]
    obtain ⟨t₁, hbody, hpure⟩ := bind_ok hb
    cases hpure
    obtain ⟨m, hm, hbody⟩ := bind_ok hbody
    obtain ⟨_, hv, hbody⟩ := bind_ok hbody
    obtain ⟨owner, howner, hbody⟩ := bind_ok hbody
    obtain ⟨_, hbound, hbody⟩ := bind_ok hbody
    cases hbody
    have hv' : m.value = r := by simpa using ensure_ok hv
    have hb' : owner = run ∧ key = pendingKey agent := by simpa using ensure_ok hbound
    obtain ⟨rfl, rfl⟩ := hb'
    have hret : stored t (pendingKey agent) = some r := by rw [stored, okOr_ok hm, Option.map_some, hv']
    exact ⟨ownerRun_ok howner, rfl, hret, view_closeReceipt digest agent owner r resolution t⟩

theorem begin_ok {run pending containment : String} {r : Value} {t : Tables}
    (h : (beginPendingTurnStartContainment digest run agent pending containment r t).1 = .ok ()) :
    (view agent t).retained = some r ∧ ((view agent t).marker = none ∨ (view agent t).marker = some r) ∧
      ∃ es, (es = [] ∨ es = [startEvent digest run agent r .containmentInitiated r]) ∧
        view agent (beginPendingTurnStartContainment digest run agent pending containment r t).2 =
          { view agent t with marker := some r, journal := t.domainEvents ++ es } := by
  unfold beginPendingTurnStartContainment commit at h ⊢
  rcases transaction_cases _ t with ⟨e, -, ht⟩ | ⟨u, t', hb, ht⟩
  · rw [ht] at h; cases h
  · rw [ht]
    obtain ⟨t₁, hbody, hpure⟩ := bind_ok hb
    cases hpure
    obtain ⟨m, hm, hbody⟩ := bind_ok hbody
    obtain ⟨_, hbound, hbody⟩ := bind_ok hbody
    obtain ⟨owner, howner, hbody⟩ := bind_ok hbody
    obtain ⟨_, -, hbody⟩ := bind_ok hbody
    obtain ⟨t₂, hkeep, hlast⟩ := bind_ok hbody
    clear hbody
    have hb' : (m.value = r ∧ pending = pendingKey agent) ∧ containment = containmentKey agent := by
      simpa using ensure_ok hbound
    obtain ⟨⟨hv, rfl⟩, rfl⟩ := hb'
    obtain ⟨hfree, hnew, hothers, hagents, hevents⟩ := keepReceipt_ok hkeep
    have hret : stored t (pendingKey agent) = some r := by rw [stored, okOr_ok hm, Option.map_some, hv]
    have hview : ∀ js, view agent { t₂ with domainEvents := js } =
        { view agent t with marker := some r, journal := js } := by
      intro js
      simp only [view, stored, hagents]
      exact congrArg₂ (fun a b => View.mk _ a b js) (hothers _ (pendingKey_ne_containmentKey agent)) hnew
    refine ⟨hret, hfree, ?_⟩
    split at hlast
    · cases hlast
      refine ⟨[], Or.inl rfl, ?_⟩
      have := hview t.domainEvents
      rw [← hevents] at this
      rw [List.append_nil, ← hevents]
      exact this
    · cases hlast
      exact ⟨_, Or.inr rfl, by rw [hevents]; exact hview _⟩

theorem view_updateAgent (t : Tables) (id : String) (f : AgentSession → AgentSession) (hf)
    (hrun : ∀ a, (f a).runId = a.runId) :
    view agent (updateAgent t id f hf) = view agent t := by
  have : ((updateAgent t id f hf).agents.get agent).map AgentSession.runId =
      (t.agents.get agent).map AgentSession.runId := by
    simp only [updateAgent, Table.get_update, Option.map_map]
    congr 1
    funext a
    simp only [Function.comp]
    split
    · exact hrun a
    · rfl
  simp only [view, this]
  rfl

theorem view_startTurn {t t' : Tables} {thread turn : String} {model effort : Option String}
    (h : startTurn t thread turn model effort = .ok t') : view agent t' = view agent t := by
  unfold startTurn at h
  split at h
  · cases h
    rfl
  · obtain ⟨_, -, h⟩ := bind_ok h
    obtain ⟨u, -, h⟩ := bind_ok h
    cases h
    rfl

theorem view_response (run key : String) (r : Value) (thread turn : String) (t : Tables) :
    view agent (recordPendingTurnStartResponse run agent key r thread turn t).2 = view agent t := by
  unfold recordPendingTurnStartResponse
  rcases transaction_cases _ t with ⟨e, -, ht⟩ | ⟨a, t', hb, ht⟩
  · rw [ht]
  · rw [ht]
    split at hb
    · obtain ⟨owner, -, hb⟩ := bind_ok hb
      obtain ⟨_, -, hb⟩ := bind_ok hb
      split at hb
      · cases hb
        rfl
      · obtain ⟨t₁, hack, hb⟩ := bind_ok hb
        cases hb
        obtain ⟨t₂, hstart, hack⟩ := bind_ok hack
        cases hack
        rw [view_updateAgent]
        · exact view_startTurn agent hstart
        · intro a
          rfl
    · cases hb
      rfl

theorem notification_cases (run key : String) (r : Value) (thread turn model effort : String) (resolution : Value)
    (t : Tables) :
    ((acceptPendingTurnStartNotification digest run agent key r thread turn model effort resolution t).1 ≠
        .ok (some true) ∧
      (acceptPendingTurnStartNotification digest run agent key r thread turn model effort resolution t).2 = t) ∨
    ((view agent t).owner = some run ∧ (view agent t).retained = some r ∧ (view agent t).marker = none ∧
      view agent (acceptPendingTurnStartNotification digest run agent key r thread turn model effort resolution t).2 =
        { view agent t with
          retained := none, marker := none,
          journal := t.domainEvents ++ [startEvent digest run agent r .resolved resolution] }) := by
  unfold acceptPendingTurnStartNotification
  rcases transaction_cases _ t with ⟨e, -, ht⟩ | ⟨a, t', hb, ht⟩
  · rw [ht]
    exact Or.inl ⟨by simp, rfl⟩
  · rw [ht]
    split at hb
    · rename_i hret
      obtain ⟨owner, howner, hb⟩ := bind_ok hb
      obtain ⟨_, hbound, hb⟩ := bind_ok hb
      have hb' : owner = run ∧ key = pendingKey agent := by simpa using ensure_ok hbound
      obtain ⟨rfl, rfl⟩ := hb'
      split at hb
      · cases hb
        exact Or.inl ⟨by simp, rfl⟩
      · rename_i hfree
        obtain ⟨q, -, hb⟩ := bind_ok hb
        obtain ⟨_, -, hb⟩ := bind_ok hb
        cases hb
        have hmark : stored t (containmentKey agent) = none := by
          simpa [containmentExists, stored] using hfree
        have hview : view agent (promote agent thread turn model effort t) = view agent t :=
          view_updateAgent agent _ _ _ _ (fun _ => rfl)
        refine Or.inr ⟨ownerRun_ok howner, retains_iff.1 hret, hmark, ?_⟩
        rw [view_closeReceipt, hview]
        rfl
    · cases hb
      exact Or.inl ⟨by simp, rfl⟩

/-- **Containment wins**: while the marker is there, acknowledgement and notification answer `None`. -/
theorem contained_none {run : String} {r : Value} {t : Tables} (howner : (view agent t).owner = some run)
    (hret : (view agent t).retained = some r) (hmark : (view agent t).marker = some r) :
    (∀ thread turn, recordPendingTurnStartResponse run agent (pendingKey agent) r thread turn t = (.ok none, t)) ∧
    ∀ thread turn model effort resolution,
      acceptPendingTurnStartNotification digest run agent (pendingKey agent) r thread turn model effort resolution t =
        (.ok none, t) := by
  have h1 : retains t (pendingKey agent) r = true := retains_iff.2 hret
  have h2 : ownerRun t agent = .ok run := by
    unfold ownerRun
    rw [show (t.agents.get agent).map AgentSession.runId = some run from howner]
    rfl
  have h3 : containmentExists t agent = true := by
    obtain ⟨m, hm, -⟩ := Option.map_eq_some_iff.1 hmark
    rw [containmentExists, hm]
    rfl
  constructor
  · intro thread turn
    simp only [recordPendingTurnStartResponse, transaction, h1, h2, h3, if_true, ok_bind, beq_self_eq_true, Bool.and_self,
      ensure_true, pure_ok]
  · intro thread turn model effort resolution
    simp only [acceptPendingTurnStartNotification, transaction, h1, h2, h3, if_true, ok_bind, beq_self_eq_true,
      Bool.and_self, ensure_true, pure_ok]

theorem late_false {r : Value} {t : Tables} (hret : (view agent t).retained ≠ some r) (run : String) :
    (∀ thread turn,
      recordPendingTurnStartResponse run agent (pendingKey agent) r thread turn t = (.ok (some false), t)) ∧
    ∀ thread turn model effort resolution,
      acceptPendingTurnStartNotification digest run agent (pendingKey agent) r thread turn model effort resolution t =
        (.ok (some false), t) := by
  have h1 : retains t (pendingKey agent) r = false := by
    rw [Bool.eq_false_iff]
    intro h
    exact hret (retains_iff.1 h)
  constructor
  · intro thread turn
    simp only [recordPendingTurnStartResponse, transaction, h1, Bool.false_eq_true, if_false]
  · intro thread turn model effort resolution
    simp only [acceptPendingTurnStartNotification, transaction, h1, Bool.false_eq_true, if_false]

end Moves

/-! ## Steps -/

inductive StartOp
  | record (run key : String) (receipt : Value)
  | response (run key : String) (receipt : Value) (thread turn : String)
  | notification (run key : String) (receipt : Value) (thread turn model effort : String) (resolution : Value)
  | contain (run pending containment : String) (receipt : Value)
  | resolve (run key : String) (receipt resolution : Value)

section Steps
variable (digest : Value → String) (agent : String)

def startStep (t : Tables) : StartOp → Tables
  | .record run key r => (recordPendingTurnStart digest run agent key r t).2
  | .response run key r thread turn => (recordPendingTurnStartResponse run agent key r thread turn t).2
  | .notification run key r thread turn model effort resolution =>
    (acceptPendingTurnStartNotification digest run agent key r thread turn model effort resolution t).2
  | .contain run pending containment r => (beginPendingTurnStartContainment digest run agent pending containment r t).2
  | .resolve run key r resolution => (resolvePendingTurnStart digest run agent key r resolution t).2

/-- A receipt that was recorded and resolved is recorded again while none is retained. -/
def rearms (t : Tables) : StartOp → Bool
  | .record run key r => decide ((view agent t).owner = some run) && key == pendingKey agent &&
    decide ((view agent t).retained = none) &&
    t.domainEvents.any (fun e => isStartEvent digest run agent r .pending e && decide (e.payload = r)) &&
    t.domainEvents.any (isStartEvent digest run agent r .resolved)
  | _ => false

theorem startStep_move {t : Tables} {op : StartOp} (h : rearms digest agent t op = false) :
    Move digest agent (view agent t) (view agent (startStep digest agent t op)) := by
  cases op with
  | record run key r =>
    have hres : (recordPendingTurnStart digest run agent key r t).1 = .ok () ∨
        (recordPendingTurnStart digest run agent key r t).2 = t := commit_result _ t
    rcases hres with hok | hsame
    · obtain ⟨howner, hkey, hfree, ⟨e, hf, he, hv⟩ | ⟨hf, hv⟩⟩ := record_ok digest agent hok
      · simp only [startStep, hv]
        refine Move.again run r e howner ?_ hf he
        rcases hfree with hnone | hsome
        · refine Or.inl ⟨hnone, ?_⟩
          have hrec : t.domainEvents.any
              (fun e => isStartEvent digest run agent r .pending e && decide (e.payload = r)) = true :=
            List.any_eq_true.2 ⟨e, List.mem_of_find?_eq_some hf, by simp [List.find?_some hf, he]⟩
          show t.domainEvents.any (isStartEvent digest run agent r .resolved) = false
          simpa [rearms, howner, hkey, hnone, hrec] using h
        · exact Or.inr hsome
      · simp only [startStep, hv]
        exact Move.first run r howner hfree hf
    · simp only [startStep, hsame]
      exact Move.stay
  | response run key r thread turn =>
    simp only [startStep, view_response]
    exact Move.stay
  | notification run key r thread turn model effort resolution =>
    rcases notification_cases digest agent run key r thread turn model effort resolution t with
      ⟨-, hsame⟩ | ⟨howner, hret, -, hv⟩
    · simp only [startStep, hsame]
      exact Move.stay
    · simp only [startStep, hv]
      exact Move.close run r resolution howner hret
  | contain run pending containment r =>
    have hres : (beginPendingTurnStartContainment digest run agent pending containment r t).1 = .ok () ∨
        (beginPendingTurnStartContainment digest run agent pending containment r t).2 = t := commit_result _ t
    rcases hres with hok | hsame
    · obtain ⟨hret, hfree, es, hes, hv⟩ := begin_ok digest agent hok
      simp only [startStep, hv]
      exact Move.contain run r es hret hfree hes
    · simp only [startStep, hsame]
      exact Move.stay
  | resolve run key r resolution =>
    have hres : (resolvePendingTurnStart digest run agent key r resolution t).1 = .ok () ∨
        (resolvePendingTurnStart digest run agent key r resolution t).2 = t := commit_result _ t
    rcases hres with hok | hsame
    · obtain ⟨howner, -, hret, hv⟩ := resolve_ok digest agent hok
      simp only [startStep, hv]
      exact Move.close run r resolution howner hret
    · simp only [startStep, hsame]
      exact Move.stay

/-! ## The invariant -/

variable (run : String)

def events (journal : List DomainEvent) (r : Value) (kind : StartEvent) : Nat :=
  journal.countP (isStartEvent digest run agent r kind)

theorem events_append (journal : List DomainEvent) (es : List DomainEvent) (r : Value) (kind : StartEvent) :
    events digest agent run (journal ++ es) r kind =
      events digest agent run journal r kind + es.countP (isStartEvent digest run agent r kind) := List.countP_append

theorem StartEvent.text_injective (k k' : StartEvent) (h : k.text = k'.text) : k = k' := by
  cases k <;> cases k' <;> first | rfl | exact absurd h (by decide)

theorem countP_startEvent (r r' payload : Value) (k k' : StartEvent) :
    [startEvent digest run agent r k payload].countP (isStartEvent digest run agent r' k') =
      if aggregateId digest agent r = aggregateId digest agent r' ∧ k = k' then 1 else 0 := by
  have hk : k.text = k'.text ↔ k = k' := ⟨StartEvent.text_injective k k', fun h => h ▸ rfl⟩
  simp [List.countP_singleton, isStartEvent, startEvent, hk]

theorem events_congr {r r' : Value} (h : aggregateId digest agent r = aggregateId digest agent r')
    (journal : List DomainEvent) (kind : StartEvent) :
    events digest agent run journal r kind = events digest agent run journal r' kind := by
  unfold events isStartEvent
  rw [h]

structure ViewInv (v : View) : Prop where
  owner : v.owner = some run
  marked : ∀ r, v.marker = some r → v.retained = some r
  unresolved : ∀ r, v.retained = some r → events digest agent run v.journal r .resolved = 0
  recorded : ∀ r, v.retained = some r → 0 < events digest agent run v.journal r .pending
  opened : ∀ r, events digest agent run v.journal r .pending = 0 → events digest agent run v.journal r .resolved = 0
  pendingOnce : ∀ r, events digest agent run v.journal r .pending ≤ 1
  resolvedOnce : ∀ r, events digest agent run v.journal r .resolved ≤ 1

theorem events_eq_zero {journal : List DomainEvent} {r : Value} {kind : StartEvent} :
    events digest agent run journal r kind = 0 ↔ ∀ e ∈ journal, isStartEvent digest run agent r kind e = false := by
  simp [events, List.countP_eq_zero]

section Moves
variable {v : View} (hi : ViewInv digest agent run v) {r : Value}
include hi

theorem ViewInv.marked_of_free (hfree : v.retained = none ∨ v.retained = some r) {r' : Value} (hr' : v.marker = some r') :
    some r = some r' := by
  rcases hfree with hnone | hr
  · rw [hi.marked r' hr'] at hnone
    cases hnone
  · rw [← hr]
    exact hi.marked r' hr'

theorem ViewInv.again {e : DomainEvent}
    (hfree : v.retained = none ∧ v.journal.any (isStartEvent digest run agent r .resolved) = false ∨ v.retained = some r)
    (hfound : v.journal.find? (isStartEvent digest run agent r .pending) = some e) :
    ViewInv digest agent run { v with retained := some r } := by
  have hpending : 0 < events digest agent run v.journal r .pending :=
    List.countP_pos_iff.2 ⟨e, List.mem_of_find?_eq_some hfound, List.find?_some hfound⟩
  have hresolved : events digest agent run v.journal r .resolved = 0 := by
    rcases hfree with ⟨-, hnone⟩ | hr
    · rw [events_eq_zero]
      simpa using hnone
    · exact hi.unresolved r hr
  refine ⟨hi.owner, fun r' hr' => ?_, fun r' hr' => ?_, fun r' hr' => ?_, hi.opened, hi.pendingOnce, hi.resolvedOnce⟩
  · exact hi.marked_of_free digest agent run (hfree.imp_left And.left) hr'
  · obtain rfl := Option.some.inj hr'
    exact hresolved
  · obtain rfl := Option.some.inj hr'
    exact hpending

theorem ViewInv.first (hfree : v.retained = none ∨ v.retained = some r)
    (hfresh : v.journal.find? (isStartEvent digest run agent r .pending) = none) :
    ViewInv digest agent run
      { v with retained := some r, journal := v.journal ++ [startEvent digest run agent r .pending r] } := by
  have hzero : events digest agent run v.journal r .pending = 0 := by
    rw [events_eq_zero]
    simpa using hfresh
  -- the receipt is new, so nothing of its digest is in the journal
  have hnew : ∀ r', aggregateId digest agent r = aggregateId digest agent r' →
      events digest agent run v.journal r' .pending = 0 := by
    intro r' hr'
    rw [← events_congr digest agent run hr', hzero]
  refine ⟨hi.owner, fun r' hr' => ?_, fun r' hr' => ?_, fun r' hr' => ?_, fun r' hr' => ?_, fun r' => ?_, fun r' => ?_⟩
  · exact hi.marked_of_free digest agent run hfree hr'
  · obtain rfl := Option.some.inj hr'
    rw [events_append, countP_startEvent, hi.opened r hzero, if_neg (by simp)]
  · obtain rfl := Option.some.inj hr'
    rw [events_append, countP_startEvent, if_pos ⟨rfl, rfl⟩]
    omega
  · rw [events_append, countP_startEvent] at hr' ⊢
    rw [if_neg (by simp), hi.opened r' (by omega)]
  · have hle := hi.pendingOnce r'
    rw [events_append, countP_startEvent]
    split
    · rename_i hagg
      rw [hnew r' hagg.1]
    · omega
  · have hle := hi.resolvedOnce r'
    rw [events_append, countP_startEvent, if_neg (by simp)]
    omega

theorem ViewInv.contain {run' : String} {es : List DomainEvent} (hheld : v.retained = some r)
    (hes : es = [] ∨ es = [startEvent digest run' agent r .containmentInitiated r]) :
    ViewInv digest agent run { v with marker := some r, journal := v.journal ++ es } := by
  -- the marker's event is of neither counted kind
  have hsame : ∀ r' kind, kind ≠ StartEvent.containmentInitiated →
      events digest agent run (v.journal ++ es) r' kind = events digest agent run v.journal r' kind := by
    intro r' kind hkind
    rw [events_append]
    rcases hes with rfl | rfl
    · rfl
    · have hnone : [startEvent digest run' agent r .containmentInitiated r].countP (isStartEvent digest run agent r' kind) =
          0 := by
        rw [List.countP_eq_zero]
        intro e he hev
        obtain rfl := List.mem_singleton.1 he
        simp only [isStartEvent, startEvent, Bool.and_eq_true, beq_iff_eq] at hev
        exact hkind (StartEvent.text_injective _ _ hev.1.2).symm
      rw [hnone]
      rfl
  have hpending := fun r' => hsame r' .pending (by simp)
  have hresolved := fun r' => hsame r' .resolved (by simp)
  refine ⟨hi.owner, fun r' hr' => ?_, fun r' hr' => ?_, fun r' hr' => ?_, fun r' => ?_, fun r' => ?_, fun r' => ?_⟩
  · obtain rfl := Option.some.inj hr'
    exact hheld
  · rw [hresolved]
    exact hi.unresolved r' hr'
  · rw [hpending]
    exact hi.recorded r' hr'
  · rw [hpending, hresolved]
    exact hi.opened r'
  · rw [hpending]
    exact hi.pendingOnce r'
  · rw [hresolved]
    exact hi.resolvedOnce r'

theorem ViewInv.close (resolution : Value) (hheld : v.retained = some r) :
    ViewInv digest agent run
      { v with retained := none, marker := none,
               journal := v.journal ++ [startEvent digest run agent r .resolved resolution] } := by
  refine ⟨hi.owner, fun _ h => (by cases h), fun _ h => (by cases h), fun _ h => (by cases h), fun r' hr' => ?_,
    fun r' => ?_, fun r' => ?_⟩
  · have hp := hi.recorded r hheld
    have ho := hi.opened r'
    rw [events_append, countP_startEvent, if_neg (by simp)] at hr'
    rw [events_append, countP_startEvent, ho hr']
    split
    · rename_i hagg
      rw [events_congr digest agent run hagg.1] at hp
      omega
    · rfl
  · have hle := hi.pendingOnce r'
    rw [events_append, countP_startEvent, if_neg (by simp)]
    exact hle
  · have hz := hi.unresolved r hheld
    have hle := hi.resolvedOnce r'
    rw [events_append, countP_startEvent]
    split
    · rename_i hagg
      rw [← events_congr digest agent run hagg.1, hz]
    · omega

end Moves

theorem Move.keeps_inv {v v' : View} (h : Move digest agent v v') (hi : ViewInv digest agent run v) :
    ViewInv digest agent run v' := by
  cases h with
  | stay => exact hi
  | again run' r e howner hfree hfound _ =>
    obtain rfl : run' = run := Option.some.inj (howner.symm.trans hi.owner)
    exact hi.again digest agent run' hfree hfound
  | first run' r howner hfree hfresh =>
    obtain rfl : run' = run := Option.some.inj (howner.symm.trans hi.owner)
    exact hi.first digest agent run' hfree hfresh
  | contain run' r es hheld _ hes => exact hi.contain digest agent run hheld hes
  | close run' r resolution howner hheld =>
    obtain rfl : run' = run := Option.some.inj (howner.symm.trans hi.owner)
    exact hi.close digest agent run' resolution hheld

theorem Move.journal_grows {v v' : View} (h : Move digest agent v v') : v.journal <+: v'.journal := by
  cases h with
  | stay => exact List.prefix_refl _
  | again => exact List.prefix_refl _
  | first => exact List.prefix_append _ _
  | contain => exact List.prefix_append _ _
  | close => exact List.prefix_append _ _

/-! ## Histories -/

def RecordedBy (r : Value) (t : Tables) (op : StartOp) : Prop :=
  ∃ run key, op = .record run key r ∧ (recordPendingTurnStart digest run agent key r t).1 = .ok ()

def ContainedBy (r : Value) (t : Tables) (op : StartOp) : Prop :=
  ∃ run pending containment, op = .contain run pending containment r ∧
    (beginPendingTurnStartContainment digest run agent pending containment r t).1 = .ok ()

/-- The call resolved the receipt: an explicit resolution, or a notification that was accepted. -/
def ResolvedBy (r : Value) (t : Tables) (op : StartOp) : Prop :=
  (∃ run key resolution, op = .resolve run key r resolution ∧
    (resolvePendingTurnStart digest run agent key r resolution t).1 = .ok ()) ∨
  ∃ run key thread turn model effort resolution, op = .notification run key r thread turn model effort resolution ∧
    (acceptPendingTurnStartNotification digest run agent key r thread turn model effort resolution t).1 = .ok (some true)

structure NoStarts (t : Tables) : Prop where
  owner : (view agent t).owner = some run
  retained : (view agent t).retained = none
  marker : (view agent t).marker = none
  journal : ∀ r kind, events digest agent run t.domainEvents r kind = 0

theorem NoStarts.inv {t : Tables} (h : NoStarts digest agent run t) : ViewInv digest agent run (view agent t) := by
  refine ⟨h.owner, fun r hr => ?_, fun r hr => ?_, fun r hr => ?_, fun r _ => h.journal r _, fun r => ?_, fun r => ?_⟩
  · rw [h.marker] at hr
    cases hr
  · rw [h.retained] at hr
    cases hr
  · rw [h.retained] at hr
    cases hr
  · exact Nat.le_trans (Nat.le_of_eq (h.journal r _)) (Nat.zero_le 1)
  · exact Nat.le_trans (Nat.le_of_eq (h.journal r _)) (Nat.zero_le 1)

theorem startStep_inv (t : Tables) (op : StartOp) (hi : ViewInv digest agent run (view agent t))
    (h : rearms digest agent t op = false) : ViewInv digest agent run (view agent (startStep digest agent t op)) :=
  (startStep_move digest agent h).keeps_inv digest agent run hi

theorem events_le_of_prefix {js js' : List DomainEvent} (h : js <+: js') (r : Value) (kind : StartEvent) :
    events digest agent run js r kind ≤ events digest agent run js' r kind := h.sublist.countP_le

theorem run_journal : ∀ {ops : List StartOp} {t : Tables},
    Along (startStep digest agent) (fun s o => rearms digest agent s o = false) t ops →
      t.domainEvents <+: (Trace.run (startStep digest agent) t ops).domainEvents
  | [], _, _ => List.prefix_refl _
  | _ :: _, _, h => ((startStep_move digest agent h.1).journal_grows digest agent).trans (run_journal h.2)

theorem startStep_marker {t : Tables} {op : StartOp} {r : Value} (hi : ViewInv digest agent run (view agent t))
    (hm : (view agent t).marker = some r) (h : ¬ ResolvedBy digest agent r t op) :
    (view agent (startStep digest agent t op)).marker = some r := by
  cases op with
  | record run' key r' =>
    have hres : (recordPendingTurnStart digest run' agent key r' t).1 = .ok () ∨
        (recordPendingTurnStart digest run' agent key r' t).2 = t := commit_result _ t
    rcases hres with hok | hsame
    · obtain ⟨-, -, -, ⟨e, -, -, hv⟩ | ⟨-, hv⟩⟩ := record_ok digest agent hok <;> simp only [startStep, hv, hm]
    · simp only [startStep, hsame, hm]
  | response run' key r' thread turn => simp only [startStep, view_response, hm]
  | notification run' key r' thread turn model effort resolution =>
    rcases notification_cases digest agent run' key r' thread turn model effort resolution t with
      ⟨-, hsame⟩ | ⟨-, -, hnone, -⟩
    · simp only [startStep, hsame, hm]
    · rw [hm] at hnone
      cases hnone
  | contain run' pending containment r' =>
    have hres : (beginPendingTurnStartContainment digest run' agent pending containment r' t).1 = .ok () ∨
        (beginPendingTurnStartContainment digest run' agent pending containment r' t).2 = t := commit_result _ t
    rcases hres with hok | hsame
    · obtain ⟨-, hfree, es, -, hv⟩ := begin_ok digest agent hok
      rw [hm] at hfree
      simpa only [startStep, hv, reduceCtorEq, false_or, eq_comm] using hfree
    · simp only [startStep, hsame, hm]
  | resolve run' key r' resolution =>
    have hres : (resolvePendingTurnStart digest run' agent key r' resolution t).1 = .ok () ∨
        (resolvePendingTurnStart digest run' agent key r' resolution t).2 = t := commit_result _ t
    rcases hres with hok | hsame
    · obtain ⟨-, -, hret, -⟩ := resolve_ok digest agent hok
      obtain rfl : r' = r := Option.some.inj (hret.symm.trans (hi.marked r hm))
      exact absurd (Or.inl ⟨run', key, resolution, rfl, hok⟩) h
    · simp only [startStep, hsame, hm]

theorem events_of_resolvedBy {t : Tables} {op : StartOp} {r : Value} (hi : ViewInv digest agent run (view agent t))
    (h : ResolvedBy digest agent r t op) :
    0 < events digest agent run (startStep digest agent t op).domainEvents r .resolved := by
  have hpos : ∀ js payload,
      0 < events digest agent run (js ++ [startEvent digest run agent r .resolved payload]) r .resolved := by
    intro js payload
    rw [events_append, countP_startEvent, if_pos ⟨rfl, rfl⟩]
    omega
  rcases h with ⟨run', key, resolution, rfl, hok⟩ | ⟨run', key, thread, turn, model, effort, resolution, rfl, hok⟩
  · obtain ⟨howner, -, -, hv⟩ := resolve_ok digest agent hok
    obtain rfl : run' = run := Option.some.inj (howner.symm.trans hi.owner)
    have hj : (startStep digest agent t (.resolve run' key r resolution)).domainEvents = _ := congrArg View.journal hv
    rw [hj]
    exact hpos _ _
  · rcases notification_cases digest agent run' key r thread turn model effort resolution t with
      ⟨hne, -⟩ | ⟨howner, -, -, hv⟩
    · exact absurd hok hne
    · obtain rfl : run' = run := Option.some.inj (howner.symm.trans hi.owner)
      have hj : (startStep digest agent t (.notification run' key r thread turn model effort resolution)).domainEvents = _ :=
        congrArg View.journal hv
      rw [hj]
      exact hpos _ _

theorem events_of_recordedBy {t : Tables} {op : StartOp} {r : Value} (hi : ViewInv digest agent run (view agent t))
    (h : RecordedBy digest agent r t op) :
    0 < events digest agent run (startStep digest agent t op).domainEvents r .pending := by
  obtain ⟨run', key, rfl, hok⟩ := h
  obtain ⟨howner, -, -, ⟨e, hf, -, hv⟩ | ⟨-, hv⟩⟩ := record_ok digest agent hok <;>
    obtain rfl : run' = run := Option.some.inj (howner.symm.trans hi.owner)
  · have hj : (startStep digest agent t (.record run' key r)).domainEvents = t.domainEvents := congrArg View.journal hv
    rw [hj]
    exact List.countP_pos_iff.2 ⟨e, List.mem_of_find?_eq_some hf, List.find?_some hf⟩
  · have hj : (startStep digest agent t (.record run' key r)).domainEvents = _ := congrArg View.journal hv
    rw [hj, events_append, countP_startEvent, if_pos ⟨rfl, rfl⟩]
    omega

/-- What the protocol promises of the state a list of calls reaches. -/
structure Protocol (t₀ : Tables) (ops : List StartOp) (t : Tables) : Prop where
  oneReceipt : ∀ m ∈ t.metadata.rows, ∀ m' ∈ t.metadata.rows,
    m.key = pendingKey agent → m'.key = pendingKey agent → m = m'
  marked : ∀ r, stored t (containmentKey agent) = some r → stored t (pendingKey agent) = some r
  journalled : ∀ r js op ks, ops = js ++ op :: ks →
    RecordedBy digest agent r (Trace.run (startStep digest agent) t₀ js) op →
      events digest agent run t.domainEvents r .pending = 1 ∧ events digest agent run t.domainEvents r .resolved ≤ 1
  contained : ∀ r js op ks, ops = js ++ op :: ks →
    ContainedBy digest agent r (Trace.run (startStep digest agent) t₀ js) op →
    Along (startStep digest agent) (fun s o => ¬ ResolvedBy digest agent r s o)
      (Trace.run (startStep digest agent) t₀ (js ++ [op])) ks →
      (∀ thread turn, recordPendingTurnStartResponse run agent (pendingKey agent) r thread turn t = (.ok none, t)) ∧
      ∀ thread turn model effort resolution, acceptPendingTurnStartNotification digest run agent (pendingKey agent) r
        thread turn model effort resolution t = (.ok none, t)
  late : ∀ r js op ks, ops = js ++ op :: ks →
    ResolvedBy digest agent r (Trace.run (startStep digest agent) t₀ js) op → ∀ run',
      (∀ thread turn,
        recordPendingTurnStartResponse run' agent (pendingKey agent) r thread turn t = (.ok (some false), t)) ∧
      ∀ thread turn model effort resolution, acceptPendingTurnStartNotification digest run' agent (pendingKey agent) r
        thread turn model effort resolution t = (.ok (some false), t)

/-- **The pending turn-start protocol** holds after every list of calls that records no resolved receipt again. -/
theorem pending_turn_start_protocol (t₀ : Tables) (h₀ : NoStarts digest agent run t₀) (ops : List StartOp)
    (h : Along (startStep digest agent) (fun s o => rearms digest agent s o = false) t₀ ops) :
    Protocol digest agent run t₀ ops (Trace.run (startStep digest agent) t₀ ops) := by
  have hinv : ∀ {is : List StartOp} {s : Tables}, ViewInv digest agent run (view agent s) →
      Along (startStep digest agent) (fun s o => rearms digest agent s o = false) s is →
        ViewInv digest agent run (view agent (Trace.run (startStep digest agent) s is)) :=
    fun hs his =>
      invariant_of_step (fun s => ViewInv digest agent run (view agent s)) (startStep_inv digest agent run) hs his
  have hend := hinv (h₀.inv digest agent run) h
  refine ⟨fun m hm m' hm' hk hk' => ?_, hend.marked, fun r js op ks hops hrec => ?_, fun r js op ks hops hcon halong => ?_,
    fun r js op ks hops hres run' => ?_⟩
  · exact List.inj_on_of_nodup_map (Trace.run (startStep digest agent) t₀ ops).metadata.nodup hm hm' (hk.trans hk'.symm)
  · subst hops
    obtain ⟨hjs, -, hks⟩ := (along_append _ _ _ _ _).1 h
    have hpos := events_of_recordedBy digest agent run (hinv (h₀.inv digest agent run) hjs) hrec
    have hgrow := events_le_of_prefix digest agent run (run_journal digest agent hks) r .pending
    have hle := hend.pendingOnce r
    rw [Trace.run_append, Trace.run_cons]
    rw [Trace.run_append, Trace.run_cons] at hle
    exact ⟨Nat.le_antisymm hle (Nat.le_trans hpos hgrow), by
      have := hend.resolvedOnce r
      rwa [Trace.run_append, Trace.run_cons] at this⟩
  · subst hops
    obtain ⟨hjs, hop, hks⟩ := (along_append _ _ _ _ _).1 h
    have hbefore := hinv (h₀.inv digest agent run) hjs
    have hafter := startStep_inv digest agent run _ op hbefore hop
    -- from the call that began it the marker stays, since no call resolves the receipt
    have hmark : (view agent (startStep digest agent (Trace.run (startStep digest agent) t₀ js) op)).marker = some r := by
      obtain ⟨run', pending, containment, rfl, hok⟩ := hcon
      obtain ⟨-, -, es, -, hv⟩ := begin_ok digest agent hok
      exact congrArg View.marker hv
    rw [Trace.run_append, Trace.run_cons, Trace.run_nil] at halong
    have hboth : Along (startStep digest agent)
        (fun s o => rearms digest agent s o = false ∧ ¬ ResolvedBy digest agent r s o)
        (startStep digest agent (Trace.run (startStep digest agent) t₀ js) op) ks := along_and hks halong
    have hlast := invariant_of_step
      (fun s => ViewInv digest agent run (view agent s) ∧ (view agent s).marker = some r)
      (fun s o hs ho => ⟨startStep_inv digest agent run s o hs.1 ho.1, startStep_marker digest agent run hs.1 hs.2 ho.2⟩)
      ⟨hafter, hmark⟩ hboth
    rw [Trace.run_append, Trace.run_cons]
    exact contained_none digest agent hlast.1.owner (hlast.1.marked r hlast.2) hlast.2
  · subst hops
    obtain ⟨hjs, -, hks⟩ := (along_append _ _ _ _ _).1 h
    have hpos := events_of_resolvedBy digest agent run (hinv (h₀.inv digest agent run) hjs) hres
    have hgrow := events_le_of_prefix digest agent run (run_journal digest agent hks) r .resolved
    refine late_false digest agent (fun hret => ?_) run'
    have hzero := hend.unresolved r hret
    rw [Trace.run_append, Trace.run_cons] at hzero
    exact absurd hzero (Nat.ne_of_gt (Nat.lt_of_lt_of_le hpos hgrow))

end Steps

/-! ## A receipt recorded again -/

def sampleReceipt : Value := .obj [("created_at_ms", .num (.pos 1))]

def sampleReceiptDigest (v : Value) : String :=
  if v = sampleReceipt then "7a20a874b1e54e0e99d2416b4105d1b2030d1b4e6bbe5535aa9e207a660e4431" else ""

def sampleSession : AgentSession :=
  ⟨"agent", "run", .starting, "model", none, none, none, none, none, none, none, none, none, none, none, none⟩

def oneAgent : Tables := singleAgent sampleSession

theorem noStarts_oneAgent : NoStarts sampleReceiptDigest "agent" "run" oneAgent :=
  ⟨rfl, rfl, rfl, fun _ _ => rfl⟩

def recordSample : StartOp := .record "run" (pendingKey "agent") sampleReceipt

def resolveSample : StartOp := .resolve "run" (pendingKey "agent") sampleReceipt (.obj [])

def containedRun : List StartOp :=
  [recordSample, .contain "run" (pendingKey "agent") (containmentKey "agent") sampleReceipt,
    .response "run" (pendingKey "agent") sampleReceipt "thread" "turn"]

theorem pending_turn_start_protocol_containedRun :
    stored (Trace.run (startStep sampleReceiptDigest "agent") oneAgent containedRun) (containmentKey "agent") =
      some sampleReceipt ∧
    Protocol sampleReceiptDigest "agent" "run" oneAgent containedRun
      (Trace.run (startStep sampleReceiptDigest "agent") oneAgent containedRun) :=
  ⟨by decide,
    pending_turn_start_protocol sampleReceiptDigest "agent" "run" oneAgent noStarts_oneAgent containedRun
      (by decide)⟩

def rearmedRun : List StartOp := [recordSample, resolveSample, recordSample, resolveSample]

/-- **A receipt recorded again after its resolution is resolved twice.** -/
theorem resolved_receipt_rearmed :
    ¬ Protocol sampleReceiptDigest "agent" "run" oneAgent rearmedRun
      (Trace.run (startStep sampleReceiptDigest "agent") oneAgent rearmedRun) := by
  intro h
  have hrec : RecordedBy sampleReceiptDigest "agent" sampleReceipt oneAgent recordSample :=
    ⟨"run", pendingKey "agent", rfl, by decide⟩
  have hle := (h.journalled sampleReceipt [] recordSample [resolveSample, recordSample, resolveSample] rfl hrec).2
  have htwo : events sampleReceiptDigest "agent" "run"
      (Trace.run (startStep sampleReceiptDigest "agent") oneAgent rearmedRun).domainEvents sampleReceipt .resolved = 2 := by
    decide
  omega

end Session
end Bildr
