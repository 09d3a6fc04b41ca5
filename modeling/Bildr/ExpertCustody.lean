import Bildr.DecisionFreshness
import Bildr.Trace
/-!
# ExpertCustody — actions and consultations in any order of calls

An action moves forward only: what is rejected, stale or done stays as it is, and a receipt is there exactly when it was
done.  A run consults one expert at a time, bound before it is started; an answer is taken once and in time.  The cap of a
signature counts answers and is checked when a request is created, with no other request active, so it holds ever after.
A request can also be closed as completed by a call that brings no answer (`closed_without_answer`).
-/
namespace Bildr
namespace Control

open Json (Value)
open Trace (run)

/-! ## Calls -/

inductive SupervisionCall
  | decide (reviewId : String) (cursor : Int) (payload : Value) (isMaterial : SourceEvent → Bool) (draw : Nat → String)
      (now : Int)
  | evaluate (id : String) (accepted : Bool) (reason : String) (now : Int)
  | stale (id reason : String) (now : Int)
  | begin (id : String) (now : Int)
  | complete (id : String) (succeeded : Bool) (receipt : Value) (now : Int)
  | create (input : NewExpertRequest) (isMaterial : SourceEvent → Bool) (checkedAt now : Int)
  | attach (id agentSessionId : String)
  | start (id : String) (now : Int)
  | startIfCurrent (id runId : String) (cursor : Int) (isMaterial : SourceEvent → Bool) (now : Int)
  | finish (id state : String) (failureReason : Option String) (now : Int)
  | respond (id responseId : String) (payload : Value) (now : Int)
  | event (e : SourceEvent)
  | agent (a : AgentRole)
  | review (r : SupervisorReview)

/-- The tables, with what the calls did: every request created and the cap it was created under, and the requests that were
finished as completed. -/
structure Consultations where
  tables : SupervisionTables
  created : List (ExpertRequest × Nat)
  closed : List String

def withRow {α κ : Type} {key : α → κ} [DecidableEq κ] (t : Table key) (r : α) : Table key := (t.insert r).getD t

def consult (w : Wire) (s : Consultations) : SupervisionCall → Consultations
  | .decide reviewId cursor payload isMaterial draw now =>
    { s with tables := (recordCurrentSupervisorDecision w reviewId cursor payload isMaterial draw now s.tables).2 }
  | .evaluate id accepted reason now => { s with tables := (evaluateSupervisorAction id accepted reason now s.tables).2 }
  | .stale id reason now             => { s with tables := (staleSupervisorAction id reason now s.tables).2 }
  | .begin id now                    => { s with tables := (beginSupervisorAction id now s.tables).2 }
  | .complete id succeeded receipt now =>
    { s with tables := (completeSupervisorAction w id succeeded receipt now s.tables).2 }
  | .create input isMaterial checkedAt now =>
    match createExpertRequestIfMateriallyCurrent w input isMaterial checkedAt now s.tables with
    | (.ok r, t)    => { s with tables := t, created := s.created ++ [(r, input.maxCompletedPerSignature)] }
    | (.error _, t) => { s with tables := t }
  | .attach id agentSessionId => { s with tables := (attachExpertAgent id agentSessionId s.tables).2 }
  | .start id now             => { s with tables := (beginExpertRequest id now s.tables).2 }
  | .startIfCurrent id runId cursor isMaterial now =>
    { s with tables := (beginExpertRequestIfMateriallyCurrent id runId cursor isMaterial now s.tables).2 }
  | .finish id state failureReason now =>
    match finishExpertRequest id state failureReason now s.tables with
    | (.ok r, t)    => { s with tables := t, closed := if r.state = .completed then s.closed ++ [r.id] else s.closed }
    | (.error _, t) => { s with tables := t }
  | .respond id responseId payload now => { s with tables := (recordExpertResponse w id responseId payload now s.tables).2 }
  | .event e  => { s with tables := { s.tables with events := s.tables.events ++ [e] } }
  | .agent a  => { s with tables := { s.tables with agents := withRow s.tables.agents a } }
  | .review r => { s with tables := { s.tables with reviews := withRow s.tables.reviews r } }

def newConsultations : Consultations := ⟨⟨[], ∅, ∅, ∅, ∅, ∅, ∅⟩, [], []⟩

/-! ## Actions -/

def SupervisorActionState.isTerminal (s : SupervisorActionState) : Bool :=
  [SupervisorActionState.policyRejected, .stale, .succeeded, .failed].contains s

def SupervisorActionState.isExecuted (s : SupervisorActionState) : Bool :=
  [SupervisorActionState.succeeded, .failed].contains s

def Receipted (a : SupervisorAction) : Prop := a.executionReceipt.isSome = a.state.isExecuted

/-- What a call does to the actions: nothing, new proposals, or one action that is not at its end moves on. -/
inductive ActsOn (t t' : Table SupervisorAction.id) : Prop
  | same (h : t' = t)
  | proposed (d : SupervisorDecision) (h : Proposes d t t')
  | moved (a a' : SupervisorAction) (replaces : Table.Replaces t t' a a') (live : a.state.isTerminal = false)
      (receipted : Receipted a → Receipted a')

section Actions
variable {t t' : SupervisionTables} {u u' : Table SupervisorAction.id}

theorem updateAction_spec {id : String} {states : List SupervisorActionState} {f : SupervisorAction → SupervisorAction}
    {hf : ∀ a, (f a).id = a.id} {why : String} {b : SupervisorAction} (h : updateAction t id states f hf why = .ok (b, t')) :
    ∃ a, states.contains a.state = true ∧ Table.Replaces t.actions t'.actions a (f a) ∧
      t' = { t with actions := t'.actions } := by
  unfold updateAction at h
  obtain ⟨a, ha, h⟩ := bind_ok h
  obtain ⟨-, h⟩ := bind_unit_ok.1 h
  cases h
  have hget := okOr_ok ha
  rw [Option.filter_eq_some_iff] at hget
  exact ⟨a, hget.2, Table.replaces_update f hf hget.1, rfl⟩

theorem ActsOn.terminal (h : ActsOn u u') {a : SupervisorAction} (ha : a ∈ u.rows) (hterminal : a.state.isTerminal = true) :
    a ∈ u'.rows := by
  cases h with
  | same h =>
    rw [h]
    exact ha
  | proposed d h => exact h.kept.subset ha
  | moved b b' replaces live _ =>
    refine (replaces.mem a).2 (Or.inr ⟨ha, fun hkey => ?_⟩)
    have hsame : some a = some b := by rw [← replaces.stored, ← hkey, Table.get_of_mem ha]
    cases hsame
    rw [hterminal] at live
    cases live

theorem ActsOn.receipted (h : ActsOn u u') (hr : ∀ a ∈ u.rows, Receipted a) : ∀ a ∈ u'.rows, Receipted a := by
  cases h with
  | same h =>
    rw [h]
    exact hr
  | proposed d h =>
    intro a ha
    rcases h.added a ha with ha | ⟨hstate, hnone⟩
    · exact hr a ha
    · unfold Receipted
      rw [hstate, hnone]
      cases d.policyState <;> rfl
  | moved b b' replaces _ receipted =>
    intro a ha
    rcases (replaces.mem a).1 ha with rfl | ⟨ha, -⟩
    · exact receipted (hr b (Table.mem_of_get replaces.stored))
    · exact hr a ha

structure ActsOnly (t t' : SupervisionTables) : Prop where
  acts : ActsOn t.actions t'.actions
  agents : t'.agents = t.agents
  requests : t'.requests = t.requests
  responses : t'.responses = t.responses

theorem ActsOnly.refl (t : SupervisionTables) : ActsOnly t t := ⟨.same rfl, rfl, rfl, rfl⟩

theorem evaluate_acts (id : String) (accepted : Bool) (reason : String) (now : Int) (t : SupervisionTables) :
    ActsOnly t (evaluateSupervisorAction id accepted reason now t).2 := by
  refine transaction_after (P := fun t' : SupervisionTables => ActsOnly t t') (ActsOnly.refl t) (fun b t' hb => ?_)
  obtain ⟨reason, -, hb⟩ := bind_ok hb
  obtain ⟨a, hstate, hreplaces, ht⟩ := updateAction_spec hb
  have hproposed : a.state = .proposed := by simpa using hstate
  refine ⟨.moved a _ hreplaces (by rw [hproposed]; rfl) (fun hr => ?_), by rw [ht], by rw [ht], by rw [ht]⟩
  unfold Receipted at hr ⊢
  rw [hproposed] at hr
  show a.executionReceipt.isSome = (if accepted then SupervisorActionState.policyAccepted else .policyRejected).isExecuted
  rw [hr]
  cases accepted <;> rfl

theorem stale_acts (id reason : String) (now : Int) (t : SupervisionTables) :
    ActsOnly t (staleSupervisorAction id reason now t).2 := by
  refine transaction_after (P := fun t' : SupervisionTables => ActsOnly t t') (ActsOnly.refl t) (fun b t' hb => ?_)
  obtain ⟨reason, -, hb⟩ := bind_ok hb
  obtain ⟨a, hstate, hreplaces, ht⟩ := updateAction_spec hb
  have hopen : a.state = .proposed ∨ a.state = .policyAccepted := by simpa using hstate
  refine ⟨.moved a _ hreplaces (by rcases hopen with h | h <;> rw [h] <;> rfl) (fun hr => ?_), by rw [ht], by rw [ht],
    by rw [ht]⟩
  unfold Receipted at hr ⊢
  show a.executionReceipt.isSome = SupervisorActionState.stale.isExecuted
  rw [hr]
  rcases hopen with h | h <;> rw [h] <;> rfl

theorem begin_acts (id : String) (now : Int) (t : SupervisionTables) : ActsOnly t (beginSupervisorAction id now t).2 := by
  refine transaction_after (P := fun t' : SupervisionTables => ActsOnly t t') (ActsOnly.refl t) (fun b t' hb => ?_)
  obtain ⟨a, hstate, hreplaces, ht⟩ := updateAction_spec hb
  have haccepted : a.state = .policyAccepted := by simpa using hstate
  refine ⟨.moved a _ hreplaces (by rw [haccepted]; rfl) (fun hr => ?_), by rw [ht], by rw [ht], by rw [ht]⟩
  unfold Receipted at hr ⊢
  show a.executionReceipt.isSome = SupervisorActionState.executing.isExecuted
  rw [hr, haccepted]
  rfl

theorem complete_acts (w : Wire) (id : String) (succeeded : Bool) (receipt : Value) (now : Int) (t : SupervisionTables) :
    ActsOnly t (completeSupervisorAction w id succeeded receipt now t).2 := by
  refine transaction_after (P := fun t' : SupervisionTables => ActsOnly t t') (ActsOnly.refl t) (fun b t' hb => ?_)
  obtain ⟨-, hb⟩ := bind_unit_ok.1 hb
  obtain ⟨a, hstate, hreplaces, ht⟩ := updateAction_spec hb
  have hexecuting : a.state = .executing := by simpa using hstate
  refine ⟨.moved a _ hreplaces (by rw [hexecuting]; rfl) (fun _ => ?_), by rw [ht], by rw [ht], by rw [ht]⟩
  show true = (if succeeded then SupervisorActionState.succeeded else .failed).isExecuted
  cases succeeded <;> rfl

theorem decide_acts (w : Wire) (reviewId : String) (cursor : Int) (payload : Value) (isMaterial : SourceEvent → Bool)
    (draw : Nat → String) (now : Int) (t : SupervisionTables) :
    ActsOnly t (recordCurrentSupervisorDecision w reviewId cursor payload isMaterial draw now t).2 := by
  refine transaction_after (P := fun t' : SupervisionTables => ActsOnly t t') (ActsOnly.refl t) (fun d t' hb => ?_)
  obtain ⟨-, hproposes, hagents, hrequests, hresponses⟩ := decisionBody_spec hb
  exact ⟨.proposed d hproposes, hagents, hrequests, hresponses⟩

end Actions

/-! ## Requests -/

def holds (runId signature : String) (q : ExpertRequest) : Bool :=
  q.runId == runId && q.signature == signature && (q.state.isActive || q.state.isAnswered)

def largestCap (created : List (ExpertRequest × Nat)) (runId signature : String) : Nat :=
  Table.maxOf Prod.snd (created.filter (fun p => p.1.runId == runId && p.1.signature == signature))

structure SameCustody (q q' : ExpertRequest) : Prop where
  run : q'.runId = q.runId
  signature : q'.signature = q.signature
  expires : q'.expiresAt = q.expiresAt

def BoundTo (t : SupervisionTables) (runId id : String) : Prop := ∃ a ∈ t.agents.rows, a.id = id ∧ a.runId = runId ∧ a.role = "expert"

/-- What a call does to requests and responses: nothing, one request more while none of its run is active, an active request
moved on, or a running request answered in time. -/
inductive Serves (s s' : Consultations) : Prop
  | same (requests : s'.tables.requests = s.tables.requests) (responses : s'.tables.responses = s.tables.responses)
      (created : s'.created = s.created) (closed : s'.closed = s.closed)
  | opened (r : ExpertRequest) (cap : Nat) (queued : r.state = .queued) (unbound : r.agentSessionId = none)
      (free : ∀ q ∈ s.tables.requests.rows, q.runId = r.runId → q.state.isActive = false)
      (below : answeredCount s.tables r.runId r.signature < cap)
      (requests : s'.tables.requests.rows = s.tables.requests.rows ++ [r])
      (responses : s'.tables.responses = s.tables.responses)
      (created : s'.created = s.created ++ [(r, cap)]) (closed : s'.closed = s.closed)
  | moved (q q' : ExpertRequest) (replaces : Table.Replaces s.tables.requests s'.tables.requests q q')
      (active : q.state.isActive = true) (custody : SameCustody q q')
      (bound : q'.agentSessionId = q.agentSessionId ∨ ∃ id, q'.agentSessionId = some id ∧ BoundTo s.tables q.runId id)
      (running : q'.state = .running → q'.agentSessionId.isSome = true)
      (completed : q'.state = .completed → q'.id ∈ s'.closed)
      (responses : s'.tables.responses = s.tables.responses) (created : s'.created = s.created) (closed : s.closed ⊆ s'.closed)
  | answered (q q' : ExpertRequest) (r : ExpertResponse)
      (replaces : Table.Replaces s.tables.requests s'.tables.requests q q') (running : q.state = .running)
      (custody : SameCustody q q') (bound : q'.agentSessionId = q.agentSessionId) (completed : q'.state = .completed)
      (request : r.requestId = q.id) (inTime : r.createdAt < q.expiresAt)
      (first : ∀ r' ∈ s.tables.responses.rows, r'.requestId ≠ q.id)
      (responses : s'.tables.responses.rows = s.tables.responses.rows ++ [r])
      (created : s'.created = s.created) (closed : s'.closed = s.closed)

structure Consulted (s : Consultations) : Prop where
  receipted : ∀ a ∈ s.tables.actions.rows, Receipted a
  single : ∀ q ∈ s.tables.requests.rows, ∀ q' ∈ s.tables.requests.rows, q.state.isActive = true → q'.state.isActive = true →
    q.runId = q'.runId → q = q'
  bound : ∀ q ∈ s.tables.requests.rows, ∀ id, q.agentSessionId = some id → BoundTo s.tables q.runId id
  running : ∀ q ∈ s.tables.requests.rows, q.state = .running → q.agentSessionId.isSome = true
  answered : ∀ r ∈ s.tables.responses.rows, ∃ q ∈ s.tables.requests.rows, q.id = r.requestId ∧ q.state = .completed ∧
    r.createdAt < q.expiresAt
  once : (s.tables.responses.rows.map ExpertResponse.requestId).Nodup
  completed : ∀ q ∈ s.tables.requests.rows, q.state = .completed →
    (∃ r ∈ s.tables.responses.rows, r.requestId = q.id) ∨ q.id ∈ s.closed
  capped : ∀ runId signature, s.tables.requests.rows.countP (holds runId signature) ≤ largestCap s.created runId signature

section Step
variable {s s' : Consultations}

theorem capped_opened {r : ExpertRequest} {cap : Nat}
    (hfree : ∀ q ∈ s.tables.requests.rows, q.runId = r.runId → q.state.isActive = false)
    (hbelow : answeredCount s.tables r.runId r.signature < cap)
    (h : ∀ runId signature, s.tables.requests.rows.countP (holds runId signature) ≤ largestCap s.created runId signature)
    (runId signature : String) : (s.tables.requests.rows ++ [r]).countP (holds runId signature) ≤
      largestCap (s.created ++ [(r, cap)]) runId signature := by
  have hbefore := h runId signature
  unfold largestCap at hbefore ⊢
  rw [List.countP_append, List.filter_append, List.filter_singleton]
  by_cases hsame : r.runId = runId ∧ r.signature = signature
  · obtain ⟨rfl, rfl⟩ := hsame
    -- no request of the run is active, so the ones that count are answered
    have hcount : s.tables.requests.rows.countP (holds r.runId r.signature) = answeredCount s.tables r.runId r.signature := by
      unfold answeredCount
      refine List.countP_congr (fun q hq => ?_)
      unfold holds
      by_cases hrun : q.runId = r.runId
      · rw [hfree q hq hrun, Bool.false_or]
      · simp [hrun]
    have hone : [r].countP (holds r.runId r.signature) ≤ 1 := List.countP_le_length
    have hmax := Table.maxOf_append (Prod.snd : ExpertRequest × Nat → Nat)
      (s.created.filter (fun p => p.1.runId == r.runId && p.1.signature == r.signature)) (r, cap)
    simp only [beq_self_eq_true, Bool.and_self, cond_true] at hmax ⊢
    rw [hmax]
    omega
  · have hnone : holds runId signature r = false := by
      unfold holds
      rcases not_and_or.1 hsame with hne | hne <;> simp [hne]
    have hfilter : (r.runId == runId && r.signature == signature) = false := by
      rcases not_and_or.1 hsame with hne | hne <;> simp [hne]
    simp only [List.countP_singleton, hnone, hfilter]
    simpa using hbefore

section Replaced
variable {q₀ q₁ : ExpertRequest}

theorem single_replaced (h : Consulted s) (hr : Table.Replaces s.tables.requests s'.tables.requests q₀ q₁)
    (hactive : q₀.state.isActive = true) (hrun : q₁.runId = q₀.runId) :
    ∀ q ∈ s'.tables.requests.rows, ∀ q' ∈ s'.tables.requests.rows, q.state.isActive = true → q'.state.isActive = true →
      q.runId = q'.runId → q = q' := by
  have hstored := Table.mem_of_get hr.stored
  intro q hq q' hq' ha ha' hsame
  rcases (hr.mem q).1 hq with rfl | ⟨hq, hne⟩
  · rcases (hr.mem q').1 hq' with rfl | ⟨hq', hne'⟩
    · rfl
    · rw [hrun] at hsame
      exact absurd (h.single q₀ hstored q' hq' hactive ha' hsame ▸ rfl) hne'
  · rcases (hr.mem q').1 hq' with rfl | ⟨hq', hne'⟩
    · rw [hrun] at hsame
      exact absurd (h.single q hq q₀ hstored ha hactive hsame ▸ rfl) hne
    · exact h.single q hq q' hq' ha ha' hsame

theorem bound_replaced (h : Consulted s) (hr : Table.Replaces s.tables.requests s'.tables.requests q₀ q₁)
    (hrun : q₁.runId = q₀.runId)
    (hbound : q₁.agentSessionId = q₀.agentSessionId ∨ ∃ id, q₁.agentSessionId = some id ∧ BoundTo s.tables q₀.runId id) :
    ∀ q ∈ s'.tables.requests.rows, ∀ id, q.agentSessionId = some id → BoundTo s.tables q.runId id := by
  intro q hq id hid
  rcases (hr.mem q).1 hq with rfl | ⟨hq, -⟩
  · rw [hrun]
    rcases hbound with hsame | ⟨id', hid', hbound⟩
    · rw [hsame] at hid
      exact h.bound q₀ (Table.mem_of_get hr.stored) id hid
    · rw [hid'] at hid
      cases hid
      exact hbound
  · exact h.bound q hq id hid

theorem answered_replaced (h : Consulted s) (hr : Table.Replaces s.tables.requests s'.tables.requests q₀ q₁)
    (hactive : q₀.state.isActive = true) : ∀ r ∈ s.tables.responses.rows, ∃ q ∈ s'.tables.requests.rows,
      q.id = r.requestId ∧ q.state = .completed ∧ r.createdAt < q.expiresAt := by
  intro r hrow
  obtain ⟨q, hq, hid, hcompleted, htime⟩ := h.answered r hrow
  refine ⟨q, (hr.mem q).2 (Or.inr ⟨hq, fun hkey => ?_⟩), hid, hcompleted, htime⟩
  have hsame : some q = some q₀ := by rw [← hr.stored, ← hkey, Table.get_of_mem hq]
  cases hsame
  rw [hcompleted] at hactive
  cases hactive

theorem capped_replaced (h : Consulted s) (hr : Table.Replaces s.tables.requests s'.tables.requests q₀ q₁)
    (hactive : q₀.state.isActive = true) (hcustody : SameCustody q₀ q₁) (runId signature : String) :
    s'.tables.requests.rows.countP (holds runId signature) ≤ largestCap s.created runId signature := by
  refine le_trans (hr.count _ (fun hp => ?_)) (h.capped runId signature)
  unfold holds at hp ⊢
  rw [hcustody.run, hcustody.signature, Bool.and_eq_true] at hp
  rw [hactive, Bool.true_or, Bool.and_true]
  exact hp.1

end Replaced

/-- **A call that serves keeps what is kept**, agents only being added. -/
theorem Consulted.serves (h : Consulted s) (hs : Serves s s') (hactions : ActsOn s.tables.actions s'.tables.actions)
    (hagents : s.tables.agents.rows ⊆ s'.tables.agents.rows) : Consulted s' := by
  have hreceipted := hactions.receipted h.receipted
  have hkeeps : ∀ {runId id : String}, BoundTo s.tables runId id → BoundTo s'.tables runId id :=
    fun ⟨a, ha, hrest⟩ => ⟨a, hagents ha, hrest⟩
  cases hs with
  | same requests responses created closed =>
    refine ⟨hreceipted, ?_, ?_, ?_, ?_, ?_, ?_, ?_⟩
    · rw [requests]
      exact h.single
    · rw [requests]
      exact fun q hq id hid => hkeeps (h.bound q hq id hid)
    · rw [requests]
      exact h.running
    · rw [requests, responses]
      exact h.answered
    · rw [responses]
      exact h.once
    · rw [requests, responses, closed]
      exact h.completed
    · rw [requests, created]
      exact h.capped
  | opened r cap queued unbound free below requests responses created closed =>
    have hold : ∀ q ∈ s'.tables.requests.rows, q ∈ s.tables.requests.rows ∨ q = r := by
      intro q hq
      rw [requests] at hq
      simpa using hq
    refine ⟨hreceipted, fun q hq q' hq' ha ha' hrun => ?_, fun q hq id hid => ?_, fun q hq hr => ?_, fun p hp => ?_, ?_,
      fun q hq hc => ?_, fun runId signature => ?_⟩
    · rcases hold q hq with hq | rfl
      · rcases hold q' hq' with hq' | rfl
        · exact h.single q hq q' hq' ha ha' hrun
        · rw [free q hq hrun] at ha
          cases ha
      · rcases hold q' hq' with hq' | rfl
        · rw [free q' hq' hrun.symm] at ha'
          cases ha'
        · rfl
    · rcases hold q hq with hq | rfl
      · exact hkeeps (h.bound q hq id hid)
      · rw [unbound] at hid
        cases hid
    · rcases hold q hq with hq | rfl
      · exact h.running q hq hr
      · rw [queued] at hr
        cases hr
    · rw [responses] at hp
      obtain ⟨q, hq, hrest⟩ := h.answered p hp
      exact ⟨q, by rw [requests]; exact List.mem_append_left _ hq, hrest⟩
    · rw [responses]
      exact h.once
    · rw [responses, closed]
      rcases hold q hq with hq | rfl
      · exact h.completed q hq hc
      · rw [queued] at hc
        cases hc
    · rw [requests, created]
      exact capped_opened free below h.capped runId signature
  | moved q₀ q₁ replaces active custody bound running completed responses created closed =>
    refine ⟨hreceipted, single_replaced h replaces active custody.run,
      fun q hq id hid => hkeeps (bound_replaced h replaces custody.run bound q hq id hid), fun q hq hr => ?_, ?_, ?_,
      fun q hq hc => ?_, ?_⟩
    · rcases (replaces.mem q).1 hq with rfl | ⟨hq, -⟩
      · exact running hr
      · exact h.running q hq hr
    · rw [responses]
      exact answered_replaced h replaces active
    · rw [responses]
      exact h.once
    · rw [responses]
      rcases (replaces.mem q).1 hq with rfl | ⟨hq, -⟩
      · exact Or.inr (completed hc)
      · exact (h.completed q hq hc).imp_right (fun hm => closed hm)
    · rw [created]
      exact capped_replaced h replaces active custody
  | answered q₀ q₁ r replaces running custody bound completed request inTime first responses created closed =>
    have hactive : q₀.state.isActive = true := by rw [running]; rfl
    have hnew : q₁ ∈ s'.tables.requests.rows := (replaces.mem q₁).2 (Or.inl rfl)
    refine ⟨hreceipted, single_replaced h replaces hactive custody.run,
      fun q hq id hid => hkeeps (bound_replaced h replaces custody.run (Or.inl bound) q hq id hid), fun q hq hr => ?_,
      fun p hp => ?_, ?_, fun q hq hc => ?_, ?_⟩
    · rcases (replaces.mem q).1 hq with rfl | ⟨hq, -⟩
      · rw [completed] at hr
        cases hr
      · exact h.running q hq hr
    · rw [responses] at hp
      rcases List.mem_append.1 hp with hp | hp
      · exact answered_replaced h replaces hactive p hp
      · rw [List.mem_singleton.1 hp]
        refine ⟨q₁, hnew, ?_, completed, ?_⟩
        · rw [request]
          exact replaces.same
        · rw [custody.expires]
          exact inTime
    · rw [responses, List.map_append]
      refine List.nodup_append'.2 ⟨h.once, List.nodup_singleton _, ?_⟩
      rw [List.map_singleton, List.disjoint_singleton]
      intro hmem
      obtain ⟨p, hp, heq⟩ := List.mem_map.1 hmem
      exact first p hp (heq.trans request)
    · rw [responses, closed]
      rcases (replaces.mem q).1 hq with rfl | ⟨hq, -⟩
      · exact Or.inl ⟨r, by simp, request.trans replaces.same.symm⟩
      · refine (h.completed q hq hc).imp_left ?_
        rintro ⟨p, hp, hid⟩
        exact ⟨p, List.mem_append_left _ hp, hid⟩
    · rw [created]
      exact capped_replaced h replaces hactive custody

/-! ## The calls on requests -/

structure ServesOnly (s s' : Consultations) : Prop where
  serves : Serves s s'
  actions : s'.tables.actions = s.tables.actions
  agents : s'.tables.agents = s.tables.agents

theorem ServesOnly.refl (s : Consultations) : ServesOnly s s := ⟨.same rfl rfl rfl rfl, rfl, rfl⟩

theorem updateRequest_spec {t t' : SupervisionTables} {id : String} {guard : ExpertRequest → Bool}
    {f : ExpertRequest → ExpertRequest} {hf : ∀ r, (f r).id = r.id} {why : String} {r : ExpertRequest}
    (h : updateRequest t id guard f hf why = .ok (r, t')) :
    ∃ q, t.requests.get id = some q ∧ guard q = true ∧ r = f q ∧ Table.Replaces t.requests t'.requests q (f q) ∧
      t' = { t with requests := t'.requests } := by
  unfold updateRequest at h
  obtain ⟨q, hq, h⟩ := bind_ok h
  cases h
  have hget := okOr_ok hq
  rw [Option.filter_eq_some_iff] at hget
  exact ⟨q, hget.1, hget.2, rfl, Table.replaces_update f hf hget.1, rfl⟩

theorem create_serves (w : Wire) (input : NewExpertRequest) (isMaterial : SourceEvent → Bool) (checkedAt now : Int)
    (s : Consultations) : ServesOnly s (consult w s (.create input isMaterial checkedAt now)) := by
  rcases transaction_cases (expertRequestBody w input isMaterial checkedAt now) s.tables with ⟨e, -, hcall⟩ |
    ⟨r, t', hb, hcall⟩
  · simp only [consult, createExpertRequestIfMateriallyCurrent, hcall]
    exact ServesOnly.refl s
  · simp only [consult, createExpertRequestIfMateriallyCurrent, hcall]
    unfold expertRequestBody at hb
    obtain ⟨signature, -, hb⟩ := bind_ok hb
    obtain ⟨requestedModel, -, hb⟩ := bind_ok hb
    obtain ⟨requestedEffort, -, hb⟩ := bind_ok hb
    obtain ⟨-, hb⟩ := ensure_bind_ok.1 hb
    obtain ⟨-, hb⟩ := ensure_bind_ok.1 hb
    obtain ⟨-, hb⟩ := ensure_bind_ok.1 hb
    obtain ⟨a, -, hb⟩ := bind_ok hb
    obtain ⟨-, hb⟩ := ensure_bind_ok.1 hb
    obtain ⟨-, hb⟩ := ensure_bind_ok.1 hb
    obtain ⟨hfree, hb⟩ := ensure_bind_ok.1 hb
    obtain ⟨hbelow, hb⟩ := ensure_bind_ok.1 hb
    obtain ⟨requests, hrequests, hb⟩ := bind_ok hb
    cases hb
    unfold insertExpertRequest at hrequests
    obtain ⟨-, hrequests⟩ := bind_unit_ok.1 hrequests
    obtain ⟨-, hrequests⟩ := bind_unit_ok.1 hrequests
    refine ⟨.opened _ input.maxCompletedPerSignature rfl rfl (fun q hq hrun => ?_) (by simpa using hbelow)
      (insertRow_ok_iff.1 hrequests).2 rfl rfl rfl, rfl, rfl⟩
    rw [Bool.not_eq_true', List.any_eq_false] at hfree
    have hnone := hfree q hq
    simpa [hrun] using hnone

theorem attach_serves (w : Wire) (id agentSessionId : String) (s : Consultations) :
    ServesOnly s (consult w s (.attach id agentSessionId)) := by
  refine transaction_after (P := fun t' : SupervisionTables => ServesOnly s { s with tables := t' }) (ServesOnly.refl s)
    (fun r t' hb => ?_)
  obtain ⟨q, hq, hb⟩ := bind_ok hb
  obtain ⟨agent, hagent, hb⟩ := bind_ok hb
  obtain ⟨hrole, hb⟩ := ensure_bind_ok.1 hb
  obtain ⟨updated, hupdate, hb⟩ := bind_ok hb
  obtain ⟨-, hb⟩ := bind_unit_ok.1 hb
  cases hb
  obtain ⟨q', hq', hguard, -, hreplaces, ht⟩ := updateRequest_spec hupdate
  obtain rfl : q' = q := Option.some.inj (hq'.symm.trans (okOr_ok hq))
  rw [Bool.and_eq_true] at hguard hrole
  have hqueued : q'.state = .queued := by simpa using hguard.1
  have hget := Table.get_some.1 (okOr_ok hagent)
  refine ⟨.moved q' _ hreplaces (by rw [hqueued]; rfl) ⟨rfl, rfl, rfl⟩
    (Or.inr ⟨agentSessionId, rfl, agent, hget.1, hget.2, by simpa using hrole.1, by simpa using hrole.2⟩) (fun _ => rfl)
    (fun hc => ?_) (by rw [ht]) rfl (fun _ hm => hm), by rw [ht], by rw [ht]⟩
  rw [show q'.state = .completed from hc] at hqueued
  cases hqueued

theorem start_serves {s : Consultations} {id : String} {now : Int} {r : ExpertRequest} {t' : SupervisionTables}
    (h : startRequest s.tables id now = .ok (r, t')) : ServesOnly s { s with tables := t' } := by
  obtain ⟨q, -, hguard, -, hreplaces, ht⟩ := updateRequest_spec h
  unfold ExpertRequest.startable at hguard
  rw [Bool.and_eq_true, Bool.and_eq_true] at hguard
  have hqueued : q.state = .queued := by simpa using hguard.1.1
  refine ⟨.moved q _ hreplaces (by rw [hqueued]; rfl) ⟨rfl, rfl, rfl⟩ (Or.inl rfl) (fun _ => hguard.2)
    (fun hc => by cases hc) (by rw [ht]) rfl (fun _ hm => hm), by rw [ht], by rw [ht]⟩

theorem begin_serves (w : Wire) (id : String) (now : Int) (s : Consultations) :
    ServesOnly s (consult w s (.start id now)) :=
  transaction_after (P := fun t' : SupervisionTables => ServesOnly s { s with tables := t' }) (ServesOnly.refl s)
    (fun _ _ hb => start_serves hb)

theorem beginIfCurrent_serves (w : Wire) (id runId : String) (cursor : Int) (isMaterial : SourceEvent → Bool) (now : Int)
    (s : Consultations) : ServesOnly s (consult w s (.startIfCurrent id runId cursor isMaterial now)) := by
  refine transaction_after (P := fun t' : SupervisionTables => ServesOnly s { s with tables := t' }) (ServesOnly.refl s)
    (fun r t' hb => ?_)
  obtain ⟨q, -, hb⟩ := bind_ok hb
  obtain ⟨-, hb⟩ := ensure_bind_ok.1 hb
  obtain ⟨-, hb⟩ := ensure_bind_ok.1 hb
  exact start_serves hb

theorem terminalRequestState_cases {name : String} {state : ExpertRequestState} (h : terminalRequestState name = some state) :
    state.isActive = false := by
  unfold terminalRequestState at h
  split at h
  all_goals cases h
  all_goals rfl

theorem finish_serves (w : Wire) (id state : String) (failureReason : Option String) (now : Int) (s : Consultations) :
    ServesOnly s (consult w s (.finish id state failureReason now)) := by
  cases hcall : finishExpertRequest id state failureReason now s.tables with
  | mk answer t' =>
    cases answer with
    | error e =>
      have hsame : t' = s.tables := by
        have h := transaction_error (congrArg Prod.fst hcall)
        exact (congrArg Prod.snd hcall).symm.trans h
      simp only [consult, hcall, hsame]
      exact ServesOnly.refl s
    | ok r =>
      have hb := transaction_ok hcall
      simp only [consult, hcall]
      obtain ⟨next, hnext, hb⟩ := bind_ok hb
      obtain ⟨reason, -, hb⟩ := bind_ok hb
      obtain ⟨q, -, hguard, rfl, hreplaces, ht⟩ := updateRequest_spec hb
      have hended := terminalRequestState_cases (okOr_ok hnext)
      refine ⟨.moved q _ hreplaces hguard ⟨rfl, rfl, rfl⟩ (Or.inl rfl) (fun hr => ?_) (fun hc => ?_) (by rw [ht]) rfl
        (fun x hm => ?_), by rw [ht], by rw [ht]⟩
      · rw [show next = .running from hr] at hended
        cases hended
      · rw [if_pos hc]
        simp
      · show x ∈ if (q.finish next now reason).state = .completed then s.closed ++ [(q.finish next now reason).id] else s.closed
        split
        · exact List.mem_append_left _ hm
        · exact hm

theorem endRequest_replaces {t : SupervisionTables} {id : String} {q : ExpertRequest} (hq : t.requests.get id = some q)
    (state : ExpertRequestState) (now : Int) (reason : Option String) :
    Table.Replaces t.requests (endRequest t id state now reason).requests q (q.end state now reason) :=
  Table.replaces_update _ (fun q => q.end_id _ _ _) hq

theorem respond_serves (w : Wire) (id responseId : String) (payload : Value) (now : Int) (s : Consultations) :
    ServesOnly s (consult w s (.respond id responseId payload now)) := by
  show ServesOnly s { s with tables := (recordExpertResponse w id responseId payload now s.tables).2 }
  unfold recordExpertResponse
  cases hrunning : runningRequest w id payload s.tables with
  | error e => exact ServesOnly.refl s
  | ok q =>
    unfold runningRequest at hrunning
    obtain ⟨-, hrunning⟩ := ensure_bind_ok.1 hrunning
    obtain ⟨q', hq, hrunning⟩ := bind_ok hrunning
    obtain ⟨hguard, hrunning⟩ := ensure_bind_ok.1 hrunning
    cases hrunning
    have hget := okOr_ok hq
    rw [Bool.and_eq_true] at hguard
    have hstate : q.state = .running := by simpa using hguard.1
    have hid : s.tables.requests.get q.id = some q := by rw [Table.key_of_get hget]; exact hget
    have hend : ∀ state reason, q.end state now reason = q.finish state now reason := fun state reason => if_pos hstate
    simp only
    by_cases hexpired : q.expiresAt ≤ now
    · rw [if_pos hexpired]
      -- the refusal of a late answer is committed: the request ends as stale
      have hreplaces := endRequest_replaces hid .stale now (some "expert request expired before its response was accepted")
      rw [hend] at hreplaces
      exact ⟨.moved q _ hreplaces (by rw [hstate]; rfl) ⟨rfl, rfl, rfl⟩ (Or.inl rfl) (fun hr => by cases hr)
        (fun hc => by cases hc) rfl rfl (fun _ hm => hm), rfl, rfl⟩
    · rw [if_neg hexpired]
      refine transaction_after (P := fun t' : SupervisionTables => ServesOnly s { s with tables := t' }) (ServesOnly.refl s)
        (fun r t' hb => ?_)
      unfold responseBody at hb
      obtain ⟨hfirst, hb⟩ := bind_unit_ok.1 hb
      obtain ⟨responses, hresponses, hb⟩ := bind_ok hb
      cases hb
      have hreplaces := endRequest_replaces hid .completed now none
      rw [hend] at hreplaces
      refine ⟨.answered q _ _ hreplaces hstate ⟨rfl, rfl, rfl⟩ rfl rfl rfl (by show now < q.expiresAt; omega)
        (fun p hp heq => ?_) (insertRow_ok_iff.1 hresponses).2 rfl rfl, rfl, rfl⟩
      have hnone := require_ok hfirst
      rw [Bool.not_eq_true', List.any_eq_false] at hnone
      exact hnone p hp (by simp [heq])

/-! ## Every call -/

theorem rows_withRow {α κ : Type} {key : α → κ} [DecidableEq κ] (t : Table key) (r : α) : t.rows ⊆ (withRow t r).rows := by
  unfold withRow
  cases h : t.insert r with
  | none => exact List.Subset.refl _
  | some u =>
    rw [Option.getD_some, (Table.insert_some h).2]
    exact List.subset_append_left _ _

/-- **What a call does**: it serves at most one request and acts on at most one action, or proposes some. -/
theorem consult_spec (w : Wire) (s : Consultations) (c : SupervisionCall) : Serves s (consult w s c) ∧
    ActsOn s.tables.actions (consult w s c).tables.actions ∧ s.tables.agents.rows ⊆ (consult w s c).tables.agents.rows := by
  have hacts : ∀ {t' : SupervisionTables}, ActsOnly s.tables t' → Serves s { s with tables := t' } ∧
      ActsOn s.tables.actions t'.actions ∧ s.tables.agents.rows ⊆ t'.agents.rows := fun h =>
    ⟨.same h.requests h.responses rfl rfl, h.acts, by rw [h.agents]; exact List.Subset.refl _⟩
  have hserves : ∀ {s' : Consultations}, ServesOnly s s' → Serves s s' ∧ ActsOn s.tables.actions s'.tables.actions ∧
      s.tables.agents.rows ⊆ s'.tables.agents.rows := fun h =>
    ⟨h.serves, .same h.actions, by rw [h.agents]; exact List.Subset.refl _⟩
  cases c with
  | decide reviewId cursor payload isMaterial draw now =>
    simp only [consult]
    exact hacts (decide_acts w reviewId cursor payload isMaterial draw now s.tables)
  | evaluate id accepted reason now =>
    simp only [consult]
    exact hacts (evaluate_acts id accepted reason now s.tables)
  | stale id reason now =>
    simp only [consult]
    exact hacts (stale_acts id reason now s.tables)
  | begin id now =>
    simp only [consult]
    exact hacts (begin_acts id now s.tables)
  | complete id succeeded receipt now =>
    simp only [consult]
    exact hacts (complete_acts w id succeeded receipt now s.tables)
  | create input isMaterial checkedAt now => exact hserves (create_serves w input isMaterial checkedAt now s)
  | attach id agentSessionId => exact hserves (attach_serves w id agentSessionId s)
  | start id now => exact hserves (begin_serves w id now s)
  | startIfCurrent id runId cursor isMaterial now => exact hserves (beginIfCurrent_serves w id runId cursor isMaterial now s)
  | finish id state failureReason now => exact hserves (finish_serves w id state failureReason now s)
  | respond id responseId payload now => exact hserves (respond_serves w id responseId payload now s)
  | event e => exact hacts ⟨.same rfl, rfl, rfl, rfl⟩
  | agent a => exact ⟨.same rfl rfl rfl rfl, .same rfl, rows_withRow _ a⟩
  | review r => exact hacts ⟨.same rfl, rfl, rfl, rfl⟩

theorem Consulted.step {w : Wire} (h : Consulted s) (c : SupervisionCall) : Consulted (consult w s c) := by
  obtain ⟨hserves, hacts, hagents⟩ := consult_spec w s c
  exact h.serves hserves hacts hagents

theorem consulted_new : Consulted newConsultations where
  receipted := fun _ ha => by cases ha
  single := fun _ hq => by cases hq
  bound := fun _ hq => by cases hq
  running := fun _ hq => by cases hq
  answered := fun _ hr => by cases hr
  once := List.nodup_nil
  completed := fun _ hq => by cases hq
  capped := fun _ _ => Nat.zero_le _

theorem consulted_run (w : Wire) : ∀ (is : List SupervisionCall) {s : Consultations}, Consulted s → Consulted (run (consult w) s is)
  | [], _, h => h
  | c :: is, _, h => consulted_run w is (h.step c)

theorem terminal_run (w : Wire) {a : SupervisorAction} (hterminal : a.state.isTerminal = true) :
    ∀ (is : List SupervisionCall) {s : Consultations}, a ∈ s.tables.actions.rows →
      a ∈ (run (consult w) s is).tables.actions.rows
  | [], _, ha => ha
  | c :: is, s, ha => terminal_run w hterminal is ((consult_spec w s c).2.1.terminal ha hterminal)

end Step

/-! ## The lifecycle -/

/-- The answer of a request: one response of it, recorded before it expired. -/
def AnsweredInTime (t : SupervisionTables) (q : ExpertRequest) : Prop :=
  ∃ r ∈ t.responses.rows, r.requestId = q.id ∧ r.createdAt < q.expiresAt ∧
    ∀ r' ∈ t.responses.rows, r'.requestId = q.id → r' = r

structure Lifecycle (s : Consultations) : Prop where
  receipts : ∀ a ∈ s.tables.actions.rows, a.executionReceipt.isSome = a.state.isExecuted
  single : ∀ q ∈ s.tables.requests.rows, ∀ q' ∈ s.tables.requests.rows, q.state.isActive = true → q'.state.isActive = true →
    q.runId = q'.runId → q = q'
  bound : ∀ q ∈ s.tables.requests.rows, q.state = .running →
    ∃ id, q.agentSessionId = some id ∧ BoundTo s.tables q.runId id
  answered : ∀ q ∈ s.tables.requests.rows, (∃ r ∈ s.tables.responses.rows, r.requestId = q.id) →
    q.state = .completed ∧ AnsweredInTime s.tables q
  completed : ∀ q ∈ s.tables.requests.rows, q.state = .completed → AnsweredInTime s.tables q ∨ q.id ∈ s.closed
  capped : ∀ runId signature, answeredCount s.tables runId signature ≤ largestCap s.created runId signature

theorem Consulted.answeredInTime {s : Consultations} (h : Consulted s) {q : ExpertRequest}
    (hq : q ∈ s.tables.requests.rows) {r : ExpertResponse} (hr : r ∈ s.tables.responses.rows) (hid : r.requestId = q.id) :
    q.state = .completed ∧ AnsweredInTime s.tables q := by
  obtain ⟨q', hq', hid', hcompleted, htime⟩ := h.answered r hr
  have hsame : some q' = some q := by
    rw [← Table.get_of_mem hq', ← Table.get_of_mem hq, hid', hid]
  cases hsame
  exact ⟨hcompleted, r, hr, hid, htime, fun r' hr' hid' => List.inj_on_of_nodup_map h.once hr' hr (hid'.trans hid.symm)⟩

theorem Consulted.lifecycle {s : Consultations} (h : Consulted s) : Lifecycle s where
  receipts := h.receipted
  single := h.single
  bound := fun q hq hr => by
    obtain ⟨id, hid⟩ := Option.isSome_iff_exists.1 (h.running q hq hr)
    exact ⟨id, hid, h.bound q hq id hid⟩
  answered := fun q hq ⟨r, hr, hid⟩ => h.answeredInTime hq hr hid
  completed := fun q hq hc => (h.completed q hq hc).imp_left (fun ⟨_, hr, hid⟩ => (h.answeredInTime hq hr hid).2)
  capped := fun runId signature => by
    refine le_trans (List.countP_mono_left (fun q _ hp => ?_)) (h.capped runId signature)
    unfold holds
    rw [Bool.and_eq_true] at hp ⊢
    exact ⟨hp.1, by rw [hp.2, Bool.or_true]⟩

/-- **The lifecycle of actions and consultations**: it holds in every state that calls in any order reach, and an action in
a terminal state is the same after any further calls. -/
theorem consultation_lifecycle (w : Wire) (is js : List SupervisionCall) :
    Lifecycle (run (consult w) newConsultations is) ∧
    ∀ a ∈ (run (consult w) newConsultations is).tables.actions.rows, a.state.isTerminal = true →
      a ∈ (run (consult w) newConsultations (is ++ js)).tables.actions.rows := by
  refine ⟨(consulted_run w is consulted_new).lifecycle, fun a ha hterminal => ?_⟩
  rw [Trace.run_append]
  exact terminal_run w hterminal js ha

def consultDecision : Value :=
  .obj [("schema", .str "harness.supervisor-decision.v1"), ("decision_id", .str "d"), ("snapshot_id", .str "s"),
    ("run_id", .str "r"), ("actions", .arr [.obj [("action_id", .str "a"), ("kind", .str "request_expert"),
      ("target", .obj []), ("dedupe_key", .str "k")]])]

def closedRequest : List SupervisionCall :=
  [.review ⟨"v", "r", "s", "g", "d", .running, none, none⟩,
    .decide "v" 0 consultDecision SourceEvent.isMaterial (fun _ => "p") 1, .evaluate "p" true "allowed" 2,
    .create ⟨"q", "p", 0, emptyDigest.hex, .obj [], "model", "high", 9, 1⟩ SourceEvent.isMaterial 3 3,
    .finish "q" "COMPLETED" none 4]

/-- A request is completed and no response is stored. -/
theorem closed_without_answer :
    ((run (consult decisionWire) newConsultations closedRequest).tables.requests.rows.map
        (fun q => (q.id, q.state)),
      (run (consult decisionWire) newConsultations closedRequest).tables.responses.rows.length) =
      ([("q", .completed)], 0) := by
  decide +kernel

end Control
end Bildr
