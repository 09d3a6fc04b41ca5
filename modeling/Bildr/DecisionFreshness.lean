import Bildr.EpisodeLedger
import Bildr.Supervision
/-!
# DecisionFreshness — a decision and the events after its snapshot

The query for a decision asks for nineteen types of events; the controller's predicate knows nine more
(`unlisted_iff`).  A decision is stored as stale exactly if a later event is material and of a type the query asks for, so
it agrees with the predicate, and with the test of an expert request, as long as a material event of another type is never
the only kind there is (`decision_agrees_iff`).
-/
namespace Bildr
namespace Control

open Json (Value)

/-! ## Two lists of types -/

def SourceEvent.isMaterial (e : SourceEvent) : Bool := (materialTrigger e).isSome

def SourceEvent.isListed (e : SourceEvent) : Bool := decisionEventTypes.contains e.eventType

def unlistedTypes : List String := ["run.supervision.expert_completed", "run.supervision.expert_failed"] ++ conditionEvents

/-- **What the query misses**: nine types of material events. -/
theorem unlisted_iff (e : SourceEvent) :
    (e.isMaterial = true ∧ e.isListed = false) ↔ e.eventType ∈ unlistedTypes := by
  constructor
  · rintro ⟨hm, hl⟩
    by_contra hnot
    refine absurd hm ?_
    simp only [SourceEvent.isListed, decisionEventTypes, List.contains_cons, List.contains_nil, Bool.or_false,
      Bool.or_eq_false_iff, beq_eq_false_iff_ne, ne_eq] at hl
    simp only [unlistedTypes, conditionEvents, List.cons_append, List.nil_append, List.mem_cons, List.not_mem_nil, or_false,
      not_or] at hnot
    simp [SourceEvent.isMaterial, materialTrigger, conditionEvents, hl, hnot]
  · intro h
    simp only [unlistedTypes, conditionEvents, List.cons_append, List.nil_append, List.mem_cons, List.not_mem_nil,
      or_false] at h
    rcases h with h | h | h | h | h | h | h | h | h
    all_goals
      constructor
      · simp [SourceEvent.isMaterial, materialTrigger, conditionEvents, h]
      · simp [SourceEvent.isListed, decisionEventTypes, h]

/-! ## What a call stores -/

section Decision
variable {w : Wire} {t t' : SupervisionTables} {reviewId : String} {cursor : Int} {payload : Value}
  {isMaterial : SourceEvent → Bool} {draw : Nat → String} {now : Int} {d : SupervisorDecision}

theorem policy_stale_iff {runId : String} : decisionPolicyState t runId cursor isMaterial = .stale ↔
    ∃ e ∈ laterEvents t.events runId cursor, e.isListed = true ∧ isMaterial e = true := by
  unfold decisionPolicyState
  constructor
  · intro h
    split at h
    · rename_i hany
      obtain ⟨e, he, hm⟩ := List.any_eq_true.1 hany
      obtain ⟨he, hl⟩ := List.mem_filter.1 he
      exact ⟨e, he, hl, hm⟩
    · cases h
  · rintro ⟨e, he, hl, hm⟩
    exact if_pos (List.any_eq_true.2 ⟨e, List.mem_filter.2 ⟨he, hl⟩, hm⟩)

theorem policy_cases (p : PolicyState) : p = .advisory ↔ ¬ p = .stale := by
  cases p <;> simp

theorem actionProposal_state {id : String} {action : Value} {a : SupervisorAction}
    (h : actionProposal w d id action = .ok a) : a.state = actionState d.policyState ∧ a.executionReceipt = none := by
  unfold actionProposal at h
  obtain ⟨-, h⟩ := ensure_bind_ok.1 h
  obtain ⟨name, -, h⟩ := bind_ok h
  obtain ⟨proposalActionId, -, h⟩ := bind_ok h
  obtain ⟨kindName, -, h⟩ := bind_ok h
  obtain ⟨kind, -, h⟩ := bind_ok h
  obtain ⟨target, -, h⟩ := bind_ok h
  obtain ⟨key, -, h⟩ := bind_ok h
  obtain ⟨dedupeKey, -, h⟩ := bind_ok h
  obtain ⟨-, h⟩ := ensure_bind_ok.1 h
  cases h
  exact ⟨rfl, rfl⟩

/-- The rows of a decision's proposals stand behind those there were. -/
structure Proposes (d : SupervisorDecision) (u u' : Table SupervisorAction.id) : Prop where
  kept : u.rows <+: u'.rows
  added : ∀ a ∈ u'.rows, a ∈ u.rows ∨ a.state = actionState d.policyState ∧ a.executionReceipt = none

theorem Proposes.refl (d : SupervisorDecision) (u : Table SupervisorAction.id) : Proposes d u u :=
  ⟨List.prefix_rfl, fun _ ha => Or.inl ha⟩

theorem insertProposals_rows : ∀ {vs : List Value} {k : Nat} {u u' : Table SupervisorAction.id},
    insertProposals w d draw k vs u = .ok u' → Proposes d u u'
  | [], k, u, u', h => by
    cases h
    exact Proposes.refl d u
  | v :: vs, k, u, u', h => by
    unfold insertProposals at h
    obtain ⟨b, hb, h⟩ := bind_ok h
    obtain ⟨u₁, hu₁, h⟩ := bind_ok h
    unfold insertProposal require at hu₁
    obtain ⟨-, hu₁⟩ := ensure_bind_ok.1 hu₁
    have hrows := (insertRow_ok_iff.1 hu₁).2
    have hrest := insertProposals_rows h
    refine ⟨List.IsPrefix.trans ⟨[b], hrows.symm⟩ hrest.kept, fun a ha => ?_⟩
    rcases hrest.added a ha with ha | ha
    · rw [hrows, List.mem_append, List.mem_singleton] at ha
      rcases ha with ha | rfl
      · exact Or.inl ha
      · exact Or.inr (actionProposal_state hb)
    · exact Or.inr ha

theorem insertSupervisorActionProposals_rows {u u' : Table SupervisorAction.id}
    (h : insertSupervisorActionProposals w d draw u = .ok u') : Proposes d u u' := by
  unfold insertSupervisorActionProposals at h
  split at h
  · cases h
    exact Proposes.refl d u
  · obtain ⟨actions, -, h⟩ := bind_ok h
    obtain ⟨-, h⟩ := ensure_bind_ok.1 h
    exact insertProposals_rows h

/-- **What a decision is**: its policy is that of the later events the query finds, its actions are proposals of it, and
requests and responses are as they were. -/
theorem decisionBody_spec (h : decisionBody w reviewId cursor payload isMaterial draw now t = .ok (d, t')) :
    d.policyState = decisionPolicyState t d.runId cursor isMaterial ∧ Proposes d t.actions t'.actions ∧
      t'.agents = t.agents ∧ t'.requests = t.requests ∧ t'.responses = t.responses := by
  unfold decisionBody require at h
  obtain ⟨-, h⟩ := ensure_bind_ok.1 h
  obtain ⟨review, -, h⟩ := bind_ok h
  obtain ⟨-, h⟩ := ensure_bind_ok.1 h
  obtain ⟨-, h⟩ := ensure_bind_ok.1 h
  obtain ⟨-, h⟩ := ensure_bind_ok.1 h
  obtain ⟨decisions, -, h⟩ := bind_ok h
  obtain ⟨actions, hactions, h⟩ := bind_ok h
  cases h
  exact ⟨rfl, insertSupervisorActionProposals_rows hactions, rfl, rfl, rfl⟩

theorem decision_spec
    (h : recordCurrentSupervisorDecision w reviewId cursor payload isMaterial draw now t = (.ok d, t')) :
    d.policyState = decisionPolicyState t d.runId cursor isMaterial ∧
      ∀ a ∈ t'.actions.rows, a ∈ t.actions.rows ∨ a.state = actionState d.policyState := by
  rcases transaction_cases (decisionBody w reviewId cursor payload isMaterial draw now) t with
    ⟨e, -, hcall⟩ | ⟨d', u, hb, hcall⟩
  · rw [recordCurrentSupervisorDecision, hcall] at h
    cases h
  · rw [recordCurrentSupervisorDecision, hcall] at h
    cases h
    obtain ⟨hpolicy, hproposes, -⟩ := decisionBody_spec hb
    exact ⟨hpolicy, fun a ha => (hproposes.added a ha).imp_right And.left⟩

theorem later_iff {runId : String} (hlength : (laterEvents t.events runId cursor).length ≤ 10000) :
    laterMaterialEventExists t runId cursor isMaterial = true ↔
      ∃ e ∈ laterEvents t.events runId cursor, isMaterial e = true := by
  unfold laterMaterialEventExists
  rw [List.take_of_length_le (by omega), Bool.or_eq_true, decide_eq_true_eq, List.any_eq_true]
  constructor
  · rintro (h | h)
    · omega
    · exact h
  · exact Or.inr

end Decision

/-! ## Agreement -/

/-- A decision agrees with the predicate: it is advisory, and its actions are proposed, exactly if no later event of its
run is material, and else stale, as the test of an expert request has it. -/
structure DecisionAgrees (t t' : SupervisionTables) (d : SupervisorDecision) (cursor : Int) : Prop where
  policy : d.policyState = .advisory ↔ ∀ e ∈ laterEvents t.events d.runId cursor, e.isMaterial = false
  actions : ∀ a ∈ t'.actions.rows, a ∉ t.actions.rows →
    (a.state = .proposed ↔ ∀ e ∈ laterEvents t.events d.runId cursor, e.isMaterial = false) ∧
    (a.state = .stale ↔ ¬ ∀ e ∈ laterEvents t.events d.runId cursor, e.isMaterial = false)
  expert : (laterEvents t.events d.runId cursor).length ≤ 10000 →
    (laterMaterialEventExists t d.runId cursor SourceEvent.isMaterial = true ↔ d.policyState = .stale)

/-- **A decision agrees with the predicate** exactly if a later material event, where there is one, is of a type the query
asks for, or comes with one that is. -/
theorem decision_agrees_iff {w : Wire} {t t' : SupervisionTables} {reviewId : String} {cursor : Int} {payload : Value}
    {draw : Nat → String} {now : Int} {d : SupervisorDecision}
    (h : recordCurrentSupervisorDecision w reviewId cursor payload SourceEvent.isMaterial draw now t = (.ok d, t')) :
    DecisionAgrees t t' d cursor ↔
      ((∃ e ∈ laterEvents t.events d.runId cursor, e.isMaterial = true) →
        ∃ e ∈ laterEvents t.events d.runId cursor, e.isListed = true ∧ e.isMaterial = true) := by
  obtain ⟨hpolicy, hactions⟩ := decision_spec h
  have hstale := @policy_stale_iff t cursor SourceEvent.isMaterial d.runId
  rw [← hpolicy] at hstale
  have hnone : (∀ e ∈ laterEvents t.events d.runId cursor, e.isMaterial = false) ↔
      ¬ ∃ e ∈ laterEvents t.events d.runId cursor, e.isMaterial = true := by simp
  constructor
  · intro hagrees hsome
    rw [← hstale]
    by_contra hnot
    exact hnone.1 (hagrees.policy.1 ((policy_cases _).2 hnot)) hsome
  · intro hlisted
    have hmaterial : d.policyState = .stale ↔ ∃ e ∈ laterEvents t.events d.runId cursor, e.isMaterial = true := by
      rw [hstale]
      constructor
      · rintro ⟨e, he, -, hm⟩
        exact ⟨e, he, hm⟩
      · exact hlisted
    refine ⟨by rw [policy_cases, hmaterial, hnone], fun a ha hnew => ?_, fun hlength => by rw [later_iff hlength, hmaterial]⟩
    have hstate := (hactions a ha).resolve_left hnew
    rw [hnone, not_not, ← hmaterial, hstate]
    cases d.policyState <;> simp [actionState]

/-- A run with a running review of a snapshot at cursor one, and one event after it. -/
def reviewedRun (eventType : String) : SupervisionTables where
  events := [⟨1, some "r", "run", "r", "run.lifecycle.transitioned", 0, .obj [("next_state", .str "EXECUTING")]⟩,
    ⟨2, some "r", "run", "r", eventType, 5, .obj []⟩]
  agents := ⟨[⟨"g", "r", "supervisor"⟩], by decide⟩
  reviews := ⟨[⟨"v", "r", "s", "g", "d", .running, none, none⟩], by decide⟩
  decisions := ∅
  actions := ∅
  requests := ∅
  responses := ∅

def waitDecision : Value :=
  .obj [("schema", .str "harness.supervisor-decision.v1"), ("decision_id", .str "d"), ("snapshot_id", .str "s"),
    ("run_id", .str "r"), ("actions", .arr [.obj [("action_id", .str "a"), ("kind", .str "wait"), ("target", .obj []),
      ("dedupe_key", .str "k")]])]

def decisionWire : Wire := (tableWire [] [] []).toWire

def decisionAfter (eventType : String) : Except StoreError SupervisorDecision × SupervisionTables :=
  recordCurrentSupervisorDecision decisionWire "v" 1 waitDecision SourceEvent.isMaterial (fun _ => "p") 9 (reviewedRun eventType)

theorem decisionAfter_ok {eventType : String} (h : (decisionAfter eventType).1.isOk = true) :
    ∃ d t', decisionAfter eventType = (.ok d, t') := by
  cases hc : decisionAfter eventType with
  | mk result t' =>
    rw [hc] at h
    cases result with
    | error e => cases h
    | ok d => exact ⟨d, t', rfl⟩

/-- A decision overtaken by a verified task agrees with the predicate. -/
theorem verified_overtakes : ∃ d t', decisionAfter "task.verified" = (.ok d, t') ∧
    DecisionAgrees (reviewedRun "task.verified") t' d 1 := by
  obtain ⟨d, t', hcall⟩ := @decisionAfter_ok "task.verified" (by decide +kernel)
  have hrun : d.runId = "r" := by
    have hruns : (decisionAfter "task.verified").1.toOption.map SupervisorDecision.runId = some "r" := by decide +kernel
    rw [hcall] at hruns
    exact Option.some.inj hruns
  refine ⟨d, t', hcall, (decision_agrees_iff hcall).2 (fun _ => ?_)⟩
  rw [hrun]
  have hlater : (⟨2, some "r", "run", "r", "task.verified", 5, .obj []⟩ : SourceEvent) ∈
      laterEvents (reviewedRun "task.verified").events "r" 1 :=
    List.mem_filter.2 ⟨List.mem_cons_of_mem _ List.mem_cons_self, by decide⟩
  exact ⟨_, hlater, by decide, by decide⟩

/-- An expert's answer is material and overtakes nothing: the decision is advisory, its action proposed. -/
theorem expert_answer_missed :
    ((decisionAfter "run.supervision.expert_completed").1.toOption.map SupervisorDecision.policyState,
      (decisionAfter "run.supervision.expert_completed").2.actions.rows.map SupervisorAction.state) =
        (some .advisory, [.proposed]) ∧
    laterMaterialEventExists (reviewedRun "run.supervision.expert_completed") "r" 1 SourceEvent.isMaterial = true := by
  decide +kernel

end Control
end Bildr
