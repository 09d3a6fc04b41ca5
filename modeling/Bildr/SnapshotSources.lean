import Bildr.AttentionSteps
import Bildr.Snapshots
import Bildr.Stamped
import Mathlib.Algebra.Order.BigOperators.Group.List
/-!
# SnapshotSources — what a call moves of its own source

Every call on a source moves the source's cursor forward or leaves the rows that are shown.  Attention is counted by its
events, a condition by the conditions and their observations, everything that is only inserted by its rows.  Receipts of
interventions, findings and actions are the exception: they change an episode and are not counted (`uncounted`).
-/
namespace Bildr
namespace Control

open Stamped (Accounts)

section Sequence
variable {σ κ ν α β : Type} [PartialOrder κ] {stamp : σ → κ} {view : σ → ν}

theorem andThen_accounts {c : Call σ α} {f : α → Call σ β} (hc : ∀ s, Accounts stamp view s (c s).2)
    (hf : ∀ a s, Accounts stamp view s (f a s).2) (s : σ) : Accounts stamp view s (c.andThen f s).2 := by
  cases h : (c s).1 with
  | error e =>
    rw [andThen_error h]
    exact hc s
  | ok a =>
    rw [andThen_ok h]
    exact (hc s).trans (hf a (c s).2)

end Sequence

theorem length_insertRow {α κ : Type} {key : α → κ} [DecidableEq κ] {t u : Table key} {r : α}
    (h : insertRow t r = .ok u) : t.rows.length < u.rows.length := by
  rw [(insertRow_ok_iff.1 h).2, List.length_append, List.length_singleton]
  omega

/-! ## Attention -/

def attentionStamp (t : AttentionTables) : Nat := Table.maxOf AttentionEvent.id t.events.rows

theorem attentionStamp_lt {t t' : AttentionTables} {i : AttentionItem} {kind : AttentionEventKind} {v : Option Nat}
    (h : insertAttentionEvent t.events i kind v = .ok t'.events) : attentionStamp t < attentionStamp t' := by
  unfold insertAttentionEvent require at h
  obtain ⟨-, h⟩ := ensure_bind_ok.1 h
  unfold attentionStamp
  rw [(insertRow_ok_iff.1 h).2, Table.maxOf_append]
  exact lt_max_of_lt_right (Nat.lt_succ_self _)

theorem itemStep_accounts (w : Wire) (t : AttentionTables) (c : AttentionCall) :
    Accounts attentionStamp AttentionTables.items t (itemStep w t c) := by
  have hsteps := itemStep_steps w t c
  generalize itemStep w t c = t' at hsteps
  cases hsteps with
  | same => exact Accounts.refl t
  | retried item _ h =>
    refine Accounts.of_eq ?_ h.items
    unfold attentionStamp
    rw [h.events]
  | opened item _ h => exact Accounts.of_lt (attentionStamp_lt h.events)
  | changed _ i next _ h =>
    obtain ⟨kind, v, -, hevents⟩ := h.events
    exact Accounts.of_lt (attentionStamp_lt hevents)

theorem mirrorApproval_accounts (w : Wire) (ids : String → String) (now : Int) (a : Approval.ApprovalSummary)
    (t : AttentionTables) : Accounts attentionStamp AttentionTables.items t (mirrorApproval w ids now a t).2 := by
  unfold mirrorApproval
  split
  · exact Accounts.refl t
  · split
    · exact itemStep_accounts w t (.upsert _)
    · split
      · exact itemStep_accounts w t (.upsert _)
      · exact Accounts.refl t
    · split
      · exact Accounts.refl t
      · exact itemStep_accounts w t (.resolve _ _ _ _)
    · exact Accounts.refl t

theorem refreshApproval_accounts (w : Wire) (ids : String → String) (now : Int) :
    ∀ (approvals : List Approval.ApprovalSummary) (t : AttentionTables),
      Accounts attentionStamp AttentionTables.items t (refreshApprovalAttention w ids now approvals t).2
  | [], t => Accounts.refl t
  | a :: as, t =>
    andThen_accounts (mirrorApproval_accounts w ids now a) (fun _ => refreshApproval_accounts w ids now as) t

/-! ## Conditions -/

def conditionStamp (t : ConditionTables) : Nat × Nat × Nat :=
  (Table.maxOf SourceEvent.id t.events, t.conditions.rows.length, t.observations.rows.length)

theorem register_accounts {w : Wire} {same : ExternalCondition → ExternalCondition → Bool} {why : String}
    {c c' : ExternalCondition} {t t' : ConditionTables} (h : registerBody w same why c t = .ok (c', t')) :
    Accounts conditionStamp ConditionTables.conditions t t' := by
  unfold registerBody at h
  obtain ⟨-, h⟩ := bind_unit_ok.1 h
  obtain ⟨-, h⟩ := ensure_bind_ok.1 h
  cases hf : t.conditions.rows.find? (fun r => decide (r.adapter = c.adapter) && r.sourceId == c.sourceId) with
  | some row =>
    simp only [hf] at h
    obtain ⟨existing, -, h⟩ := bind_ok h
    obtain ⟨-, h⟩ := ensure_bind_ok.1 h
    cases h
    exact Accounts.refl t
  | none =>
    simp only [hf] at h
    obtain ⟨conditions, hconditions, h⟩ := bind_ok h
    cases h
    have hlength := length_insertRow hconditions
    refine ⟨⟨le_rfl, hlength.le, le_rfl⟩, fun heq => ?_⟩
    exact absurd (congrArg (fun q : Nat × Nat × Nat => q.2.1) heq) hlength.ne'

theorem maxOf_emit (events : List SourceEvent) (c : ExternalCondition) (o : ConditionObservation) (now : Int)
    (event : Option ConditionMaterialEvent) :
    Table.maxOf SourceEvent.id events ≤ Table.maxOf SourceEvent.id (emitMaterialEvent events c o now event) := by
  cases event with
  | none => exact le_rfl
  | some event =>
    unfold emitMaterialEvent
    rw [Table.maxOf_append]
    omega

theorem observation_cases {w : Wire} {id : String} {v : Nat} {o : ConditionObservation}
    {event : Option ConditionMaterialEvent} {now : Int} {c : ExternalCondition} {t t' : ConditionTables}
    (h : observationInnerBody w id v o event now t = .ok (c, t')) : t' = t ∨
    insertRow t.observations o = .ok t'.observations ∧ t'.conditions.rows.length = t.conditions.rows.length ∧
      t'.events = emitMaterialEvent t.events c o now event := by
  unfold observationInnerBody at h
  obtain ⟨-, h⟩ := bind_unit_ok.1 h
  obtain ⟨-, h⟩ := ensure_bind_ok.1 h
  obtain ⟨link, -, h⟩ := bind_ok h
  obtain ⟨-, -, h⟩ := bind_ok h
  cases hf : t.observations.rows.find? (fun r => r.conditionId == id && r.sourceEventId == o.sourceEventId) with
  | some existing =>
    simp only [hf] at h
    unfold replayObservation at h
    obtain ⟨-, h⟩ := ensure_bind_ok.1 h
    obtain ⟨-, h⟩ := ensure_bind_ok.1 h
    obtain ⟨row, -, h⟩ := bind_ok h
    obtain ⟨current, -, h⟩ := bind_ok h
    obtain ⟨-, h⟩ := bind_unit_ok.1 h
    obtain ⟨-, h⟩ := ensure_bind_ok.1 h
    obtain ⟨-, h⟩ := bind_unit_ok.1 h
    cases h
    exact Or.inl rfl
  | none =>
    simp only [hf] at h
    unfold observeCondition at h
    obtain ⟨row, -, h⟩ := bind_ok h
    obtain ⟨-, h⟩ := bind_unit_ok.1 h
    obtain ⟨-, h⟩ := bind_unit_ok.1 h
    obtain ⟨-, -, h⟩ := bind_ok h
    obtain ⟨-, h⟩ := ensure_bind_ok.1 h
    obtain ⟨-, h⟩ := ensure_bind_ok.1 h
    obtain ⟨-, h⟩ := ensure_bind_ok.1 h
    obtain ⟨-, h⟩ := bind_unit_ok.1 h
    obtain ⟨-, -, h⟩ := bind_ok h
    obtain ⟨observations, hobservations, h⟩ := bind_ok h
    obtain ⟨links, -, h⟩ := bind_ok h
    cases h
    exact Or.inr ⟨hobservations, List.length_map _, rfl⟩

theorem observation_accounts {w : Wire} {id : String} {v : Nat} {o : ConditionObservation}
    {event : Option ConditionMaterialEvent} {now : Int} {c : ExternalCondition} {t t' : ConditionTables}
    (h : observationInnerBody w id v o event now t = .ok (c, t')) :
    Accounts conditionStamp ConditionTables.conditions t t' := by
  rcases observation_cases h with rfl | ⟨hobservations, hconditions, hevents⟩
  · exact Accounts.refl t'
  · have hlength := length_insertRow hobservations
    refine ⟨⟨?_, hconditions.ge, hlength.le⟩, fun heq => ?_⟩
    · show Table.maxOf SourceEvent.id t.events ≤ Table.maxOf SourceEvent.id t'.events
      rw [hevents]
      exact maxOf_emit _ _ _ _ _
    · exact absurd (congrArg (fun q : Nat × Nat × Nat => q.2.2) heq) hlength.ne'

/-! ## Artifacts, deliveries, presence -/

def artifactStamp (t : InvestigationTables) : Nat := t.artifacts.rows.length

theorem artifact_accounts (w : Wire) (a : InvestigationArtifact) (t : InvestigationTables) :
    Accounts artifactStamp InvestigationTables.artifacts t (recordInvestigationArtifact w a t).2 := by
  refine transaction_after (P := Accounts artifactStamp InvestigationTables.artifacts t) (Accounts.refl t)
    (fun a' t' hb => ?_)
  unfold artifactBody at hb
  obtain ⟨-, hb⟩ := bind_unit_ok.1 hb
  obtain ⟨link, -, hb⟩ := bind_ok hb
  cases hf : t.artifacts.get a.artifactId with
  | some row =>
    simp only [hf] at hb
    obtain ⟨existing, -, hb⟩ := bind_ok hb
    obtain ⟨-, hb⟩ := ensure_bind_ok.1 hb
    obtain ⟨-, hb⟩ := bind_unit_ok.1 hb
    cases hb
    exact Accounts.refl t
  | none =>
    simp only [hf] at hb
    obtain ⟨artifacts, hartifacts, hb⟩ := bind_ok hb
    obtain ⟨links, -, hb⟩ := bind_ok hb
    cases hb
    exact Accounts.of_lt (length_insertRow hartifacts)

def deliveryStamp (t : NotificationTables) : Nat := t.deliveries.rows.length

theorem delivery_accounts (w : Wire) (d : NotificationDelivery) (t : NotificationTables) :
    Accounts deliveryStamp NotificationTables.deliveries t (recordNotificationDelivery w d t).2 := by
  refine transaction_after (P := Accounts deliveryStamp NotificationTables.deliveries t) (Accounts.refl t)
    (fun d' t' hb => ?_)
  unfold deliveryBody require at hb
  obtain ⟨-, hb⟩ := bind_unit_ok.1 hb
  obtain ⟨link, -, hb⟩ := bind_ok hb
  cases hf : t.deliveries.rows.find? (fun r => r.sourceEventId == d.sourceEventId) with
  | some row =>
    simp only [hf] at hb
    obtain ⟨existing, -, hb⟩ := bind_ok hb
    obtain ⟨-, hb⟩ := ensure_bind_ok.1 hb
    obtain ⟨links, -, hb⟩ := bind_ok hb
    cases hb
    exact Accounts.of_eq rfl rfl
  | none =>
    simp only [hf] at hb
    obtain ⟨-, hb⟩ := ensure_bind_ok.1 hb
    obtain ⟨deliveries, hdeliveries, hb⟩ := bind_ok hb
    obtain ⟨links, -, hb⟩ := bind_ok hb
    cases hb
    exact Accounts.of_lt (length_insertRow hdeliveries)

theorem mirrorItems_accounts (w : Wire) : ∀ (items : List AttentionItem) (t : NotificationTables),
    Accounts deliveryStamp NotificationTables.deliveries t (mirrorItems w items t).2
  | [], t => Accounts.refl t
  | i :: is, t => by
    unfold mirrorItems
    cases notificationFromAttention w i with
    | error e => exact Accounts.refl t
    | ok d =>
      exact andThen_accounts (f := fun d => (mirrorItems w is).map (fun ds => d :: ds)) (delivery_accounts w d)
        (fun _ => mirrorItems_accounts w is) t

theorem mirror_accounts (w : Wire) (t : NotificationTables) :
    Accounts deliveryStamp NotificationTables.deliveries t (refreshNotificationMirror w t).2 := by
  unfold refreshNotificationMirror
  cases pendingNotificationAttention t 200 with
  | error e => exact Accounts.refl t
  | ok items => exact mirrorItems_accounts w items t

def presenceStamp (t : Table OperatorPresence.operatorId) : Nat := (t.rows.map OperatorPresence.version).sum

theorem writePresence_le {t t' : Table OperatorPresence.operatorId} {v : Nat} {p : OperatorPresence}
    (hv : ∀ q, t.get p.operatorId = some q → q.version ≤ p.version) (h : writePresence t v p = .ok t') :
    presenceStamp t ≤ presenceStamp t' := by
  unfold writePresence at h
  unfold presenceStamp
  split at h
  · rw [(insertRow_ok_iff.1 h).2, List.map_append, List.sum_append]
    exact Nat.le_add_right _ _
  · obtain ⟨-, h⟩ := ensure_bind_ok.1 h
    cases h
    unfold Table.update
    rw [List.map_map]
    refine List.sum_le_sum (fun r hr => ?_)
    -- only the operator's own row is replaced, by a later version
    by_cases hid : r.operatorId = p.operatorId
    · simpa [hid] using hv r (Table.get_some.2 ⟨hr, hid⟩)
    · simp [hid]

theorem nextPresence_ok {current : Option OperatorPresence} {id : String} {mode : OperatorPresenceMode} {v : Nat}
    {now : Int} {p : OperatorPresence} (h : nextPresence current id mode v now = .ok p) :
    (current = none ∧ p.operatorId = id) ∨
      ∃ q, current = some q ∧ p.operatorId = q.operatorId ∧ p.version = q.version + 1 := by
  cases current with
  | none =>
    obtain ⟨-, h⟩ := ensure_bind_ok.1 h
    cases h
    exact Or.inl ⟨rfl, rfl⟩
  | some q =>
    obtain ⟨-, h⟩ := ensure_bind_ok.1 h
    cases h
    exact Or.inr ⟨q, rfl, rfl, rfl⟩

theorem readPresence_ok {w : Wire} {t : Table OperatorPresence.operatorId} {id : String} {p : Option OperatorPresence}
    (h : readPresence w t id = .ok p) : p = t.get id := by
  unfold readPresence at h
  cases hg : t.get id with
  | none =>
    simp only [hg] at h
    cases h
    rfl
  | some q =>
    simp only [hg] at h
    obtain ⟨-, h⟩ := ensure_bind_ok.1 h
    cases h
    rfl

theorem presence_le (w : Wire) (id : String) (mode : OperatorPresenceMode) (v : Nat) (now : Int)
    (t : Table OperatorPresence.operatorId) : presenceStamp t ≤ presenceStamp (setOperatorPresence w id mode v now t).2 := by
  refine transaction_after (P := fun t' => presenceStamp t ≤ presenceStamp t') le_rfl (fun p t' hb => ?_)
  unfold presenceBody at hb
  obtain ⟨-, hb⟩ := bind_unit_ok.1 hb
  obtain ⟨current, hread, hb⟩ := bind_ok hb
  obtain ⟨next, hnext, hb⟩ := bind_ok hb
  obtain ⟨-, hb⟩ := bind_unit_ok.1 hb
  obtain ⟨-, -, hb⟩ := bind_ok hb
  obtain ⟨u, hwrite, hb⟩ := bind_ok hb
  cases hb
  obtain rfl := readPresence_ok hread
  refine writePresence_le (fun q hq => ?_) hwrite
  change t.get next.operatorId = some q at hq
  change q.version ≤ next.version
  rcases nextPresence_ok hnext with ⟨hnone, hid⟩ | ⟨q', hsome, hid, hversion⟩
  · rw [hid, hnone] at hq
    cases hq
  · rw [hid, Table.key_of_get hsome, hsome] at hq
    cases hq
    omega

/-! ## Progress -/

def progressStamp (t : ProgressTables) : Nat × Nat := (t.cursor.toNat, t.progress.rows.length)

theorem projectEvent_accounts {w : Wire} {e : SourceEvent} {classified classified' : List MaterialProgressEvent}
    {t t' : ProgressTables} (h : projectEvent w e classified t = .ok (classified', t')) :
    Accounts progressStamp ProgressTables.progress t t' ∧ t'.cursor = t.cursor := by
  unfold projectEvent at h
  cases hc : classifySourceEvent e with
  | none =>
    simp only [hc] at h
    cases h
    exact ⟨Accounts.refl t, rfl⟩
  | some rule =>
    obtain ⟨kind, summary⟩ := rule
    simp only [hc] at h
    obtain ⟨p, -, h⟩ := bind_ok h
    obtain ⟨link, -, h⟩ := bind_ok h
    cases hf : findProgress t p with
    | some row =>
      simp only [hf] at h
      obtain ⟨existing, -, h⟩ := bind_ok h
      obtain ⟨-, h⟩ := ensure_bind_ok.1 h
      obtain ⟨links, -, h⟩ := bind_ok h
      cases h
      exact ⟨Accounts.of_eq rfl rfl, rfl⟩
    | none =>
      simp only [hf] at h
      obtain ⟨progress, hprogress, h⟩ := bind_ok h
      obtain ⟨links, -, h⟩ := bind_ok h
      cases h
      have hlength := length_insertRow hprogress
      refine ⟨⟨⟨le_rfl, hlength.le⟩, fun heq => ?_⟩, rfl⟩
      exact absurd (congrArg (fun q : Nat × Nat => q.2) heq) hlength.ne'

theorem projectEvents_accounts {w : Wire} : ∀ {es : List SourceEvent} {classified classified' : List MaterialProgressEvent}
    {t t' : ProgressTables}, projectEvents w es classified t = .ok (classified', t') →
    Accounts progressStamp ProgressTables.progress t t' ∧ t'.cursor = t.cursor
  | [], classified, classified', t, t', h => by
    cases h
    exact ⟨Accounts.refl t, rfl⟩
  | e :: es, classified, classified', t, t', h => by
    unfold projectEvents at h
    obtain ⟨⟨c₁, t₁⟩, hone, h⟩ := bind_ok h
    obtain ⟨hfirst, hcursor⟩ := projectEvent_accounts hone
    obtain ⟨hrest, hcursor'⟩ := projectEvents_accounts h
    exact ⟨hfirst.trans hrest, hcursor'.trans hcursor⟩

theorem window_forward (t : ProgressTables) :
    t.cursor ≤ ((classifierWindow t).getLast?.map (fun e => (e.id : Int))).getD t.cursor := by
  cases hl : (classifierWindow t).getLast? with
  | none => exact le_rfl
  | some e =>
    have hmem : e ∈ t.events.filter (fun e => decide (t.cursor < (e.id : Int))) :=
      List.mem_of_mem_take (List.mem_of_getLast? hl)
    simpa using le_of_lt (of_decide_eq_true (List.mem_filter.1 hmem).2)

theorem classify_accounts (w : Wire) (t : ProgressTables) :
    Accounts progressStamp ProgressTables.progress t (classifyMaterialProgress w t).2 := by
  refine transaction_after (P := Accounts progressStamp ProgressTables.progress t) (Accounts.refl t) (fun l t' hb => ?_)
  unfold classifyBody at hb
  obtain ⟨-, hb⟩ := ensure_bind_ok.1 hb
  obtain ⟨⟨classified, t₁⟩, hpass, hb⟩ := bind_ok hb
  cases hb
  obtain ⟨hpass, hcursor⟩ := projectEvents_accounts hpass
  have hforward : t.cursor.toNat ≤ (((classifierWindow t).getLast?.map (fun e => (e.id : Int))).getD t.cursor).toNat :=
    Int.toNat_le_toNat (window_forward t)
  refine ⟨⟨hforward, hpass.forward.2⟩, fun heq => hpass.shown ?_⟩
  have hlength : t₁.progress.rows.length = t.progress.rows.length := congrArg Prod.snd heq
  exact Prod.ext (congrArg Int.toNat hcursor) hlength

/-! ## Episodes -/

def controlStamp (t : ControlTables) : Nat × Nat × Nat :=
  (t.episodes.rows.length, t.observations.rows.length, t.reconciliations.rows.length)

def controlView (t : ControlTables) : Table LivenessRow.id × Table ReconciliationRow.id := (t.episodes, t.reconciliations)

/-- The calls that change an episode and add no row a cursor counts, unless their record is already stored. -/
def ControlCall.uncounted (w : CustodyWire) (t : ControlTables) : ControlCall → Bool
  | .receipt r   => (findReceipt t r).isNone
  | .wait q _    => (t.receipts.get (interventionIdOf w.toWire waitPolicy q)).isNone
  | .pause q _   => (t.receipts.get (interventionIdOf w.toWire pausePolicy q)).isNone
  | .finding f _ => (t.findings.get f.key).isNone
  | .action r _  => (findAction t r).isNone
  | .consume q _ => (existingConsumption t q.proofId).isNone
  | _            => false

theorem lives_forward {w : Wire} {c : ControlCall} {t t' : ControlTables} (h : Lives w c t t') :
    t.episodes.rows.length ≤ t'.episodes.rows.length ∧ t.observations.rows.length ≤ t'.observations.rows.length := by
  rcases h with hq | ⟨e, -, ho⟩ | ⟨id, v, o, row, -, ho, -⟩ | ⟨row, r, hc⟩
  · rw [hq.episodes, hq.observations]
    exact ⟨le_rfl, le_rfl⟩
  · rw [ho.rows, ho.observations, List.length_append]
    exact ⟨Nat.le_add_right _ _, le_rfl⟩
  · rw [ho.episodes, ho.observations, List.length_map, List.length_append]
    exact ⟨le_rfl, Nat.le_add_right _ _⟩
  · rw [hc.episodes, hc.observations, List.length_map]
    exact ⟨le_rfl, le_rfl⟩

theorem reconciles_forward {w : Wire} {t t' : ControlTables} (h : Reconciles w t t') :
    t.reconciliations.rows.length ≤ t'.reconciliations.rows.length := by
  rcases h with hc | ⟨e, ho⟩ | ⟨row, f, hf⟩ | ⟨row, r, ha⟩
  · rw [hc.reconciliations]
  · rw [ho.rows, List.length_append]
    exact Nat.le_add_right _ _
  · rw [hf.reconciliations, List.length_map]
  · rw [ha.reconciliations, List.length_map]

theorem control_forward (w : CustodyWire) (t : ControlTables) (c : ControlCall) :
    controlStamp t ≤ controlStamp (perform w t c) := by
  have hlives := lives_forward (perform_liveness w t c)
  exact ⟨hlives.1, hlives.2, reconciles_forward (perform_reconciliation w t c)⟩

section Accounted
variable {w : Wire} {t t' : ControlTables}

theorem quiet_accounts (hq : Quiet t t') (hc : Calm t t') : Accounts controlStamp controlView t t' := by
  refine Accounts.of_eq ?_ (Prod.ext hq.episodes hc.reconciliations)
  unfold controlStamp
  rw [hq.episodes, hq.observations, hc.reconciliations]

theorem moved_accounts (hepisodes : t.episodes.rows.length ≤ t'.episodes.rows.length)
    (hobservations : t.observations.rows.length ≤ t'.observations.rows.length)
    (hreconciliations : t.reconciliations.rows.length ≤ t'.reconciliations.rows.length)
    (hmoved : controlStamp t' ≠ controlStamp t) : Accounts controlStamp controlView t t' :=
  ⟨⟨hepisodes, hobservations, hreconciliations⟩, fun heq => absurd heq hmoved⟩

theorem opened_accounts {e : LivenessEpisode} (ho : Opened w t t' e) (hc : Calm t t') :
    Accounts controlStamp controlView t t' := by
  have hlength : t'.episodes.rows.length = t.episodes.rows.length + 1 := by
    rw [ho.rows, List.length_append, List.length_singleton]
  refine moved_accounts (by omega) ?_ ?_ (fun heq => ?_)
  · rw [ho.observations]
  · rw [hc.reconciliations]
  · have : t'.episodes.rows.length = t.episodes.rows.length := congrArg Prod.fst heq
    omega

theorem observed_accounts {row : LivenessRow} {o : LivenessObservation} (ho : Observed w t t' row o) (hc : Calm t t') :
    Accounts controlStamp controlView t t' := by
  have hlength : t'.observations.rows.length = t.observations.rows.length + 1 := by
    rw [ho.observations, List.length_append, List.length_singleton]
  refine moved_accounts ?_ (by omega) ?_ (fun heq => ?_)
  · rw [ho.episodes, List.length_map]
  · rw [hc.reconciliations]
  · have : t'.observations.rows.length = t.observations.rows.length := congrArg (fun q => q.2.1) heq
    omega

theorem convened_accounts {e : ReconciliationEpisode} (ho : Convened w t t' e) (hq : Quiet t t') :
    Accounts controlStamp controlView t t' := by
  have hlength : t'.reconciliations.rows.length = t.reconciliations.rows.length + 1 := by
    rw [ho.rows, List.length_append, List.length_singleton]
  refine moved_accounts ?_ ?_ (by omega) (fun heq => ?_)
  · rw [hq.episodes]
  · rw [hq.observations]
  · have : t'.reconciliations.rows.length = t.reconciliations.rows.length := congrArg (fun q => q.2.2) heq
    omega

theorem receipt_stored {r : InterventionReceipt} {e : LivenessEpisode} (hr : (findReceipt t r).isSome = true)
    (h : recordInterventionReceiptInTransaction w r t = .ok (e, t')) : Accounts controlStamp controlView t t' := by
  obtain ⟨hq | ⟨row, hc, -⟩, hcalm, -⟩ := receipt_ok h
  · exact quiet_accounts hq hcalm
  · rw [hc.unseen] at hr
    cases hr

theorem findReceipt_of_mem {r : InterventionReceipt} (h : r ∈ t.receipts.rows) : (findReceipt t r).isSome = true :=
  List.find?_isSome.2 ⟨r, h, by simp⟩

theorem record_accounts {r : InterventionReceipt} (hr : (findReceipt t r).isSome = true) :
    Accounts controlStamp controlView t (recordInterventionReceipt w r t).2 :=
  transaction_after (P := Accounts controlStamp controlView t) (Accounts.refl t) (fun _ _ hb => receipt_stored hr hb)

theorem wait_accounts {q : Intervention} {now : Int} {r : InterventionReceipt}
    (hr : t.receipts.get (interventionIdOf w waitPolicy q) = some r) :
    Accounts controlStamp controlView t (executeWaitIntervention w q now t).2 := by
  unfold executeWaitIntervention
  cases hlookup : waitLookup w q t with
  | error e => exact Accounts.refl t
  | ok found =>
    unfold waitLookup at hlookup
    simp only [hr] at hlookup
    obtain ⟨r', hread, hlookup⟩ := bind_ok hlookup
    obtain ⟨-, hlookup⟩ := ensure_bind_ok.1 hlookup
    cases hlookup
    unfold checkedReceipt at hread
    obtain ⟨-, hread⟩ := ensure_bind_ok.1 hread
    cases hread
    exact record_accounts (findReceipt_of_mem (Table.mem_of_get hr))

theorem pause_accounts {q : Intervention} {now : Int} {r : InterventionReceipt}
    (hr : t.receipts.get (interventionIdOf w pausePolicy q) = some r) :
    Accounts controlStamp controlView t (executePauseForOperatorIntervention w q now t).2 := by
  refine transaction_after (P := Accounts controlStamp controlView t) (Accounts.refl t) (fun e t' hb => ?_)
  unfold pauseBody at hb
  simp only [hr] at hb
  obtain ⟨r', hread, hb⟩ := bind_ok hb
  obtain ⟨-, hb⟩ := ensure_bind_ok.1 hb
  unfold checkedReceipt at hread
  obtain ⟨-, hread⟩ := ensure_bind_ok.1 hread
  cases hread
  exact receipt_stored (findReceipt_of_mem (Table.mem_of_get hr)) hb

theorem finding_accounts {f : ReconciliationFinding} {v : Nat} (hf : (t.findings.get f.key).isSome = true) :
    Accounts controlStamp controlView t (recordReconciliationFinding w f v t).2 := by
  refine transaction_after (P := Accounts controlStamp controlView t) (Accounts.refl t) (fun e t' hb => ?_)
  rcases findingBody_ok hb with ⟨rfl, -⟩ | ⟨row, hfound, -⟩
  · exact Accounts.refl _
  · -- a second row under the key of a stored finding
    have hnodup := t'.findings.nodup
    rw [hfound.findings, List.map_append, List.nodup_append] at hnodup
    exact absurd rfl (hnodup.2.2 f.key (Table.get_isSome.1 hf) f.key (by simp))

theorem action_accounts {r : ReconciliationActionReceipt} {v : Nat} (hr : (findAction t r).isSome = true) :
    Accounts controlStamp controlView t (recordReconciliationActionReceipt w r v t).2 := by
  refine transaction_after (P := Accounts controlStamp controlView t) (Accounts.refl t) (fun e t' hb => ?_)
  obtain ⟨row, hrow⟩ := Option.isSome_iff_exists.1 hr
  unfold actionBody at hb
  obtain ⟨-, hb⟩ := bind_unit_ok.1 hb
  obtain ⟨-, hb⟩ := ensure_bind_ok.1 hb
  obtain ⟨link, -, hb⟩ := bind_ok hb
  simp only [hrow] at hb
  obtain ⟨existing, -, hb⟩ := bind_ok hb
  obtain ⟨-, hb⟩ := ensure_bind_ok.1 hb
  obtain ⟨e', -, hb⟩ := bind_ok hb
  obtain ⟨-, hb⟩ := bind_unit_ok.1 hb
  cases hb
  exact Accounts.refl t

end Accounted

theorem consume_accounts {w : CustodyWire} {t : ControlTables} {q : FreshAttemptRequest} {now : Int}
    (hq : (existingConsumption t q.proofId).isSome = true) :
    Accounts controlStamp controlView t (consumeOwnershipProofForFreshAttempt w q now t).2 := by
  refine commit_after (P := Accounts controlStamp controlView t) (Accounts.refl t) (fun t' hb => ?_)
  obtain ⟨⟨c, a, attempt⟩, hfound⟩ := Option.isSome_iff_exists.1 hq
  unfold consumeBody at hb
  obtain ⟨link, -, hb⟩ := bind_ok hb
  obtain ⟨row, -, hb⟩ := bind_ok hb
  obtain ⟨p, -, hb⟩ := bind_ok hb
  simp only [hfound] at hb
  obtain ⟨-, hb⟩ := bind_unit_ok.1 hb
  cases hb
  exact Accounts.refl t

theorem isSome_of_counted {α : Type} {o : Option α} (h : o.isNone = false) : o.isSome = true := by
  cases o with
  | none => cases h
  | some a => rfl

/-- **Every call that is not uncounted accounts for what it changes.** -/
theorem control_accounts {w : CustodyWire} {t : ControlTables} {c : ControlCall} (h : c.uncounted w t = false) :
    Accounts controlStamp controlView t (perform w t c) := by
  cases c with
  | openLiveness e =>
    refine transaction_after (P := Accounts controlStamp controlView t) (Accounts.refl t) (fun e' t' hb => ?_)
    obtain ⟨rfl | ho, hcalm, -⟩ := openEpisodeBody_ok hb
    · exact Accounts.refl _
    · exact opened_accounts ho hcalm
  | observe id v o =>
    refine transaction_after (P := Accounts controlStamp controlView t) (Accounts.refl t) (fun e' t' hb => ?_)
    obtain ⟨hq | ⟨row, ho, -⟩, hcalm, -⟩ := observationBody_ok hb
    · exact quiet_accounts hq hcalm
    · exact observed_accounts ho hcalm
  | receipt r => exact record_accounts (isSome_of_counted h)
  | wait q now =>
    obtain ⟨r, hr⟩ := Option.isSome_iff_exists.1 (isSome_of_counted h)
    exact wait_accounts hr
  | pause q now =>
    obtain ⟨r, hr⟩ := Option.isSome_iff_exists.1 (isSome_of_counted h)
    exact pause_accounts hr
  | openReconciliation e =>
    refine transaction_after (P := Accounts controlStamp controlView t) (Accounts.refl t) (fun e' t' hb => ?_)
    rcases openReconciliationBody_ok hb with rfl | ⟨hc, hq, -⟩
    · exact Accounts.refl _
    · exact convened_accounts hc hq
  | finding f v => exact finding_accounts (isSome_of_counted h)
  | action r v => exact action_accounts (isSome_of_counted h)
  | proof p => exact quiet_accounts (proof_reconciles w.toWire p t).2 (proof_reconciles w.toWire p t).1
  | consume q now => exact consume_accounts (isSome_of_counted h)
  | lease taskId attemptId =>
    exact quiet_accounts (lease_quiet taskId attemptId t).1 (lease_quiet taskId attemptId t).2.1
  | composeBase id packet base =>
    exact quiet_accounts (composeBase_quiet w id base packet t).1 (composeBase_quiet w id base packet t).2.1
  | link l => exact Accounts.of_eq rfl rfl

end Control
end Bildr
