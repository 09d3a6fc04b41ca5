import Bildr.FactAdmission
import Bildr.SnapshotSources
/-!
# SnapshotFreshness — a stored snapshot answers as a new one would

A history is a list of calls on the store.  The cursors are the stamp of a snapshot: a call that accounts for what it
changes keeps every stored snapshot either behind or up to date.  A receipt, a finding or an action changes an episode
and moves no cursor; it is harmless only while no snapshot is stored under the present cursors.
-/
namespace Bildr
namespace Control

open Stamped (Accounts Coherent)
open Trace (run Along)

/-! ## Histories -/

inductive StoreCall
  | control (c : ControlCall)
  | upsertAttention (i : AttentionItem)
  | acknowledge (id : String) (expectedVersion : Nat) (now : Int)
  | resolve (id : String) (expectedVersion : Nat) (nextState : AttentionState) (r : AttentionResolution)
  | refreshApprovals (ids : String → String) (now : Int)
  | register (c : ExternalCondition)
  | registerBySource (c : ExternalCondition)
  | observeCondition (id : String) (expectedVersion : Nat) (o : ConditionObservation) (now : Int)
  | observeAndEmit (id : String) (expectedVersion : Nat) (o : ConditionObservation) (e : ConditionMaterialEvent) (now : Int)
  | artifact (a : InvestigationArtifact)
  | delivery (d : NotificationDelivery)
  | refreshMirror
  | presence (operatorId : String) (mode : OperatorPresenceMode) (expectedVersion : Nat) (now : Int)
  | classify
  | elsewhere (e : Elsewhere) (event : Option SourceEvent)
  | compile (d : SnapshotDraw)
  | snapshot (d : SnapshotDraw)

def appendEvent (events : List SourceEvent) (event : Option SourceEvent) : List SourceEvent :=
  match event with
  | none   => events
  | some e => events ++ [{ e with id := nextEventId events }]

/-- One call.  `elsewhere` is any other write: it may append an event and change what is not a source. -/
def storeStep (w : CustodyWire) (t : OperatorTables) : StoreCall → OperatorTables
  | .control c               => { t with control := perform w t.control c }
  | .upsertAttention i       => (onAttention (upsertSourceAttention w.toWire i) t).2
  | .acknowledge id v now    => (onAttention (acknowledgeAttention w.toWire id v now) t).2
  | .resolve id v next r     => (onAttention (resolveAttentionFromSource w.toWire id v next r) t).2
  | .refreshApprovals ids now =>
    (onAttention (refreshApprovalAttention w.toWire ids now t.elsewhere.approvals) t).2
  | .register c              => (onConditions (registerExternalCondition w.toWire c) t).2
  | .registerBySource c      => (onConditions (registerOrReadExternalConditionBySourceIdentity w.toWire c) t).2
  | .observeCondition id v o now => (onConditions (recordExternalConditionObservation w.toWire id v o now) t).2
  | .observeAndEmit id v o e now => (onConditions (recordExternalConditionObservationAndEmit w.toWire id v o e now) t).2
  | .artifact a              => (onInvestigations (recordInvestigationArtifact w.toWire a) t).2
  | .delivery d              => (onNotifications (recordNotificationDelivery w.toWire d) t).2
  | .refreshMirror           => (onNotifications (refreshNotificationMirror w.toWire) t).2
  | .presence id mode v now  => (onPresence (setOperatorPresence w.toWire id mode v now) t).2
  | .classify                => (onProgress (classifyMaterialProgress w.toWire) t).2
  | .elsewhere e event       => { t with elsewhere := e, events := appendEvent t.events event }
  | .compile d               => (transaction (compileControlPlaneSnapshot w.toWire d.snapshotId d.now) t).2
  | .snapshot d              => (controlPlaneSnapshot w.toWire d t).2

def StoreCall.request : StoreCall → Bool
  | .compile _  => true
  | .snapshot _ => true
  | _           => false

def newTables (e : Elsewhere) : OperatorTables := ⟨ControlTables.empty, [], 0, ∅, ∅, ∅, ∅, ∅, ∅, ∅, ∅, e, ∅⟩

/-! ## What a snapshot shows -/

structure RepresentedSections where
  attention : SnapshotSection
  investigations : SnapshotSection
  progress : SnapshotSection
  liveness : SnapshotSection
  reconciliation : SnapshotSection
  externalConditions : SnapshotSection
  notifications : SnapshotSection
deriving DecidableEq

def ControlPlaneSnapshot.represented (s : ControlPlaneSnapshot) : RepresentedSections :=
  ⟨s.attention, s.investigations, s.progress, s.liveness, s.reconciliation, s.externalConditions, s.notifications⟩

def shown (w : Wire) (t : OperatorTables) : Except StoreError RepresentedSections :=
  (readSections w t).map (fun rows => (unsignedSnapshot "" 0 0 (cursor t) rows t.elsewhere).represented)

theorem shown_congr {w : Wire} {t t' : OperatorTables} (hcursor : cursor t' = cursor t)
    (hattention : t'.attention = t.attention) (hartifacts : t'.artifacts = t.artifacts)
    (hconditions : t'.conditions = t.conditions) (hprogress : t'.progress = t.progress)
    (hepisodes : t'.control.episodes = t.control.episodes)
    (hreconciliations : t'.control.reconciliations = t.control.reconciliations)
    (hdeliveries : t'.deliveries = t.deliveries) : shown w t' = shown w t := by
  have hread : readSections w t' = readSections w t := by
    unfold readSections attentionRows investigationRows externalConditionRows materialProgressRows livenessRows
      reconciliationRows notificationRows
    rw [hattention, hartifacts, hconditions, hprogress, hepisodes, hreconciliations, hdeliveries]
  unfold shown
  rw [hread, hcursor]
  rfl

section Lift
variable {α : Type} {w : Wire}

theorem onAttention_accounts {c : Call AttentionTables α}
    (hc : ∀ p, Accounts attentionStamp AttentionTables.items p (c p).2) (t : OperatorTables) :
    Accounts cursor (shown w) t (onAttention c t).2 := by
  have ha := hc ⟨t.attention, t.attentionEvents, t.control.links⟩
  refine ⟨fun s => ?_, fun heq => ?_⟩
  · cases s with
    | attentionEvents => exact ha.forward
    | _ => exact le_rfl
  · have hitems := ha.shown (congrFun heq .attentionEvents)
    exact shown_congr heq hitems rfl rfl rfl rfl rfl rfl

theorem onConditions_accounts {c : Call ConditionTables α}
    (hc : ∀ p, Accounts conditionStamp ConditionTables.conditions p (c p).2) (t : OperatorTables) :
    Accounts cursor (shown w) t (onConditions c t).2 := by
  have ha := hc ⟨t.control, t.events, t.conditions, t.conditionObservations⟩
  refine ⟨fun s => ?_, fun heq => ?_⟩
  · cases s with
    | domainEvents => exact ha.forward.1
    | externalConditions => exact ha.forward.2.1
    | conditionObservations => exact ha.forward.2.2
    | _ => exact le_rfl
  · have hconditions := ha.shown (Prod.ext (congrFun heq .domainEvents)
      (Prod.ext (congrFun heq .externalConditions) (congrFun heq .conditionObservations)))
    exact shown_congr heq rfl rfl hconditions rfl rfl rfl rfl

theorem onInvestigations_accounts {c : Call InvestigationTables α}
    (hc : ∀ p, Accounts artifactStamp InvestigationTables.artifacts p (c p).2) (t : OperatorTables) :
    Accounts cursor (shown w) t (onInvestigations c t).2 := by
  have ha := hc ⟨t.artifacts, t.control.links⟩
  refine ⟨fun s => ?_, fun heq => ?_⟩
  · cases s with
    | investigationArtifacts => exact ha.forward
    | _ => exact le_rfl
  · exact shown_congr heq rfl (ha.shown (congrFun heq .investigationArtifacts)) rfl rfl rfl rfl rfl

theorem onNotifications_accounts {c : Call NotificationTables α}
    (hc : ∀ p, Accounts deliveryStamp NotificationTables.deliveries p (c p).2) (t : OperatorTables) :
    Accounts cursor (shown w) t (onNotifications c t).2 := by
  have ha := hc ⟨t.attention, t.deliveries, t.control.links⟩
  refine ⟨fun s => ?_, fun heq => ?_⟩
  · cases s with
    | notificationDeliveries => exact ha.forward
    | _ => exact le_rfl
  · exact shown_congr heq rfl rfl rfl rfl rfl rfl (ha.shown (congrFun heq .notificationDeliveries))

theorem onProgress_accounts {c : Call ProgressTables α}
    (hc : ∀ p, Accounts progressStamp ProgressTables.progress p (c p).2) (t : OperatorTables) :
    Accounts cursor (shown w) t (onProgress c t).2 := by
  have ha := hc ⟨t.events, t.classifierCursor, t.progress, t.control.links⟩
  refine ⟨fun s => ?_, fun heq => ?_⟩
  · cases s with
    | materialProgressClassifier => exact ha.forward.1
    | materialProgressEvents => exact ha.forward.2
    | _ => exact le_rfl
  · have hprogress := ha.shown
      (Prod.ext (congrFun heq .materialProgressClassifier) (congrFun heq .materialProgressEvents))
    exact shown_congr heq rfl rfl rfl hprogress rfl rfl rfl

theorem onPresence_accounts {c : Call (Table OperatorPresence.operatorId) α}
    (hc : ∀ p, presenceStamp p ≤ presenceStamp (c p).2) (t : OperatorTables) :
    Accounts cursor (shown w) t (onPresence c t).2 := by
  refine ⟨fun s => ?_, fun heq => ?_⟩
  · cases s with
    | operatorPresence => exact hc t.presence
    | _ => exact le_rfl
  · exact shown_congr heq rfl rfl rfl rfl rfl rfl rfl

theorem control_cursor {t : OperatorTables} {c : ControlTables} (h : controlStamp t.control ≤ controlStamp c) :
    cursor t ≤ cursor { t with control := c } := by
  intro s
  cases s with
  | livenessEpisodes => exact h.1
  | livenessObservations => exact h.2.1
  | reconciliationEpisodes => exact h.2.2
  | _ => exact le_rfl

theorem onControl_accounts {t : OperatorTables} {c : ControlTables} (h : Accounts controlStamp controlView t.control c) :
    Accounts cursor (shown w) t { t with control := c } := by
  refine ⟨control_cursor h.forward, fun heq => ?_⟩
  have hview := h.shown (Prod.ext (congrFun heq .livenessEpisodes)
    (Prod.ext (congrFun heq .livenessObservations) (congrFun heq .reconciliationEpisodes)))
  exact shown_congr heq rfl rfl rfl rfl (congrArg Prod.fst hview) (congrArg Prod.snd hview) rfl

theorem elsewhere_accounts (t : OperatorTables) (e : Elsewhere) (event : Option SourceEvent) :
    Accounts cursor (shown w) t { t with elsewhere := e, events := appendEvent t.events event } := by
  refine ⟨fun s => ?_, fun heq => shown_congr heq rfl rfl rfl rfl rfl rfl rfl⟩
  cases s with
  | domainEvents =>
    show Table.maxOf SourceEvent.id t.events ≤ Table.maxOf SourceEvent.id (appendEvent t.events event)
    cases event with
    | none => exact le_rfl
    | some e =>
      unfold appendEvent
      rw [Table.maxOf_append]
      exact le_max_left _ _
  | _ => exact le_rfl

end Lift

/-! ## Bringing the projections up to date -/

theorem refresh_accounts (w : Wire) (d : SnapshotDraw) (t : OperatorTables) :
    Accounts cursor (shown w) t (refreshControlPlaneProjections w d t).2 := by
  have hmirror : ∀ (_ : Unit) (t : OperatorTables), Accounts cursor (shown w) t
      ((onNotifications (refreshNotificationMirror w)).map (fun _ => ()) t).2 :=
    fun _ => onNotifications_accounts (mirror_accounts w)
  have happrovals : ∀ t : OperatorTables, Accounts cursor (shown w) t
      (onAttention (refreshApprovalAttention w d.attentionIds d.now t.elsewhere.approvals) t).2 :=
    fun t => onAttention_accounts (refreshApproval_accounts w d.attentionIds d.now t.elsewhere.approvals) t
  exact andThen_accounts (onProgress_accounts (classify_accounts w)) (fun _ => andThen_accounts happrovals hmirror) t

def OperatorTables.forget (t : OperatorTables) : OperatorTables := { t with snapshots := ∅ }

def Blind {α : Type} (c : Call OperatorTables α) : Prop :=
  ∀ t, c t.forget = ((c t).1, (c t).2.forget) ∧ (c t).2.snapshots = t.snapshots

theorem Blind.andThen {α β : Type} {c : Call OperatorTables α} {f : α → Call OperatorTables β} (hc : Blind c)
    (hf : ∀ a, Blind (f a)) : Blind (c.andThen f) := by
  intro t
  obtain ⟨hforget, hsnapshots⟩ := hc t
  cases h : (c t).1 with
  | error e =>
    have h' : (c t.forget).1 = .error e := by rw [hforget, h]
    rw [andThen_error h, andThen_error h', hforget]
    exact ⟨rfl, hsnapshots⟩
  | ok a =>
    have h' : (c t.forget).1 = .ok a := by rw [hforget, h]
    rw [andThen_ok h, andThen_ok h', hforget]
    exact ⟨(hf a (c t).2).1, (hf a (c t).2).2.trans hsnapshots⟩

theorem refresh_blind (w : Wire) (d : SnapshotDraw) : Blind (refreshControlPlaneProjections w d) :=
  Blind.andThen (fun _ => ⟨rfl, rfl⟩) (fun _ => Blind.andThen (fun _ => ⟨rfl, rfl⟩) (fun _ _ => ⟨rfl, rfl⟩))

/-! ## A compiled snapshot passes its own checks -/

theorem length_mapM {ε α β : Type} {f : α → Except ε β} : ∀ {l : List α} {l' : List β}, l.mapM f = .ok l' →
    l'.length = l.length
  | [], l', h => by
    cases h
    rfl
  | a :: l, l', h => by
    rw [List.mapM_cons] at h
    obtain ⟨b, -, h⟩ := bind_ok h
    obtain ⟨bs, hbs, h⟩ := bind_ok h
    cases h
    rw [List.length_cons, List.length_cons, length_mapM hbs]

theorem sectionRows_short {α : Type} {before : α → α → Bool} {read : α → Except StoreError Json.Value} {rows : List α}
    {q : List Json.Value × Option Nat} (h : sectionRows before read rows = .ok q) : q.1.length ≤ 1000 := by
  unfold sectionRows at h
  obtain ⟨values, hvalues, h⟩ := bind_ok h
  cases h
  rw [length_mapM hvalues, List.length_take]
  exact (Nat.min_le_left _ _).trans (by decide)

theorem listed_short {α : Type} (before : α → α → Bool) (json : α → Json.Value) (rows : List α) :
    (listed before json rows).1.length ≤ 1000 := by
  unfold listed
  rw [List.length_map, List.length_take]
  exact (Nat.min_le_left _ _).trans (by decide)

structure SectionRows.Short (rows : SectionRows) : Prop where
  attention : rows.attention.1.length ≤ 1000
  investigations : rows.investigations.1.length ≤ 1000
  externalConditions : rows.externalConditions.1.length ≤ 1000
  progress : rows.progress.1.length ≤ 1000
  liveness : rows.liveness.1.length ≤ 1000
  reconciliation : rows.reconciliation.1.length ≤ 1000
  notifications : rows.notifications.1.length ≤ 1000

theorem readSections_short {w : Wire} {t : OperatorTables} {rows : SectionRows} (h : readSections w t = .ok rows) :
    rows.Short := by
  unfold readSections at h
  obtain ⟨attention, ha, h⟩ := bind_ok h
  obtain ⟨investigations, hi, h⟩ := bind_ok h
  obtain ⟨conditions, hc, h⟩ := bind_ok h
  obtain ⟨progress, hp, h⟩ := bind_ok h
  obtain ⟨liveness, hl, h⟩ := bind_ok h
  obtain ⟨reconciliation, hr, h⟩ := bind_ok h
  obtain ⟨notifications, hn, h⟩ := bind_ok h
  cases h
  exact ⟨sectionRows_short ha, sectionRows_short hi, sectionRows_short hc, sectionRows_short hp, sectionRows_short hl,
    sectionRows_short hr, sectionRows_short hn⟩

theorem validateHex_digest (d : Digest) (field : String) : validateHex d.hex field 64 = .ok () := by
  have h := d.isHex
  simp only [Improvement.isLowerHex, Bool.and_eq_true, decide_eq_true_eq, List.all_eq_true] at h
  refine ensure_ok_iff.2 ?_
  simp only [Bool.and_eq_true, decide_eq_true_eq, List.all_eq_true]
  refine ⟨h.1, fun c hc => ?_⟩
  unfold isHexDigit
  rw [h.2 c hc, Bool.true_or]

theorem progressSection_rows (c : Source → Nat) (rows : List Json.Value × Option Nat) :
    (progressSection c rows).rows = rows.1 := by
  unfold progressSection
  split <;> rfl

theorem snapshotOf_valid (w : Wire) (id : String) (revision : Nat) (now : Int) (c : Source → Nat) {rows : SectionRows}
    (e : Elsewhere) (h : rows.Short) : (snapshotOf w id revision now c rows e).validate = .ok () := by
  have hsections : ∀ x ∈ (snapshotOf w id revision now c rows e).sections, x.2.rows.length ≤ 1000 := by
    intro x hx
    have hprogress : (progressSection c rows.progress).rows.length ≤ 1000 := by
      rw [progressSection_rows]
      exact h.progress
    simp only [ControlPlaneSnapshot.sections, List.mem_cons, List.not_mem_nil, or_false] at hx
    rcases hx with rfl | rfl | rfl | rfl | rfl | rfl | rfl | rfl | rfl | rfl | rfl | rfl | rfl | rfl
    · exact Nat.succ_le_succ (Nat.zero_le _)
    · exact Nat.zero_le _
    · exact Nat.succ_le_succ (Nat.zero_le _)
    · exact listed_short _ _ _
    · exact h.attention
    · exact listed_short _ _ _
    · exact h.investigations
    · exact hprogress
    · exact h.liveness
    · exact h.reconciliation
    · exact h.externalConditions
    · exact Nat.zero_le _
    · exact h.notifications
    · exact Nat.zero_le _
  unfold ControlPlaneSnapshot.validate
  refine ensure_bind_ok.2 ⟨rfl, bind_unit_ok.2 ⟨validateHex_digest _ _, ?_⟩⟩
  rcases forM_cases (f := fun x : String × SnapshotSection => x.2.validate)
    (snapshotOf w id revision now c rows e).sections with ⟨hok, -⟩ | ⟨x, hx, error, herror, -⟩
  · exact hok
  · rw [SnapshotSection.validate, ensure_ok_iff.2 (decide_eq_true (hsections x hx))] at herror
    cases herror

theorem snapshotOf_checked (w : Wire) (id : String) (revision : Nat) (now : Int) (c : Source → Nat) {rows : SectionRows}
    (e : Elsewhere) (h : rows.Short) :
    checkedSnapshot w (snapshotOf w id revision now c rows e) = .ok (snapshotOf w id revision now c rows e) := by
  unfold checkedSnapshot
  refine ensure_bind_ok.2 ⟨isOk_iff.2 (snapshotOf_valid w id revision now c e h), ?_⟩
  exact ensure_bind_ok.2 ⟨beq_iff_eq.2 rfl, rfl⟩

/-! ## The answer to a request -/

/-- The stored snapshots, each with the cursors it stands under and what it shows. -/
def kept (t : OperatorTables) : List ((Source → Nat) × Except StoreError RepresentedSections) :=
  t.snapshots.rows.map (fun r => (r.payload.sourceCursors, .ok r.payload.represented))

/-- The stored snapshots can be read and none of them is out of date. -/
structure Fresh (w : Wire) (t : OperatorTables) : Prop where
  coherent : Coherent cursor (shown w) (kept t) t
  readable : ∀ r ∈ t.snapshots.rows, checkedSnapshot w r.payload = .ok r.payload

/-- The id of a new snapshot is not in use, and only snapshots under the present cursors have the digest of them. -/
structure Answerable (w : Wire) (d : SnapshotDraw) (t : OperatorTables) : Prop where
  unused : t.snapshots.get d.snapshotId = none
  distinct : ∀ r ∈ t.snapshots.rows, r.sourceCursorsSha256 = (w.digestJson (cursorsJson (cursor t))).hex →
    r.payload.sourceCursors = cursor t

def freshAnswer (w : Wire) (t : OperatorTables) : Except StoreError RepresentedSections := do
  let c ← sourceCursors t
  let _ ← toI64 (c .domainEvents) "domain event cursor"
  shown w t

theorem sourceCursors_ok {t : OperatorTables} {c : Source → Nat} (h : sourceCursors t = .ok c) : c = cursor t := by
  unfold sourceCursors at h
  obtain ⟨-, h⟩ := ensure_bind_ok.1 h
  obtain ⟨-, h⟩ := ensure_bind_ok.1 h
  cases h
  rfl

theorem insertSnapshot_isOk {t : Table SnapshotRow.id} {r : SnapshotRow} (hid : t.get r.id = none)
    (hrevision : r.payload.revision = nextRevision t)
    (hnone : t.rows.find? (fun q => q.payload.eventCursor == r.payload.eventCursor &&
      q.sourceCursorsSha256 == r.sourceCursorsSha256) = none) :
    ∃ u, insertSnapshot t r = .ok u ∧ u.rows = t.rows ++ [r] := by
  have hnew : t.rows.any (fun q => q.payload.revision == r.payload.revision) = false := by
    refine List.any_eq_false.2 (fun q hq => ?_)
    have hle := Table.le_maxOf (fun r : SnapshotRow => r.payload.revision) hq
    rw [hrevision, beq_iff_eq]
    unfold nextRevision
    omega
  have hpair : t.rows.any (fun q => q.payload.eventCursor == r.payload.eventCursor &&
      q.sourceCursorsSha256 == r.sourceCursorsSha256) = false :=
    List.any_eq_false.2 (fun q hq => List.find?_eq_none.1 hnone q hq)
  obtain ⟨u, hu⟩ := insertRow_isOk (t := t) (r := r) (fun hmem => by
    have := Table.get_isSome.2 hmem
    rw [hid] at this
    cases this)
  refine ⟨u, ?_, (insertRow_ok_iff.1 hu).2⟩
  unfold insertSnapshot require
  rw [hnew, hpair]
  exact hu

theorem compile_cases {w : Wire} {d : SnapshotDraw} {t : OperatorTables} (hf : Fresh w t) (ha : Answerable w d t) :
    (∃ e, compileControlPlaneSnapshot w d.snapshotId d.now t = .error e ∧ freshAnswer w t = .error e) ∨
    (∃ r ∈ t.snapshots.rows, compileControlPlaneSnapshot w d.snapshotId d.now t = .ok (r.payload, t) ∧
      freshAnswer w t = .ok r.payload.represented) ∨
    ∃ rows u sha, rows.Short ∧
      compileControlPlaneSnapshot w d.snapshotId d.now t =
        .ok (snapshotOf w d.snapshotId (nextRevision t.snapshots) d.now (cursor t) rows t.elsewhere,
          { t with snapshots := u }) ∧
      u.rows = t.snapshots.rows ++
        [⟨sha, snapshotOf w d.snapshotId (nextRevision t.snapshots) d.now (cursor t) rows t.elsewhere⟩] ∧
      shown w t = .ok (snapshotOf w d.snapshotId (nextRevision t.snapshots) d.now (cursor t) rows t.elsewhere).represented ∧
      freshAnswer w t = shown w t := by
  unfold compileControlPlaneSnapshot freshAnswer
  cases hc : sourceCursors t with
  | error e => exact Or.inl ⟨e, rfl, rfl⟩
  | ok c =>
    obtain rfl := sourceCursors_ok hc
    simp only [ok_bind]
    cases hi : toI64 (cursor t .domainEvents) "domain event cursor" with
    | error e => exact Or.inl ⟨e, rfl, rfl⟩
    | ok n =>
      simp only [ok_bind]
      cases hfind : t.snapshots.rows.find? (fun r => r.payload.eventCursor == cursor t .domainEvents &&
          r.sourceCursorsSha256 == (w.digestJson (cursorsJson (cursor t))).hex) with
      | some r =>
        have hmem : r ∈ t.snapshots.rows := List.mem_of_find?_eq_some hfind
        have hsha := List.find?_some hfind
        rw [Bool.and_eq_true, beq_iff_eq, beq_iff_eq] at hsha
        have hkept := (hf.coherent (r.payload.sourceCursors, .ok r.payload.represented)
          (List.mem_map.2 ⟨r, hmem, rfl⟩)).2 (ha.distinct r hmem hsha.2)
        refine Or.inr (Or.inl ⟨r, hmem, ?_, hkept.symm⟩)
        simp only [hf.readable r hmem, ok_bind]
        rfl
      | none =>
        cases hrows : readSections w t with
        | error e => exact Or.inl ⟨e, rfl, by unfold shown; rw [hrows]; rfl⟩
        | ok rows =>
          have hshort := readSections_short hrows
          obtain ⟨u, hu, hrowsu⟩ := insertSnapshot_isOk (t := t.snapshots)
            (r := ⟨(w.digestJson (cursorsJson (cursor t))).hex,
              snapshotOf w d.snapshotId (nextRevision t.snapshots) d.now (cursor t) rows t.elsewhere⟩) ha.unused rfl hfind
          refine Or.inr (Or.inr ⟨rows, u, _, hshort, ?_, hrowsu, ?_, trivial⟩)
          · simp only [ok_bind, snapshotOf_valid w _ _ _ _ _ hshort, hu]
            rfl
          · unfold shown
            rw [hrows]
            rfl

/-- **A request is answered from the present tables**, whether a snapshot is stored or not, and what is stored stays up
to date. -/
theorem compile_fresh {w : Wire} {d : SnapshotDraw} {t : OperatorTables} (hf : Fresh w t) (ha : Answerable w d t) :
    (transaction (compileControlPlaneSnapshot w d.snapshotId d.now) t).1.map ControlPlaneSnapshot.represented =
      freshAnswer w t ∧ Fresh w (transaction (compileControlPlaneSnapshot w d.snapshotId d.now) t).2 := by
  unfold transaction
  rcases compile_cases hf ha with ⟨e, hcall, hanswer⟩ | ⟨r, -, hcall, hanswer⟩ |
    ⟨rows, u, sha, hshort, hcall, hrows, hshown, hanswer⟩
  · rw [hcall, hanswer]
    exact ⟨rfl, hf⟩
  · rw [hcall, hanswer]
    exact ⟨rfl, hf⟩
  · rw [hcall, hanswer, hshown]
    refine ⟨rfl, ?_, ?_⟩
    · have hkept : kept { t with snapshots := u } = kept t ++ [(cursor t, shown w t)] := by
        unfold kept
        rw [hrows, List.map_append, hshown]
        rfl
      rw [hkept]
      exact hf.coherent.keep
    · intro r hr
      rw [hrows] at hr
      rcases List.mem_append.1 hr with hr | hr
      · exact hf.readable r hr
      · obtain rfl := List.mem_singleton.1 hr
        exact snapshotOf_checked w _ _ _ _ _ hshort

/-! ## Every call -/

section Conditions
variable {w : Wire}

theorem registered_accounts (same : ExternalCondition → ExternalCondition → Bool) (why : String) (c : ExternalCondition)
    (t : ConditionTables) :
    Accounts conditionStamp ConditionTables.conditions t (transaction (registerBody w same why c) t).2 :=
  transaction_after (P := Accounts conditionStamp ConditionTables.conditions t) (Accounts.refl t)
    (fun _ _ hb => register_accounts hb)

theorem recorded_accounts (id : String) (v : Nat) (o : ConditionObservation) (now : Int) (t : ConditionTables) :
    Accounts conditionStamp ConditionTables.conditions t (recordExternalConditionObservation w id v o now t).2 :=
  transaction_after (P := Accounts conditionStamp ConditionTables.conditions t) (Accounts.refl t)
    (fun _ _ hb => observation_accounts hb)

theorem emitted_accounts (id : String) (v : Nat) (o : ConditionObservation) (e : ConditionMaterialEvent) (now : Int)
    (t : ConditionTables) :
    Accounts conditionStamp ConditionTables.conditions t (recordExternalConditionObservationAndEmit w id v o e now t).2 := by
  refine transaction_after (P := Accounts conditionStamp ConditionTables.conditions t) (Accounts.refl t)
    (fun c t' hb => ?_)
  obtain ⟨-, hb⟩ := bind_unit_ok.1 hb
  obtain ⟨-, hb⟩ := ensure_bind_ok.1 hb
  exact observation_accounts hb

end Conditions

/-- What a call must keep to, for no stored snapshot to go out of date: a call that changes an episode and is not counted
comes only while no snapshot is stored under the present cursors. -/
def Accounted (w : CustodyWire) (t : OperatorTables) : StoreCall → Prop
  | .control c  => c.uncounted w t.control = true → perform w t.control c ≠ t.control →
    ∀ r ∈ t.snapshots.rows, r.payload.sourceCursors ≠ cursor t
  | .compile d  => Answerable w.toWire d t
  | .snapshot d => Answerable w.toWire d (refreshControlPlaneProjections w.toWire d t).2
  | _           => True

def AnswersFresh (w : CustodyWire) (t : OperatorTables) : StoreCall → Prop
  | .compile d  =>
    (transaction (compileControlPlaneSnapshot w.toWire d.snapshotId d.now) t).1.map ControlPlaneSnapshot.represented =
      (transaction (compileControlPlaneSnapshot w.toWire d.snapshotId d.now) t.forget).1.map
        ControlPlaneSnapshot.represented
  | .snapshot d => (controlPlaneSnapshot w.toWire d t).1.map ControlPlaneSnapshot.represented =
      (controlPlaneSnapshot w.toWire d t.forget).1.map ControlPlaneSnapshot.represented
  | _           => True

theorem Fresh.accounts {w : Wire} {t t' : OperatorTables} (hf : Fresh w t) (hsnapshots : t'.snapshots = t.snapshots)
    (ha : Accounts cursor (shown w) t t') : Fresh w t' := by
  refine ⟨?_, ?_⟩
  · unfold kept
    rw [hsnapshots]
    exact hf.coherent.accounts ha
  · rw [hsnapshots]
    exact hf.readable

theorem control_fresh {w : CustodyWire} {t : OperatorTables} {c : ControlCall} (hf : Fresh w.toWire t)
    (ha : Accounted w t (.control c)) : Fresh w.toWire (storeStep w t (.control c)) := by
  by_cases hunchanged : perform w t.control c = t.control
  · have hsame : storeStep w t (.control c) = t := by
      show { t with control := perform w t.control c } = t
      rw [hunchanged]
    rw [hsame]
    exact hf
  · cases hu : c.uncounted w t.control with
    | false => exact hf.accounts rfl (onControl_accounts (control_accounts hu))
    | true =>
      have hnone := ha hu hunchanged
      refine ⟨hf.coherent.unaccounted (control_cursor (control_forward w t.control c)) (fun e he => ?_), hf.readable⟩
      obtain ⟨r, hr, rfl⟩ := List.mem_map.1 he
      exact hnone r hr

theorem forget_fresh (w : Wire) (t : OperatorTables) : Fresh w t.forget :=
  ⟨Stamped.coherent_nil _, fun _ hr => absurd hr List.not_mem_nil⟩

theorem forget_answerable (w : Wire) (d : SnapshotDraw) (t : OperatorTables) : Answerable w d t.forget :=
  ⟨rfl, fun _ hr => absurd hr List.not_mem_nil⟩

theorem compile_forget {w : Wire} {d : SnapshotDraw} {t : OperatorTables} (hf : Fresh w t) (ha : Answerable w d t) :
    (transaction (compileControlPlaneSnapshot w d.snapshotId d.now) t).1.map ControlPlaneSnapshot.represented =
      (transaction (compileControlPlaneSnapshot w d.snapshotId d.now) t.forget).1.map
        ControlPlaneSnapshot.represented := by
  have hanswer : freshAnswer w t.forget = freshAnswer w t := rfl
  rw [(compile_fresh hf ha).1, (compile_fresh (forget_fresh w t) (forget_answerable w d t)).1, hanswer]

theorem snapshot_fresh {w : Wire} {d : SnapshotDraw} {t : OperatorTables} (hf : Fresh w t)
    (ha : Answerable w d (refreshControlPlaneProjections w d t).2) :
    (controlPlaneSnapshot w d t).1.map ControlPlaneSnapshot.represented =
      (controlPlaneSnapshot w d t.forget).1.map ControlPlaneSnapshot.represented ∧
    Fresh w (controlPlaneSnapshot w d t).2 := by
  obtain ⟨hforget, hsnapshots⟩ := refresh_blind w d t
  have hrefreshed : Fresh w (refreshControlPlaneProjections w d t).2 := hf.accounts hsnapshots (refresh_accounts w d t)
  unfold controlPlaneSnapshot
  cases h : (refreshControlPlaneProjections w d t).1 with
  | error e =>
    have h' : (refreshControlPlaneProjections w d t.forget).1 = .error e := by rw [hforget, h]
    rw [andThen_error h, andThen_error h']
    exact ⟨rfl, hrefreshed⟩
  | ok a =>
    have h' : (refreshControlPlaneProjections w d t.forget).1 = .ok a := by rw [hforget, h]
    rw [andThen_ok h, andThen_ok h', hforget]
    exact ⟨compile_forget hrefreshed ha, (compile_fresh hrefreshed ha).2⟩

/-- **Every call but a request or an uncounted one accounts for what it changes**, and stores no snapshot. -/
theorem storeStep_accounts (w : CustodyWire) (t : OperatorTables) (call : StoreCall) (hrequest : call.request = false)
    (hcounted : ∀ c, call = .control c → c.uncounted w t.control = false) :
    (storeStep w t call).snapshots = t.snapshots ∧ Accounts cursor (shown w.toWire) t (storeStep w t call) := by
  cases call with
  | control c => exact ⟨rfl, onControl_accounts (control_accounts (hcounted c rfl))⟩
  | upsertAttention i => exact ⟨rfl, onAttention_accounts (fun a => itemStep_accounts w.toWire a (.upsert i)) t⟩
  | acknowledge id v now => exact ⟨rfl, onAttention_accounts (fun a => itemStep_accounts w.toWire a (.acknowledge id v now)) t⟩
  | resolve id v next r => exact ⟨rfl, onAttention_accounts (fun a => itemStep_accounts w.toWire a (.resolve id v next r)) t⟩
  | refreshApprovals ids now =>
    exact ⟨rfl, onAttention_accounts (refreshApproval_accounts w.toWire ids now t.elsewhere.approvals) t⟩
  | register c => exact ⟨rfl, onConditions_accounts (registered_accounts _ _ c) t⟩
  | registerBySource c => exact ⟨rfl, onConditions_accounts (registered_accounts _ _ c) t⟩
  | observeCondition id v o now => exact ⟨rfl, onConditions_accounts (recorded_accounts id v o now) t⟩
  | observeAndEmit id v o e now => exact ⟨rfl, onConditions_accounts (emitted_accounts id v o e now) t⟩
  | artifact a => exact ⟨rfl, onInvestigations_accounts (artifact_accounts w.toWire a) t⟩
  | delivery d => exact ⟨rfl, onNotifications_accounts (delivery_accounts w.toWire d) t⟩
  | refreshMirror => exact ⟨rfl, onNotifications_accounts (mirror_accounts w.toWire) t⟩
  | presence id mode v now => exact ⟨rfl, onPresence_accounts (presence_le w.toWire id mode v now) t⟩
  | classify => exact ⟨rfl, onProgress_accounts (classify_accounts w.toWire) t⟩
  | elsewhere e event => exact ⟨rfl, elsewhere_accounts t e event⟩
  | compile d => cases hrequest
  | snapshot d => cases hrequest

/-- **A call that keeps to `Accounted` leaves no stored snapshot out of date.** -/
theorem storeStep_fresh (w : CustodyWire) (t : OperatorTables) (call : StoreCall) (hf : Fresh w.toWire t)
    (ha : Accounted w t call) : Fresh w.toWire (storeStep w t call) := by
  cases hr : call.request with
  | true =>
    cases call with
    | compile d => exact (compile_fresh hf ha).2
    | snapshot d => exact (snapshot_fresh hf ha).2
    | _ => cases hr
  | false =>
    by_cases hc : ∃ c, call = .control c
    · obtain ⟨c, rfl⟩ := hc
      exact control_fresh hf ha
    · obtain ⟨hsnapshots, haccounts⟩ := storeStep_accounts w t call hr (fun c h => absurd ⟨c, h⟩ hc)
      exact hf.accounts hsnapshots haccounts

theorem storeStep_answers (w : CustodyWire) (t : OperatorTables) (call : StoreCall) (hf : Fresh w.toWire t)
    (ha : Accounted w t call) : AnswersFresh w t call := by
  cases call with
  | compile d => exact compile_forget hf ha
  | snapshot d => exact (snapshot_fresh hf ha).1
  | _ => trivial

theorem newTables_fresh (w : Wire) (e : Elsewhere) : Fresh w (newTables e) := forget_fresh w (newTables e)

/-- **No snapshot that is handed out is out of date**, over every history in which a call that changes an episode and is
not counted comes only while no snapshot is stored under the present cursors. -/
theorem snapshots_answer_fresh {w : CustodyWire} {e : Elsewhere} {calls : List StoreCall}
    (h : Along (storeStep w) (Accounted w) (newTables e) calls) :
    Along (storeStep w) (AnswersFresh w) (newTables e) calls ∧
    ∀ r ∈ (run (storeStep w) (newTables e) calls).snapshots.rows,
      r.payload.sourceCursors = cursor (run (storeStep w) (newTables e) calls) →
        shown w.toWire (run (storeStep w) (newTables e) calls) = .ok r.payload.represented := by
  refine ⟨Trace.along_of_step (Fresh w.toWire) (storeStep_fresh w) (storeStep_answers w)
    (newTables_fresh w.toWire e) h, fun r hr heq => ?_⟩
  have hf : Fresh w.toWire (run (storeStep w) (newTables e) calls) :=
    Trace.invariant_of_step (Fresh w.toWire) (storeStep_fresh w) (newTables_fresh w.toWire e) h
  exact ((hf.coherent (r.payload.sourceCursors, .ok r.payload.represented) (List.mem_map.2 ⟨r, hr, rfl⟩)).2 heq).symm

/-! ## A finding behind a stored snapshot -/

def nowhere : Elsewhere := ⟨[], [], 0, "1", []⟩

def firstDraw : SnapshotDraw := ⟨"x1", fun _ => "i", 0⟩

def secondDraw : SnapshotDraw := ⟨"x2", fun _ => "i", 0⟩

/-- With the digests of the cursors of one episode, and of two snapshots: `x1` before the live owner is found and `x2`
after. -/
def snapshotWire : CustodyWire :=
  { reconciliationWire with
    digestJson := fun v =>
      if v.get "snapshot_id" = some (.str "x1") then
        ⟨"08ffb0797eeeffce5b7353db91b7187714d88a6747309d8231448b51118da430", isLowerHex_ofList (by decide)⟩
      else if v.get "snapshot_id" = some (.str "x2") then
        ⟨"37de5eccf9a11d713dbd5e5c8058d4d2602435756457ab4cd4edbf3d2550fb7b", isLowerHex_ofList (by decide)⟩
      else if v.get "reconciliation_episodes" = some (ofNat 1) then
        ⟨"111ed0bca7c55976952cd18dc1f007ca4ad4b51772583b8f7c03fdbd3d38ddf7", isLowerHex_ofList (by decide)⟩
      else reconciliationWire.digestJson v }

def OperatorTables.snapshotView (t : OperatorTables) : List (String × List Nat) × List Nat :=
  (t.snapshots.rows.map (fun r => (r.id, Source.all.map r.payload.sourceCursors)), Source.all.map (cursor t))

theorem answerable_of_view {w : Wire} {d : SnapshotDraw} {t : OperatorTables} {id : String} {cursors : List Nat}
    (h : t.snapshotView = ([(id, cursors)], cursors)) (hid : d.snapshotId ≠ id) : Answerable w d t := by
  obtain ⟨hrows, hcursors⟩ := Prod.ext_iff.1 h
  obtain ⟨r, hr, hrow⟩ := List.map_eq_singleton_iff.1 hrows
  obtain ⟨hkey, hstamp⟩ := Prod.ext_iff.1 hrow
  change r.id = id at hkey
  refine ⟨?_, fun q hq _ => ?_⟩
  · rw [← Option.not_isSome_iff_eq_none, Table.get_isSome, hr]
    simpa [hkey] using hid
  · rw [hr, List.mem_singleton] at hq
    subst hq
    have heq : Source.all.map q.payload.sourceCursors = Source.all.map (cursor t) := hstamp.trans hcursors.symm
    refine funext (fun s => List.map_inj_left.1 heq s ?_)
    cases s <;> decide

theorem answerable_of_none {w : Wire} {d : SnapshotDraw} {t : OperatorTables} (h : t.snapshots.rows = []) :
    Answerable w d (refreshControlPlaneProjections w d t).2 := by
  have hnone : (refreshControlPlaneProjections w d t).2.snapshots.rows = [] := by
    rw [(refresh_blind w d t).2]
    exact h
  refine ⟨?_, fun r hr _ => ?_⟩
  · rw [← Option.not_isSome_iff_eq_none, Table.get_isSome, hnone]
    exact List.not_mem_nil
  · rw [hnone] at hr
    exact absurd hr List.not_mem_nil

def foundFirst : List StoreCall :=
  [.control (.openReconciliation newReconciliation), .control (.finding liveOwner 1), .snapshot secondDraw]

def foundBetween : List StoreCall :=
  [.control (.openReconciliation newReconciliation), .snapshot firstDraw, .control (.finding liveOwner 1)]

theorem foundFirst_view :
    ((refreshControlPlaneProjections snapshotWire.toWire firstDraw
        (run (storeStep snapshotWire) (newTables nowhere) foundFirst)).2.snapshotView,
      (controlPlaneSnapshot snapshotWire.toWire firstDraw
        (run (storeStep snapshotWire) (newTables nowhere) foundFirst)).1.toOption.map ControlPlaneSnapshot.snapshotId) =
    (([("x2", [0, 0, 0, 0, 0, 0, 0, 0, 0, 0, 0, 1])], [0, 0, 0, 0, 0, 0, 0, 0, 0, 0, 0, 1]), some "x2") := by
  decide +kernel

theorem second_request_reuses :
    (controlPlaneSnapshot snapshotWire.toWire firstDraw
      (run (storeStep snapshotWire) (newTables nowhere) foundFirst)).1.toOption.map ControlPlaneSnapshot.snapshotId =
        some "x2" ∧
    Along (storeStep snapshotWire) (AnswersFresh snapshotWire) (newTables nowhere)
      (foundFirst ++ [.snapshot firstDraw]) := by
  obtain ⟨hview, hanswer⟩ := Prod.mk.inj foundFirst_view
  have hfirst : Along (storeStep snapshotWire) (Accounted snapshotWire) (newTables nowhere) foundFirst := by
    refine ⟨?_, ?_, ?_, trivial⟩
    · intro hu
      cases hu
    · intro _ _ r hr
      exact absurd hr List.not_mem_nil
    · exact answerable_of_none rfl
  have haccounted := (Trace.along_append (storeStep snapshotWire) (Accounted snapshotWire) (newTables nowhere)
    foundFirst [.snapshot firstDraw]).2 ⟨hfirst, answerable_of_view hview (by decide), trivial⟩
  exact ⟨hanswer, (snapshots_answer_fresh haccounted).1⟩

theorem finding_stays_hidden :
    ¬ Along (storeStep snapshotWire) (AnswersFresh snapshotWire) (newTables nowhere)
      (foundBetween ++ [.snapshot secondDraw]) := by
  intro h
  obtain ⟨hlast, -⟩ := ((Trace.along_append (storeStep snapshotWire) (AnswersFresh snapshotWire) (newTables nowhere)
    foundBetween [.snapshot secondDraw]).1 h).2
  have hreconciliation := congrArg (fun a => a.toOption.map RepresentedSections.reconciliation) hlast
  exact absurd hreconciliation (by decide +kernel)

end Control
end Bildr
