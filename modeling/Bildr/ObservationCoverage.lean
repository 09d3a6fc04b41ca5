import Bildr.PlanApproval
import Bildr.SnapshotFreshness
import Bildr.SupervisorObservation
import Bildr.Windows
/-!
# ObservationCoverage — no material event is skipped

Observers of a run overlap: each refreshes the projections, captures, and decides later, while events are appended and other
observers move the cursor.  The events of a run are a log of rising ids and a capture is a window of it, so what a move of
the cursor passes was in the window that moved it (`Captured`).
-/
namespace Bildr
namespace Control

open Json (Value)
open Trace (run Along)
open Windows (Rising Gapless window)

/-! ## The ledger of events -/

def SourceEvent.position (e : SourceEvent) : Int := e.id

inductive Appends (events events' : List SourceEvent) : Prop
  | same (h : events' = events)
  | one (e : SourceEvent) (id : e.id = nextEventId events) (h : events' = events ++ [e])

theorem appends_event (events : List SourceEvent) (event : Option SourceEvent) :
    Appends events (appendEvent events event) := by
  cases event with
  | none => exact .same rfl
  | some e => exact .one { e with id := nextEventId events } rfl rfl

theorem appends_emit (events : List SourceEvent) (c : ExternalCondition) (o : ConditionObservation) (now : Int)
    (event : Option ConditionMaterialEvent) : Appends events (emitMaterialEvent events c o now event) := by
  cases event with
  | none => exact .same rfl
  | some e => exact .one _ rfl rfl

theorem before_next {events : List SourceEvent} {e : SourceEvent} (h : e ∈ events) : e.id < nextEventId events := by
  have := Table.le_maxOf SourceEvent.id h
  unfold nextEventId
  omega

theorem Appends.rising {events events' : List SourceEvent} (h : Appends events events')
    (hr : Rising SourceEvent.position events) : Rising SourceEvent.position events' := by
  cases h with
  | same h =>
    rw [h]
    exact hr
  | one e hid h =>
    rw [h]
    refine Windows.rising_concat hr (fun b hb => ?_)
    have := before_next hb
    show (b.id : Int) < e.id
    omega

theorem observed_appends {w : Wire} {id : String} {v : Nat} {o : ConditionObservation} {event : Option ConditionMaterialEvent}
    {now : Int} {c : ExternalCondition} {t t' : ConditionTables}
    (h : observationInnerBody w id v o event now t = .ok (c, t')) : Appends t.events t'.events := by
  rcases observation_cases h with rfl | ⟨-, -, hevents⟩
  · exact .same rfl
  · rw [hevents]
    exact appends_emit t.events c o now event

theorem emitted_appends (w : Wire) (id : String) (v : Nat) (o : ConditionObservation) (e : ConditionMaterialEvent)
    (now : Int) (t : ConditionTables) :
    Appends t.events (recordExternalConditionObservationAndEmit w id v o e now t).2.events := by
  refine transaction_after (P := fun t' : ConditionTables => Appends t.events t'.events) (.same rfl) (fun c t' hb => ?_)
  obtain ⟨-, hb⟩ := bind_unit_ok.1 hb
  obtain ⟨-, hb⟩ := ensure_bind_ok.1 hb
  exact observed_appends hb

theorem recorded_appends (w : Wire) (id : String) (v : Nat) (o : ConditionObservation) (now : Int) (t : ConditionTables) :
    Appends t.events (recordExternalConditionObservation w id v o now t).2.events :=
  transaction_after (P := fun t' : ConditionTables => Appends t.events t'.events) (.same rfl)
    (fun _ _ hb => observed_appends hb)

theorem register_events {w : Wire} {same : ExternalCondition → ExternalCondition → Bool} {why : String}
    {c c' : ExternalCondition} {t t' : ConditionTables} (h : registerBody w same why c t = .ok (c', t')) :
    t'.events = t.events := by
  unfold registerBody at h
  obtain ⟨-, h⟩ := bind_unit_ok.1 h
  obtain ⟨-, h⟩ := ensure_bind_ok.1 h
  split at h
  · obtain ⟨existing, -, h⟩ := bind_ok h
    obtain ⟨-, h⟩ := ensure_bind_ok.1 h
    cases h
    rfl
  · obtain ⟨conditions, -, h⟩ := bind_ok h
    cases h
    rfl

theorem compile_events {w : Wire} {id : String} {now : Int} {t t' : OperatorTables} {s : ControlPlaneSnapshot}
    (h : compileControlPlaneSnapshot w id now t = .ok (s, t')) : t'.events = t.events := by
  unfold compileControlPlaneSnapshot at h
  obtain ⟨c, -, h⟩ := bind_ok h
  obtain ⟨-, -, h⟩ := bind_ok h
  simp only at h
  split at h
  · obtain ⟨r, -, h⟩ := bind_ok h
    cases h
    rfl
  · obtain ⟨rows, -, h⟩ := bind_ok h
    obtain ⟨-, h⟩ := bind_unit_ok.1 h
    obtain ⟨u, -, h⟩ := bind_ok h
    cases h
    rfl

theorem refresh_events (w : Wire) (d : SnapshotDraw) (t : OperatorTables) :
    (refreshControlPlaneProjections w d t).2.events = t.events := by
  unfold refreshControlPlaneProjections
  rw [andThen_keeps OperatorTables.events (fun _ => ?_)]
  · rfl
  · rw [andThen_keeps OperatorTables.events (fun _ => rfl)]
    rfl

/-- **Every call keeps the ledger**: it appends at most one event, under the next id. -/
theorem storeStep_appends (w : CustodyWire) (t : OperatorTables) (c : StoreCall) :
    Appends t.events (storeStep w t c).events := by
  cases c with
  | observeCondition id v o now =>
    exact recorded_appends w.toWire id v o now ⟨t.control, t.events, t.conditions, t.conditionObservations⟩
  | observeAndEmit id v o e now =>
    exact emitted_appends w.toWire id v o e now ⟨t.control, t.events, t.conditions, t.conditionObservations⟩
  | elsewhere e event => exact appends_event t.events event
  | register c =>
    exact .same (transaction_after (P := fun t' : ConditionTables => t'.events = t.events) rfl
      (fun _ _ hb => register_events hb))
  | registerBySource c =>
    exact .same (transaction_after (P := fun t' : ConditionTables => t'.events = t.events) rfl
      (fun _ _ hb => register_events hb))
  | compile d =>
    exact .same (transaction_after (P := fun t' : OperatorTables => t'.events = t.events) rfl
      (fun _ _ hb => compile_events hb))
  | snapshot d =>
    refine .same ?_
    show ((refreshControlPlaneProjections w.toWire d).andThen _ t).2.events = t.events
    rw [andThen_keeps OperatorTables.events (fun _ => ?_), refresh_events]
    exact transaction_after (P := fun t' : OperatorTables => t'.events = _) rfl (fun _ _ hb => compile_events hb)
  | _ => exact .same rfl

/-! ## What a writer of the tables does -/

section Writers
variable {ω ρ : Type}

def snapshotsOf (t : ObservationTables ω) (runId : String) : List SupervisorSnapshotRecord :=
  t.snapshots.rows.filter (fun r => r.runId == runId)

structure Moved (t t' : ObservationTables ω) (runId : String) (cursor : Int) : Prop where
  operator : t'.operator = t.operator
  plans : t'.plans = t.plans
  nonneg : 0 ≤ cursor
  cursor : ∀ r, observationCursor t' r =
    if r = runId then max (observationCursor t r) cursor else observationCursor t r

/-- What a writer does for a run at a cursor: nothing, or the cursor moves; with a snapshot, if `silent` does not hold. -/
inductive Settles (silent : Prop) (t t' : ObservationTables ω) (runId : String) (cursor : Int) : Prop
  | nothing (h : t' = t)
  | silently (h : silent) (moved : Moved t t' runId cursor) (snapshots : t'.snapshots = t.snapshots)
  | again (moved : Moved t t' runId cursor) (snapshots : t'.snapshots = t.snapshots) (q : SupervisorSnapshotRecord)
      (stored : q ∈ t.snapshots.rows) (run : q.runId = runId) (at_cursor : q.eventCursor = cursor)
  | stored (moved : Moved t t' runId cursor) (r : SupervisorSnapshotRecord) (run : r.runId = runId)
      (at_cursor : r.eventCursor = cursor) (revision : r.revision = nextSnapshotRevision t.snapshots runId)
      (fresh : ∀ q ∈ t.snapshots.rows, q.runId = runId → q.eventCursor ≠ cursor)
      (snapshots : t'.snapshots.rows = t.snapshots.rows ++ [r])

/-- What a step does to the tables: it appends an event, or settles a run. -/
inductive Writes (t t' : ObservationTables ω) : Prop
  | quiet (events : Appends t.operator.events t'.operator.events) (snapshots : t'.snapshots = t.snapshots)
      (cursors : t'.cursors = t.cursors)
  | settles (silent : Prop) (runId : String) (cursor : Int) (h : Settles silent t t' runId cursor)

theorem Writes.refl (t : ObservationTables ω) : Writes t t := .quiet (.same rfl) rfl rfl

theorem Settles.mono {silent silent' : Prop} (hs : silent → silent') {t t' : ObservationTables ω} {runId : String}
    {cursor : Int} (h : Settles silent t t' runId cursor) : Settles silent' t t' runId cursor := by
  cases h with
  | nothing h => exact .nothing h
  | silently h moved snapshots => exact .silently (hs h) moved snapshots
  | again moved snapshots q stored run hcursor => exact .again moved snapshots q stored run hcursor
  | stored moved r run hcursor revision fresh snapshots => exact .stored moved r run hcursor revision fresh snapshots

theorem upsert_cursor {t : ObservationTables ω} {cursors : Table ObservationCursor.runId} {runId : String} {cursor : Int}
    (h : upsertCursor t.cursors runId cursor = .ok cursors) (hc : 0 ≤ cursor) (r : String) :
    observationCursor { t with cursors := cursors } r =
      if r = runId then max (observationCursor t r) cursor else observationCursor t r := by
  unfold upsertCursor at h
  unfold observationCursor
  cases hg : t.cursors.get runId with
  | some row =>
    simp only [hg] at h
    cases h
    rw [Table.get_update]
    by_cases hr : r = runId
    · subst hr
      rw [hg, if_pos rfl]
      simp [Table.key_of_get hg]
    · rw [if_neg hr]
      cases hg' : t.cursors.get r with
      | none => rfl
      | some q =>
        have hq : q.runId ≠ runId := fun heq => hr ((Table.key_of_get hg').symm.trans heq)
        simp [hq]
  | none =>
    simp only [hg] at h
    rw [Table.get_insert (insertRow_ok h)]
    by_cases hr : r = runId
    · subst hr
      rw [if_pos rfl, if_pos rfl, hg]
      simp [hc]
    · rw [if_neg hr, if_neg hr]

theorem advance_settles (c : SnapshotContract ω ρ) (runId : String) (cursor : Int) (t : ObservationTables ω) :
    Settles True t (advanceSupervisorObservationCursor c runId cursor t).2 runId cursor := by
  unfold advanceSupervisorObservationCursor
  refine commit_after (P := fun t' : ObservationTables ω => Settles True t t' runId cursor) (.nothing rfl) (fun t' hb => ?_)
  obtain ⟨hnonneg, hb⟩ := ensure_bind_ok.1 hb
  obtain ⟨-, hb⟩ := bind_unit_ok.1 hb
  obtain ⟨cursors, hcursors, hb⟩ := bind_ok hb
  cases hb
  have hc : 0 ≤ cursor := by simpa using hnonneg
  exact .silently trivial ⟨rfl, rfl, hc, upsert_cursor hcursors hc⟩ rfl

theorem record_settles (w : Wire) (c : SnapshotContract ω ρ) (runId : String) (cursor : Int) (trigger : String)
    (build : String → Nat → Except StoreError Value) (id : String) (now : Int) (t : ObservationTables ω) :
    Settles False t (recordSupervisorSnapshot w c runId cursor trigger build id now t).2 runId cursor := by
  unfold recordSupervisorSnapshot
  refine transaction_after (P := fun t' : ObservationTables ω => Settles False t t' runId cursor) (.nothing rfl)
    (fun a t' hb => ?_)
  unfold supervisorSnapshotBody at hb
  obtain ⟨hcheck, hb⟩ := ensure_bind_ok.1 hb
  have hc : 0 ≤ cursor := by
    rw [Bool.and_eq_true, Bool.and_eq_true] at hcheck
    simpa using hcheck.1.1
  cases hf : t.snapshots.rows.find? (fun r => r.runId == runId && r.eventCursor == cursor) with
  | some existing =>
    simp only [hf] at hb
    obtain ⟨-, hb⟩ := bind_unit_ok.1 hb
    obtain ⟨cursors, hcursors, hb⟩ := bind_ok hb
    cases hb
    have hmatch := List.find?_some hf
    rw [Bool.and_eq_true, beq_iff_eq, beq_iff_eq] at hmatch
    exact .again ⟨rfl, rfl, hc, upsert_cursor hcursors hc⟩ rfl _ (List.mem_of_find?_eq_some hf) hmatch.1 hmatch.2
  | none =>
    simp only [hf] at hb
    obtain ⟨payload, -, hb⟩ := bind_ok hb
    obtain ⟨-, hb⟩ := ensure_bind_ok.1 hb
    obtain ⟨-, hb⟩ := bind_unit_ok.1 hb
    obtain ⟨snapshots, hsnapshots, hb⟩ := bind_ok hb
    obtain ⟨cursors, hcursors, hb⟩ := bind_ok hb
    cases hb
    unfold insertSupervisorSnapshot at hsnapshots
    obtain ⟨-, hsnapshots⟩ := bind_unit_ok.1 hsnapshots
    obtain ⟨-, hsnapshots⟩ := bind_unit_ok.1 hsnapshots
    refine .stored ⟨rfl, rfl, hc, upsert_cursor (t := t) hcursors hc⟩ _ rfl rfl rfl (fun q hq hrun heq => ?_)
      (insertRow_ok_iff.1 hsnapshots).2
    have hne := List.find?_eq_none.1 hf q hq
    simp [hrun, heq] at hne

theorem materialOf_nil {events : List SourceEvent} :
    (materialOf events).getLast? = none ↔ ∀ e ∈ events, materialTrigger e = none := by
  rw [List.getLast?_eq_none_iff]
  unfold materialOf
  rw [List.filterMap_eq_nil_iff]
  simp

/-- **What is done with a capture**: the cursor moves to its last event, silently only if nothing captured is material or
no plan was found. -/
theorem conclude_settles (w : Wire) (c : SnapshotContract ω ρ) (config : SupervisionConfig) (maxThreadCount : Nat)
    (force : Bool) (d : ObservationDraw) (o : SupervisorObservationInput ρ) (s : ControlPlaneSnapshot)
    (t : ObservationTables ω) : (concludeObservation w c config maxThreadCount force d o s t).2 = t ∨
      ∃ last, o.events.getLast? = some last ∧
        Settles ((∀ e ∈ o.events, materialTrigger e = none) ∨ o.latestPlan = none) t
          (concludeObservation w c config maxThreadCount force d o s t).2 o.runId last.id := by
  unfold concludeObservation
  cases hlast : o.events.getLast? with
  | none => exact Or.inl rfl
  | some last =>
    cases hlatest : (materialOf o.events).getLast? with
    | none =>
      have hnone := materialOf_nil.1 hlatest
      exact Or.inr ⟨last, rfl, (advance_settles c o.runId last.id t).mono (fun _ => Or.inl hnone)⟩
    | some q =>
      obtain ⟨latest, trigger⟩ := q
      simp only
      by_cases hyoung : coalescing config force d.now latest = true
      · rw [if_pos hyoung]
        exact Or.inl rfl
      · rw [if_neg hyoung]
        refine Or.inr ⟨last, rfl, ?_⟩
        cases hplan : o.latestPlan with
        | none => exact (advance_settles c o.runId last.id t).mono (fun _ => Or.inr rfl)
        | some plan =>
          have h := record_settles w c o.runId last.id trigger (snapshotPayload w c config maxThreadCount o plan s last.id)
            d.snapshotId d.createdAt t
          exact h.mono False.elim

end Writers

/-! ## Observers -/

inductive ObserverPhase (ρ : Type)
  | classify | approvals | mirror | capture | ended
  | conclude (o : SupervisorObservationInput ρ) (s : ControlPlaneSnapshot)

structure Observer (ρ : Type) where
  config : SupervisionConfig
  maxThreadCount : Nat
  runId : String
  force : Bool
  phase : ObserverPhase ρ

structure ObservationState (ω ρ : Type) where
  tables : ObservationTables ω
  observers : List (Observer ρ)

/-- A call of the store, a change of what else is read, a stored plan, a call to observe a run, or a transaction of an
observer. -/
inductive ObservationEvent (ω : Type)
  | store (c : StoreCall)
  | world (e : ω)
  | plan (i : Plan.StoreInput)
  | observe (config : SupervisionConfig) (maxThreadCount : Nat) (runId : String) (force : Bool)
  | step (k : Nat) (d : ObservationDraw)

def SupervisorMode.observes (m : SupervisorMode) : Bool := [SupervisorMode.observeOnly, .advisory].contains m

section Machine
variable {ω ρ : Type}

def observerStep (w : Wire) (c : SnapshotContract ω ρ) (d : ObservationDraw) (p : Observer ρ) :
    Call (ObservationTables ω) (ObserverPhase ρ) :=
  match p.phase with
  | .classify     => (onControlPlane (onProgress (classifyMaterialProgress w))).map (fun _ => .approvals)
  | .approvals    => (onControlPlane (fun t => onAttention
      (refreshApprovalAttention w d.capture.attentionIds d.capture.now t.elsewhere.approvals) t)).map (fun _ => .mirror)
  | .mirror       => (onControlPlane (onNotifications (refreshNotificationMirror w))).map (fun _ => .capture)
  | .capture      => (transaction (captureBody w c d.capture p.runId maxEventsPerObservation)).map
      (fun q => .conclude q.1 q.2)
  | .conclude o s => (concludeObservation w c p.config p.maxThreadCount p.force d o s).map (fun _ => .ended)
  | .ended        => Call.ret .ended

def Observer.after (p : Observer ρ) (answer : Except StoreError (ObserverPhase ρ)) : Observer ρ :=
  match answer with
  | .ok next => { p with phase := next }
  | .error _ => { p with phase := .ended }

def observationStep (w : CustodyWire) (sha256 : Plan.RunPlan → String) (c : SnapshotContract ω ρ)
    (s : ObservationState ω ρ) : ObservationEvent ω → ObservationState ω ρ
  | .store call  => { s with tables := { s.tables with operator := storeStep w s.tables.operator call } }
  | .world e     => { s with tables := { s.tables with world := e } }
  | .plan i      => { s with tables := { s.tables with plans := (Plan.storePlan sha256 i s.tables.plans).2 } }
  | .observe config maxThreadCount runId force =>
    if config.mode.observes then
      { s with observers := s.observers ++ [⟨config, maxThreadCount, runId, force, .classify⟩] }
    else s
  | .step k d    =>
    match s.observers[k]? with
    | none   => s
    | some p => ⟨(observerStep w.toWire c d p s.tables).2, s.observers.set k (p.after (observerStep w.toWire c d p s.tables).1)⟩

def newObservationState (e : Elsewhere) (world : ω) (plans : Plan.Tables) : ObservationState ω ρ :=
  ⟨⟨newTables e, world, plans, ∅, ∅⟩, []⟩

/-! ## An observer that runs alone -/

theorem onControlPlane_andThen {α β : Type} (a : Call OperatorTables α) (f : α → Call OperatorTables β)
    : onControlPlane (a.andThen f) = (onControlPlane (ω := ω) a).andThen (fun x => onControlPlane (f x)) := by
  funext t
  show ((a.andThen f t.operator).1, { t with operator := (a.andThen f t.operator).2 }) = _
  cases h : (a t.operator).1 with
  | error e =>
    have h' : (onControlPlane a t).1 = .error e := h
    rw [andThen_error h, andThen_error h']
    rfl
  | ok x =>
    have h' : (onControlPlane a t).1 = .ok x := h
    rw [andThen_ok h, andThen_ok h']
    rfl

theorem onControlPlane_map {α β : Type} (a : Call OperatorTables α) (f : α → β) :
    onControlPlane (a.map f) = (onControlPlane (ω := ω) a).map f := rfl

/-- What an observer leaves when it takes `n` steps with nobody between them. -/
def observerRun (w : Wire) (c : SnapshotContract ω ρ) (d : ObservationDraw) :
    Nat → Observer ρ → ObservationTables ω → ObservationTables ω
  | 0, _, t     => t
  | n + 1, p, t => observerRun w c d n (p.after (observerStep w c d p t).1) (observerStep w c d p t).2

theorem steps_alone (w : CustodyWire) (sha256 : Plan.RunPlan → String) (c : SnapshotContract ω ρ) (d : ObservationDraw)
    {k : Nat} : ∀ (n : Nat) {p : Observer ρ} {s : ObservationState ω ρ}, s.observers[k]? = some p →
      (run (observationStep w sha256 c) s (List.replicate n (.step k d))).tables = observerRun w.toWire c d n p s.tables
  | 0, _, _, _ => rfl
  | n + 1, p, s, hk => by
    have hstep : observationStep w sha256 c s (.step k d) = ⟨(observerStep w.toWire c d p s.tables).2,
        s.observers.set k (p.after (observerStep w.toWire c d p s.tables).1)⟩ := by
      simp only [observationStep, hk]
    have hlt : k < s.observers.length := (List.getElem?_eq_some_iff.1 hk).1
    rw [List.replicate_succ, Trace.run_cons, hstep]
    exact steps_alone w sha256 c d n (List.getElem?_set_self hlt)

theorem observerRun_ended (w : Wire) (c : SnapshotContract ω ρ) (d : ObservationDraw) : ∀ (n : Nat) {p : Observer ρ}
    (t : ObservationTables ω), p.phase = .ended → observerRun w c d n p t = t
  | 0, _, _, _ => rfl
  | n + 1, p, t, hp => by
    have hstep : observerStep w c d p t = (.ok .ended, t) := by
      unfold observerStep
      rw [hp]
      rfl
    unfold observerRun
    rw [hstep]
    exact observerRun_ended w c d n t rfl

theorem observerRun_andThen {α : Type} {w : Wire} {c : SnapshotContract ω ρ} {d : ObservationDraw} {n : Nat}
    {p : Observer ρ} {a : Call (ObservationTables ω) α} {next : α → ObserverPhase ρ}
    {f : α → Call (ObservationTables ω) (Option SupervisorSnapshotRecord)} (hstep : observerStep w c d p = a.map next)
    (hf : ∀ x t, observerRun w c d n { p with phase := next x } t = (f x t).2) (t : ObservationTables ω) :
    observerRun w c d (n + 1) p t = (a.andThen f t).2 := by
  unfold observerRun
  rw [hstep]
  cases h : (a t).1 with
  | error e =>
    rw [andThen_error h]
    simp only [Call.map, h, Except.map, Observer.after]
    exact observerRun_ended w c d n _ rfl
  | ok x =>
    rw [andThen_ok h]
    simp only [Call.map, h, Except.map, Observer.after]
    exact hf x (a t).2

/-- **An observer that nobody interrupts makes the call** `observe_run` or `observe_run_now`. -/
theorem observer_alone (w : CustodyWire) (sha256 : Plan.RunPlan → String) (c : SnapshotContract ω ρ) (d : ObservationDraw)
    {k : Nat} {p : Observer ρ} {s : ObservationState ω ρ} (hk : s.observers[k]? = some p) (hphase : p.phase = .classify)
    (hmode : p.config.mode.observes = true) :
    (run (observationStep w sha256 c) s (List.replicate 5 (.step k d))).tables =
      (observeRunWithForce w.toWire c p.config p.maxThreadCount p.runId p.force d s.tables).2 := by
  have hconclude : ∀ (q : SupervisorObservationInput ρ × ControlPlaneSnapshot) t,
      observerRun w.toWire c d 1 { p with phase := .conclude q.1 q.2 } t =
        (concludeObservation w.toWire c p.config p.maxThreadCount p.force d q.1 q.2 t).2 := fun q t => rfl
  have hcapture := fun t => observerRun_andThen (p := { p with phase := .capture }) (w := w.toWire) (d := d) (c := c) rfl
    hconclude t
  have hmirror := fun t => observerRun_andThen (p := { p with phase := .mirror }) (w := w.toWire) (d := d) (c := c) rfl
    (fun _ => hcapture) t
  have happrovals := fun t => observerRun_andThen (p := { p with phase := .approvals }) (w := w.toWire) (d := d) (c := c) rfl
    (fun _ => hmirror) t
  have hclassify := observerRun_andThen (p := { p with phase := .classify }) (w := w.toWire) (d := d) (c := c) rfl
    (fun _ => happrovals) s.tables
  have hp : { p with phase := .classify } = p := by
    rw [← hphase]
  rw [steps_alone w sha256 c d 5 hk, ← hp, hclassify]
  have hcall : ∀ t, (observeRunWithForce w.toWire c p.config p.maxThreadCount p.runId p.force d t) =
      (captureSupervisorObservationWithControlPlane w.toWire c d.capture p.runId maxEventsPerObservation).andThen
        (fun q => concludeObservation w.toWire c p.config p.maxThreadCount p.force d q.1 q.2) t := by
    intro t
    unfold observeRunWithForce
    cases hm : p.config.mode with
    | observeOnly => rfl
    | advisory => rfl
    | disabled => simp [SupervisorMode.observes, hm] at hmode
    | shadow => simp [SupervisorMode.observes, hm] at hmode
    | activeLowRisk => simp [SupervisorMode.observes, hm] at hmode
    | active => simp [SupervisorMode.observes, hm] at hmode
  rw [hcall]
  unfold captureSupervisorObservationWithControlPlane refreshControlPlaneProjections
  simp only [onControlPlane_andThen, onControlPlane_map, andThen_assoc, map_andThen]

end Machine

/-! ## A capture is a window -/

def ledgerOf (events : List SourceEvent) (runId : String) : List SourceEvent :=
  events.filter (fun e => decide (e.runId = some runId))

theorem later_eq_window (events : List SourceEvent) (runId : String) (cursor : Int) (n : Nat) :
    (laterEvents events runId cursor).take n = window SourceEvent.position (ledgerOf events runId) cursor n := by
  unfold laterEvents window ledgerOf
  rw [List.filter_filter]
  refine congrArg (List.take n) (List.filter_congr (fun e _ => ?_))
  exact Bool.and_comm _ _

/-- A capture that is still good: it has every event of the run between its cursor, which the cursor of now is not behind,
and its last one. -/
structure Captured {ω ρ : Type} (t : ObservationTables ω) (o : SupervisorObservationInput ρ) : Prop where
  behind : o.cursor ≤ observationCursor t o.runId
  stored : ∀ e ∈ o.events, e ∈ ledgerOf t.operator.events o.runId
  gapless : Gapless SourceEvent.position (ledgerOf t.operator.events o.runId) o.cursor o.events

section Captures
variable {ω ρ : Type} {t t' : ObservationTables ω}

theorem Settles.operator {silent : Prop} {runId : String} {cursor : Int} (h : Settles silent t t' runId cursor) :
    t'.operator = t.operator := by
  cases h with
  | nothing h => rw [h]
  | silently _ moved _ => exact moved.operator
  | again moved _ _ _ _ _ => exact moved.operator
  | stored moved _ _ _ _ _ _ => exact moved.operator

theorem Moved.forward {runId : String} {cursor : Int} (h : Moved t t' runId cursor) (r : String) :
    observationCursor t r ≤ observationCursor t' r := by
  rw [h.cursor]
  by_cases hr : r = runId
  · rw [if_pos hr]
    exact le_max_left _ _
  · rw [if_neg hr]

theorem Settles.forward {silent : Prop} {runId : String} {cursor : Int} (h : Settles silent t t' runId cursor) (r : String) :
    observationCursor t r ≤ observationCursor t' r := by
  cases h with
  | nothing h => rw [h]
  | silently _ moved _ => exact moved.forward r
  | again moved _ _ _ _ _ => exact moved.forward r
  | stored moved _ _ _ _ _ _ => exact moved.forward r

theorem Writes.forward (h : Writes t t') (r : String) : observationCursor t r ≤ observationCursor t' r := by
  cases h with
  | quiet _ _ hcursors =>
    unfold observationCursor
    rw [hcursors]
  | settles _ _ _ h => exact h.forward r

theorem Writes.appends (h : Writes t t') : Appends t.operator.events t'.operator.events := by
  cases h with
  | quiet events _ _ => exact events
  | settles _ _ _ h => exact .same (by rw [h.operator])

theorem Captured.writes {o : SupervisorObservationInput ρ} (h : Captured t o) (hw : Writes t t') : Captured t' o := by
  have hforward := h.behind.trans (hw.forward o.runId)
  cases hw.appends with
  | same he =>
    refine ⟨hforward, ?_, ?_⟩
    · rw [he]
      exact h.stored
    · rw [he]
      exact h.gapless
  | one e hid he =>
    have hledger : ledgerOf t'.operator.events o.runId =
        ledgerOf t.operator.events o.runId ++ if e.runId = some o.runId then [e] else [] := by
      unfold ledgerOf
      rw [he, List.filter_append, List.filter_singleton]
      simp
    have hnext : ∀ b ∈ ledgerOf t.operator.events o.runId, b.position < e.position := by
      intro b hb
      have := before_next (List.mem_of_mem_filter hb)
      unfold SourceEvent.position
      omega
    refine ⟨hforward, fun b hb => ?_, ?_⟩
    · rw [hledger]
      exact List.mem_append_left _ (h.stored b hb)
    · rw [hledger]
      by_cases hrun : e.runId = some o.runId
      · rw [if_pos hrun]
        exact h.gapless.concat h.stored hnext
      · rw [if_neg hrun, List.append_nil]
        exact h.gapless

theorem capture_reads {c : SnapshotContract ω ρ} {runId : String} {n : Nat} {o : SupervisorObservationInput ρ}
    (h : captureObservation c runId n t = .ok o) : o.runId = runId ∧ o.latestPlan = Plan.latestPlan t.plans runId := by
  unfold captureObservation at h
  obtain ⟨rest, -, h⟩ := bind_ok h
  cases h
  exact ⟨rfl, rfl⟩

theorem capture_captured {c : SnapshotContract ω ρ} {runId : String} {n : Nat} {o : SupervisorObservationInput ρ}
    (hr : Rising SourceEvent.position t.operator.events) (h : captureObservation c runId n t = .ok o) : Captured t o := by
  unfold captureObservation at h
  obtain ⟨rest, -, h⟩ := bind_ok h
  cases h
  refine ⟨le_rfl, fun e he => ?_, ?_⟩
  · rw [later_eq_window] at he
    exact (Windows.mem_window he).1
  · rw [later_eq_window]
    exact Windows.window_gapless (hr.filter _)

theorem Captured.passed {o : SupervisorObservationInput ρ} (h : Captured t o) {last e : SourceEvent}
    (hlast : o.events.getLast? = some last) (he : e ∈ ledgerOf t.operator.events o.runId)
    (hbeyond : observationCursor t o.runId < e.position)
    (hwithin : e.position ≤ max (observationCursor t o.runId) last.id) : e ∈ o.events :=
  h.gapless.passed h.behind hlast he hbeyond hwithin

end Captures

/-! ## What is kept -/

/-- Numbered revisions, one snapshot for a cursor, none beyond the cursor of its run. -/
structure Ordered {ω : Type} (t : ObservationTables ω) : Prop where
  numbered : ∀ runId, (snapshotsOf t runId).map SupervisorSnapshotRecord.revision =
    List.range' 1 (snapshotsOf t runId).length
  single : ∀ runId, ((snapshotsOf t runId).map SupervisorSnapshotRecord.eventCursor).Nodup
  below : ∀ r ∈ t.snapshots.rows, r.eventCursor ≤ observationCursor t r.runId

structure Attentive {ω ρ : Type} (s : ObservationState ω ρ) : Prop where
  rising : Rising SourceEvent.position s.tables.operator.events
  ordered : Ordered s.tables
  captured : ∀ p ∈ s.observers, ∀ o x, p.phase = .conclude o x → Captured s.tables o

/-- The run has a plan, and no observer decides on a capture of it that has none. -/
def Planned {ω ρ : Type} (runId : String) (s : ObservationState ω ρ) : Prop :=
  (∃ p ∈ s.tables.plans.plans.rows, p.runId = runId) ∧
    ∀ p ∈ s.observers, ∀ o x, p.phase = .conclude o x → o.runId = runId → o.latestPlan ≠ none

section Step
variable {ω ρ : Type} {w : CustodyWire} {sha256 : Plan.RunPlan → String} {c : SnapshotContract ω ρ}
  {s : ObservationState ω ρ} {t t' : ObservationTables ω}

theorem Ordered.moved (h : Ordered t) (hw : Writes t t') (hs : t'.snapshots = t.snapshots) : Ordered t' := by
  have hof : ∀ runId, snapshotsOf t' runId = snapshotsOf t runId := fun runId => by
    unfold snapshotsOf
    rw [hs]
  refine ⟨fun runId => ?_, fun runId => ?_, fun r hr => ?_⟩
  · rw [hof]
    exact h.numbered runId
  · rw [hof]
    exact h.single runId
  · rw [hs] at hr
    exact (h.below r hr).trans (hw.forward r.runId)

theorem Ordered.writes (h : Ordered t) (hw : Writes t t') : Ordered t' := by
  cases hw with
  | quiet events snapshots cursors => exact h.moved (.quiet events snapshots cursors) snapshots
  | settles silent runId cursor hsettles =>
    have hw : Writes t t' := .settles silent runId cursor hsettles
    cases hsettles with
    | nothing heq => exact h.moved hw (by rw [heq])
    | silently _ _ snapshots => exact h.moved hw snapshots
    | again _ snapshots _ _ _ _ => exact h.moved hw snapshots
    | stored moved r run hcursor revision fresh snapshots =>
      have hof : ∀ q, snapshotsOf t' q = snapshotsOf t q ++ if r.runId = q then [r] else [] := by
        intro q
        unfold snapshotsOf
        rw [snapshots, List.filter_append, List.filter_singleton]
        simp
      refine ⟨fun q => ?_, fun q => ?_, fun q hq => ?_⟩
      · rw [hof]
        by_cases hrun : r.runId = q
        · subst hrun
          rw [if_pos rfl]
          exact Table.numbered_concat _ (h.numbered r.runId) (by rw [revision, ← run]; rfl)
        · rw [if_neg hrun, List.append_nil]
          exact h.numbered q
      · rw [hof]
        by_cases hrun : r.runId = q
        · subst hrun
          rw [if_pos rfl, List.map_append]
          refine List.nodup_append'.2 ⟨h.single r.runId, List.nodup_singleton _, ?_⟩
          rw [List.map_singleton, List.disjoint_singleton]
          intro hmem
          obtain ⟨x, hx, heq⟩ := List.mem_map.1 hmem
          obtain ⟨hx, hxrun⟩ := List.mem_filter.1 hx
          exact fresh x hx (by rw [← run]; simpa using hxrun) (heq.trans hcursor)
        · rw [if_neg hrun, List.append_nil]
          exact h.single q
      · rw [snapshots] at hq
        rcases List.mem_append.1 hq with hq | hq
        · exact (h.below q hq).trans (hw.forward q.runId)
        · rw [List.mem_singleton.1 hq, moved.cursor, if_pos run, hcursor]
          exact le_max_right _ _

/-! ## A step of an observer -/

theorem onControlPlane_writes {α : Type} {call : Call OperatorTables α} (h : ∀ o, (call o).2.events = o.events)
    (t : ObservationTables ω) : Writes t (onControlPlane call t).2 := .quiet (.same (h t.operator)) rfl rfl

theorem capture_writes (w : Wire) (c : SnapshotContract ω ρ) (d : SnapshotDraw) (runId : String) (n : Nat)
    (t : ObservationTables ω) : Writes t (transaction (captureBody w c d runId n) t).2 := by
  refine transaction_after (P := fun t' : ObservationTables ω => Writes t t') (Writes.refl t) (fun q t' hb => ?_)
  unfold captureBody at hb
  obtain ⟨o, -, hb⟩ := bind_ok hb
  obtain ⟨⟨x, operator⟩, hcompile, hb⟩ := bind_ok hb
  cases hb
  exact .quiet (.same (compile_events hcompile)) rfl rfl

theorem conclude_writes (w : Wire) (c : SnapshotContract ω ρ) (config : SupervisionConfig) (maxThreadCount : Nat)
    (force : Bool) (d : ObservationDraw) (o : SupervisorObservationInput ρ) (x : ControlPlaneSnapshot)
    (t : ObservationTables ω) : Writes t (concludeObservation w c config maxThreadCount force d o x t).2 := by
  rcases conclude_settles w c config maxThreadCount force d o x t with h | ⟨last, -, h⟩
  · rw [h]
    exact Writes.refl t
  · exact .settles _ _ _ h

theorem observer_writes (w : Wire) (c : SnapshotContract ω ρ) (d : ObservationDraw) (p : Observer ρ)
    (t : ObservationTables ω) : Writes t (observerStep w c d p t).2 := by
  unfold observerStep
  cases p.phase with
  | classify => exact onControlPlane_writes (fun _ => rfl) t
  | approvals => exact onControlPlane_writes (fun _ => rfl) t
  | mirror => exact onControlPlane_writes (fun _ => rfl) t
  | capture => exact capture_writes w c d.capture p.runId maxEventsPerObservation t
  | conclude o x => exact conclude_writes w c p.config p.maxThreadCount p.force d o x t
  | ended => exact Writes.refl t

theorem after_conclude {w : Wire} {d : ObservationDraw} {p : Observer ρ} {o : SupervisorObservationInput ρ}
    {x : ControlPlaneSnapshot} (h : (p.after (observerStep w c d p t).1).phase = .conclude o x) :
    captureObservation c p.runId maxEventsPerObservation t = .ok o := by
  have hmap : ∀ {α : Type} {call : Call (ObservationTables ω) α} {f : α → ObserverPhase ρ},
      (p.after ((call.map f) t).1).phase = .conclude o x → ∃ a, (call t).1 = .ok a ∧ f a = .conclude o x := by
    intro α call f hc
    cases hcall : (call t).1 with
    | error e =>
      simp only [Call.map, hcall, Except.map, Observer.after] at hc
      cases hc
    | ok a =>
      simp only [Call.map, hcall, Except.map, Observer.after] at hc
      exact ⟨a, rfl, hc⟩
  unfold observerStep at h
  cases hp : p.phase with
  | capture =>
    simp only [hp] at h
    obtain ⟨⟨o', x'⟩, hcall, hf⟩ := hmap h
    cases hf
    rcases transaction_cases (captureBody w c d.capture p.runId maxEventsPerObservation) t with ⟨e, -, he⟩ | ⟨q, t', hb, hok⟩
    · rw [he] at hcall
      cases hcall
    · rw [hok] at hcall
      cases hcall
      unfold captureBody at hb
      obtain ⟨o', ho, hb⟩ := bind_ok hb
      obtain ⟨⟨x, operator⟩, -, hb⟩ := bind_ok hb
      cases hb
      exact ho
  | ended =>
    simp only [hp] at h
    cases h
  | _ =>
    simp only [hp] at h
    obtain ⟨a, -, hf⟩ := hmap h
    cases hf

/-! ## Every step -/

theorem step_writes (w : CustodyWire) (sha256 : Plan.RunPlan → String) (c : SnapshotContract ω ρ)
    (s : ObservationState ω ρ) (i : ObservationEvent ω) : Writes s.tables (observationStep w sha256 c s i).tables := by
  cases i with
  | store call => exact .quiet (storeStep_appends w s.tables.operator call) rfl rfl
  | world e => exact .quiet (.same rfl) rfl rfl
  | plan i => exact .quiet (.same rfl) rfl rfl
  | observe config n runId force =>
    simp only [observationStep]
    split
    · exact Writes.refl _
    · exact Writes.refl _
  | step k d =>
    simp only [observationStep]
    cases hk : s.observers[k]? with
    | none => exact Writes.refl _
    | some p => exact observer_writes w.toWire c d p s.tables

theorem step_conclude {i : ObservationEvent ω} {p : Observer ρ} {o : SupervisorObservationInput ρ} {x : ControlPlaneSnapshot}
    (hp : p ∈ (observationStep w sha256 c s i).observers) (hphase : p.phase = .conclude o x) :
    (∃ q ∈ s.observers, q.phase = .conclude o x) ∨
      captureObservation c o.runId maxEventsPerObservation s.tables = .ok o := by
  cases i with
  | store call => exact Or.inl ⟨p, hp, hphase⟩
  | world e => exact Or.inl ⟨p, hp, hphase⟩
  | plan i => exact Or.inl ⟨p, hp, hphase⟩
  | observe config n runId force =>
    simp only [observationStep] at hp
    split at hp
    · rcases List.mem_append.1 hp with hp | hp
      · exact Or.inl ⟨p, hp, hphase⟩
      · rw [List.mem_singleton.1 hp] at hphase
        cases hphase
    · exact Or.inl ⟨p, hp, hphase⟩
  | step k d =>
    cases hk : s.observers[k]? with
    | none =>
      simp only [observationStep, hk] at hp
      exact Or.inl ⟨p, hp, hphase⟩
    | some q =>
      simp only [observationStep, hk] at hp
      rcases List.mem_or_eq_of_mem_set hp with hp | rfl
      · exact Or.inl ⟨p, hp, hphase⟩
      · have hcapture := after_conclude hphase
        rw [← (capture_reads hcapture).1] at hcapture
        exact Or.inr hcapture

theorem Attentive.step (h : Attentive s) (i : ObservationEvent ω) : Attentive (observationStep w sha256 c s i) := by
  have hw := step_writes w sha256 c s i
  refine ⟨hw.appends.rising h.rising, h.ordered.writes hw, fun p hp o x hphase => ?_⟩
  rcases step_conclude hp hphase with ⟨q, hq, hphase⟩ | hcapture
  · exact (h.captured q hq o x hphase).writes hw
  · exact (capture_captured h.rising hcapture).writes hw

theorem attentive_new (e : Elsewhere) (world : ω) (plans : Plan.Tables) :
    Attentive (newObservationState (ρ := ρ) e world plans) where
  rising := List.Pairwise.nil
  ordered := ⟨fun _ => rfl, fun _ => List.nodup_nil, fun _ hr => by cases hr⟩
  captured := fun _ hp => by cases hp

/-! ## Plans -/

theorem latestPlan_ne_none {t : Plan.Tables} {runId : String} {p : Plan.PlanRevision} (hp : p ∈ t.plans.rows)
    (hrun : p.runId = runId) : Plan.latestPlan t runId ≠ none := by
  have hmem : p ∈ t.plans.rows.filter (fun q => q.runId == runId) := List.mem_filter.2 ⟨hp, by simp [hrun]⟩
  obtain ⟨q, hq, hmax⟩ := Table.exists_maxOf Plan.PlanRevision.revision (List.ne_nil_of_mem hmem)
  obtain ⟨hq, hqrun⟩ := List.mem_filter.1 hq
  unfold Plan.latestPlan
  rw [ne_eq, List.find?_eq_none]
  intro hnone
  refine hnone q hq ?_
  rw [Bool.and_eq_true, beq_iff_eq, beq_iff_eq]
  exact ⟨by simpa using hqrun, hmax⟩

theorem storePlan_keeps (i : Plan.StoreInput) {t : Plan.Tables} {runId : String}
    (h : ∃ p ∈ t.plans.rows, p.runId = runId) : ∃ p ∈ (Plan.storePlan sha256 i t).2.plans.rows, p.runId = runId := by
  rcases Plan.storePlan_effect sha256 i t with hsame | ⟨hget, hfresh, -⟩
  · rw [hsame]
    exact h
  · obtain ⟨p, hp, hrun⟩ := h
    have hne : p.id ≠ i.revisionId := Table.get_none.1 hfresh p hp
    have hkept := hget p.id
    rw [if_neg hne, Table.get_of_mem hp, Option.map_some] at hkept
    refine ⟨_, Table.mem_of_get hkept, ?_⟩
    split
    · exact hrun
    · exact hrun

theorem observer_plans (w : Wire) (c : SnapshotContract ω ρ) (d : ObservationDraw) (p : Observer ρ)
    (t : ObservationTables ω) : (observerStep w c d p t).2.plans = t.plans := by
  unfold observerStep
  cases p.phase with
  | capture =>
    refine transaction_after (P := fun t' : ObservationTables ω => t'.plans = t.plans) rfl (fun q t' hb => ?_)
    unfold captureBody at hb
    obtain ⟨o, -, hb⟩ := bind_ok hb
    obtain ⟨⟨x, operator⟩, -, hb⟩ := bind_ok hb
    cases hb
    rfl
  | conclude o x =>
    show (concludeObservation w c p.config p.maxThreadCount p.force d o x t).2.plans = t.plans
    rcases conclude_settles w c p.config p.maxThreadCount p.force d o x t with h | ⟨last, -, h⟩
    · rw [h]
    · cases h with
      | nothing h => rw [h]
      | silently _ moved _ => exact moved.plans
      | again moved _ _ _ _ _ => exact moved.plans
      | stored moved _ _ _ _ _ _ => exact moved.plans
  | _ => rfl

/-- **A run with a plan stays one**, and whoever captures it finds the plan. -/
theorem Planned.step {runId : String} (h : Planned runId s) (i : ObservationEvent ω) :
    Planned runId (observationStep w sha256 c s i) := by
  obtain ⟨⟨p, hp, hrun⟩, hobservers⟩ := h
  refine ⟨?_, fun q hq o x hphase ho => ?_⟩
  · cases i with
    | plan i => exact storePlan_keeps i ⟨p, hp, hrun⟩
    | observe config n runId' force =>
      simp only [observationStep]
      split
      · exact ⟨p, hp, hrun⟩
      · exact ⟨p, hp, hrun⟩
    | step k d =>
      simp only [observationStep]
      cases hk : s.observers[k]? with
      | none => exact ⟨p, hp, hrun⟩
      | some q =>
        refine ⟨p, ?_, hrun⟩
        show p ∈ (observerStep w.toWire c d q s.tables).2.plans.plans.rows
        rw [observer_plans]
        exact hp
    | _ => exact ⟨p, hp, hrun⟩
  · rcases step_conclude hq hphase with ⟨q', hq', hphase'⟩ | hcapture
    · exact hobservers q' hq' o x hphase' ho
    · rw [(capture_reads hcapture).2]
      exact latestPlan_ne_none hp (hrun.trans ho.symm)

/-! ## Nothing is skipped -/

/-- A material event of the run that the cursor passes is covered by a new snapshot at or beyond it, the earlier snapshots
of the run being before it. -/
def Guarded (runId : String) (t t' : ObservationTables ω) : Prop :=
  ∀ e ∈ ledgerOf t'.operator.events runId, materialTrigger e ≠ none → observationCursor t runId < e.position →
    e.position ≤ observationCursor t' runId →
    ∃ r ∈ t'.snapshots.rows, r ∉ t.snapshots.rows ∧ r.runId = runId ∧ e.position ≤ r.eventCursor ∧
      ∀ q ∈ t'.snapshots.rows, q.runId = runId → q.revision < r.revision → q.eventCursor < e.position

theorem guarded_of_same {runId : String} (h : observationCursor t' runId = observationCursor t runId) :
    Guarded runId t t' := by
  intro e _ _ hbeyond hwithin
  omega

theorem conclude_guarded {w : Wire} {config : SupervisionConfig} {n : Nat} {force : Bool} {d : ObservationDraw}
    {o : SupervisorObservationInput ρ} {x : ControlPlaneSnapshot} {runId : String} (hc : Captured t o) (ho : Ordered t)
    (hplan : o.runId = runId → o.latestPlan ≠ none) :
    Guarded runId t (concludeObservation w c config n force d o x t).2 := by
  rcases conclude_settles w c config n force d o x t with h | ⟨last, hlast, h⟩
  · exact guarded_of_same (by rw [h])
  · by_cases hrun : runId = o.runId
    · subst hrun
      intro e he hmaterial hbeyond hwithin
      rw [h.operator] at he
      cases h with
      | nothing h =>
        rw [h] at hwithin
        omega
      | silently hsilent moved _ =>
        rw [moved.cursor, if_pos rfl] at hwithin
        have hmem := hc.passed hlast he hbeyond hwithin
        rcases hsilent with hnone | hnone
        · exact absurd (hnone e hmem) hmaterial
        · exact absurd hnone (hplan rfl)
      | again moved _ q stored run hcursor =>
        rw [moved.cursor, if_pos rfl] at hwithin
        have hbelow := ho.below q stored
        rw [run, hcursor] at hbelow
        omega
      | stored moved r run hcursor revision fresh snapshots =>
        rw [moved.cursor, if_pos rfl] at hwithin
        refine ⟨r, by rw [snapshots]; simp, fun hmem => fresh r hmem run hcursor, run, by omega, fun q hq hqrun hlt => ?_⟩
        rw [snapshots] at hq
        rcases List.mem_append.1 hq with hq | hq
        · have hbelow := ho.below q hq
          rw [hqrun] at hbelow
          omega
        · rw [List.mem_singleton.1 hq] at hlt
          omega
    · refine guarded_of_same ?_
      cases h with
      | nothing h => rw [h]
      | silently _ moved _ => rw [moved.cursor, if_neg hrun]
      | again moved _ _ _ _ _ => rw [moved.cursor, if_neg hrun]
      | stored moved _ _ _ _ _ _ => rw [moved.cursor, if_neg hrun]

theorem observer_guarded {w : Wire} {d : ObservationDraw} {p : Observer ρ} {runId : String} (ho : Ordered t)
    (hc : ∀ o x, p.phase = .conclude o x → Captured t o)
    (hplan : ∀ o x, p.phase = .conclude o x → o.runId = runId → o.latestPlan ≠ none) :
    Guarded runId t (observerStep w c d p t).2 := by
  unfold observerStep
  cases hp : p.phase with
  | conclude o x => exact conclude_guarded (hc o x hp) ho (hplan o x hp)
  | capture =>
    refine guarded_of_same ?_
    refine transaction_after (P := fun t' : ObservationTables ω => observationCursor t' runId = observationCursor t runId) rfl
      (fun q t' hb => ?_)
    unfold captureBody at hb
    obtain ⟨o, -, hb⟩ := bind_ok hb
    obtain ⟨⟨x, operator⟩, -, hb⟩ := bind_ok hb
    cases hb
    rfl
  | _ => exact guarded_of_same rfl

theorem step_guarded {runId : String} (h : Attentive s) (hplan : Planned runId s) (i : ObservationEvent ω) :
    Guarded runId s.tables (observationStep w sha256 c s i).tables := by
  cases i with
  | observe config n runId' force =>
    refine guarded_of_same ?_
    simp only [observationStep]
    split
    · rfl
    · rfl
  | step k d =>
    simp only [observationStep]
    cases hk : s.observers[k]? with
    | none => exact guarded_of_same rfl
    | some p =>
      have hp := List.mem_of_getElem? hk
      exact observer_guarded h.ordered (h.captured p hp) (hplan.2 p hp)
  | _ => exact guarded_of_same rfl

theorem conclude_refused {w : Wire} {config : SupervisionConfig} {n : Nat} {force : Bool} {d : ObservationDraw}
    {o : SupervisorObservationInput ρ} {x : ControlPlaneSnapshot} {e : StoreError}
    (h : (concludeObservation w c config n force d o x t).1 = .error e) :
    (concludeObservation w c config n force d o x t).2 = t := by
  unfold concludeObservation at h ⊢
  cases hlast : o.events.getLast? with
  | none => rfl
  | some last =>
    simp only [hlast] at h
    cases hlatest : (materialOf o.events).getLast? with
    | none =>
      simp only [hlatest] at h
      exact transaction_error (map_error h)
    | some q =>
      simp only [hlatest] at h
      by_cases hyoung : coalescing config force d.now q.1 = true
      · simp only [if_pos hyoung]
        rfl
      · simp only [if_neg hyoung] at h ⊢
        cases hplan : o.latestPlan with
        | none =>
          simp only [hplan] at h
          exact transaction_error (map_error h)
        | some plan =>
          simp only [hplan] at h
          exact transaction_error (map_error h)

theorem observer_refused {w : Wire} {d : ObservationDraw} {p : Observer ρ} {e : StoreError}
    (h : (observerStep w c d p t).1 = .error e) :
    (observerStep w c d p t).2.cursors = t.cursors ∧ (observerStep w c d p t).2.snapshots = t.snapshots := by
  unfold observerStep at h ⊢
  cases hp : p.phase with
  | conclude o x =>
    simp only [hp] at h
    have hsame := conclude_refused (map_error h)
    exact ⟨congrArg ObservationTables.cursors hsame, congrArg ObservationTables.snapshots hsame⟩
  | capture =>
    simp only [hp] at h
    have hsame := transaction_error (map_error h)
    exact ⟨congrArg ObservationTables.cursors hsame, congrArg ObservationTables.snapshots hsame⟩
  | _ => exact ⟨rfl, rfl⟩

/-! ## The run of a supervisor -/

/-- What a step does to a run: its cursor stays or moves on; what it passes is covered; revisions are numbered from one and
no two snapshots share a cursor; an observer that is refused leaves cursors and snapshots as they are. -/
structure Attends (w : Wire) (c : SnapshotContract ω ρ) (runId : String) (s : ObservationState ω ρ) (i : ObservationEvent ω)
    (s' : ObservationState ω ρ) : Prop where
  forward : observationCursor s.tables runId ≤ observationCursor s'.tables runId
  guarded : Guarded runId s.tables s'.tables
  revisions : (snapshotsOf s'.tables runId).map SupervisorSnapshotRecord.revision =
    List.range' 1 (snapshotsOf s'.tables runId).length
  cursors : ((snapshotsOf s'.tables runId).map SupervisorSnapshotRecord.eventCursor).Nodup
  refused : ∀ k d p e, i = .step k d → s.observers[k]? = some p → (observerStep w c d p s.tables).1 = .error e →
    s'.tables.cursors = s.tables.cursors ∧ s'.tables.snapshots = s.tables.snapshots

theorem step_attends {runId : String} (h : Attentive s) (hplan : Planned runId s) (i : ObservationEvent ω) :
    Attends w.toWire c runId s i (observationStep w sha256 c s i) := by
  have hnext : Attentive (observationStep w sha256 c s i) := h.step i
  refine ⟨(step_writes w sha256 c s i).forward runId, step_guarded h hplan i, hnext.ordered.numbered runId,
    hnext.ordered.single runId, ?_⟩
  rintro k d p e rfl hk hrefused
  have hstep : (observationStep w sha256 c s (.step k d)).tables = (observerStep w.toWire c d p s.tables).2 := by
    simp only [observationStep, hk]
  rw [hstep]
  exact observer_refused hrefused

/-- **No material event of a run is skipped**: from any state that a history of calls, events and observers reaches and in
which the run has a plan, every step of every further history attends to the run. -/
theorem no_material_event_skipped (w : CustodyWire) (sha256 : Plan.RunPlan → String) (c : SnapshotContract ω ρ)
    (e : Elsewhere) (world : ω) (plans : Plan.Tables) (runId : String) (is js : List (ObservationEvent ω))
    (hplan : Planned runId (run (observationStep w sha256 c) (newObservationState e world plans) is)) :
    Along (observationStep w sha256 c) (fun s i => Attends w.toWire c runId s i (observationStep w sha256 c s i))
      (run (observationStep w sha256 c) (newObservationState e world plans) is) js := by
  have hstart : Attentive (run (observationStep w sha256 c) (newObservationState e world plans) is) := by
    refine Trace.invariant_of_step (P := fun _ _ => True) Attentive (fun s i h _ => h.step i)
      (attentive_new e world plans) ?_
    exact (Trace.along_iff _ _ _ _).2 (fun _ _ _ _ => trivial)
  refine Trace.along_of_step (P := fun _ _ => True) (fun s => Attentive s ∧ Planned runId s)
    (fun s i h _ => ⟨h.1.step i, h.2.step i⟩) (fun s i h _ => step_attends h.1 h.2 i) ⟨hstart, hplan⟩ ?_
  exact (Trace.along_iff _ _ _ _).2 (fun _ _ _ _ => trivial)

end Step

/-! ## A run that is observed -/

/-- A contract that builds the fields a snapshot is bound by, of a world with nothing else. -/
def plainContract : SnapshotContract Unit Unit where
  known := fun _ _ => true
  rest := fun _ _ => .ok ()
  build := fun id revision o _ _ _ cursor _ _ => .obj [("schema", .str "harness.supervisor-snapshot.v1"),
    ("snapshot_id", .str id), ("run_id", .str o.runId), ("revision", ofNat revision), ("event_cursor", ofInt cursor)]
  validate := fun _ => .ok ()

def plannedTables : Plan.Tables where
  runs := ["r"]
  consumed := []
  plans := ⟨[⟨"p1", "r", 1, "a1", ⟨"", "", []⟩, "", .proposed, 0, none, none⟩], List.nodup_singleton _⟩
  tasks := ∅
  dependencies := ∅

/-- Two events, the first of them material, and an observer that is not to wait. -/
def observedEvents : List (ObservationEvent Unit) :=
  [.store (.elsewhere nowhere (some ⟨0, some "r", "run", "r", "run.plan.revision_requested", 5, .obj []⟩)),
    .store (.elsewhere nowhere (some ⟨0, some "r", "run", "r", "run.telemetry", 6, .obj []⟩)),
    .observe ⟨.observeOnly, 60, 4096⟩ 1 "r" true] ++ List.replicate 5 (.step 0 ⟨firstDraw, 7, "s1", 8⟩)

theorem observed_run_attended :
    Planned "r" (newObservationState (ρ := Unit) nowhere () plannedTables) ∧
    Along (observationStep (tableWire [] [] []) (fun _ => "") plainContract)
      (fun s i => Attends (tableWire [] [] []).toWire plainContract "r" s i
        (observationStep (tableWire [] [] []) (fun _ => "") plainContract s i))
      (newObservationState nowhere () plannedTables) observedEvents ∧
    ((run (observationStep (tableWire [] [] []) (fun _ => "") plainContract)
      (newObservationState nowhere () plannedTables) observedEvents).tables.snapshots.rows.map
        (fun r => (r.revision, r.eventCursor))) = [(1, 2)] := by
  have hplan : Planned "r" (newObservationState (ρ := Unit) nowhere () plannedTables) :=
    ⟨⟨_, List.mem_singleton_self _, rfl⟩, fun _ hp => by cases hp⟩
  refine ⟨hplan, ?_, ?_⟩
  · exact no_material_event_skipped _ _ _ nowhere () plannedTables "r" [] observedEvents hplan
  · decide +kernel

end Control
end Bildr
