import Bildr.Plan
import Bildr.Snapshots
import Bildr.Supervision
/-!
# SupervisorObservation — from the events of a run to a supervisor snapshot

A capture reads, in one transaction, the events of a run beyond its observation cursor, ten thousand at most, with the rest
of what a supervisor is shown.  What is done with it is decided afterwards: events of which none is material only move the
cursor; material events wait until they have settled, unless a review is forced; then a snapshot is stored and the cursor
moves with it in one transaction.

The digest columns are left out, and so is the purge of a run.
-/
namespace Bildr
namespace Control

open Json (Value)

inductive SupervisorMode
  | disabled | observeOnly | shadow | advisory | activeLowRisk | active
deriving DecidableEq, Repr

structure SupervisionConfig where
  mode : SupervisorMode
  eventCoalesceSeconds : Nat
  maxSnapshotBytes : Nat

structure SupervisorSnapshotRecord where
  id : String
  runId : String
  revision : Nat
  eventCursor : Int
  triggerKind : String
  payload : Value
  byteLength : Nat
  createdAt : Int

structure ObservationCursor where
  runId : String
  lastEventCursor : Int

/-- `world` is what else a capture reads. -/
structure ObservationTables (ω : Type) where
  operator : OperatorTables
  world : ω
  plans : Plan.Tables
  snapshots : Table SupervisorSnapshotRecord.id
  cursors : Table ObservationCursor.runId

structure SupervisorObservationInput (ρ : Type) where
  runId : String
  cursor : Int
  events : List SourceEvent
  latestPlan : Option Plan.PlanRevision
  rest : ρ

/-- What is not embedded: which runs have a row, the reading of a run with its tasks, agents, consultations, tokens and
profile, the text of a snapshot, and the schema it is checked against. -/
structure SnapshotContract (ω ρ : Type) where
  known : ω → String → Bool
  rest : ω → String → Except StoreError ρ
  build : String → Nat → SupervisorObservationInput ρ → Plan.PlanRevision → List SourceEvent → ControlPlaneSnapshot → Int →
    SupervisionConfig → Nat → Value
  validate : Value → Except StoreError Unit

section
variable {ω ρ : Type}

/-! ## Capture -/

def maxEventsPerObservation : Nat := 10000

def observationCursor (t : ObservationTables ω) (runId : String) : Int :=
  ((t.cursors.get runId).map ObservationCursor.lastEventCursor).getD 0

def captureObservation (c : SnapshotContract ω ρ) (runId : String) (maxEvents : Nat) (t : ObservationTables ω) :
    Except StoreError (SupervisorObservationInput ρ) := do
  let rest ← c.rest t.world runId
  return ⟨runId, observationCursor t runId, (laterEvents t.operator.events runId (observationCursor t runId)).take maxEvents,
    Plan.latestPlan t.plans runId, rest⟩

def onControlPlane {α : Type} (c : Call OperatorTables α) : Call (ObservationTables ω) α :=
  within ObservationTables.operator (fun p t => { t with operator := p }) c

def captureBody (w : Wire) (c : SnapshotContract ω ρ) (d : SnapshotDraw) (runId : String) (maxEvents : Nat)
    (t : ObservationTables ω) :
    Except StoreError ((SupervisorObservationInput ρ × ControlPlaneSnapshot) × ObservationTables ω) := do
  let o ← captureObservation c runId maxEvents t
  let (s, operator) ← compileControlPlaneSnapshot w d.snapshotId d.now t.operator
  return ((o, s), { t with operator := operator })

def captureSupervisorObservationWithControlPlane (w : Wire) (c : SnapshotContract ω ρ) (d : SnapshotDraw) (runId : String)
    (maxEvents : Nat) : Call (ObservationTables ω) (SupervisorObservationInput ρ × ControlPlaneSnapshot) :=
  (onControlPlane (refreshControlPlaneProjections w d)).andThen (fun _ => transaction (captureBody w c d runId maxEvents))

/-! ## The two writers of the cursor -/

/-- `INSERT … ON CONFLICT(run_id) DO UPDATE SET last_event_cursor=max(last_event_cursor,excluded.last_event_cursor)`. -/
def upsertCursor (t : Table ObservationCursor.runId) (runId : String) (cursor : Int) :
    Except StoreError (Table ObservationCursor.runId) :=
  match t.get runId with
  | some _ => .ok (t.update (fun r => r.runId == runId)
      (fun r => { r with lastEventCursor := max r.lastEventCursor cursor }) (fun _ => rfl))
  | none   => insertRow t ⟨runId, cursor⟩

def advanceSupervisorObservationCursor (c : SnapshotContract ω ρ) (runId : String) (cursor : Int) :
    Call (ObservationTables ω) Unit := commit (fun t => do
  ensure (decide (0 ≤ cursor)) (.validation "supervisor observation cursor must be non-negative")
  require (c.known t.world runId)
  let cursors ← upsertCursor t.cursors runId cursor
  return { t with cursors := cursors })

def asInt64 : Value → Option Int
  | .num (.pos n) => if (n : Int) ≤ i64Max then some n else none
  | .num (.neg n) => some (-(n : Int))
  | _             => none

def snapshotBound (payload : Value) (id runId : String) (revision : Nat) (cursor : Int) : Bool :=
  textField payload "schema" == some "harness.supervisor-snapshot.v1" && textField payload "snapshot_id" == some id &&
    textField payload "run_id" == some runId && (payload.get "revision").bind Value.asU64 == some revision &&
    (payload.get "event_cursor").bind asInt64 == some cursor

/-- `coalesce(max(revision),0)+1` over the snapshots of a run. -/
def nextSnapshotRevision (t : Table SupervisorSnapshotRecord.id) (runId : String) : Nat :=
  Table.maxOf SupervisorSnapshotRecord.revision (t.rows.filter (fun r => r.runId == runId)) + 1

/-- `UNIQUE(run_id, revision)` and `UNIQUE(run_id, event_cursor)`. -/
def insertSupervisorSnapshot (t : Table SupervisorSnapshotRecord.id) (r : SupervisorSnapshotRecord) :
    Except StoreError (Table SupervisorSnapshotRecord.id) := do
  require (!t.rows.any (fun q => q.runId == r.runId && q.revision == r.revision))
  require (!t.rows.any (fun q => q.runId == r.runId && q.eventCursor == r.eventCursor))
  insertRow t r

def supervisorSnapshotBody (w : Wire) (c : SnapshotContract ω ρ) (runId : String) (cursor : Int) (trigger : String)
    (build : String → Nat → Except StoreError Value) (id : String) (now : Int) (t : ObservationTables ω) :
    Except StoreError (SupervisorSnapshotRecord × ObservationTables ω) := do
  ensure (decide (0 ≤ cursor) && !trigger.isEmpty && decide (trigger.utf8ByteSize ≤ 128))
    (.validation "supervisor snapshot cursor or trigger is invalid")
  match t.snapshots.rows.find? (fun r => r.runId == runId && r.eventCursor == cursor) with
  | some existing => do
    require (c.known t.world runId)
    let cursors ← upsertCursor t.cursors runId cursor
    return (existing, { t with cursors := cursors })
  | none => do
    let revision := nextSnapshotRevision t.snapshots runId
    let payload ← build id revision
    ensure (snapshotBound payload id runId revision cursor)
      (.validation "supervisor snapshot payload does not match its immutable envelope")
    require (c.known t.world runId)
    let r : SupervisorSnapshotRecord := ⟨id, runId, revision, cursor, trigger, payload, w.byteLength payload, now⟩
    let snapshots ← insertSupervisorSnapshot t.snapshots r
    let cursors ← upsertCursor t.cursors runId cursor
    return (r, { t with snapshots := snapshots, cursors := cursors })

def recordSupervisorSnapshot (w : Wire) (c : SnapshotContract ω ρ) (runId : String) (cursor : Int) (trigger : String)
    (build : String → Nat → Except StoreError Value) (id : String) (now : Int) :
    Call (ObservationTables ω) SupervisorSnapshotRecord :=
  transaction (supervisorSnapshotBody w c runId cursor trigger build id now)

/-! ## Observing a run -/

def materialOf (events : List SourceEvent) : List (SourceEvent × String) :=
  events.filterMap (fun e => (materialTrigger e).map (fun trigger => (e, trigger)))

def coalescing (config : SupervisionConfig) (force : Bool) (now : Int) (latest : SourceEvent) : Bool :=
  !force && decide (satI64 (now - latest.occurredAtMs) <
    clampI64 (min (config.eventCoalesceSeconds * 1000) 18446744073709551615))

/-- What a call draws: what a capture draws, the clock when it decides, the id of a new snapshot and when it is stored. -/
structure ObservationDraw where
  capture : SnapshotDraw
  now : Int
  snapshotId : String
  createdAt : Int

/-- The payload of a snapshot, checked against its schema and the size it may have. -/
def snapshotPayload (w : Wire) (c : SnapshotContract ω ρ) (config : SupervisionConfig) (maxThreadCount : Nat)
    (o : SupervisorObservationInput ρ) (plan : Plan.PlanRevision) (s : ControlPlaneSnapshot) (cursor : Int) (id : String)
    (revision : Nat) : Except StoreError Value := do
  let evidence := (((materialOf o.events).map Prod.fst).reverse.take 100).reverse
  let payload := c.build id revision o plan evidence s cursor config maxThreadCount
  c.validate payload
  ensure (decide (w.byteLength payload ≤ config.maxSnapshotBytes)) (.validation ("supervisor snapshot is " ++
    toString (w.byteLength payload) ++ " bytes, over configured " ++ toString config.maxSnapshotBytes ++ " byte bound"))
  return payload

def concludeObservation (w : Wire) (c : SnapshotContract ω ρ) (config : SupervisionConfig) (maxThreadCount : Nat)
    (force : Bool) (d : ObservationDraw) (o : SupervisorObservationInput ρ) (s : ControlPlaneSnapshot) :
    Call (ObservationTables ω) (Option SupervisorSnapshotRecord) :=
  match o.events.getLast? with
  | none      => Call.ret none
  | some last =>
    match (materialOf o.events).getLast? with
    | none                   => (advanceSupervisorObservationCursor c o.runId last.id).map (fun _ => none)
    | some (latest, trigger) =>
      if coalescing config force d.now latest then Call.ret none
      else match o.latestPlan with
        | none      => (advanceSupervisorObservationCursor c o.runId last.id).map (fun _ => none)
        | some plan => (recordSupervisorSnapshot w c o.runId last.id trigger
            (snapshotPayload w c config maxThreadCount o plan s last.id) d.snapshotId d.createdAt).map some

def observeRunWithForce (w : Wire) (c : SnapshotContract ω ρ) (config : SupervisionConfig) (maxThreadCount : Nat)
    (runId : String) (force : Bool) (d : ObservationDraw) : Call (ObservationTables ω) (Option SupervisorSnapshotRecord) :=
  match config.mode with
  | .disabled => Call.ret none
  | .observeOnly | .advisory =>
    (captureSupervisorObservationWithControlPlane w c d.capture runId maxEventsPerObservation).andThen
      (fun q => concludeObservation w c config maxThreadCount force d q.1 q.2)
  | _ => fun t => (.error (.validation "supervision mode is not enabled by the advisory runtime"), t)

def observeRun (w : Wire) (c : SnapshotContract ω ρ) (config : SupervisionConfig) (maxThreadCount : Nat) (runId : String)
    (d : ObservationDraw) : Call (ObservationTables ω) (Option SupervisorSnapshotRecord) :=
  observeRunWithForce w c config maxThreadCount runId false d

def observeRunNow (w : Wire) (c : SnapshotContract ω ρ) (config : SupervisionConfig) (maxThreadCount : Nat) (runId : String)
    (d : ObservationDraw) : Call (ObservationTables ω) (Option SupervisorSnapshotRecord) :=
  observeRunWithForce w c config maxThreadCount runId true d

end

end Control
end Bildr
