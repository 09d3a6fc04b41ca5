import Bildr.Snapshots
/-!
# ReturnViews — what an operator who comes back is shown

A view is a snapshot together with the events since the operator's acknowledgement.  The snapshot is compiled under one
lock and the acknowledgement is read under the next.  An acknowledgement names the newest snapshot, goes no further than
its event cursor and never back.
-/
namespace Bildr
namespace Control

open Improvement (isSafeOperatorControlIdentifier)
open Json (Value)

/-- A row of `return_view_cursors`. -/
structure ReturnViewCursor where
  operatorId : String
  acknowledgedCursor : Nat
  expectedSnapshotRevision : Nat
deriving DecidableEq, Repr

abbrev ReturnViewCursors := Table ReturnViewCursor.operatorId

structure ReturnView where
  schema : String
  returnViewId : String
  snapshotId : String
  snapshotRevision : Nat
  eventCursor : Nat
  acknowledgedCursor : Nat
  sections : List (String × SnapshotSection)
  sha256 : String

def validateOperatorId (operatorId : String) : Except StoreError Unit :=
  ensure (isSafeOperatorControlIdentifier operatorId)
    (.validation "operator id must be a bounded path-safe identifier")

/-! ## The events since the acknowledgement -/

def returnChangeRowLimit : Nat := 100

def SourceEvent.row (e : SourceEvent) : Value :=
  .obj [("aggregate_id", .str e.aggregateId), ("aggregate_type", .str e.aggregateType), ("event_id", ofNat e.id),
    ("event_type", .str e.eventType), ("occurred_at_ms", ofInt e.occurredAtMs), ("run_id", ofOption .str e.runId)]

def eventsBetween (events : List SourceEvent) (acknowledged snapshot : Nat) : List SourceEvent :=
  events.filter (fun e => decide (acknowledged < e.id) && decide (e.id ≤ snapshot))

def acknowledgementIsNewer : StoreError :=
  .validation "return view acknowledgement cursor is newer than the bound snapshot"

def controllerEventRows (events : List SourceEvent) (acknowledgedCursor snapshotCursor : Nat) :
    Except StoreError SnapshotSection := do
  let _ ← toI64 acknowledgedCursor "return view acknowledged cursor"
  let _ ← toI64 snapshotCursor "return view snapshot cursor"
  ensure (decide (acknowledgedCursor ≤ snapshotCursor)) acknowledgementIsNewer
  let found := eventsBetween events acknowledgedCursor snapshotCursor
  return ⟨.current,
    ((found.insertionSort (fun a b => a.id ≤ b.id)).take returnChangeRowLimit).map SourceEvent.row,
    snapshotCursor, decide (returnChangeRowLimit < found.length),
    some ("Chronological controller events since the last acknowledgement; the separate progress section contains only " ++
      "classifier-approved material changes.")⟩

/-! ## The view -/

def viewSections (s : ControlPlaneSnapshot) (changes : SnapshotSection) : List (String × SnapshotSection) :=
  (("material_changes", changes) :: s.sections).insertionSort (fun a b => a.1 ≤ b.1)

def ReturnView.json (v : ReturnView) : Value :=
  .obj [("schema", .str v.schema), ("return_view_id", .str v.returnViewId), ("snapshot_id", .str v.snapshotId),
    ("snapshot_revision", ofNat v.snapshotRevision), ("event_cursor", ofNat v.eventCursor),
    ("acknowledged_cursor", ofNat v.acknowledgedCursor),
    ("sections", .obj (v.sections.map (fun x => (x.1, x.2.json)))), ("sha256", .str v.sha256)]

def ReturnView.digest (w : Wire) (v : ReturnView) : Digest := w.digestJson { v with sha256 := "" }.json

def acknowledgement (cursors : ReturnViewCursors) (operatorId : String) (s : ControlPlaneSnapshot) : ReturnViewCursor :=
  (cursors.get operatorId).getD ⟨operatorId, 0, s.revision⟩

/-- The second lock of a view: the acknowledgement and the events are read. -/
def bindView (w : Wire) (viewId operatorId : String) (s : ControlPlaneSnapshot) (cursors : ReturnViewCursors)
    (events : List SourceEvent) : Except StoreError ReturnView := do
  let c := acknowledgement cursors operatorId s
  let changes ← controllerEventRows events c.acknowledgedCursor s.eventCursor
  let v : ReturnView := ⟨"harness.return-view.v1", viewId, s.snapshotId, s.revision, s.eventCursor, c.acknowledgedCursor,
    viewSections s changes, ""⟩
  return { v with sha256 := (v.digest w).hex }

structure ViewTables where
  operator : OperatorTables
  cursors : ReturnViewCursors

def onOperator {α : Type} (c : Call OperatorTables α) : Call ViewTables α :=
  within ViewTables.operator (fun p t => { t with operator := p }) c

def controlPlaneReturnView (w : Wire) (viewId operatorId : String) (d : SnapshotDraw) : Call ViewTables ReturnView :=
  Call.andThen (fun t => (validateOperatorId operatorId, t)) (fun _ =>
    (onOperator (controlPlaneSnapshot w d)).andThen (fun s t =>
      (bindView w viewId operatorId s t.cursors t.operator.events, t)))

/-! ## Acknowledging -/

/-- `ORDER BY revision DESC LIMIT 1`. -/
def latestSnapshot (t : Table SnapshotRow.id) : Option SnapshotRow :=
  (t.rows.insertionSort (fun a b => b.payload.revision ≤ a.payload.revision)).head?

/-- `INSERT … ON CONFLICT(operator_id) DO UPDATE`. -/
def writeCursor (t : ReturnViewCursors) (c : ReturnViewCursor) : Except StoreError ReturnViewCursors :=
  if (t.get c.operatorId).isSome then
    .ok (t.update (fun r => r.operatorId == c.operatorId) (fun r =>
      { r with
        acknowledgedCursor := c.acknowledgedCursor, expectedSnapshotRevision := c.expectedSnapshotRevision })
      (fun _ => rfl))
  else insertRow t c

def advanceBody (operatorId : String) (expectedSnapshotRevision acknowledgedCursor : Nat) (t : ViewTables) :
    Except StoreError (ReturnViewCursor × ViewTables) := do
  validateOperatorId operatorId
  let _ ← toI64 expectedSnapshotRevision "return view expected snapshot revision"
  let _ ← toI64 acknowledgedCursor "return view acknowledged cursor"
  let latest ← queryRow (latestSnapshot t.operator.snapshots)
  ensure (latest.payload.revision == expectedSnapshotRevision)
    (.conflict "return view snapshot changed; refresh before acknowledging it")
  ensure ((t.cursors.get operatorId).all (fun c => decide (c.acknowledgedCursor ≤ acknowledgedCursor)))
    (.conflict "return view acknowledgement cursor cannot move backwards")
  ensure (decide (acknowledgedCursor ≤ latest.payload.eventCursor))
    (.validation "return view acknowledgement cursor exceeds the bound snapshot cursor")
  let cursors ← writeCursor t.cursors ⟨operatorId, acknowledgedCursor, expectedSnapshotRevision⟩
  return (⟨operatorId, acknowledgedCursor, expectedSnapshotRevision⟩, { t with cursors := cursors })

def advanceReturnViewCursor (operatorId : String) (expectedSnapshotRevision acknowledgedCursor : Nat) :
    Call ViewTables ReturnViewCursor :=
  transaction (advanceBody operatorId expectedSnapshotRevision acknowledgedCursor)

end Control
end Bildr
