import Bildr.Calls
import Bildr.Json
import Bildr.Store
/-!
# Plan — plan revisions of a run

A run has numbered plan revisions; storing one supersedes those still under review and replaces their tasks.  Review
moves the latest revision between `PROPOSED`, `CERTIFIED` and `REVISION_REQUIRED`, approval releases its tasks.  Review
and approval read the latest revision under one lock and write it under another; `PlanCall` follows the locks.
-/
namespace Bildr
namespace Plan

inductive PlanState
  | proposed | certified | revisionRequired | superseded | approved
deriving DecidableEq, Repr

def PlanState.text : PlanState → String
  | .proposed         => "PROPOSED"
  | .certified        => "CERTIFIED"
  | .revisionRequired => "REVISION_REQUIRED"
  | .superseded       => "SUPERSEDED"
  | .approved         => "APPROVED"

/-- `state IN ('PROPOSED','CERTIFIED','REVISION_REQUIRED')`. -/
def PlanState.underReview (s : PlanState) : Bool :=
  decide (s = .proposed) || decide (s = .certified) || decide (s = .revisionRequired)

/-- The fields of a task packet the store reads; the others travel in `details`. -/
structure TaskPacket where
  taskId : String
  title : String
  priority : String
  ownerProfile : String
  reviewerProfile : String
  dependencyShas : List (String × String)
  dependsOn : List String
  objective : String
  details : Json.Value

structure RunPlan where
  schema : String
  summary : String
  tasks : List TaskPacket

/-- A row of `run_plan_revisions`. -/
structure PlanRevision where
  id : String
  runId : String
  revision : Nat
  architectAgentSessionId : String
  plan : RunPlan
  planSha256 : String
  state : PlanState
  createdAt : Int
  approvedAt : Option Int
  approvedBy : Option String

/-- A row of `tasks`. -/
structure TaskRow where
  id : String
  runId : String
  planRevisionId : String
  externalTaskId : String
  title : String
  objective : String
  priority : String
  ownerProfile : String
  reviewerProfile : String
  state : TaskState
  createdAt : Int
  updatedAt : Int
  version : Nat

structure TaskDependency where
  taskId : String
  dependsOnTaskId : String
  expectedDependencySha : Option String

def TaskDependency.key (d : TaskDependency) : String × String := (d.taskId, d.dependsOnTaskId)

/-- `consumed` are the tasks that a reconciliation proof refers to; they cannot be deleted. -/
structure Tables where
  runs : List String
  consumed : List String
  plans : Table PlanRevision.id
  tasks : Table TaskRow.id
  dependencies : Table TaskDependency.key

/-! ## Storing a plan -/

/-- `coalesce(max(revision),0)` over the revisions of a run. -/
def maxRevision (rows : List PlanRevision) (run : String) : Nat :=
  Table.maxOf PlanRevision.revision (rows.filter (fun p => p.runId == run))

/-- What `store_plan` is given, with the ids it generates. -/
structure StoreInput where
  run : String
  architect : String
  plan : RunPlan
  revisionId : String
  taskIds : Nat → String
  now : Int

def StoreInput.row (i : StoreInput) (sha256 : RunPlan → String) (revision : Nat) : PlanRevision :=
  ⟨i.revisionId, i.run, revision, i.architect, i.plan, sha256 i.plan, .proposed, i.now, none, none⟩

def superseded (p : PlanRevision) : PlanRevision := { p with state := .superseded }

theorem superseded_id (p : PlanRevision) : (superseded p).id = p.id := rfl

def replaced (t : Tables) (run : String) (k : TaskRow) : Bool :=
  k.runId == run && t.plans.rows.any (fun p => p.id == k.planRevisionId && p.runId == run && p.state.underReview)

def insertTask (i : StoreInput) (tasks : Table TaskRow.id) (q : TaskPacket × Nat) :
    Except StoreError (Table TaskRow.id) := do
  require (!tasks.rows.any (fun k => k.runId == i.run && k.externalTaskId == q.1.taskId))
  insertRow tasks ⟨i.taskIds q.2, i.run, i.revisionId, q.1.taskId, q.1.title, q.1.objective, q.1.priority,
    q.1.ownerProfile, q.1.reviewerProfile, .proposed, i.now, i.now, 1⟩

def StoreInput.taskIdOf (i : StoreInput) (externalId : String) : Option String :=
  (i.plan.tasks.zipIdx.find? (fun q => q.1.taskId == externalId)).map (fun q => i.taskIds q.2)

def insertDependencies (i : StoreInput) (ds : Table TaskDependency.key) (packet : TaskPacket) :
    Except StoreError (Table TaskDependency.key) := do
  let taskId ← okOr (i.taskIdOf packet.taskId)
    (.validation ("task " ++ packet.taskId ++ " disappeared while storing the plan"))
  packet.dependsOn.foldlM (fun ds external => do
    let dependencyId ← okOr (i.taskIdOf external)
      (.validation ("task " ++ packet.taskId ++ " depends on missing task " ++ external))
    require (taskId != dependencyId)
    insertRow ds ⟨taskId, dependencyId, packet.dependencyShas.lookup external⟩) ds

def storePlan (sha256 : RunPlan → String) (i : StoreInput) : Call Tables String :=
  transaction (fun t => do
    let revision := maxRevision t.plans.rows i.run + 1
    let gone := (t.tasks.rows.filter (replaced t i.run)).map TaskRow.id
    require (gone.all (fun k => !t.consumed.contains k))
    let kept := t.tasks.delete (replaced t i.run)
    let keptDependencies := t.dependencies.delete (fun d => gone.contains d.taskId || gone.contains d.dependsOnTaskId)
    let closed := t.plans.update (fun p => p.runId == i.run && p.state.underReview) superseded superseded_id
    require (t.runs.contains i.run && closed.rows.all (fun p => p.runId != i.run ||
      (p.revision != revision && p.planSha256 != sha256 i.plan)))
    let plans ← insertRow closed (i.row sha256 revision)
    let tasks ← i.plan.tasks.zipIdx.foldlM (insertTask i) kept
    let dependencies ← i.plan.tasks.foldlM (insertDependencies i) keptDependencies
    return (i.revisionId, { t with plans := plans, tasks := tasks, dependencies := dependencies }))

/-! ## Review and approval -/

/-- `WHERE run_id=? ORDER BY revision DESC LIMIT 1`. -/
def latestPlan (t : Tables) (run : String) : Option PlanRevision :=
  t.plans.rows.find? (fun p => p.runId == run && p.revision == maxRevision t.plans.rows run)

def latestIn (t : Tables) (run : String) (expected : PlanState) : Except StoreError PlanRevision := do
  let p ← okOr (latestPlan t run) (.notFound ("plan for run " ++ run))
  ensure (decide (p.state = expected)) (.conflict ("plan is " ++ p.state.text ++ ", not " ++ expected.text))
  return p

def approvedPlan (actor : String) (now : Int) (p : PlanRevision) : PlanRevision :=
  { p with state := .approved, approvedAt := some now, approvedBy := some actor }

theorem approvedPlan_id (actor : String) (now : Int) (p : PlanRevision) : (approvedPlan actor now p).id = p.id := rfl

def released (t : Tables) (now : Int) (k : TaskRow) : TaskRow :=
  { k with
    state := if t.dependencies.rows.any (fun d => d.taskId == k.id) then .waitingDependency else .ready
    updatedAt := now
    version := k.version + 1 }

theorem released_id (t : Tables) (now : Int) (k : TaskRow) : (released t now k).id = k.id := rfl

/-- The write transaction of `approve_latest_plan`: the revision by its id, in whatever state it is by now. -/
def writeApproval (revision actor : String) (now : Int) : Tables → Tables := fun t =>
  { t with
    plans := t.plans.update (fun p => p.id == revision) (approvedPlan actor now) (approvedPlan_id actor now)
    tasks := t.tasks.update (fun k => k.planRevisionId == revision) (released t now) (released_id t now) }

def inState (s : PlanState) (p : PlanRevision) : PlanRevision := { p with state := s }

theorem inState_id (s : PlanState) (p : PlanRevision) : (inState s p).id = p.id := rfl

/-- The update of `transition_latest_plan_state`, which asks for the expected state again. -/
def writeTransition (revision : String) (expected next : PlanState) : Call Tables Unit := fun t =>
  let hit := fun p : PlanRevision => p.id == revision && decide (p.state = expected)
  (ensure (t.plans.rows.countP hit == 1) (.conflict "plan changed during state transition"),
    { t with plans := t.plans.update hit (inState next) (inState_id next) })

/-! ## Calls in flight -/

inductive Request
  | store (i : StoreInput)
  | approve (run actor : String) (now : Int)
  | certify (run : String)
  | markRevisionRequired (run : String)
  | requestRevision (run : String)
  | reopen (run : String)

inductive Answer
  | unit
  | revision (id : String)

inductive Phase
  | start
  /-- `approve_latest_plan` has read a certified revision. -/
  | chosen (revision actor : String) (now : Int)
  /-- `transition_latest_plan_state` is about to read. -/
  | transition (run : String) (expected next : PlanState)
  | selected (revision : String) (expected next : PlanState)
  | done (r : Except StoreError Answer)

structure PlanCall where
  request : Request
  phase : Phase

/-- The first lock of `transition_latest_plan_state`. -/
def select (t : Tables) (run : String) (expected next : PlanState) : Phase :=
  match latestIn t run expected with
  | .error e => .done (.error e)
  | .ok p    => .selected p.id expected next

/-- The first lock of `request_latest_plan_revision`. -/
def selectRevision (t : Tables) (run : String) : Phase :=
  match latestPlan t run with
  | none   => .done (.error (.notFound ("plan for run " ++ run)))
  | some p =>
    match p.state with
    | .certified        => .transition run .certified .revisionRequired
    | .revisionRequired => .done (.ok .unit)
    | s                 => .done (.error (.conflict ("plan is " ++ s.text ++ ", not CERTIFIED or REVISION_REQUIRED")))

def begin (sha256 : RunPlan → String) (t : Tables) : Request → Tables × Phase
  | .store i =>
    let (r, t') := storePlan sha256 i t
    (t', .done (r.map Answer.revision))
  | .approve run actor now =>
    match latestIn t run .certified with
    | .error e => (t, .done (.error e))
    | .ok p    => (t, .chosen p.id actor now)
  | .certify run => (t, select t run .proposed .certified)
  | .markRevisionRequired run => (t, select t run .proposed .revisionRequired)
  | .requestRevision run => (t, selectRevision t run)
  | .reopen run => (t, select t run .certified .proposed)

def next (sha256 : RunPlan → String) (t : Tables) (c : PlanCall) : Tables × PlanCall :=
  match c.phase with
  | .start =>
    let (t', phase) := begin sha256 t c.request
    (t', { c with phase := phase })
  | .chosen revision actor now => (writeApproval revision actor now t, { c with phase := .done (.ok .unit) })
  | .transition run expected next => (t, { c with phase := select t run expected next })
  | .selected revision expected next =>
    let (r, t') := writeTransition revision expected next t
    (t', { c with phase := .done (r.map (fun _ => .unit)) })
  | .done _ => (t, c)

end Plan
end Bildr
