import Bildr.Conditions
import Bildr.Plan
/-!
# Topology — the graph of a run

`run_topology` lists a run, its tasks, their attempts and the agents and worktrees of those as nodes, each with an edge
from what it belongs to, and adds an edge for every dependency between tasks.  The tasks are read up to a limit; any
other node or edge beyond a limit is refused.  The graph is stored under the last event of the run, and whoever asks
while that event is the last one is answered with the stored graph.

Columns of tasks, attempts, agents and worktrees that the graph does not read are left out, and so are the rows that
`create_task_attempt` and `create_agent_session` add to `task_results` and `agent_runtime_details`.
-/
namespace Bildr
namespace Topology

open Control (SourceEvent Wire Digest invalidField validateIdentifier validateText validateDigest ofNat)
open Improvement (isSafeOperatorControlIdentifier token)
open Json (Value)
open Plan (RunPlan StoreInput TaskRow TaskDependency)

/-! ## The rows of the graph -/

/-- A row of `task_attempts`. -/
structure AttemptRow where
  id : String
  taskId : String
  attemptNumber : Int

/-- A row of `agent_sessions`. -/
structure AgentRow where
  id : String
  runId : String
  taskAttemptId : Option String
  parentAgentSessionId : Option String
  startedAt : Option Int

/-- A row of `worktrees`. -/
structure WorktreeRow where
  id : String
  runId : String
  taskAttemptId : Option String
  path : String
  createdAt : Int

structure TopologyNode where
  id : String
  kind : String
  sourceRef : String
deriving DecidableEq

structure TopologyEdge where
  fromNode : String
  toNode : String
  kind : String
  sourceRef : String
deriving DecidableEq

structure TopologySnapshot where
  schema : String
  snapshotId : String
  runId : String
  nodes : List TopologyNode
  edges : List TopologyEdge
  sourceCursor : Nat
  sha256 : String

/-- `topology_snapshots`; the other columns are fields of the payload. -/
def TopologySnapshot.id (s : TopologySnapshot) : String := s.snapshotId

structure TopologyTables where
  plans : Plan.Tables
  attempts : Table AttemptRow.id
  agents : Table AgentRow.id
  worktrees : Table WorktreeRow.id
  events : List SourceEvent
  snapshots : Table TopologySnapshot.id

/-! ## The writes -/

def AgentRow.detach (s : AgentRow) : AgentRow := { s with taskAttemptId := none }

theorem AgentRow.detach_id (s : AgentRow) : s.detach.id = s.id := rfl

def WorktreeRow.detach (r : WorktreeRow) : WorktreeRow := { r with taskAttemptId := none }

theorem WorktreeRow.detach_id (r : WorktreeRow) : r.detach.id = r.id := rfl

/-- A deleted task takes its attempts with it (`ON DELETE CASCADE`), and these let go of their agents and worktrees
(`ON DELETE SET NULL`). -/
def TopologyTables.withoutTasks (t : TopologyTables) (gone : List String) : TopologyTables :=
  let lost := (t.attempts.rows.filter (fun a => gone.contains a.taskId)).map AttemptRow.id
  { t with
    attempts := t.attempts.delete (fun a => gone.contains a.taskId)
    agents := t.agents.update (fun s => s.taskAttemptId.any lost.contains) AgentRow.detach AgentRow.detach_id
    worktrees := t.worktrees.update (fun r => r.taskAttemptId.any lost.contains) WorktreeRow.detach WorktreeRow.detach_id }

/-- `store_plan`, with what the deleted tasks take with them. -/
def storePlan (sha256 : RunPlan → String) (i : StoreInput) : Call TopologyTables String := fun t =>
  let gone := (t.plans.tasks.rows.filter (Plan.replaced t.plans i.run)).map TaskRow.id
  match Plan.storePlan sha256 i t.plans with
  | (.ok id, plans)   => (.ok id, { t.withoutTasks gone with plans := plans })
  | (.error e, _)     => (.error e, t)

def leased (now : Int) (k : TaskRow) : TaskRow :=
  { k with state := .leased, updatedAt := now, version := k.version + 1 }

theorem leased_id (now : Int) (k : TaskRow) : (leased now k).id = k.id := rfl

def createTaskAttempt (a : AttemptRow) (now : Int) : Call TopologyTables Unit :=
  commit (fun t => do
    require (t.plans.tasks.get a.taskId).isSome
    require (!t.attempts.rows.any (fun b => b.taskId == a.taskId && b.attemptNumber == a.attemptNumber))
    let attempts ← insertRow t.attempts a
    let tasks := t.plans.tasks.update (fun k => k.id == a.taskId) (leased now) (leased_id now)
    return { t with attempts := attempts, plans := { t.plans with tasks := tasks } })

def TopologyTables.hasAttempt (t : TopologyTables) (attemptId : Option String) : Bool :=
  attemptId.all (fun id => (t.attempts.get id).isSome)

def createAgentSession (s : AgentRow) : Call TopologyTables Unit :=
  commit (fun t => do
    require (t.plans.runs.contains s.runId && t.hasAttempt s.taskAttemptId)
    require (s.parentAgentSessionId.all (fun id => (t.agents.get id).isSome))
    let agents ← insertRow t.agents s
    return { t with agents := agents })

def createWorktree (r : WorktreeRow) : Call TopologyTables Unit :=
  commit (fun t => do
    require (t.plans.runs.contains r.runId && t.hasAttempt r.taskAttemptId)
    require (!t.worktrees.rows.any (fun q => q.path == r.path))
    let worktrees ← insertRow t.worktrees r
    return { t with worktrees := worktrees })

def appendDomainEvent (e : SourceEvent) : Call TopologyTables Unit :=
  commit (fun t => do
    require (e.runId.all t.plans.runs.contains)
    return { t with events := t.events ++ [{ e with id := Control.nextEventId t.events }] })

/-! ## Compiling the graph -/

structure Graph where
  nodes : List TopologyNode
  edges : List TopologyEdge

def topologyNodeLimit : Nat := 500

def topologyEdgeLimit : Nat := 2000

def addNode (g : Graph) (n : TopologyNode) : Except StoreError Graph := do
  ensure (decide (g.nodes.length < topologyNodeLimit)) (.validation "run topology exceeds its node limit")
  return { g with nodes := g.nodes ++ [n] }

def addEdge (g : Graph) (e : TopologyEdge) : Except StoreError Graph := do
  ensure (decide (g.edges.length < topologyEdgeLimit)) (.validation "run topology exceeds its edge limit")
  return { g with edges := g.edges ++ [e] }

def runNode (run : String) : TopologyNode := ⟨"run:" ++ run, "run", "run:" ++ run⟩

def taskNode (k : TaskRow) : TopologyNode := ⟨"task:" ++ k.id, "task", "task:" ++ k.externalTaskId⟩

def containsEdge (run : String) (k : TaskRow) : TopologyEdge :=
  ⟨"run:" ++ run, "task:" ++ k.id, "contains", "task:" ++ k.externalTaskId⟩

def ownedNode (kind id : String) : TopologyNode := ⟨kind ++ ":" ++ id, kind, kind ++ ":" ++ id⟩

def ownsEdge (owner ownerRef kind id : String) : TopologyEdge := ⟨owner, kind ++ ":" ++ id, "owns", ownerRef⟩

def dependsOnEdge (d : TaskDependency) : TopologyEdge :=
  ⟨"task:" ++ d.taskId, "task:" ++ d.dependsOnTaskId, "depends_on", "dependency:" ++ d.taskId ++ ":" ++ d.dependsOnTaskId⟩

def addOwned (owner ownerRef kind : String) (g : Graph) (id : String) : Except StoreError Graph := do
  let g ← addNode g (ownedNode kind id)
  addEdge g (ownsEdge owner ownerRef kind id)

/-- `ORDER BY external_task_id,id`. -/
def taskBefore (a b : TaskRow) : Bool :=
  decide (a.externalTaskId < b.externalTaskId) || (a.externalTaskId == b.externalTaskId && decide (a.id ≤ b.id))

/-- `ORDER BY attempt_number,id`. -/
def attemptBefore (a b : AttemptRow) : Bool :=
  decide (a.attemptNumber < b.attemptNumber) || (a.attemptNumber == b.attemptNumber && decide (a.id ≤ b.id))

/-- `ORDER BY coalesce(started_at,0),id`. -/
def agentBefore (a b : AgentRow) : Bool :=
  decide (a.startedAt.getD 0 < b.startedAt.getD 0) || (a.startedAt.getD 0 == b.startedAt.getD 0 && decide (a.id ≤ b.id))

/-- `ORDER BY created_at,id`. -/
def worktreeBefore (a b : WorktreeRow) : Bool :=
  decide (a.createdAt < b.createdAt) || (a.createdAt == b.createdAt && decide (a.id ≤ b.id))

/-- `ORDER BY d.task_id,d.depends_on_task_id`. -/
def dependencyBefore (a b : TaskDependency) : Bool :=
  decide (a.taskId < b.taskId) || (a.taskId == b.taskId && decide (a.dependsOnTaskId ≤ b.dependsOnTaskId))

def tasksOf (t : TopologyTables) (run : String) : List TaskRow :=
  (t.plans.tasks.rows.filter (fun k => k.runId == run)).insertionSort (fun a b => taskBefore a b = true)

def attemptsOf (t : TopologyTables) (task : String) : List AttemptRow :=
  (t.attempts.rows.filter (fun a => a.taskId == task)).insertionSort (fun a b => attemptBefore a b = true)

def agentsOf (t : TopologyTables) (attempt : String) : List AgentRow :=
  (t.agents.rows.filter (fun s => s.taskAttemptId == some attempt)).insertionSort (fun a b => agentBefore a b = true)

def worktreesOf (t : TopologyTables) (attempt : String) : List WorktreeRow :=
  (t.worktrees.rows.filter (fun r => r.taskAttemptId == some attempt)).insertionSort
    (fun a b => worktreeBefore a b = true)

/-- `task_dependencies d JOIN tasks t ON t.id=d.task_id WHERE t.run_id=?`. -/
def dependenciesOf (t : TopologyTables) (run : String) : List TaskDependency :=
  (t.plans.dependencies.rows.filter (fun d => (t.plans.tasks.get d.taskId).any (fun k => k.runId == run))).insertionSort
    (fun a b => dependencyBefore a b = true)

def addAttempt (t : TopologyTables) (k : TaskRow) (g : Graph) (a : AttemptRow) : Except StoreError Graph := do
  let attemptNode := "attempt:" ++ a.id
  let g ← addOwned ("task:" ++ k.id) ("task:" ++ k.externalTaskId) "attempt" g a.id
  let g ← ((agentsOf t a.id).map AgentRow.id).foldlM (addOwned attemptNode attemptNode "agent") g
  ((worktreesOf t a.id).map WorktreeRow.id).foldlM (addOwned attemptNode attemptNode "worktree") g

def compileTopology (t : TopologyTables) (run : String) : Except StoreError Graph := do
  let tasks := (tasksOf t run).take (topologyNodeLimit - 1)
  let g : Graph := ⟨runNode run :: tasks.map taskNode, tasks.map (containsEdge run)⟩
  let g ← tasks.foldlM (fun g k => (attemptsOf t k.id).foldlM (addAttempt t k) g) g
  (dependenciesOf t run).foldlM (fun g d => addEdge g (dependsOnEdge d)) g

/-! ## The stored graph -/

def TopologyNode.json (n : TopologyNode) : Value :=
  .obj [("id", .str n.id), ("kind", .str n.kind), ("source_ref", .str n.sourceRef)]

def TopologyEdge.json (e : TopologyEdge) : Value :=
  .obj [("from", .str e.fromNode), ("to", .str e.toNode), ("kind", .str e.kind), ("source_ref", .str e.sourceRef)]

def TopologySnapshot.json (s : TopologySnapshot) : Value :=
  .obj [("schema", .str s.schema), ("snapshot_id", .str s.snapshotId), ("run_id", .str s.runId),
    ("nodes", .arr (s.nodes.map TopologyNode.json)), ("edges", .arr (s.edges.map TopologyEdge.json)),
    ("source_cursor", ofNat s.sourceCursor), ("sha256", .str s.sha256)]

def TopologySnapshot.digest (w : Wire) (s : TopologySnapshot) : Digest := w.digestJson { s with sha256 := "" }.json

/-- At most `MAX_TOPOLOGY_IDENTIFIER_LEN` bytes: an identifier and the prefix `attempt:`. -/
def isTopologyIdentifier (value : String) : Bool := token ['_', '-', '.', ':'] 168 value

def validateTopologyIdentifier (value field : String) : Except StoreError Unit :=
  ensure (isTopologyIdentifier value) (invalidField field "must be a bounded path-safe topology identifier")

def TopologyNode.validate (n : TopologyNode) : Except StoreError Unit := do
  validateTopologyIdentifier n.id "topology node id"
  validateIdentifier n.kind "topology node kind"
  validateText n.sourceRef "topology node source ref" 512

def TopologyEdge.validate (ids : List String) (e : TopologyEdge) : Except StoreError Unit := do
  validateTopologyIdentifier e.fromNode "topology edge source"
  validateTopologyIdentifier e.toNode "topology edge destination"
  validateIdentifier e.kind "topology edge kind"
  validateText e.sourceRef "topology edge source ref" 512
  ensure (ids.contains e.fromNode && ids.contains e.toNode)
    (invalidField "topology edge endpoints" "must refer to included nodes")

def validateNodes : List String → List TopologyNode → Except StoreError (List String)
  | seen, []     => .ok seen
  | seen, n :: l => do
    n.validate
    ensure (!seen.contains n.id) (invalidField "topology nodes" "contains a duplicate node id")
    validateNodes (seen ++ [n.id]) l

def TopologySnapshot.validate (w : Wire) (s : TopologySnapshot) : Except StoreError Unit := do
  ensure (s.schema == "harness.run-topology.v1") (invalidField "topology schema" "must be harness.run-topology.v1")
  validateIdentifier s.snapshotId "topology snapshot id"
  validateIdentifier s.runId "topology run id"
  ensure (decide (s.nodes.length ≤ 1000) && decide (s.edges.length ≤ 4000))
    (invalidField "topology size" "exceeds the bounded node or edge limit")
  let ids ← validateNodes [] s.nodes
  s.edges.forM (TopologyEdge.validate ids)
  validateDigest s.sha256 (s.digest w) "topology sha256"

/-- `coalesce(max(id),0)` over the events of a run. -/
def sourceCursor (t : TopologyTables) (run : String) : Nat :=
  Table.maxOf SourceEvent.id (t.events.filter (fun e => e.runId == some run))

def storedTopology (t : TopologyTables) (run : String) : Option TopologySnapshot :=
  t.snapshots.rows.find? (fun s => s.runId == run && s.sourceCursor == sourceCursor t run)

def unsignedTopology (t : TopologyTables) (run id : String) (g : Graph) : TopologySnapshot where
  schema := "harness.run-topology.v1"
  snapshotId := id
  runId := run
  nodes := g.nodes
  edges := g.edges
  sourceCursor := sourceCursor t run
  sha256 := ""

def topologyOf (w : Wire) (t : TopologyTables) (run id : String) (g : Graph) : TopologySnapshot :=
  { unsignedTopology t run id g with sha256 := ((unsignedTopology t run id g).digest w).hex }

def checkedTopologyRow (w : Wire) (s : TopologySnapshot) : Except StoreError TopologySnapshot := do
  ensure (s.validate w).isOk (.sqlite .fromSqlConversionFailure)
  return s

/-- `run_topology`; `id` is the drawn snapshot id. -/
def runTopology (w : Wire) (run id : String) : Call TopologyTables TopologySnapshot :=
  transaction (fun t => do
    ensure (isSafeOperatorControlIdentifier run)
      (.validation "topology run id must be a bounded path-safe identifier")
    ensure (t.plans.runs.contains run) (.notFound ("run " ++ run))
    match storedTopology t run with
    | some s =>
      let s ← checkedTopologyRow w s
      return (s, t)
    | none   =>
      let g ← compileTopology t run
      let s := topologyOf w t run id g
      s.validate w
      let snapshots ← insertRow t.snapshots s
      return (s, { t with snapshots := snapshots }))

end Topology
end Bildr
