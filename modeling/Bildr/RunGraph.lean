import Bildr.ProgressProjection
import Bildr.Topology
/-!
# RunGraph — what the graph of a run shows

The graph is of the run, its tasks and what these own (`IsNode`, `IsEdge`).  A graph compiled within its limits, of at most
499 tasks, shows exactly that (`compile_shows`).  A stored graph is answered as long as the run has no new event, so it
shows the run only if what it is of did not change since (`Answerable`); under that condition every answer along a run
is a limit error or the graph as it is (`topology_shows_run`).
-/
namespace Bildr
namespace Topology

open Control (SourceEvent Wire Digest validateIdentifier validateText validateDigest)
open Improvement (isSafeOperatorControlIdentifier token)
open Plan (RunPlan StoreInput TaskRow TaskDependency)
open Trace (Along run)

/-! ## What the graph is of -/

section Relations
variable (t : TopologyTables) (id : String)

def TaskOf (k : TaskRow) : Prop := k ∈ t.plans.tasks.rows ∧ k.runId = id

def AttemptOf (k : TaskRow) (a : AttemptRow) : Prop := TaskOf t id k ∧ a ∈ t.attempts.rows ∧ a.taskId = k.id

def AgentOf (a : AttemptRow) (s : AgentRow) : Prop :=
  (∃ k, AttemptOf t id k a) ∧ s ∈ t.agents.rows ∧ s.taskAttemptId = some a.id

def WorktreeOf (a : AttemptRow) (r : WorktreeRow) : Prop :=
  (∃ k, AttemptOf t id k a) ∧ r ∈ t.worktrees.rows ∧ r.taskAttemptId = some a.id

inductive IsNode : TopologyNode → Prop
  | run : IsNode (runNode id)
  | task {k : TaskRow} : TaskOf t id k → IsNode (taskNode k)
  | attempt {k : TaskRow} {a : AttemptRow} : AttemptOf t id k a → IsNode (ownedNode "attempt" a.id)
  | agent {a : AttemptRow} {s : AgentRow} : AgentOf t id a s → IsNode (ownedNode "agent" s.id)
  | worktree {a : AttemptRow} {r : WorktreeRow} : WorktreeOf t id a r → IsNode (ownedNode "worktree" r.id)

inductive IsEdge : TopologyEdge → Prop
  | contains {k : TaskRow} : TaskOf t id k → IsEdge (containsEdge id k)
  | attempt {k : TaskRow} {a : AttemptRow} : AttemptOf t id k a →
      IsEdge (ownsEdge ("task:" ++ k.id) ("task:" ++ k.externalTaskId) "attempt" a.id)
  | agent {a : AttemptRow} {s : AgentRow} : AgentOf t id a s →
      IsEdge (ownsEdge ("attempt:" ++ a.id) ("attempt:" ++ a.id) "agent" s.id)
  | worktree {a : AttemptRow} {r : WorktreeRow} : WorktreeOf t id a r →
      IsEdge (ownsEdge ("attempt:" ++ a.id) ("attempt:" ++ a.id) "worktree" r.id)
  | dependsOn {k : TaskRow} {d : TaskDependency} : TaskOf t id k → d ∈ t.plans.dependencies.rows → d.taskId = k.id →
      IsEdge (dependsOnEdge d)

/-- **A snapshot that shows the run**: exactly its nodes, each once, and exactly the edges between them. -/
structure Shows (s : TopologySnapshot) : Prop where
  ofRun : s.runId = id
  nodes : ∀ n, n ∈ s.nodes ↔ IsNode t id n
  once : (s.nodes.map TopologyNode.id).Nodup
  edges : ∀ e, e ∈ s.edges ↔ IsEdge t id e
  edgesOnce : s.edges.Nodup

end Relations

def Joined (p : Plan.Tables) : Prop :=
  ∀ d ∈ p.dependencies.rows, ∃ k ∈ p.tasks.rows, ∃ k' ∈ p.tasks.rows,
    k.id = d.taskId ∧ k'.id = d.dependsOnTaskId ∧ k.runId = k'.runId

/-! ## Compiling, node by node -/

theorem foldlM_flatMap {ε α β γ : Type} (f : β → List γ) (g : α → γ → Except ε α) :
    ∀ (l : List β) (a : α), (l.flatMap f).foldlM g a = l.foldlM (fun a b => (f b).foldlM g a) a
  | [], _ => rfl
  | b :: l, a => by
    rw [List.flatMap_cons, List.foldlM_append, List.foldlM_cons]
    exact congrArg _ (funext (fun a' => foldlM_flatMap f g l a'))

abbrev Entry := TopologyNode × TopologyEdge

def addEntry (g : Graph) (p : Entry) : Except StoreError Graph := addNode g p.1 >>= fun g => addEdge g p.2

def ownedEntry (owner ownerRef kind id : String) : Entry := (ownedNode kind id, ownsEdge owner ownerRef kind id)

def heldEntries (t : TopologyTables) (attempt : String) : List Entry :=
  (agentsOf t attempt).map (fun s => ownedEntry ("attempt:" ++ attempt) ("attempt:" ++ attempt) "agent" s.id) ++
    (worktreesOf t attempt).map (fun r => ownedEntry ("attempt:" ++ attempt) ("attempt:" ++ attempt) "worktree" r.id)

def attemptEntries (t : TopologyTables) (k : TaskRow) (a : AttemptRow) : List Entry :=
  ownedEntry ("task:" ++ k.id) ("task:" ++ k.externalTaskId) "attempt" a.id :: heldEntries t a.id

def taskEntries (t : TopologyTables) (k : TaskRow) : List Entry := (attemptsOf t k.id).flatMap (attemptEntries t k)

def listedTasks (t : TopologyTables) (id : String) : List TaskRow := (tasksOf t id).take (topologyNodeLimit - 1)

def ownedEntries (t : TopologyTables) (id : String) : List Entry := (listedTasks t id).flatMap (taskEntries t)

theorem addAttempt_eq (t : TopologyTables) (k : TaskRow) (g : Graph) (a : AttemptRow) :
    addAttempt t k g a = (attemptEntries t k a).foldlM addEntry g := by
  unfold addAttempt attemptEntries heldEntries
  simp only [List.foldlM_cons, List.foldlM_append, List.foldlM_map]
  rfl

theorem compile_eq (t : TopologyTables) (id : String) :
    compileTopology t id =
      ((ownedEntries t id).foldlM addEntry ⟨runNode id :: (listedTasks t id).map taskNode,
        (listedTasks t id).map (containsEdge id)⟩ >>= fun g =>
      ((dependenciesOf t id).map dependsOnEdge).foldlM addEdge g) := by
  have htask : (fun g k => (attemptsOf t k.id).foldlM (addAttempt t k) g) =
      fun (g : Graph) (k : TaskRow) => (taskEntries t k).foldlM addEntry g := by
    funext g k
    unfold taskEntries
    rw [foldlM_flatMap]
    congr 1
    funext g' a
    exact addAttempt_eq t k g' a
  unfold compileTopology ownedEntries
  simp only [htask, foldlM_flatMap, List.foldlM_map]
  rfl

/-! ## The limits -/

def nodeLimitError : StoreError := .validation "run topology exceeds its node limit"

def edgeLimitError : StoreError := .validation "run topology exceeds its edge limit"

theorem addEntries_cases : ∀ (l : List Entry) (g : Graph), g.edges.length < g.nodes.length →
    (l.foldlM addEntry g = .ok ⟨g.nodes ++ l.map Prod.fst, g.edges ++ l.map Prod.snd⟩ ∧
      (l = [] ∨ g.nodes.length + l.length ≤ 500)) ∨
    (l.foldlM addEntry g = .error nodeLimitError ∧ l ≠ [] ∧ 500 < g.nodes.length + l.length)
  | [], g, _ => Or.inl ⟨by simp, Or.inl rfl⟩
  | p :: l, g, h => by
    rw [List.foldlM_cons]
    by_cases hn : g.nodes.length < 500
    · have hadd : addEntry g p = .ok ⟨g.nodes ++ [p.1], g.edges ++ [p.2]⟩ := by
        unfold addEntry addNode addEdge
        have he : g.edges.length < 2000 := by omega
        simp only [topologyNodeLimit, topologyEdgeLimit, hn, he, decide_true, ensure_true, ok_bind, pure_ok]
      rw [hadd, ok_bind]
      rcases addEntries_cases l ⟨g.nodes ++ [p.1], g.edges ++ [p.2]⟩ (by simp; omega) with ⟨hok, hlen⟩ | ⟨herr, hne, hlen⟩
      · refine Or.inl ⟨by rw [hok]; simp, Or.inr ?_⟩
        rcases hlen with rfl | hlen
        · simp; omega
        · simp at hlen ⊢; omega
      · refine Or.inr ⟨herr, by simp, ?_⟩
        simp at hlen ⊢; omega
    · refine Or.inr ⟨?_, by simp, by simp; omega⟩
      unfold addEntry addNode
      simp only [topologyNodeLimit, hn, decide_false, ensure_false, error_bind]
      rfl

theorem addEdges_cases : ∀ (l : List TopologyEdge) (g : Graph),
    (l.foldlM addEdge g = .ok ⟨g.nodes, g.edges ++ l⟩ ∧ (l = [] ∨ g.edges.length + l.length ≤ 2000)) ∨
    (l.foldlM addEdge g = .error edgeLimitError ∧ l ≠ [] ∧ 2000 < g.edges.length + l.length)
  | [], g => Or.inl ⟨by simp, Or.inl rfl⟩
  | e :: l, g => by
    rw [List.foldlM_cons]
    by_cases he : g.edges.length < 2000
    · have hadd : addEdge g e = .ok ⟨g.nodes, g.edges ++ [e]⟩ := by
        unfold addEdge
        simp only [topologyEdgeLimit, he, decide_true, ensure_true, ok_bind, pure_ok]
      rw [hadd, ok_bind]
      rcases addEdges_cases l ⟨g.nodes, g.edges ++ [e]⟩ with ⟨hok, hlen⟩ | ⟨herr, hne, hlen⟩
      · refine Or.inl ⟨by rw [hok]; simp, Or.inr ?_⟩
        rcases hlen with rfl | hlen
        · simp; omega
        · simp at hlen ⊢; omega
      · refine Or.inr ⟨herr, by simp, ?_⟩
        simp at hlen ⊢; omega
    · refine Or.inr ⟨?_, by simp, by simp; omega⟩
      unfold addEdge
      simp only [topologyEdgeLimit, he, decide_false, ensure_false, error_bind]
      rfl

def compiled (t : TopologyTables) (id : String) : Graph :=
  ⟨runNode id :: (listedTasks t id).map taskNode ++ (ownedEntries t id).map Prod.fst,
    (listedTasks t id).map (containsEdge id) ++ (ownedEntries t id).map Prod.snd ++
      (dependenciesOf t id).map dependsOnEdge⟩

/-- What is beyond a limit: the tasks that are read are not counted on their own. -/
def OverLimit (t : TopologyTables) (id : String) : Prop :=
  (ownedEntries t id ≠ [] ∧ 500 < 1 + (listedTasks t id).length + (ownedEntries t id).length) ∨
    2000 < (listedTasks t id).length + (ownedEntries t id).length + (dependenciesOf t id).length

theorem length_listedTasks (t : TopologyTables) (id : String) : (listedTasks t id).length ≤ 499 := by
  unfold listedTasks topologyNodeLimit
  rw [List.length_take]
  omega

/-- **Compiling** fails with one of the two limits, or adds everything. -/
theorem compile_cases (t : TopologyTables) (id : String) :
    (compileTopology t id = .ok (compiled t id) ∧ (compiled t id).nodes.length ≤ 500 ∧
      (compiled t id).edges.length ≤ 2000 ∧ ¬ OverLimit t id) ∨
    (compileTopology t id = .error nodeLimitError ∨ compileTopology t id = .error edgeLimitError) ∧ OverLimit t id := by
  have hlist := length_listedTasks t id
  rw [compile_eq]
  rcases addEntries_cases (ownedEntries t id) ⟨runNode id :: (listedTasks t id).map taskNode,
    (listedTasks t id).map (containsEdge id)⟩ (by simp) with ⟨hok, hnodes⟩ | ⟨herr, hne, hlen⟩
  · rw [hok, ok_bind]
    have howned : 1 + (listedTasks t id).length + (ownedEntries t id).length ≤ 500 := by
      rcases hnodes with hnil | hnodes
      · rw [hnil]
        simp; omega
      · simp only [List.length_cons, List.length_map] at hnodes
        omega
    rcases addEdges_cases ((dependenciesOf t id).map dependsOnEdge)
      ⟨runNode id :: (listedTasks t id).map taskNode ++ (ownedEntries t id).map Prod.fst,
        (listedTasks t id).map (containsEdge id) ++ (ownedEntries t id).map Prod.snd⟩ with ⟨hdeps, hedges⟩ | ⟨hdeps, -, hlen⟩
    · have htotal : (listedTasks t id).length + (ownedEntries t id).length + (dependenciesOf t id).length ≤ 2000 := by
        rcases hedges with hnil | hedges
        · rw [List.map_eq_nil_iff.1 hnil]
          simp; omega
        · simp only [List.length_append, List.length_map] at hedges
          omega
      refine Or.inl ⟨hdeps, ?_, ?_, ?_⟩
      · simp only [compiled, List.length_append, List.length_cons, List.length_map]
        omega
      · simp only [compiled, List.length_append, List.length_map]
        omega
      · rintro (⟨-, hover⟩ | hover)
        · omega
        · omega
    · refine Or.inr ⟨Or.inr hdeps, Or.inr ?_⟩
      simp only [List.length_append, List.length_map] at hlen
      omega
  · refine Or.inr ⟨Or.inl (by rw [herr, error_bind]), Or.inl ⟨hne, ?_⟩⟩
    simp only [List.length_cons, List.length_map] at hlen
    omega

/-! ## What is compiled -/

section Members
variable {t : TopologyTables} {id : String}

theorem mem_tasksOf {k : TaskRow} : k ∈ tasksOf t id ↔ TaskOf t id k := by
  unfold tasksOf TaskOf
  rw [List.mem_insertionSort, List.mem_filter, beq_iff_eq]

theorem mem_attemptsOf {task : String} {a : AttemptRow} :
    a ∈ attemptsOf t task ↔ a ∈ t.attempts.rows ∧ a.taskId = task := by
  unfold attemptsOf
  rw [List.mem_insertionSort, List.mem_filter, beq_iff_eq]

theorem mem_agentsOf {attempt : String} {s : AgentRow} :
    s ∈ agentsOf t attempt ↔ s ∈ t.agents.rows ∧ s.taskAttemptId = some attempt := by
  unfold agentsOf
  rw [List.mem_insertionSort, List.mem_filter, beq_iff_eq]

theorem mem_worktreesOf {attempt : String} {r : WorktreeRow} :
    r ∈ worktreesOf t attempt ↔ r ∈ t.worktrees.rows ∧ r.taskAttemptId = some attempt := by
  unfold worktreesOf
  rw [List.mem_insertionSort, List.mem_filter, beq_iff_eq]

theorem mem_dependenciesOf {d : TaskDependency} :
    d ∈ dependenciesOf t id ↔ d ∈ t.plans.dependencies.rows ∧ ∃ k, TaskOf t id k ∧ d.taskId = k.id := by
  unfold dependenciesOf TaskOf
  rw [List.mem_insertionSort, List.mem_filter, Option.any_eq_true]
  refine and_congr_right (fun _ => exists_congr (fun k => ?_))
  rw [Table.get_some, beq_iff_eq]
  constructor
  · rintro ⟨⟨hk, hid⟩, hrun⟩
    exact ⟨⟨hk, hrun⟩, hid.symm⟩
  · rintro ⟨⟨hk, hrun⟩, hid⟩
    exact ⟨⟨hk, hid.symm⟩, hrun⟩

theorem mem_heldEntries {attempt : String} {p : Entry} : p ∈ heldEntries t attempt ↔
    (∃ s, (s ∈ t.agents.rows ∧ s.taskAttemptId = some attempt) ∧
      p = ownedEntry ("attempt:" ++ attempt) ("attempt:" ++ attempt) "agent" s.id) ∨
    ∃ r, (r ∈ t.worktrees.rows ∧ r.taskAttemptId = some attempt) ∧
      p = ownedEntry ("attempt:" ++ attempt) ("attempt:" ++ attempt) "worktree" r.id := by
  unfold heldEntries
  rw [List.mem_append, List.mem_map, List.mem_map]
  simp only [mem_agentsOf, mem_worktreesOf, eq_comm]

theorem mem_ownedEntries (hall : listedTasks t id = tasksOf t id) {p : Entry} : p ∈ ownedEntries t id ↔
    (∃ k a, AttemptOf t id k a ∧ p = ownedEntry ("task:" ++ k.id) ("task:" ++ k.externalTaskId) "attempt" a.id) ∨
    (∃ a s, AgentOf t id a s ∧ p = ownedEntry ("attempt:" ++ a.id) ("attempt:" ++ a.id) "agent" s.id) ∨
    ∃ a r, WorktreeOf t id a r ∧ p = ownedEntry ("attempt:" ++ a.id) ("attempt:" ++ a.id) "worktree" r.id := by
  unfold ownedEntries taskEntries attemptEntries
  simp only [hall, List.mem_flatMap, List.mem_cons, mem_tasksOf, mem_attemptsOf, mem_heldEntries]
  constructor
  · rintro ⟨k, hk, a, ha, rfl | ⟨s, hs, rfl⟩ | ⟨r, hr, rfl⟩⟩
    · exact Or.inl ⟨k, a, ⟨hk, ha⟩, rfl⟩
    · exact Or.inr (Or.inl ⟨a, s, ⟨⟨k, hk, ha⟩, hs⟩, rfl⟩)
    · exact Or.inr (Or.inr ⟨a, r, ⟨⟨k, hk, ha⟩, hr⟩, rfl⟩)
  · rintro (⟨k, a, ⟨hk, ha⟩, rfl⟩ | ⟨a, s, ⟨⟨k, hk, ha⟩, hs⟩, rfl⟩ | ⟨a, r, ⟨⟨k, hk, ha⟩, hr⟩, rfl⟩)
    · exact ⟨k, hk, a, ha, Or.inl rfl⟩
    · exact ⟨k, hk, a, ha, Or.inr (Or.inl ⟨s, hs, rfl⟩)⟩
    · exact ⟨k, hk, a, ha, Or.inr (Or.inr ⟨r, hr, rfl⟩)⟩

theorem compiled_nodes (hall : listedTasks t id = tasksOf t id) (n : TopologyNode) :
    n ∈ (compiled t id).nodes ↔ IsNode t id n := by
  simp only [compiled, hall, List.cons_append, List.mem_cons, List.mem_append, List.mem_map, mem_tasksOf,
    mem_ownedEntries hall]
  constructor
  · rintro (rfl | ⟨k, hk, rfl⟩ | ⟨p, ⟨k, a, ha, rfl⟩ | ⟨a, s, hs, rfl⟩ | ⟨a, r, hr, rfl⟩, rfl⟩)
    · exact IsNode.run
    · exact IsNode.task hk
    · exact IsNode.attempt ha
    · exact IsNode.agent hs
    · exact IsNode.worktree hr
  · intro h
    cases h with
    | run => exact Or.inl rfl
    | task hk => exact Or.inr (Or.inl ⟨_, hk, rfl⟩)
    | attempt ha => exact Or.inr (Or.inr ⟨_, Or.inl ⟨_, _, ha, rfl⟩, rfl⟩)
    | agent hs => exact Or.inr (Or.inr ⟨_, Or.inr (Or.inl ⟨_, _, hs, rfl⟩), rfl⟩)
    | worktree hr => exact Or.inr (Or.inr ⟨_, Or.inr (Or.inr ⟨_, _, hr, rfl⟩), rfl⟩)

theorem compiled_edges (hall : listedTasks t id = tasksOf t id) (e : TopologyEdge) :
    e ∈ (compiled t id).edges ↔ IsEdge t id e := by
  simp only [compiled, hall, List.mem_append, List.mem_map, mem_tasksOf, mem_ownedEntries hall, mem_dependenciesOf]
  constructor
  · rintro ((⟨k, hk, rfl⟩ | ⟨p, ⟨k, a, ha, rfl⟩ | ⟨a, s, hs, rfl⟩ | ⟨a, r, hr, rfl⟩, rfl⟩) | ⟨d, ⟨hd, k, hk, hid⟩, rfl⟩)
    · exact IsEdge.contains hk
    · exact IsEdge.attempt ha
    · exact IsEdge.agent hs
    · exact IsEdge.worktree hr
    · exact IsEdge.dependsOn hk hd hid
  · intro h
    cases h with
    | contains hk => exact Or.inl (Or.inl ⟨_, hk, rfl⟩)
    | attempt ha => exact Or.inl (Or.inr ⟨_, Or.inl ⟨_, _, ha, rfl⟩, rfl⟩)
    | agent hs => exact Or.inl (Or.inr ⟨_, Or.inr (Or.inl ⟨_, _, hs, rfl⟩), rfl⟩)
    | worktree hr => exact Or.inl (Or.inr ⟨_, Or.inr (Or.inr ⟨_, _, hr, rfl⟩), rfl⟩)
    | dependsOn hk hd hid => exact Or.inr ⟨_, ⟨hd, _, hk, hid⟩, rfl⟩

end Members

/-! ## Every node once -/

def keysOf (t : TopologyTables) (a : AttemptRow) : List (String × String) :=
  ("attempt", a.id) :: (agentsOf t a.id).map (fun s => ("agent", s.id)) ++
    (worktreesOf t a.id).map (fun r => ("worktree", r.id))

def nodeId (key : String × String) : String := key.1 ++ ":" ++ key.2

theorem nodeId_inj {a b : String × String} (ha : ':' ∉ a.1.toList) (hb : ':' ∉ b.1.toList) (h : nodeId a = nodeId b) :
    a = b := by
  have htext : ∀ p : String × String, (nodeId p).toList = p.1.toList ++ ':' :: p.2.toList := by
    intro p
    simp [nodeId, String.toList_append]
  have hsplit : ∀ {x y u v : List Char}, ':' ∉ x → ':' ∉ y → x ++ ':' :: u = y ++ ':' :: v → x = y ∧ u = v := by
    intro x
    induction x with
    | nil =>
      intro y u v _ hy h
      cases y with
      | nil => exact ⟨rfl, by simpa using h⟩
      | cons c y =>
        simp only [List.nil_append, List.cons_append, List.cons.injEq] at h
        exact absurd (h.1 ▸ List.mem_cons_self) hy
    | cons c x ih =>
      intro y u v hx hy h
      cases y with
      | nil =>
        simp only [List.nil_append, List.cons_append, List.cons.injEq] at h
        exact absurd (h.1 ▸ List.mem_cons_self) hx
      | cons c' y =>
        simp only [List.cons_append, List.cons.injEq] at h
        obtain ⟨hxy, huv⟩ := ih (fun hm => hx (List.mem_cons_of_mem c hm)) (fun hm => hy (List.mem_cons_of_mem c' hm)) h.2
        exact ⟨by rw [h.1, hxy], huv⟩
  have h' := congrArg String.toList h
  rw [htext, htext] at h'
  obtain ⟨h1, h2⟩ := hsplit ha hb h'
  exact Prod.ext (String.toList_inj.1 h1) (String.toList_inj.1 h2)

section Once
variable {t : TopologyTables} {id : String}

theorem nodup_insertionSort_filter {α κ : Type} {key : α → κ} (table : Table key) (p : α → Bool) (r : α → α → Prop)
    [DecidableRel r] : (((table.rows.filter p).insertionSort r).map key).Nodup := by
  rw [((List.perm_insertionSort r _).map key).nodup_iff]
  exact table.nodup.sublist (List.filter_sublist.map key)

theorem keysOf_nodup (a : AttemptRow) : (keysOf t a).Nodup := by
  have hagents : ((agentsOf t a.id).map (fun s => ("agent", s.id))).Nodup := by
    have h : ((agentsOf t a.id).map AgentRow.id).Nodup := nodup_insertionSort_filter _ _ _
    have := h.map (f := fun x => ("agent", x)) (fun x y hxy => (Prod.mk.inj hxy).2)
    rwa [List.map_map] at this
  have hworktrees : ((worktreesOf t a.id).map (fun r => ("worktree", r.id))).Nodup := by
    have h : ((worktreesOf t a.id).map WorktreeRow.id).Nodup := nodup_insertionSort_filter _ _ _
    have := h.map (f := fun x => ("worktree", x)) (fun x y hxy => (Prod.mk.inj hxy).2)
    rwa [List.map_map] at this
  unfold keysOf
  rw [List.cons_append, List.nodup_cons, List.nodup_append']
  refine ⟨by simp, hagents, hworktrees, ?_⟩
  intro p hp hq
  obtain ⟨s, -, rfl⟩ := List.mem_map.1 hp
  obtain ⟨r, -, hr⟩ := List.mem_map.1 hq
  simp at hr

theorem keysOf_attempt {a b : AttemptRow} {p : String × String} (ha : p ∈ keysOf t a) (hb : p ∈ keysOf t b) :
    a.id = b.id := by
  simp only [keysOf, List.cons_append, List.mem_cons, List.mem_append, List.mem_map, mem_agentsOf, mem_worktreesOf]
    at ha hb
  rcases ha with rfl | ⟨s, ⟨hs, hsa⟩, rfl⟩ | ⟨r, ⟨hr, hra⟩, rfl⟩
  · rcases hb with hb | ⟨s, -, hb⟩ | ⟨r, -, hb⟩
    · exact (Prod.mk.inj hb).2
    · simp at hb
    · simp at hb
  · rcases hb with hb | ⟨s', ⟨hs', hsb⟩, hb⟩ | ⟨r, -, hb⟩
    · simp at hb
    · have hrow : s' = s := List.inj_on_of_nodup_map t.agents.nodup hs' hs (Prod.mk.inj hb).2
      rw [hrow, hsa] at hsb
      exact Option.some.inj hsb
    · simp at hb
  · rcases hb with hb | ⟨s', -, hb⟩ | ⟨r', ⟨hr', hrb⟩, hb⟩
    · simp at hb
    · simp at hb
    · have hrow : r' = r := List.inj_on_of_nodup_map t.worktrees.nodup hr' hr (Prod.mk.inj hb).2
      rw [hrow, hra] at hrb
      exact Option.some.inj hrb

theorem listedTasks_nodup : ((listedTasks t id).map TaskRow.id).Nodup :=
  (nodup_insertionSort_filter t.plans.tasks _ _).sublist ((List.take_sublist _ _).map _)

theorem listedAttempts_nodup : (((listedTasks t id).flatMap (fun k => attemptsOf t k.id)).map AttemptRow.id).Nodup := by
  refine List.Nodup.map_on (fun a ha b hb hab => ?_) ?_
  · obtain ⟨k, -, ha⟩ := List.mem_flatMap.1 ha
    obtain ⟨k', -, hb⟩ := List.mem_flatMap.1 hb
    exact List.inj_on_of_nodup_map t.attempts.nodup (mem_attemptsOf.1 ha).1 (mem_attemptsOf.1 hb).1 hab
  · rw [List.nodup_flatMap]
    refine ⟨fun k _ => (nodup_insertionSort_filter t.attempts _ _).of_map _, ?_⟩
    have hne : (listedTasks t id).Pairwise (fun k k' => k.id ≠ k'.id) := List.pairwise_map.1 listedTasks_nodup
    refine hne.imp (fun hkk' a ha hb => hkk' ?_)
    rw [← (mem_attemptsOf.1 ha).2, ← (mem_attemptsOf.1 hb).2]

def ownedKeys (t : TopologyTables) (id : String) : List (String × String) :=
  ((listedTasks t id).flatMap (fun k => attemptsOf t k.id)).flatMap (keysOf t)

theorem ownedKeys_nodup : (ownedKeys t id).Nodup := by
  unfold ownedKeys
  rw [List.nodup_flatMap]
  refine ⟨fun a _ => keysOf_nodup a, ?_⟩
  have hne : ((listedTasks t id).flatMap (fun k => attemptsOf t k.id)).Pairwise (fun a b => a.id ≠ b.id) :=
    List.pairwise_map.1 listedAttempts_nodup
  exact hne.imp (fun hab p ha hb => hab (keysOf_attempt ha hb))

theorem ownedEntries_map {β : Type} (f : Entry → β) (g : String × String → β)
    (hf : ∀ owner ownerRef kind x, f (ownedEntry owner ownerRef kind x) = g (kind, x)) :
    (ownedEntries t id).map f = (ownedKeys t id).map g := by
  have hattempt : ∀ k a, (attemptEntries t k a).map f = (keysOf t a).map g := by
    intro k a
    simp only [attemptEntries, heldEntries, keysOf, List.map_cons, List.map_append, List.map_map, List.cons_append,
      Function.comp_def, hf]
  unfold ownedEntries ownedKeys taskEntries
  simp only [List.map_flatMap, List.flatMap_assoc]
  refine congrArg (List.flatMap · _) (funext (fun k => congrArg (List.flatMap · _) (funext (fun a => ?_))))
  exact hattempt k a

theorem compiled_ids : (compiled t id).nodes.map TopologyNode.id =
    (("run", id) :: (listedTasks t id).map (fun k => ("task", k.id)) ++ ownedKeys t id).map nodeId := by
  unfold compiled
  rw [List.map_append, List.map_append, List.map_map (l := ownedEntries t id),
    ownedEntries_map _ nodeId (fun _ _ _ _ => rfl), List.map_cons, List.map_cons, List.map_map, List.map_map]
  rfl

theorem ownedKeys_kind {p : String × String} (h : p ∈ ownedKeys t id) : p.1 ∈ ["attempt", "agent", "worktree"] := by
  obtain ⟨a, -, hp⟩ := List.mem_flatMap.1 h
  simp only [keysOf, List.cons_append, List.mem_cons, List.mem_append, List.mem_map] at hp
  rcases hp with rfl | ⟨s, -, rfl⟩ | ⟨r, -, rfl⟩ <;> simp

theorem compiled_kinds : ∀ p ∈ ("run", id) :: (listedTasks t id).map (fun k => ("task", k.id)) ++ ownedKeys t id,
    ':' ∉ p.1.toList := by
  intro p hp
  rcases List.mem_append.1 hp with hp | hp
  · rcases List.mem_cons.1 hp with rfl | hp
    · exact (by decide : ':' ∉ "run".toList)
    · obtain ⟨k, -, rfl⟩ := List.mem_map.1 hp
      exact (by decide : ':' ∉ "task".toList)
  · have hk := ownedKeys_kind hp
    generalize p.1 = kind at hk
    simp only [List.mem_cons, List.not_mem_nil, or_false] at hk
    rcases hk with rfl | rfl | rfl <;> decide

theorem compiled_once : ((compiled t id).nodes.map TopologyNode.id).Nodup := by
  rw [compiled_ids]
  refine List.Nodup.map_on (fun p hp q hq h => nodeId_inj (compiled_kinds p hp) (compiled_kinds q hq) h) ?_
  rw [List.cons_append, List.nodup_cons, List.nodup_append']
  refine ⟨?_, ?_, ownedKeys_nodup, ?_⟩
  · intro h
    rcases List.mem_append.1 h with h | h
    · obtain ⟨k, -, hk⟩ := List.mem_map.1 h
      simp at hk
    · simpa using ownedKeys_kind h
  · have := (@listedTasks_nodup t id).map (f := fun x => ("task", x))
      (fun x y hxy => (Prod.mk.inj hxy).2)
    rwa [List.map_map] at this
  · intro p hp hq
    obtain ⟨k, -, rfl⟩ := List.mem_map.1 hp
    simpa using ownedKeys_kind hq

theorem owners_to : ((listedTasks t id).map (containsEdge id) ++ (ownedEntries t id).map Prod.snd).map TopologyEdge.toNode =
    ((listedTasks t id).map (fun k => ("task", k.id)) ++ ownedKeys t id).map nodeId := by
  rw [List.map_append, List.map_append, List.map_map (l := ownedEntries t id),
    ownedEntries_map _ nodeId (fun _ _ _ _ => rfl), List.map_map, List.map_map]
  rfl

theorem task_inj {a b : String} (h : "task:" ++ a = "task:" ++ b) : a = b :=
  congrArg Prod.snd (nodeId_inj (a := ("task", a)) (b := ("task", b)) (by decide : ':' ∉ "task".toList)
    (by decide : ':' ∉ "task".toList) h)

theorem dependencyEdges_nodup : ((dependenciesOf t id).map dependsOnEdge).Nodup := by
  have hkeys : ((dependenciesOf t id).map TaskDependency.key).Nodup :=
    nodup_insertionSort_filter t.plans.dependencies _ _
  refine List.Nodup.map_on (fun d hd d' hd' h => ?_) hkeys.of_map
  have hfrom : d.taskId = d'.taskId := task_inj (congrArg TopologyEdge.fromNode h)
  have hto : d.dependsOnTaskId = d'.dependsOnTaskId := task_inj (congrArg TopologyEdge.toNode h)
  exact List.inj_on_of_nodup_map hkeys hd hd' (Prod.ext hfrom hto)

theorem compiled_edgesOnce (hall : listedTasks t id = tasksOf t id) : (compiled t id).edges.Nodup := by
  have hids := @compiled_once t id
  rw [compiled_ids, List.cons_append, List.map_cons, List.nodup_cons, ← owners_to] at hids
  unfold compiled
  rw [List.nodup_append']
  refine ⟨hids.2.of_map, dependencyEdges_nodup, fun e he hd => ?_⟩
  obtain ⟨d, -, rfl⟩ := List.mem_map.1 hd
  rcases List.mem_append.1 he with he | he
  · obtain ⟨k, -, hk⟩ := List.mem_map.1 he
    have := congrArg TopologyEdge.kind hk
    simp [containsEdge, dependsOnEdge] at this
  · obtain ⟨p, hp, hpe⟩ := List.mem_map.1 he
    have hkind : p.2.kind = "owns" := by
      rcases (mem_ownedEntries hall).1 hp with ⟨k, a, -, rfl⟩ | ⟨a, s, -, rfl⟩ | ⟨a, r, -, rfl⟩ <;> rfl
    rw [hpe] at hkind
    simp [dependsOnEdge] at hkind

end Once

/-! ## A compiled graph passes its checks -/

section Valid
variable {t : TopologyTables} {id : String}

def Named (t : TopologyTables) (id : String) : Prop :=
  ∀ n, IsNode t id n → isTopologyIdentifier n.id = true ∧ n.sourceRef.toList.length ≤ 512

theorem node_valid {n : TopologyNode} (h : IsNode t id n) (hnamed : Named t id) : n.validate = .ok () := by
  have hkind : isSafeOperatorControlIdentifier n.kind = true := by
    cases h with
    | run => exact (by decide : isSafeOperatorControlIdentifier "run" = true)
    | task _ => exact (by decide : isSafeOperatorControlIdentifier "task" = true)
    | attempt _ => exact (by decide : isSafeOperatorControlIdentifier "attempt" = true)
    | agent _ => exact (by decide : isSafeOperatorControlIdentifier "agent" = true)
    | worktree _ => exact (by decide : isSafeOperatorControlIdentifier "worktree" = true)
  have hcolon : ':' ∈ n.sourceRef.toList := by
    cases h <;> simp [runNode, taskNode, ownedNode, String.toList_append]
  unfold TopologyNode.validate validateTopologyIdentifier
  rw [Control.ensure_bind_ok, Control.bind_unit_ok, Control.validateIdentifier_ok,
    Control.validateText_iff hcolon (by decide)]
  exact ⟨(hnamed n h).1, hkind, (hnamed n h).2⟩

theorem validateNodes_ok : ∀ {l : List TopologyNode} {seen : List String}, (∀ n ∈ l, n.validate = .ok ()) →
    (seen ++ l.map TopologyNode.id).Nodup → validateNodes seen l = .ok (seen ++ l.map TopologyNode.id)
  | [], seen, _, _ => by simp [validateNodes]
  | n :: l, seen, hl, hn => by
    have hnew : n.id ∉ seen := by
      rw [List.map_cons] at hn
      exact fun hm => (List.nodup_append.1 hn).2.2 _ hm _ List.mem_cons_self rfl
    have hassoc : seen ++ (n :: l).map TopologyNode.id = (seen ++ [n.id]) ++ l.map TopologyNode.id := by simp
    have hrest : validateNodes (seen ++ [n.id]) l = .ok ((seen ++ [n.id]) ++ l.map TopologyNode.id) :=
      validateNodes_ok (fun m hm => hl m (List.mem_cons_of_mem n hm)) (by rw [← hassoc]; exact hn)
    rw [hassoc, ← hrest, validateNodes, hl n List.mem_cons_self, ok_bind]
    simp [hnew, ensure]

theorem edge_ends (hjoin : Joined t.plans) {e : TopologyEdge} (h : IsEdge t id e) :
    (∃ n, IsNode t id n ∧ n.id = e.fromNode) ∧ ∃ n, IsNode t id n ∧ n.id = e.toNode := by
  cases h with
  | contains hk => exact ⟨⟨_, IsNode.run, rfl⟩, ⟨_, IsNode.task hk, rfl⟩⟩
  | attempt ha => exact ⟨⟨_, IsNode.task ha.1, rfl⟩, ⟨_, IsNode.attempt ha, rfl⟩⟩
  | agent hs =>
    obtain ⟨k, ha⟩ := hs.1
    exact ⟨⟨_, IsNode.attempt ha, rfl⟩, ⟨_, IsNode.agent hs, rfl⟩⟩
  | worktree hr =>
    obtain ⟨k, ha⟩ := hr.1
    exact ⟨⟨_, IsNode.attempt ha, rfl⟩, ⟨_, IsNode.worktree hr, rfl⟩⟩
  | @dependsOn k d hk hd hid =>
    obtain ⟨j, hj, j', hj', hjd, hjd', hrun⟩ := hjoin d hd
    have hjk : j = k := List.inj_on_of_nodup_map t.plans.tasks.nodup hj hk.1 (hjd.trans hid)
    refine ⟨⟨_, IsNode.task hk, ?_⟩, ⟨_, IsNode.task ⟨hj', ?_⟩, ?_⟩⟩
    · simp [taskNode, dependsOnEdge, hid]
    · rw [← hrun, hjk]
      exact hk.2
    · simp [taskNode, dependsOnEdge, hjd']

theorem length_of_topologyIdentifier {pre value : String} (h : isTopologyIdentifier (pre ++ value) = true) :
    pre.toList.length + value.toList.length ≤ 168 := by
  simp only [isTopologyIdentifier, token, Bool.and_eq_true, decide_eq_true_eq, String.toList_append,
    List.length_append] at h
  exact h.1.2

theorem edge_valid (hjoin : Joined t.plans) (hnamed : Named t id) {e : TopologyEdge} (h : IsEdge t id e)
    {ids : List String} (hids : ∀ n, IsNode t id n → n.id ∈ ids) : e.validate ids = .ok () := by
  obtain ⟨⟨n, hn, hfrom⟩, m, hm, hto⟩ := edge_ends hjoin h
  have hkind : isSafeOperatorControlIdentifier e.kind = true := by
    cases h with
    | contains _ => exact (by decide : isSafeOperatorControlIdentifier "contains" = true)
    | attempt _ => exact (by decide : isSafeOperatorControlIdentifier "owns" = true)
    | agent _ => exact (by decide : isSafeOperatorControlIdentifier "owns" = true)
    | worktree _ => exact (by decide : isSafeOperatorControlIdentifier "owns" = true)
    | dependsOn _ _ _ => exact (by decide : isSafeOperatorControlIdentifier "depends_on" = true)
  have hcolon : ':' ∈ e.sourceRef.toList := by
    cases h <;> simp [containsEdge, ownsEdge, dependsOnEdge, String.toList_append]
  have hlen : e.sourceRef.toList.length ≤ 512 := by
    cases h with
    | contains hk => exact (hnamed _ (IsNode.task hk)).2
    | attempt ha => exact (hnamed _ (IsNode.task ha.1)).2
    | agent hs => exact (hnamed _ (IsNode.attempt hs.1.choose_spec)).2
    | worktree hr => exact (hnamed _ (IsNode.attempt hr.1.choose_spec)).2
    | @dependsOn k d hk hd hid =>
      have h1 : isTopologyIdentifier ("task:" ++ d.taskId) = true := by
        have := (hnamed n hn).1
        rwa [hfrom] at this
      have h2 : isTopologyIdentifier ("task:" ++ d.dependsOnTaskId) = true := by
        have := (hnamed m hm).1
        rwa [hto] at this
      have h1 := length_of_topologyIdentifier h1
      have h2 := length_of_topologyIdentifier h2
      simp only [dependsOnEdge, String.toList_append, List.length_append]
      simp at h1 h2 ⊢
      omega
  unfold TopologyEdge.validate validateTopologyIdentifier
  rw [Control.ensure_bind_ok, Control.ensure_bind_ok, Control.bind_unit_ok, Control.bind_unit_ok,
    Control.validateIdentifier_ok, Control.validateText_iff hcolon (by decide), Control.ensure_ok_iff, ← hfrom, ← hto]
  refine ⟨(hnamed n hn).1, (hnamed m hm).1, hkind, hlen, ?_⟩
  simp [hids n hn, hids m hm]

/-- **The graph of a run whose tasks are all read** passes its checks and shows the run. -/
theorem compiled_valid (w : Wire) (drawn : String) (hall : listedTasks t id = tasksOf t id) (hjoin : Joined t.plans)
    (hnamed : Named t id) (hrun : isSafeOperatorControlIdentifier id = true)
    (hdrawn : isSafeOperatorControlIdentifier drawn = true) (hnodes : (compiled t id).nodes.length ≤ 500)
    (hedges : (compiled t id).edges.length ≤ 2000) : (topologyOf w t id drawn (compiled t id)).validate w = .ok () := by
  have hchecked : validateNodes [] (compiled t id).nodes = .ok ((compiled t id).nodes.map TopologyNode.id) :=
    validateNodes_ok (fun n hn => node_valid ((compiled_nodes hall n).1 hn) hnamed) compiled_once
  have hends : (compiled t id).edges.forM (TopologyEdge.validate ((compiled t id).nodes.map TopologyNode.id)) = .ok () := by
    rcases forM_cases (f := TopologyEdge.validate ((compiled t id).nodes.map TopologyNode.id)) (compiled t id).edges
      with ⟨h, -⟩ | ⟨e, he, err, herr, -⟩
    · exact h
    · rw [edge_valid hjoin hnamed ((compiled_edges hall e).1 he)
        (fun n hn => List.mem_map_of_mem ((compiled_nodes hall n).2 hn))] at herr
      cases herr
  unfold TopologySnapshot.validate
  rw [Control.ensure_bind_ok, Control.bind_unit_ok, Control.bind_unit_ok, Control.ensure_bind_ok,
    Control.validateIdentifier_ok, Control.validateIdentifier_ok]
  refine ⟨rfl, hdrawn, hrun, ?_, ?_⟩
  · have hn : (compiled t id).nodes.length ≤ 1000 := by omega
    have he : (compiled t id).edges.length ≤ 4000 := by omega
    exact Bool.and_eq_true_iff.2 ⟨decide_eq_true hn, decide_eq_true he⟩
  · show (validateNodes [] (compiled t id).nodes >>= fun ids => _) = _
    rw [hchecked, ok_bind, Control.bind_unit_ok]
    exact ⟨hends, Control.validateDigest_ok.2 rfl⟩

theorem compiled_shows (w : Wire) (drawn : String) (hall : listedTasks t id = tasksOf t id) :
    Shows t id (topologyOf w t id drawn (compiled t id)) :=
  ⟨rfl, compiled_nodes hall, compiled_once, compiled_edges hall, compiled_edgesOnce hall⟩

end Valid

end Topology
end Bildr
