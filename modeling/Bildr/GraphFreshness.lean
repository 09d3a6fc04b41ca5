import Bildr.PlanApproval
import Bildr.RunGraph
/-!
# GraphFreshness — a stored graph and the writes after it

No write of plans, attempts, agents or worktrees appends an event, so a graph stored under the last event stays the
answer while what it is of changes.  `Watched` remembers which runs changed since a graph was stored under their last
event.  A call for any other run, at a moment when the graph fits or is over a limit, is answered with the graph as it is
or with the limit (`topology_shows_run`).
-/
namespace Bildr
namespace Topology

open Control (SourceEvent Wire)
open Improvement (isSafeOperatorControlIdentifier)
open Plan (RunPlan StoreInput TaskPacket TaskRow TaskDependency)
open Trace (Along run)

/-! ## The calls -/

inductive TopologyCall
  | storePlan (i : StoreInput)
  | createTaskAttempt (a : AttemptRow) (now : Int)
  | createAgentSession (s : AgentRow)
  | createWorktree (r : WorktreeRow)
  | appendDomainEvent (e : SourceEvent)
  | runTopology (id drawn : String)

def performCall (w : Wire) (sha256 : RunPlan → String) (t : TopologyTables) : TopologyCall → TopologyTables
  | .storePlan i             => (storePlan sha256 i t).2
  | .createTaskAttempt a now => (createTaskAttempt a now t).2
  | .createAgentSession s    => (createAgentSession s t).2
  | .createWorktree r        => (createWorktree r t).2
  | .appendDomainEvent e     => (appendDomainEvent e t).2
  | .runTopology id drawn    => (runTopology w id drawn t).2

structure SameGraph (t t' : TopologyTables) (id : String) : Prop where
  nodes : ∀ n, IsNode t id n ↔ IsNode t' id n
  edges : ∀ e, IsEdge t id e ↔ IsEdge t' id e

/-- The tables, and the runs whose rows changed after a graph of them was stored under their last event. -/
structure Watched where
  tables : TopologyTables
  stale : String → Prop

def watch (w : Wire) (sha256 : RunPlan → String) (s : Watched) (c : TopologyCall) : Watched where
  tables := performCall w sha256 s.tables c
  stale := fun id => sourceCursor (performCall w sha256 s.tables c) id = sourceCursor s.tables id ∧
    (s.stale id ∨ (storedTopology s.tables id).isSome = true ∧ ¬ SameGraph s.tables (performCall w sha256 s.tables c) id)

def newStore (runs : List String) : Watched :=
  ⟨⟨⟨runs, [], Table.empty, Table.empty, Table.empty⟩, Table.empty, Table.empty, Table.empty, [], Table.empty⟩,
    fun _ => False⟩

/-! ## Plans -/

theorem insertTasks_kept {i : StoreInput} : ∀ {qs : List (TaskPacket × Nat)} {kept tasks : Table TaskRow.id},
    qs.foldlM (Plan.insertTask i) kept = .ok tasks → (∀ k ∈ kept.rows, k ∈ tasks.rows) ∧
      ∀ q ∈ qs, Plan.taskRow i q ∈ tasks.rows
  | [], kept, tasks, h => by
    cases h
    exact ⟨fun k hk => hk, by simp⟩
  | q :: qs, kept, tasks, h => by
    rw [List.foldlM_cons] at h
    obtain ⟨mid, hq, h⟩ := bind_ok h
    have hrows := (Plan.insertTask_ok_iff.1 hq).2.2
    obtain ⟨hkept, hnew⟩ := insertTasks_kept h
    refine ⟨fun k hk => hkept k (by rw [hrows]; exact List.mem_append_left _ hk), fun q' hq' => ?_⟩
    rcases List.mem_cons.1 hq' with rfl | hq'
    · exact hkept _ (by rw [hrows]; simp)
    · exact hnew q' hq'

def Joins (tasks : Table TaskRow.id) (d : TaskDependency) : Prop :=
  ∃ k ∈ tasks.rows, ∃ k' ∈ tasks.rows, k.id = d.taskId ∧ k'.id = d.dependsOnTaskId ∧ k.runId = k'.runId

theorem taskIdOf_row {i : StoreInput} {tasks : Table TaskRow.id} {external id : String}
    (htasks : ∀ q ∈ i.plan.tasks.zipIdx, Plan.taskRow i q ∈ tasks.rows) (h : i.taskIdOf external = some id) :
    ∃ k ∈ tasks.rows, k.id = id ∧ k.runId = i.run := by
  unfold StoreInput.taskIdOf at h
  obtain ⟨q, hq, rfl⟩ := Option.map_eq_some_iff.1 h
  exact ⟨_, htasks q (List.mem_of_find?_eq_some hq), rfl, rfl⟩

theorem insertDependencies_joins {i : StoreInput} {tasks : Table TaskRow.id} {kept ds : Table TaskDependency.key}
    (htasks : ∀ q ∈ i.plan.tasks.zipIdx, Plan.taskRow i q ∈ tasks.rows) (hkept : ∀ d ∈ kept.rows, Joins tasks d)
    (h : i.plan.tasks.foldlM (Plan.insertDependencies i) kept = .ok ds) : ∀ d ∈ ds.rows, Joins tasks d := by
  refine Trace.foldlM_invariant (fun u : Table TaskDependency.key => ∀ d ∈ u.rows, Joins tasks d)
    (fun packet _ u u' hu hp => ?_) hkept h
  obtain ⟨taskId, htask, hp⟩ := bind_ok hp
  refine Trace.foldlM_invariant (fun u : Table TaskDependency.key => ∀ d ∈ u.rows, Joins tasks d)
    (fun external _ v v' hv he d hd => ?_) hu hp
  obtain ⟨dependencyId, hdep, he⟩ := bind_ok he
  obtain ⟨_, -, he⟩ := bind_ok he
  rw [(insertRow_ok_iff.1 he).2, List.mem_append, List.mem_singleton] at hd
  rcases hd with hd | rfl
  · exact hv d hd
  · obtain ⟨k, hk, hid, hrun⟩ := taskIdOf_row htasks (okOr_ok htask)
    obtain ⟨k', hk', hid', hrun'⟩ := taskIdOf_row htasks (okOr_ok hdep)
    exact ⟨k, hk, k', hk', hid, hid', hrun.trans hrun'.symm⟩

/-- **A stored plan keeps every dependency between tasks of one run.** -/
theorem storePlan_joined {sha256 : RunPlan → String} {i : StoreInput} {p : Plan.Tables} (h : Joined p) :
    Joined (Plan.storePlan sha256 i p).2 := by
  unfold Plan.storePlan
  refine transaction_after h (fun a p' hb => ?_)
  obtain ⟨_, -, hb⟩ := bind_ok hb
  obtain ⟨_, -, hb⟩ := bind_ok hb
  obtain ⟨plans, -, hb⟩ := bind_ok hb
  obtain ⟨tasks, htasks, hb⟩ := bind_ok hb
  obtain ⟨ds, hds, hb⟩ := bind_ok hb
  cases hb
  obtain ⟨hkept, hnew⟩ := insertTasks_kept htasks
  have hstays : ∀ k ∈ p.tasks.rows, k.id ∉ (p.tasks.rows.filter (Plan.replaced p i.run)).map TaskRow.id →
      k ∈ tasks.rows := by
    intro k hk hgone
    refine hkept k (Table.mem_delete.2 ⟨hk, ?_⟩)
    cases hr : Plan.replaced p i.run k with
    | false => rfl
    | true => exact absurd (List.mem_map_of_mem (List.mem_filter.2 ⟨hk, hr⟩)) hgone
  refine insertDependencies_joins hnew (fun d hd => ?_) hds
  obtain ⟨hd, hgone⟩ := Table.mem_delete.1 hd
  rw [Bool.or_eq_false_iff] at hgone
  obtain ⟨k, hk, k', hk', hid, hid', hrun⟩ := h d hd
  refine ⟨k, hstays k hk ?_, k', hstays k' hk' ?_, hid, hid', hrun⟩
  · rw [hid]
    simpa using hgone.1
  · rw [hid']
    simpa using hgone.2

/-! ## What a call does -/

theorem runTopology_cases (w : Wire) (id drawn : String) (t : TopologyTables) :
    (runTopology w id drawn t).2 = t ∨
      ∃ g, storedTopology t id = none ∧ compileTopology t id = .ok g ∧ (topologyOf w t id drawn g).validate w = .ok () ∧
        (runTopology w id drawn t).2.snapshots.rows = t.snapshots.rows ++ [topologyOf w t id drawn g] ∧
        ∃ snapshots, (runTopology w id drawn t).2 = { t with snapshots := snapshots } := by
  unfold runTopology
  rcases transaction_cases _ t with ⟨e, -, ht⟩ | ⟨a, t', hb, ht⟩
  · exact Or.inl (by rw [ht])
  · rw [ht]
    obtain ⟨_, -, hb⟩ := bind_ok hb
    obtain ⟨_, -, hb⟩ := bind_ok hb
    cases hs : storedTopology t id with
    | some s =>
      rw [hs] at hb
      obtain ⟨s', -, hb⟩ := bind_ok hb
      cases hb
      exact Or.inl rfl
    | none =>
      rw [hs] at hb
      obtain ⟨g, hg, hb⟩ := bind_ok hb
      obtain ⟨hv, hb⟩ := Control.bind_unit_ok.1 hb
      obtain ⟨snapshots, hi, hb⟩ := bind_ok hb
      cases hb
      exact Or.inr ⟨g, rfl, hg, hv, (insertRow_ok_iff.1 hi).2, snapshots, rfl⟩

/-- What a write leaves alone: the stored graphs, the events, and that dependencies join tasks of one run. -/
structure Writes (t t' : TopologyTables) : Prop where
  snapshots : t'.snapshots = t.snapshots
  events : t'.events = t.events
  joined : Joined t.plans → Joined t'.plans

theorem writes_refl (t : TopologyTables) : Writes t t := ⟨rfl, rfl, fun h => h⟩

theorem storePlan_writes (sha256 : RunPlan → String) (i : StoreInput) (t : TopologyTables) :
    Writes t (storePlan sha256 i t).2 := by
  have hjoin : Joined t.plans → Joined (Plan.storePlan sha256 i t.plans).2 := storePlan_joined
  unfold storePlan
  generalize Plan.storePlan sha256 i t.plans = r at hjoin
  obtain ⟨r, plans⟩ := r
  cases r with
  | error e => exact writes_refl t
  | ok id => exact ⟨rfl, rfl, hjoin⟩

theorem createTaskAttempt_writes (a : AttemptRow) (now : Int) (t : TopologyTables) :
    Writes t (createTaskAttempt a now t).2 := by
  unfold createTaskAttempt
  refine commit_after (P := fun t' : TopologyTables => Writes t t') (writes_refl t) (fun t' hb => ?_)
  obtain ⟨_, -, hb⟩ := bind_ok hb
  obtain ⟨_, -, hb⟩ := bind_ok hb
  obtain ⟨attempts, -, hb⟩ := bind_ok hb
  cases hb
  refine ⟨rfl, rfl, fun h d hd => ?_⟩
  have hrow : ∀ k ∈ t.plans.tasks.rows, ∃ k' ∈ (t.plans.tasks.update (fun k => k.id == a.taskId) (leased now)
      (leased_id now)).rows, k'.id = k.id ∧ k'.runId = k.runId := by
    intro k hk
    refine ⟨_, Table.mem_update.2 ⟨k, hk, rfl⟩, ?_, ?_⟩ <;> split <;> rfl
  obtain ⟨k, hk, k', hk', hid, hid', hrun⟩ := h d hd
  obtain ⟨j, hj, hjid, hjrun⟩ := hrow k hk
  obtain ⟨j', hj', hjid', hjrun'⟩ := hrow k' hk'
  exact ⟨j, hj, j', hj', hjid.trans hid, hjid'.trans hid', by rw [hjrun, hjrun', hrun]⟩

theorem createAgentSession_writes (s : AgentRow) (t : TopologyTables) : Writes t (createAgentSession s t).2 := by
  unfold createAgentSession
  refine commit_after (P := fun t' : TopologyTables => Writes t t') (writes_refl t) (fun t' hb => ?_)
  obtain ⟨_, -, hb⟩ := bind_ok hb
  obtain ⟨_, -, hb⟩ := bind_ok hb
  obtain ⟨agents, -, hb⟩ := bind_ok hb
  cases hb
  exact ⟨rfl, rfl, fun h => h⟩

theorem createWorktree_writes (r : WorktreeRow) (t : TopologyTables) : Writes t (createWorktree r t).2 := by
  unfold createWorktree
  refine commit_after (P := fun t' : TopologyTables => Writes t t') (writes_refl t) (fun t' hb => ?_)
  obtain ⟨_, -, hb⟩ := bind_ok hb
  obtain ⟨_, -, hb⟩ := bind_ok hb
  obtain ⟨worktrees, -, hb⟩ := bind_ok hb
  cases hb
  exact ⟨rfl, rfl, fun h => h⟩

theorem appendDomainEvent_cases (e : SourceEvent) (t : TopologyTables) :
    (appendDomainEvent e t).2 = t ∨
      (appendDomainEvent e t).2 = { t with events := t.events ++ [{ e with id := Control.nextEventId t.events }] } := by
  unfold appendDomainEvent
  refine commit_after (P := fun t' : TopologyTables => t' = t ∨
    t' = { t with events := t.events ++ [{ e with id := Control.nextEventId t.events }] }) (Or.inl rfl) (fun t' hb => ?_)
  obtain ⟨_, -, hb⟩ := bind_ok hb
  cases hb
  exact Or.inr rfl

theorem sourceCursor_append (e : SourceEvent) (t : TopologyTables) (id : String) :
    sourceCursor { t with events := t.events ++ [e] } id =
      if e.runId = some id then max (sourceCursor t id) e.id else sourceCursor t id := by
  unfold sourceCursor
  show Table.maxOf _ ((t.events ++ [e]).filter _) = _
  rw [List.filter_append]
  split
  · rename_i h
    rw [List.filter_cons_of_pos (by simpa using h), List.filter_nil, Table.maxOf_append]
  · rename_i h
    rw [List.filter_cons_of_neg (by simpa using h), List.filter_nil, List.append_nil]

theorem appendDomainEvent_cursor (e : SourceEvent) (t : TopologyTables) (id : String) :
    sourceCursor t id ≤ sourceCursor (appendDomainEvent e t).2 id := by
  rcases appendDomainEvent_cases e t with h | h
  · rw [h]
  · rw [h, sourceCursor_append]
    split
    · exact le_max_left _ _
    · exact le_refl _

/-! ## What the stored graphs show -/

theorem SameGraph.shows {t t' : TopologyTables} {id : String} {g : TopologySnapshot} (h : SameGraph t t' id)
    (hg : Shows t id g) : Shows t' id g :=
  ⟨hg.ofRun, fun n => (hg.nodes n).trans (h.nodes n), hg.once, fun e => (hg.edges e).trans (h.edges e), hg.edgesOnce⟩

theorem isNode_of_rows {t t' : TopologyTables} {id : String} {n : TopologyNode} (hplans : t'.plans = t.plans)
    (hattempts : t'.attempts = t.attempts) (hagents : t'.agents = t.agents) (hworktrees : t'.worktrees = t.worktrees)
    (h : IsNode t id n) : IsNode t' id n := by
  cases h with
  | run => exact IsNode.run
  | task hk => exact IsNode.task (by unfold TaskOf at *; rwa [hplans])
  | attempt ha => exact IsNode.attempt (by unfold AttemptOf TaskOf at *; rwa [hplans, hattempts])
  | agent hs => exact IsNode.agent (by unfold AgentOf AttemptOf TaskOf at *; rwa [hplans, hattempts, hagents])
  | worktree hr => exact IsNode.worktree (by unfold WorktreeOf AttemptOf TaskOf at *; rwa [hplans, hattempts, hworktrees])

theorem isEdge_of_rows {t t' : TopologyTables} {id : String} {e : TopologyEdge} (hplans : t'.plans = t.plans)
    (hattempts : t'.attempts = t.attempts) (hagents : t'.agents = t.agents) (hworktrees : t'.worktrees = t.worktrees)
    (h : IsEdge t id e) : IsEdge t' id e := by
  cases h with
  | contains hk => exact IsEdge.contains (by unfold TaskOf at *; rwa [hplans])
  | attempt ha => exact IsEdge.attempt (by unfold AttemptOf TaskOf at *; rwa [hplans, hattempts])
  | agent hs => exact IsEdge.agent (by unfold AgentOf AttemptOf TaskOf at *; rwa [hplans, hattempts, hagents])
  | worktree hr => exact IsEdge.worktree (by unfold WorktreeOf AttemptOf TaskOf at *; rwa [hplans, hattempts, hworktrees])
  | dependsOn hk hd hid => exact IsEdge.dependsOn (by unfold TaskOf at *; rwa [hplans]) (by rwa [hplans]) hid

theorem sameGraph_of_rows {t t' : TopologyTables} (id : String) (hplans : t'.plans = t.plans)
    (hattempts : t'.attempts = t.attempts) (hagents : t'.agents = t.agents) (hworktrees : t'.worktrees = t.worktrees) :
    SameGraph t t' id :=
  ⟨fun _ => ⟨isNode_of_rows hplans hattempts hagents hworktrees,
      isNode_of_rows hplans.symm hattempts.symm hagents.symm hworktrees.symm⟩,
    fun _ => ⟨isEdge_of_rows hplans hattempts hagents hworktrees,
      isEdge_of_rows hplans.symm hattempts.symm hagents.symm hworktrees.symm⟩⟩

theorem stored_isSome {t : TopologyTables} {g : TopologySnapshot} (hg : g ∈ t.snapshots.rows)
    (hc : g.sourceCursor = sourceCursor t g.runId) : (storedTopology t g.runId).isSome = true := by
  unfold storedTopology
  rw [List.find?_isSome]
  exact ⟨g, hg, by simp [hc]⟩

theorem storedTopology_some {t : TopologyTables} {id : String} {g : TopologySnapshot} (h : storedTopology t id = some g) :
    g ∈ t.snapshots.rows ∧ g.runId = id ∧ g.sourceCursor = sourceCursor t id := by
  unfold storedTopology at h
  have hp := List.find?_some h
  rw [Bool.and_eq_true, beq_iff_eq, beq_iff_eq] at hp
  exact ⟨List.mem_of_find?_eq_some h, hp.1, hp.2⟩

/-- **What holds at every moment**: dependencies join tasks of one run, no graph is stored under an event to come, every
stored graph passes its checks, and the one under the last event shows its run, unless the run changed since. -/
structure Kept (w : Wire) (s : Watched) : Prop where
  joined : Joined s.tables.plans
  behind : ∀ g ∈ s.tables.snapshots.rows, g.sourceCursor ≤ sourceCursor s.tables g.runId
  valid : ∀ g ∈ s.tables.snapshots.rows, g.validate w = .ok ()
  current : ∀ g ∈ s.tables.snapshots.rows, g.sourceCursor = sourceCursor s.tables g.runId → ¬ s.stale g.runId →
    Shows s.tables g.runId g

/-- **When a call is answered**: the run is there and did not change since a graph was stored under its last event.  If
none is stored, the graph is over a limit, or every task is read and every text is within its bound. -/
structure Answerable (s : Watched) (id drawn : String) : Prop where
  known : s.tables.plans.runs.contains id = true
  named : isSafeOperatorControlIdentifier id = true
  drawnNamed : isSafeOperatorControlIdentifier drawn = true
  fresh : s.tables.snapshots.get drawn = none
  current : ¬ s.stale id
  compiles : (storedTopology s.tables id).isSome = true ∨ OverLimit s.tables id ∨
    (tasksOf s.tables id).length ≤ 499 ∧ Named s.tables id

def Meets (s : Watched) : TopologyCall → Prop
  | .runTopology id drawn => Answerable s id drawn
  | _                     => True

/-- A call for the graph of a run fails with a limit or shows the run as it is. -/
def Answers (w : Wire) (s : Watched) : TopologyCall → Prop
  | .runTopology id drawn => (runTopology w id drawn s.tables).1 = .error nodeLimitError ∨
      (runTopology w id drawn s.tables).1 = .error edgeLimitError ∨
      ∃ g, (runTopology w id drawn s.tables).1 = .ok g ∧ Shows s.tables id g
  | _                     => True

section Step
variable {w : Wire} {sha256 : RunPlan → String} {s : Watched}

theorem listed_all {t : TopologyTables} {id : String} (h : (tasksOf t id).length ≤ 499) :
    listedTasks t id = tasksOf t id := List.take_of_length_le h

theorem compiles_shows {id drawn : String} (hk : Kept w s) (ha : Answerable s id drawn)
    (hnone : storedTopology s.tables id = none) {g : Graph} (hg : compileTopology s.tables id = .ok g) :
    (topologyOf w s.tables id drawn g).validate w = .ok () ∧ Shows s.tables id (topologyOf w s.tables id drawn g) := by
  rcases compile_cases s.tables id with ⟨hok, hnodes, hedges, hnot⟩ | ⟨herr, -⟩
  · rw [hok] at hg
    cases hg
    rcases ha.compiles with h | h | ⟨hlen, hnamed⟩
    · rw [hnone] at h
      cases h
    · exact absurd h hnot
    · have hall := listed_all hlen
      exact ⟨compiled_valid w drawn hall hk.joined hnamed ha.named ha.drawnNamed hnodes hedges, compiled_shows w drawn hall⟩
  · rcases herr with herr | herr <;> rw [herr] at hg <;> cases hg

theorem runTopology_answers {id drawn : String} (hk : Kept w s) (ha : Answerable s id drawn) :
    Answers w s (.runTopology id drawn) := by
  show (runTopology w id drawn s.tables).1 = .error nodeLimitError ∨
    (runTopology w id drawn s.tables).1 = .error edgeLimitError ∨
      ∃ g, (runTopology w id drawn s.tables).1 = .ok g ∧ Shows s.tables id g
  unfold runTopology transaction
  simp only [ha.named, ha.known, ensure_true, ok_bind]
  cases hs : storedTopology s.tables id with
  | some g =>
    obtain ⟨hg, hrun, hc⟩ := storedTopology_some hs
    have hchecked : checkedTopologyRow w g = .ok g := by
      unfold checkedTopologyRow
      rw [hk.valid g hg]
      rfl
    simp only [hchecked, ok_bind, pure_ok]
    refine Or.inr (Or.inr ⟨g, rfl, ?_⟩)
    rw [← hrun] at hc ⊢
    exact hk.current g hg hc (by rw [hrun]; exact ha.current)
  | none =>
    rcases compile_cases s.tables id with ⟨hok, -, -, -⟩ | ⟨herr | herr, -⟩
    · obtain ⟨hvalid, hshows⟩ := compiles_shows hk ha hs hok
      obtain ⟨snapshots, hinsert⟩ := insertRow_isOk (t := s.tables.snapshots)
        (r := topologyOf w s.tables id drawn (compiled s.tables id))
        (fun hm => by
          have hget := Table.get_isSome.2 hm
          rw [show (topologyOf w s.tables id drawn (compiled s.tables id)).id = drawn from rfl, ha.fresh] at hget
          cases hget)
      simp only [hok, ok_bind, hvalid, hinsert, pure_ok]
      exact Or.inr (Or.inr ⟨_, rfl, hshows⟩)
    · simp only [herr, error_bind, true_or]
    · simp only [herr, error_bind, true_or, or_true]

theorem kept_of_writes {c : TopologyCall} (hk : Kept w s) (hw : Writes s.tables (performCall w sha256 s.tables c)) :
    Kept w (watch w sha256 s c) := by
  have hcursor : ∀ id, sourceCursor (performCall w sha256 s.tables c) id = sourceCursor s.tables id := by
    intro id
    unfold sourceCursor
    rw [hw.events]
  have hrows : (watch w sha256 s c).tables.snapshots = s.tables.snapshots := hw.snapshots
  refine ⟨hw.joined hk.joined, fun g hg => ?_, fun g hg => ?_, fun g hg hc hfresh => ?_⟩
  · rw [hrows] at hg
    exact le_of_le_of_eq (hk.behind g hg) (hcursor g.runId).symm
  · rw [hrows] at hg
    exact hk.valid g hg
  · rw [hrows] at hg
    have hc : g.sourceCursor = sourceCursor s.tables g.runId := hc.trans (hcursor g.runId)
    have hnot : ¬ (s.stale g.runId ∨ (storedTopology s.tables g.runId).isSome = true ∧
        ¬ SameGraph s.tables (performCall w sha256 s.tables c) g.runId) :=
      fun h => hfresh ⟨hcursor g.runId, h⟩
    rw [not_or, not_and, not_not] at hnot
    exact (hnot.2 (stored_isSome hg hc)).shows (hk.current g hg hc hnot.1)

theorem kept_of_event (e : SourceEvent) (hk : Kept w s) : Kept w (watch w sha256 s (.appendDomainEvent e)) := by
  have hsame : ∀ id, SameGraph s.tables (appendDomainEvent e s.tables).2 id := by
    intro id
    rcases appendDomainEvent_cases e s.tables with h | h <;> rw [h] <;> exact sameGraph_of_rows id rfl rfl rfl rfl
  have hrows : (appendDomainEvent e s.tables).2.snapshots = s.tables.snapshots ∧
      (appendDomainEvent e s.tables).2.plans = s.tables.plans := by
    rcases appendDomainEvent_cases e s.tables with h | h <;> rw [h] <;> exact ⟨rfl, rfl⟩
  refine ⟨?_, fun g hg => ?_, fun g hg => ?_, fun g hg hc hfresh => ?_⟩
  · show Joined (appendDomainEvent e s.tables).2.plans
    rw [hrows.2]
    exact hk.joined
  · have hg : g ∈ s.tables.snapshots.rows := hrows.1 ▸ hg
    exact le_trans (hk.behind g hg) (appendDomainEvent_cursor e s.tables g.runId)
  · exact hk.valid g (hrows.1 ▸ hg)
  · have hg : g ∈ s.tables.snapshots.rows := hrows.1 ▸ hg
    have hle := hk.behind g hg
    have hmove := appendDomainEvent_cursor e s.tables g.runId
    have hc' : g.sourceCursor = sourceCursor (appendDomainEvent e s.tables).2 g.runId := hc
    have hcursor : sourceCursor (appendDomainEvent e s.tables).2 g.runId = sourceCursor s.tables g.runId := by omega
    refine (hsame g.runId).shows (hk.current g hg (by omega) (fun hst => hfresh ⟨hcursor, Or.inl hst⟩))

theorem kept_of_runTopology {id drawn : String} (hk : Kept w s) (ha : Answerable s id drawn) :
    Kept w (watch w sha256 s (.runTopology id drawn)) := by
  rcases runTopology_cases w id drawn s.tables with h | ⟨g, hnone, hg, hvalid, hrows, snapshots, h⟩
  · exact kept_of_writes hk (by rw [show performCall w sha256 s.tables (.runTopology id drawn) = s.tables from h]; exact writes_refl _)
  · have hsame : ∀ r, SameGraph s.tables (runTopology w id drawn s.tables).2 r := by
      intro r
      rw [h]
      exact sameGraph_of_rows r rfl rfl rfl rfl
    have hevents : (runTopology w id drawn s.tables).2.events = s.tables.events := by rw [h]
    have hcursor : ∀ r, sourceCursor (runTopology w id drawn s.tables).2 r = sourceCursor s.tables r := by
      intro r
      unfold sourceCursor
      rw [hevents]
    have hmem : ∀ q ∈ (runTopology w id drawn s.tables).2.snapshots.rows,
        q ∈ s.tables.snapshots.rows ∨ q = topologyOf w s.tables id drawn g := by
      intro q hq
      rw [hrows] at hq
      simpa using hq
    refine ⟨?_, fun q hq => ?_, fun q hq => ?_, fun q hq hc hfresh => ?_⟩
    · show Joined (runTopology w id drawn s.tables).2.plans
      rw [h]
      exact hk.joined
    · show q.sourceCursor ≤ sourceCursor (runTopology w id drawn s.tables).2 q.runId
      rw [hcursor]
      rcases hmem q hq with hq | rfl
      · exact hk.behind q hq
      · exact le_refl _
    · rcases hmem q hq with hq | rfl
      · exact hk.valid q hq
      · exact hvalid
    · refine (hsame q.runId).shows ?_
      rcases hmem q hq with hq | rfl
      · exact hk.current q hq (hc.trans (hcursor q.runId)) (fun hst => hfresh ⟨hcursor q.runId, Or.inl hst⟩)
      · exact (compiles_shows hk ha hnone hg).2

theorem kept_step (w : Wire) (sha256 : RunPlan → String) (s : Watched) (c : TopologyCall) (hk : Kept w s)
    (hm : Meets s c) : Kept w (watch w sha256 s c) := by
  cases c with
  | storePlan i => exact kept_of_writes hk (storePlan_writes sha256 i s.tables)
  | createTaskAttempt a now => exact kept_of_writes hk (createTaskAttempt_writes a now s.tables)
  | createAgentSession r => exact kept_of_writes hk (createAgentSession_writes r s.tables)
  | createWorktree r => exact kept_of_writes hk (createWorktree_writes r s.tables)
  | appendDomainEvent e => exact kept_of_event e hk
  | runTopology id drawn => exact kept_of_runTopology hk hm

theorem answers_step (w : Wire) (s : Watched) (c : TopologyCall) (hk : Kept w s) (hm : Meets s c) : Answers w s c := by
  cases c with
  | runTopology id drawn => exact runTopology_answers hk hm
  | _ => trivial

end Step

theorem kept_new (w : Wire) (runs : List String) : Kept w (newStore runs) where
  joined := fun _ hd => (List.not_mem_nil hd).elim
  behind := fun _ hg => (List.not_mem_nil hg).elim
  valid := fun _ hg => (List.not_mem_nil hg).elim
  current := fun _ hg => (List.not_mem_nil hg).elim

/-- **The graph of a run is the run.** -/
theorem topology_shows_run (w : Wire) (sha256 : RunPlan → String) (runs : List String) (calls : List TopologyCall)
    (h : Along (watch w sha256) Meets (newStore runs) calls) :
    Along (watch w sha256) (Answers w) (newStore runs) calls :=
  Trace.along_of_step (Kept w) (kept_step w sha256) (answers_step w) (kept_new w runs) h

/-! ## Runs -/

def twoTasks : StoreInput where
  run := "run"
  architect := "architect"
  plan := ⟨"harness.orchestration.plan.v1", "Two tasks",
    [⟨"A", "First", "normal", "general", "general", [], [], "Build it", .null⟩,
      ⟨"B", "Second", "normal", "general", "general", [], ["A"], "Build on it", .null⟩]⟩
  revisionId := "revision"
  taskIds := fun n => if n = 0 then "a" else "b"
  now := 1

def sampleWire : Wire := ⟨fun _ => Control.Digest.ofNat 0, fun _ => Control.Digest.ofNat 0, fun _ => 0⟩

def plannedRun : List TopologyCall := [.storePlan twoTasks, .runTopology "run" "graph"]

theorem planned_run_shown :
    Along (watch sampleWire (fun _ => "plan")) Meets (newStore ["run"]) plannedRun ∧
      Along (watch sampleWire (fun _ => "plan")) (Answers sampleWire) (newStore ["run"]) plannedRun := by
  have hmeets : Along (watch sampleWire (fun _ => "plan")) Meets (newStore ["run"]) plannedRun := by
    refine ⟨trivial, ⟨by decide, by decide, by decide, rfl, ?_, Or.inr (Or.inr ⟨by decide, ?_⟩)⟩,
      trivial⟩
    · rintro ⟨-, h | ⟨h, -⟩⟩
      · exact h
      · cases h
    · intro n hn
      have hrows : (watch sampleWire (fun _ => "plan") (newStore ["run"]) (.storePlan twoTasks)).tables.plans.tasks.rows =
          twoTasks.plan.tasks.zipIdx.map (Plan.taskRow twoTasks) := rfl
      cases hn with
      | run => exact ⟨by decide, by decide⟩
      | @task k hk =>
        have hk := hk.1
        rw [hrows] at hk
        rcases List.mem_cons.1 hk with rfl | hk
        · exact ⟨by decide, by decide⟩
        · obtain rfl := List.mem_singleton.1 hk
          exact ⟨by decide, by decide⟩
      | attempt ha => exact (List.not_mem_nil ha.2.1).elim
      | agent hs => exact (List.not_mem_nil hs.2.1).elim
      | worktree hr => exact (List.not_mem_nil hr.2.1).elim
  exact ⟨hmeets, topology_shows_run sampleWire (fun _ => "plan") ["run"] plannedRun hmeets⟩

/-- A plan stored after the graph appends no event, so the graph without its tasks is answered again. -/
def replannedRun : List TopologyCall := [.runTopology "run" "graph", .storePlan twoTasks, .runTopology "run" "later"]

theorem stale_graph_returned :
    ¬ Along (watch sampleWire (fun _ => "plan")) (Answers sampleWire) (newStore ["run"]) replannedRun := by
  rintro ⟨-, -, hanswer, -⟩
  have hnodes : ((runTopology sampleWire "run" "later" (watch sampleWire (fun _ => "plan")
      (watch sampleWire (fun _ => "plan") (newStore ["run"]) (.runTopology "run" "graph"))
      (.storePlan twoTasks)).tables).1.toOption.map TopologySnapshot.nodes) = some [runNode "run"] := by decide
  rcases hanswer with h | h | ⟨g, h, hshows⟩
  · rw [h] at hnodes
    cases hnodes
  · rw [h] at hnodes
    cases hnodes
  · rw [h] at hnodes
    have hg : g.nodes = [runNode "run"] := Option.some.inj hnodes
    have htask : taskNode (Plan.taskRow twoTasks (twoTasks.plan.tasks.head (by decide), 0)) ∈ g.nodes :=
      (hshows.nodes _).2 (IsNode.task ⟨List.mem_cons_self, rfl⟩)
    rw [hg] at htask
    revert htask
    decide

end Topology
end Bildr
