import Bildr.PlanGraph
/-!
# PlanStorage — storing a validated plan

`storePlan` inserts a row for each packet and one for each entry of a dependency list, under the key
`(task_id, depends_on_task_id)`.  Validation gives it distinct task ids and dependencies that are other tasks of the
plan, but lets an entry of `depends_on` stand twice, and the second row is refused.  Once no list repeats an entry, all
that is left to ask is room in the tables (`storePlan_ok_iff`).
-/
namespace Bildr
namespace Plan

/-! ## The rows -/

def taskRow (i : StoreInput) (q : TaskPacket × Nat) : TaskRow :=
  ⟨i.taskIds q.2, i.run, i.revisionId, q.1.taskId, q.1.title, q.1.objective, q.1.priority, q.1.ownerProfile,
    q.1.reviewerProfile, .proposed, i.now, i.now, 1⟩

def taskRows (i : StoreInput) : List TaskRow := i.plan.tasks.zipIdx.map (taskRow i)

def edgeRow (i : StoreInput) (p : TaskPacket) (external : String) : TaskDependency :=
  ⟨(i.taskIdOf p.taskId).getD "", (i.taskIdOf external).getD "", p.dependencyShas.lookup external⟩

def edgeRows (i : StoreInput) : List TaskDependency := i.plan.tasks.flatMap (fun p => p.dependsOn.map (edgeRow i p))

/-! ## What validation gives, and what the generator of ids gives -/

structure Storable (tasks : List TaskPacket) : Prop where
  ids : (tasks.map TaskPacket.taskId).Nodup
  closed : ∀ t ∈ tasks, ∀ d ∈ t.dependsOn, ∃ u ∈ tasks, u.taskId = d
  irrefl : ∀ t ∈ tasks, t.taskId ∉ t.dependsOn

structure FreshIds (i : StoreInput) (t : Tables) : Prop where
  revision : ∀ p ∈ t.plans.rows, p.id ≠ i.revisionId
  tasks : ∀ n, ∀ k ∈ t.tasks.rows, k.id ≠ i.taskIds n
  dependencies : ∀ n, ∀ d ∈ t.dependencies.rows, d.taskId ≠ i.taskIds n
  distinct : Function.Injective i.taskIds

/-- The state has room for the plan: the run is there, no stored revision of it has this plan, its remaining tasks have
other names, and no task to be replaced is kept by a reconciliation proof. -/
structure Room (sha256 : RunPlan → String) (i : StoreInput) (t : Tables) : Prop where
  run : i.run ∈ t.runs
  consumed : ∀ k ∈ t.tasks.rows, replaced t i.run k = true → k.id ∉ t.consumed
  plans : ∀ p ∈ t.plans.rows, p.runId = i.run → p.planSha256 ≠ sha256 i.plan
  names : ∀ k ∈ t.tasks.rows, replaced t i.run k = false → k.runId = i.run → ∀ p ∈ i.plan.tasks,
    k.externalTaskId ≠ p.taskId

/-! ## Tasks -/

def taken (i : StoreInput) (tasks : Table TaskRow.id) (q : TaskPacket × Nat) : Prop :=
  ∃ k ∈ tasks.rows, k.runId = i.run ∧ k.externalTaskId = q.1.taskId

theorem insertTask_ok_iff {i : StoreInput} {tasks tasks' : Table TaskRow.id} {q : TaskPacket × Nat} :
    insertTask i tasks q = .ok tasks' ↔
      ¬ taken i tasks q ∧ i.taskIds q.2 ∉ tasks.rows.map TaskRow.id ∧ tasks'.rows = tasks.rows ++ [taskRow i q] := by
  have hany : (!tasks.rows.any (fun k => k.runId == i.run && k.externalTaskId == q.1.taskId)) = true ↔
      ¬ taken i tasks q := by
    simp [taken]
  constructor
  · intro h
    obtain ⟨_, hr, h⟩ := bind_ok h
    obtain ⟨hid, hrows⟩ := insertRow_ok_iff.1 h
    exact ⟨hany.1 (require_ok hr), hid, hrows⟩
  · rintro ⟨hr, hid, hrows⟩
    unfold insertTask
    rw [hany.2 hr]
    exact insertRow_ok_iff.2 ⟨hid, hrows⟩

theorem insertTasks_ok_iff {i : StoreInput} : ∀ {qs : List (TaskPacket × Nat)} {tasks tasks' : Table TaskRow.id},
    (qs.map (fun q => q.1.taskId)).Nodup → (qs.map (fun q => i.taskIds q.2)).Nodup →
    (∀ q ∈ qs, i.taskIds q.2 ∉ tasks.rows.map TaskRow.id) →
    (qs.foldlM (insertTask i) tasks = .ok tasks' ↔
      (∀ q ∈ qs, ¬ taken i tasks q) ∧ tasks'.rows = tasks.rows ++ qs.map (taskRow i))
  | [], tasks, tasks', _, _, _ => by
    rw [List.foldlM_nil, List.map_nil, List.append_nil]
    refine ⟨fun h => ?_, fun h => ?_⟩
    · cases h
      exact ⟨by simp, rfl⟩
    · rw [Table.ext_rows h.2]
      rfl
  | q :: qs, tasks, tasks', hext, hids, hfresh => by
    rw [List.map_cons, List.nodup_cons] at hext hids
    rw [List.foldlM_cons]
    -- the table after the first row: the names and ids after it are still free
    have hnext : ∀ u : Table TaskRow.id, u.rows = tasks.rows ++ [taskRow i q] →
        (qs.foldlM (insertTask i) u = .ok tasks' ↔
          (∀ q' ∈ qs, ¬ taken i tasks q') ∧ tasks'.rows = tasks.rows ++ (q :: qs).map (taskRow i)) := by
      intro u hu
      rw [insertTasks_ok_iff hext.2 hids.2 (fun q' hq' hm => ?_), hu, List.append_assoc]
      · refine and_congr (forall₂_congr (fun q' hq' => not_congr ?_)) Iff.rfl
        have hne : q.1.taskId ≠ q'.1.taskId := fun he => hext.1 (List.mem_map.2 ⟨q', hq', he.symm⟩)
        simp [taken, hu, taskRow, hne]
      · rw [hu, List.map_append, List.mem_append] at hm
        rcases hm with hm | hm
        · exact hfresh q' (List.mem_cons_of_mem q hq') hm
        · exact hids.1 (List.mem_map.2 ⟨q', hq', by simpa [taskRow] using hm⟩)
    constructor
    · intro h
      obtain ⟨u, hu, h⟩ := bind_ok h
      obtain ⟨hr, -, hrows⟩ := insertTask_ok_iff.1 hu
      obtain ⟨hall, hrest⟩ := (hnext u hrows).1 h
      refine ⟨fun q' hq' => ?_, hrest⟩
      rcases List.mem_cons.1 hq' with rfl | hq'
      · exact hr
      · exact hall q' hq'
    · rintro ⟨hall, hrest⟩
      have hid := hfresh q List.mem_cons_self
      obtain ⟨u, hu⟩ := Table.insert_isSome (t := tasks) (r := taskRow i q)
        (Table.get_none.2 (fun k hk hkey => hid (List.mem_map.2 ⟨k, hk, hkey⟩)))
      have hrows := (Table.insert_some hu).2
      rw [insertTask_ok_iff.2 ⟨hall q List.mem_cons_self, hid, hrows⟩, ok_bind]
      exact (hnext u hrows).2 ⟨fun q' hq' => hall q' (List.mem_cons_of_mem q hq'), hrest⟩

/-! ## Dependencies -/

theorem taskIdOf_mem {i : StoreInput} {p : TaskPacket} (hp : p ∈ i.plan.tasks) :
    ∃ n, i.taskIdOf p.taskId = some (i.taskIds n) := by
  unfold StoreInput.taskIdOf
  cases hf : i.plan.tasks.zipIdx.find? (fun q => q.1.taskId == p.taskId) with
  | some q => exact ⟨q.2, rfl⟩
  | none =>
    obtain ⟨n, hn, rfl⟩ := List.getElem_of_mem hp
    have hm : (i.plan.tasks[n], n) ∈ i.plan.tasks.zipIdx := List.mem_zipIdx_iff_getElem?.2 (by simp [hn])
    exact absurd (List.find?_eq_none.1 hf _ hm) (by simp)

theorem taskIdOf_inj {i : StoreInput} (hd : Function.Injective i.taskIds) {a b id : String}
    (ha : i.taskIdOf a = some id) (hb : i.taskIdOf b = some id) : a = b := by
  unfold StoreInput.taskIdOf at ha hb
  obtain ⟨q, hq, hqa⟩ := Option.map_eq_some_iff.1 ha
  obtain ⟨q', hq', hqb⟩ := Option.map_eq_some_iff.1 hb
  have hn : q.2 = q'.2 := hd (hqa.trans hqb.symm)
  have h1 := List.mem_zipIdx_iff_getElem?.1 (List.mem_of_find?_eq_some hq)
  have h2 := List.mem_zipIdx_iff_getElem?.1 (List.mem_of_find?_eq_some hq')
  rw [hn, h2] at h1
  have he : q.1 = q'.1 := (Option.some.inj h1).symm
  have hqa : q.1.taskId = a := by simpa using List.find?_some hq
  have hqb : q'.1.taskId = b := by simpa using List.find?_some hq'
  rw [← hqa, he, hqb]

section Edges
variable {i : StoreInput} (hs : Storable i.plan.tasks) (hd : Function.Injective i.taskIds)
include hs hd

omit hd in
theorem taskIdOf_closed {p : TaskPacket} (hp : p ∈ i.plan.tasks) {d : String} (hdep : d ∈ p.dependsOn) :
    ∃ n, i.taskIdOf d = some (i.taskIds n) := by
  obtain ⟨u, hu, rfl⟩ := hs.closed p hp d hdep
  exact taskIdOf_mem hu

theorem insertDependencies_eq {p : TaskPacket} (hp : p ∈ i.plan.tasks) (ds : Table TaskDependency.key) :
    insertDependencies i ds p = (p.dependsOn.map (edgeRow i p)).foldlM insertRow ds := by
  obtain ⟨n, hn⟩ := taskIdOf_mem hp
  unfold insertDependencies
  rw [hn, List.foldlM_map]
  show p.dependsOn.foldlM _ ds = _
  have hstep : ∀ (l : List String), (∀ d ∈ l, d ∈ p.dependsOn) → ∀ ds : Table TaskDependency.key,
      l.foldlM (fun ds external => do
        let dependencyId ← okOr (i.taskIdOf external)
          (.validation ("task " ++ p.taskId ++ " depends on missing task " ++ external))
        require (i.taskIds n != dependencyId)
        insertRow ds ⟨i.taskIds n, dependencyId, p.dependencyShas.lookup external⟩) ds =
      l.foldlM (fun ds d => insertRow ds (edgeRow i p d)) ds := by
    intro l
    induction l with
    | nil => intro _ ds; rfl
    | cons d l ih =>
      intro hl ds
      have hdep := hl d List.mem_cons_self
      obtain ⟨m, hm⟩ := taskIdOf_closed hs hp hdep
      have hne : i.taskIds n ≠ i.taskIds m := by
        intro he
        have hpd : p.taskId = d := taskIdOf_inj hd hn (he ▸ hm)
        exact hs.irrefl p hp (hpd ▸ hdep)
      have hedge : edgeRow i p d = ⟨i.taskIds n, i.taskIds m, p.dependencyShas.lookup d⟩ := by
        simp [edgeRow, hn, hm]
      rw [List.foldlM_cons, List.foldlM_cons, hm, hedge]
      have hreq : require (i.taskIds n != i.taskIds m) = .ok () := by
        rw [bne_iff_ne.2 hne]
        rfl
      simp only [okOr, ok_bind, hreq]
      cases insertRow ds (⟨i.taskIds n, i.taskIds m, p.dependencyShas.lookup d⟩ : TaskDependency) with
      | error e => rfl
      | ok u => exact ih (fun d' hd' => hl d' (List.mem_cons_of_mem d hd')) u
  exact hstep p.dependsOn (fun _ h => h) ds

theorem insertAllDependencies_eq (ds : Table TaskDependency.key) :
    i.plan.tasks.foldlM (insertDependencies i) ds = (edgeRows i).foldlM insertRow ds := by
  have hl : ∀ (l : List TaskPacket), (∀ p ∈ l, p ∈ i.plan.tasks) → ∀ ds : Table TaskDependency.key,
      l.foldlM (insertDependencies i) ds = (l.flatMap (fun p => p.dependsOn.map (edgeRow i p))).foldlM insertRow ds := by
    intro l
    induction l with
    | nil => intro _ ds; rfl
    | cons p l ih =>
      intro hl ds
      rw [List.foldlM_cons, List.flatMap_cons, List.foldlM_append, insertDependencies_eq hs hd (hl p List.mem_cons_self)]
      exact bind_congr (fun u => ih (fun q hq => hl q (List.mem_cons_of_mem p hq)) u)
  exact hl i.plan.tasks (fun _ h => h) ds

/-- **The rows of the dependencies have distinct keys exactly when no list repeats an entry.** -/
theorem edgeRows_nodup_iff : ((edgeRows i).map TaskDependency.key).Nodup ↔ ∀ p ∈ i.plan.tasks, p.dependsOn.Nodup := by
  have hmap : (edgeRows i).map TaskDependency.key =
      i.plan.tasks.flatMap (fun p => p.dependsOn.map (fun d => (edgeRow i p d).key)) := by
    unfold edgeRows
    rw [List.map_flatMap]
    simp [List.map_map, Function.comp_def]
  -- two entries of one list with one key are one entry
  have hinj : ∀ p ∈ i.plan.tasks, ∀ d ∈ p.dependsOn, ∀ d' ∈ p.dependsOn, (edgeRow i p d).key = (edgeRow i p d').key →
      d = d' := by
    intro p hp d hdep d' hdep' he
    obtain ⟨n, hn⟩ := taskIdOf_closed hs hp hdep
    obtain ⟨m, hm⟩ := taskIdOf_closed hs hp hdep'
    have hnm : i.taskIds n = i.taskIds m := by simpa [edgeRow, TaskDependency.key, hn, hm] using he
    exact taskIdOf_inj hd hn (hnm ▸ hm)
  rw [hmap, List.nodup_flatMap]
  constructor
  · exact fun h p hp => (h.1 p hp).of_map
  · intro h
    refine ⟨fun p hp => (h p hp).map_on (fun d hdep d' hdep' => hinj p hp d hdep d' hdep'), ?_⟩
    have hpair : i.plan.tasks.Pairwise (fun p q => p.taskId ≠ q.taskId) := List.pairwise_map.1 hs.ids
    refine hpair.imp_of_mem (fun {p q} hp hq hne x hx hx' => ?_)
    obtain ⟨d, -, rfl⟩ := List.mem_map.1 hx
    obtain ⟨d', -, he⟩ := List.mem_map.1 hx'
    obtain ⟨n, hn⟩ := taskIdOf_mem hp
    obtain ⟨m, hm⟩ := taskIdOf_mem hq
    have hnm : i.taskIds m = i.taskIds n := by
      have := congrArg Prod.fst he
      simpa [edgeRow, TaskDependency.key, hn, hm] using this
    exact hne (taskIdOf_inj hd hn (hnm ▸ hm))

end Edges

/-! ## The call -/

def keptTasks (i : StoreInput) (t : Tables) : Table TaskRow.id := t.tasks.delete (replaced t i.run)

def goneTasks (i : StoreInput) (t : Tables) : List String := (t.tasks.rows.filter (replaced t i.run)).map TaskRow.id

def keptDependencies (i : StoreInput) (t : Tables) : Table TaskDependency.key :=
  t.dependencies.delete (fun d => (goneTasks i t).contains d.taskId || (goneTasks i t).contains d.dependsOnTaskId)

/-- The plan is stored: one row for each packet and one for each entry of a dependency list, after the rows kept. -/
def Stores (sha256 : RunPlan → String) (i : StoreInput) (t : Tables) : Prop :=
  ∃ t', storePlan sha256 i t = (.ok i.revisionId, t') ∧ t'.tasks.rows = (keptTasks i t).rows ++ taskRows i ∧
    t'.dependencies.rows = (keptDependencies i t).rows ++ edgeRows i

section Call
variable {sha256 : RunPlan → String} {i : StoreInput} {t : Tables}

def closedPlans (i : StoreInput) (t : Tables) : Table PlanRevision.id :=
  t.plans.update (fun p => p.runId == i.run && p.state.underReview) superseded superseded_id

theorem goneTasks_free_iff : (goneTasks i t).all (fun k => !t.consumed.contains k) = true ↔
    ∀ k ∈ t.tasks.rows, replaced t i.run k = true → k.id ∉ t.consumed := by
  unfold goneTasks
  simp only [List.all_map, List.all_filter, List.all_eq_true, Function.comp_apply]
  refine forall₂_congr (fun k _ => ?_)
  cases replaced t i.run k <;> simp

theorem closedPlans_row {p : PlanRevision} (h : p ∈ (closedPlans i t).rows) :
    ∃ q ∈ t.plans.rows, p.id = q.id ∧ p.runId = q.runId ∧ p.revision = q.revision ∧ p.planSha256 = q.planSha256 := by
  obtain ⟨q, hq, rfl⟩ := Table.mem_update.1 h
  refine ⟨q, hq, ?_⟩
  split <;> simp [superseded]

theorem closedPlans_has {q : PlanRevision} (h : q ∈ t.plans.rows) :
    ∃ p ∈ (closedPlans i t).rows, p.runId = q.runId ∧ p.planSha256 = q.planSha256 := by
  refine ⟨_, Table.mem_update.2 ⟨q, h, rfl⟩, ?_⟩
  split <;> simp [superseded]

theorem revision_free {q : PlanRevision} (h : q ∈ t.plans.rows) (hr : q.runId = i.run) :
    q.revision ≠ maxRevision t.plans.rows i.run + 1 := by
  have hle : q.revision ≤ maxRevision t.plans.rows i.run :=
    Table.le_maxOf PlanRevision.revision (List.mem_filter.2 ⟨h, by simpa using hr⟩)
  omega

theorem revision_fits_iff : (t.runs.contains i.run && (closedPlans i t).rows.all (fun p => p.runId != i.run ||
      (p.revision != maxRevision t.plans.rows i.run + 1 && p.planSha256 != sha256 i.plan))) = true ↔
    i.run ∈ t.runs ∧ ∀ p ∈ t.plans.rows, p.runId = i.run → p.planSha256 ≠ sha256 i.plan := by
  simp only [Bool.and_eq_true, List.all_eq_true, Bool.or_eq_true, bne_iff_ne, List.contains_iff_mem]
  refine and_congr Iff.rfl ⟨fun h q hq hr => ?_, fun h p hp => ?_⟩
  · obtain ⟨p, hp, hpr, hps⟩ := closedPlans_has (i := i) hq
    rcases h p hp with hne | ⟨-, hsha⟩
    · exact absurd (hpr.trans hr) hne
    · exact hps ▸ hsha
  · obtain ⟨q, hq, -, hqr, hqn, hqs⟩ := closedPlans_row hp
    by_cases hr : p.runId = i.run
    · have hqi : q.runId = i.run := hqr.symm.trans hr
      exact Or.inr ⟨hqn ▸ revision_free hq hqi, hqs ▸ h q hq hqi⟩
    · exact Or.inl hr

section Fresh
variable (hs : Storable i.plan.tasks) (hf : FreshIds i t)
include hf

theorem keptTasks_fresh (n : Nat) : i.taskIds n ∉ (keptTasks i t).rows.map TaskRow.id := by
  intro hm
  obtain ⟨k, hk, he⟩ := List.mem_map.1 hm
  exact hf.tasks n k (Table.mem_delete.1 hk).1 he

theorem generatedIds_nodup : (i.plan.tasks.zipIdx.map (fun q => i.taskIds q.2)).Nodup := by
  rw [show (fun q : TaskPacket × Nat => i.taskIds q.2) = i.taskIds ∘ Prod.snd from rfl, ← List.map_map,
    List.zipIdx_map_snd]
  exact List.Nodup.map hf.distinct List.nodup_range'

theorem taskRows_nodup : (((keptTasks i t).rows ++ taskRows i).map TaskRow.id).Nodup := by
  have hmap : (taskRows i).map TaskRow.id = i.plan.tasks.zipIdx.map (fun q => i.taskIds q.2) := by
    simp [taskRows, taskRow, Function.comp_def]
  rw [List.map_append, List.nodup_append, hmap]
  refine ⟨(keptTasks i t).nodup, generatedIds_nodup hf, ?_⟩
  rintro a ha b hb rfl
  obtain ⟨q, -, rfl⟩ := List.mem_map.1 hb
  exact keptTasks_fresh hf q.2 ha

include hs

/-- **The tasks fit exactly when the remaining tasks of the run have other names.** -/
theorem insertAllTasks_ok_iff {tasks : Table TaskRow.id} :
    i.plan.tasks.zipIdx.foldlM (insertTask i) (keptTasks i t) = .ok tasks ↔
      (∀ k ∈ t.tasks.rows, replaced t i.run k = false → k.runId = i.run → ∀ p ∈ i.plan.tasks,
        k.externalTaskId ≠ p.taskId) ∧ tasks.rows = (keptTasks i t).rows ++ taskRows i := by
  have hnames : (i.plan.tasks.zipIdx.map (fun q => q.1.taskId)).Nodup := by
    rw [show (fun q : TaskPacket × Nat => q.1.taskId) = TaskPacket.taskId ∘ Prod.fst from rfl, ← List.map_map,
      List.zipIdx_map_fst]
    exact hs.ids
  rw [insertTasks_ok_iff hnames (generatedIds_nodup hf) (fun q _ => keptTasks_fresh hf q.2)]
  refine and_congr ⟨fun h k hk hkept hr p hp he => ?_, fun h q hq ⟨k, hk, hr, he⟩ => ?_⟩ Iff.rfl
  · obtain ⟨n, hn, rfl⟩ := List.getElem_of_mem hp
    have hq : (i.plan.tasks[n], n) ∈ i.plan.tasks.zipIdx := List.mem_zipIdx_iff_getElem?.2 (by simp [hn])
    exact h _ hq ⟨k, Table.mem_delete.2 ⟨hk, hkept⟩, hr, he⟩
  · obtain ⟨hk, hkept⟩ := Table.mem_delete.1 hk
    exact h k hk hkept hr q.1 (List.mem_of_getElem? (List.mem_zipIdx_iff_getElem?.1 hq)) he

/-- **The dependencies fit exactly when no list repeats an entry**: no row kept has the id of a new task. -/
theorem edgeRows_fit_iff : (((keptDependencies i t).rows ++ edgeRows i).map TaskDependency.key).Nodup ↔
    ∀ p ∈ i.plan.tasks, p.dependsOn.Nodup := by
  rw [← edgeRows_nodup_iff hs hf.distinct, List.map_append]
  refine ⟨fun h => h.of_append_right, fun h => ?_⟩
  rw [List.nodup_append]
  refine ⟨(keptDependencies i t).nodup, h, ?_⟩
  rintro a ha b hb rfl
  obtain ⟨d, hd, rfl⟩ := List.mem_map.1 ha
  obtain ⟨e, he, hk⟩ := List.mem_map.1 hb
  obtain ⟨p, hp, he⟩ := List.mem_flatMap.1 he
  obtain ⟨x, -, rfl⟩ := List.mem_map.1 he
  obtain ⟨n, hn⟩ := taskIdOf_mem hp
  refine hf.dependencies n d (Table.mem_delete.1 hd).1 ?_
  have := congrArg Prod.fst hk
  simpa [edgeRow, TaskDependency.key, hn] using this.symm

theorem insertAllDependencies_ok_iff {ds : Table TaskDependency.key} :
    i.plan.tasks.foldlM (insertDependencies i) (keptDependencies i t) = .ok ds ↔
      (∀ p ∈ i.plan.tasks, p.dependsOn.Nodup) ∧ ds.rows = (keptDependencies i t).rows ++ edgeRows i := by
  rw [insertAllDependencies_eq hs hf.distinct, insertRows_ok_iff, edgeRows_fit_iff hs hf]

/-- **A plan without missing or circular dependencies is stored exactly when no list repeats an entry and there is
room.** -/
theorem storePlan_ok_iff : Stores sha256 i t ↔ (∀ p ∈ i.plan.tasks, p.dependsOn.Nodup) ∧ Room sha256 i t := by
  constructor
  · rintro ⟨t', hcall, -, -⟩
    unfold storePlan at hcall
    rcases transaction_cases _ t with ⟨e, -, he⟩ | ⟨a, u, hbody, -⟩
    · rw [he] at hcall
      cases hcall
    · obtain ⟨_, hgone, hbody⟩ := bind_ok hbody
      obtain ⟨_, hfits, hbody⟩ := bind_ok hbody
      obtain ⟨plans, -, hbody⟩ := bind_ok hbody
      obtain ⟨tasks, htasks, hbody⟩ := bind_ok hbody
      obtain ⟨ds, hds, -⟩ := bind_ok hbody
      obtain ⟨hrun, hplans⟩ := revision_fits_iff.1 (require_ok hfits)
      exact ⟨((insertAllDependencies_ok_iff hs hf).1 hds).1, hrun, goneTasks_free_iff.1 (require_ok hgone), hplans,
        ((insertAllTasks_ok_iff hs hf).1 htasks).1⟩
  · rintro ⟨hnodup, hroom⟩
    have hgone := goneTasks_free_iff.2 hroom.consumed
    have hfits := revision_fits_iff.2 ⟨hroom.run, hroom.plans⟩
    obtain ⟨plans, hplans⟩ := insertRow_isOk (t := closedPlans i t)
      (r := i.row sha256 (maxRevision t.plans.rows i.run + 1)) (fun hm => by
        obtain ⟨p, hp, he⟩ := List.mem_map.1 hm
        obtain ⟨q, hq, hqid, -⟩ := closedPlans_row hp
        exact hf.revision q hq (hqid.symm.trans he))
    have htasks : i.plan.tasks.zipIdx.foldlM (insertTask i) (keptTasks i t) = .ok ⟨_, taskRows_nodup hf⟩ :=
      (insertAllTasks_ok_iff hs hf).2 ⟨hroom.names, rfl⟩
    have hds : i.plan.tasks.foldlM (insertDependencies i) (keptDependencies i t) =
        .ok ⟨_, (edgeRows_fit_iff hs hf).2 hnodup⟩ := (insertAllDependencies_ok_iff hs hf).2 ⟨hnodup, rfl⟩
    refine ⟨{ t with
      plans := plans
      tasks := ⟨_, taskRows_nodup hf⟩
      dependencies := ⟨_, (edgeRows_fit_iff hs hf).2 hnodup⟩ }, ?_, rfl, rfl⟩
    show transaction (fun _ => do
      require ((goneTasks i t).all (fun k => !t.consumed.contains k))
      require (t.runs.contains i.run && (closedPlans i t).rows.all (fun p => p.runId != i.run ||
        (p.revision != maxRevision t.plans.rows i.run + 1 && p.planSha256 != sha256 i.plan)))
      let plans ← insertRow (closedPlans i t) (i.row sha256 (maxRevision t.plans.rows i.run + 1))
      let tasks ← i.plan.tasks.zipIdx.foldlM (insertTask i) (keptTasks i t)
      let dependencies ← i.plan.tasks.foldlM (insertDependencies i) (keptDependencies i t)
      return (i.revisionId, { t with plans := plans, tasks := tasks, dependencies := dependencies })) t = _
    simp only [transaction, require, hgone, hfits, ensure_true, ok_bind, hplans, htasks, hds, pure_ok]

end Fresh
end Call

/-! ## Validated plans -/

theorem storable_of_checked {plan : PacketPlan} (hc : Checked plan.tasks) (ha : Acyclic plan.tasks) :
    Storable plan.stored.tasks := by
  refine ⟨?_, fun t ht d hd => ?_, fun t ht hd => ?_⟩
  · rw [PacketPlan.stored, List.map_map]
    exact hc.ids
  · obtain ⟨q, hq, rfl⟩ := List.mem_map.1 ht
    obtain ⟨u, hu⟩ := Option.isSome_iff_exists.1 (hc.closed q hq d hd)
    exact ⟨u.toTaskPacket, List.mem_map.2 ⟨u, (lookup_some hu).1, rfl⟩, (lookup_some hu).2⟩
  · obtain ⟨q, hq, rfl⟩ := List.mem_map.1 ht
    refine ha q.taskId (Relation.TransGen.single ?_)
    unfold Depends
    rw [dependenciesOf_task hc.ids hq]
    exact hd

/-- **A validated plan can be ordered, and it is stored exactly when no dependency list repeats an entry and the state
has room for it**; a plan that passes the other checks and has a cycle is refused with the cycle error. -/
theorem validated_plan_orders_and_stores (sha256 : RunPlan → String) (baseSha : String) (profile : RepositoryProfile)
    (plan : PacketPlan) :
    (validatePlan baseSha profile plan = .ok () →
      (∀ t ∈ plan.tasks, ∀ d ∈ t.dependsOn, ∃ u ∈ plan.tasks, u.taskId = d) ∧ Acyclic plan.tasks ∧
      (∃ order : List Packet, order.Perm plan.tasks ∧ InOrder order) ∧
      ∀ i t, i.plan = plan.stored → FreshIds i t →
        (Stores sha256 i t ↔ (∀ p ∈ plan.tasks, p.dependsOn.Nodup) ∧ Room sha256 i t)) ∧
    (validateTasks baseSha profile plan = .ok () → ¬ Acyclic plan.tasks →
      ∃ x, validatePlan baseSha profile plan = .error (cycleError x) ∧
        Relation.TransGen (Depends plan.tasks) x x) := by
  refine ⟨fun h => ?_, fun h hc => validatePlan_cyclic h hc⟩
  obtain ⟨htasks, hwalks⟩ := validatePlan_ok h
  have hc := validateTasks_ok htasks
  have ha := acyclic_of_walks hwalks
  refine ⟨fun t ht d hd => ?_, ha, order_of_walks hwalks hc, fun i t hi hf => ?_⟩
  · obtain ⟨u, hu⟩ := Option.isSome_iff_exists.1 (hc.closed t ht d hd)
    exact ⟨u, lookup_some hu⟩
  · have hs : Storable i.plan.tasks := hi ▸ storable_of_checked hc ha
    rw [storePlan_ok_iff hs hf, hi]
    exact and_congr (by simp [PacketPlan.stored]) Iff.rfl

/-! ## Two plans -/

def milestone (id : String) : TaskMilestone := ⟨id, "Slice", "Build it", ["It works"]⟩

/-- A packet that passes the checks, with its dependencies and its patterns. -/
def packet (id : String) (dependsOn ownedPaths : List String) : Packet where
  taskId := id
  title := "Slice"
  priority := "P1"
  ownerProfile := "worker"
  reviewerProfile := "verifier"
  dependencyShas := []
  dependsOn := dependsOn
  objective := "Build it"
  details := .null
  schema := "harness.orchestration.task.v1"
  executionMode := "agent"
  executionKind := .implementation
  investigationScope := none
  authorityRefs := []
  baseSha := "base"
  ownedPaths := ownedPaths
  forbiddenPaths := []
  reservedSerialPaths := []
  milestones := [milestone "M1", milestone "M2", milestone "M3"]
  successCriteria := ["It works"]
  requiredEvidence := ["A run"]
  proofLimits := ["Local"]
  diffBudget := ⟨12, 1200⟩
  tokenBudget := 80000
  riskFlags := []

def slicePlan (tasks : List Packet) : PacketPlan := ⟨"harness.orchestration.plan.v1", "Two slices", tasks⟩

def rustProfile : RepositoryProfile := ⟨"rust", []⟩

def storeInput (plan : PacketPlan) : StoreInput :=
  ⟨"run", "architect", plan.stored, "revision", fun n => String.ofList (List.replicate n 'x'), 0⟩

def emptyStore : Tables := ⟨["run"], [], Table.empty, Table.empty, Table.empty⟩

theorem freshIds_empty (plan : PacketPlan) : FreshIds (storeInput plan) emptyStore := by
  refine ⟨by simp [emptyStore, Table.empty], by simp [emptyStore, Table.empty], by simp [emptyStore, Table.empty], ?_⟩
  intro n m h
  have := congrArg (fun s : String => s.toList.length) h
  simpa [storeInput] using this

theorem room_empty (sha256 : RunPlan → String) (plan : PacketPlan) : Room sha256 (storeInput plan) emptyStore :=
  ⟨by simp [emptyStore, storeInput], by simp [emptyStore, Table.empty], by simp [emptyStore, Table.empty],
    by simp [emptyStore, Table.empty]⟩

/-- `B` depends on `A`, once. -/
def chainPlan : PacketPlan := slicePlan [packet "A" [] ["src/a.rs"], packet "B" ["A"] ["src/b.rs"]]

/-- `B` depends on `A`, twice. -/
def repeatedPlan : PacketPlan := slicePlan [packet "A" [] ["src/a.rs"], packet "B" ["A", "A"] ["src/b.rs"]]

theorem chainPlan_valid : validatePlan "base" rustProfile chainPlan = .ok () := by decide

theorem validated_plan_orders_and_stores_chainPlan :
    validatePlan "base" rustProfile chainPlan = .ok () ∧ Acyclic chainPlan.tasks ∧
      Stores RunPlan.summary (storeInput chainPlan) emptyStore := by
  obtain ⟨-, ha, -, hstore⟩ :=
    (validated_plan_orders_and_stores RunPlan.summary "base" rustProfile chainPlan).1 chainPlan_valid
  refine ⟨chainPlan_valid, ha, (hstore _ _ rfl (freshIds_empty chainPlan)).2 ⟨?_, room_empty _ chainPlan⟩⟩
  simp [chainPlan, slicePlan, packet]

/-- A validated plan with room in the store, refused by the key of `task_dependencies`. -/
theorem repeated_dependency_not_stored :
    validatePlan "base" rustProfile repeatedPlan = .ok () ∧ FreshIds (storeInput repeatedPlan) emptyStore ∧
      Room RunPlan.summary (storeInput repeatedPlan) emptyStore ∧
      (storePlan RunPlan.summary (storeInput repeatedPlan) emptyStore).1 = .error (.sqlite .constraintViolation) :=
  ⟨by decide, freshIds_empty repeatedPlan, room_empty _ repeatedPlan, by decide⟩

end Plan
end Bildr
