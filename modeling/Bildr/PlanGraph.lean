import Bildr.PlanContract
/-!
# PlanGraph — the dependencies of a validated plan

The walks of `detectCycle` decide whether the tasks can be put in order.  Each starts with empty sets, so a plan whose
walks all end has no task with an infinite descent below it (`detectCycle_acc`): it has no cycle, and an order of the
tasks in which every dependency comes first (`order_of_walks`).  Otherwise the first walk that does not end reports a
task on a cycle (`walks_cases`).
-/
namespace Bildr
namespace Plan

open Relation (TransGen)

def Depends (tasks : List Packet) (a b : String) : Prop := b ∈ dependenciesOf tasks a

def Acyclic (tasks : List Packet) : Prop := ∀ a, ¬ TransGen (Depends tasks) a a

def InOrder (order : List Packet) : Prop :=
  ∀ before task after, order = before ++ task :: after → ∀ d ∈ task.dependsOn, ∃ t ∈ before, t.taskId = d

theorem lookup_some {tasks : List Packet} {id : String} {t : Packet} (h : lookup tasks id = some t) :
    t ∈ tasks ∧ t.taskId = id :=
  ⟨List.mem_of_find?_eq_some h, by simpa using List.find?_some h⟩

theorem lookup_of_mem {tasks : List Packet} (hn : (tasks.map (fun t => t.taskId)).Nodup) {t : Packet} (ht : t ∈ tasks) :
    lookup tasks t.taskId = some t := by
  cases hl : lookup tasks t.taskId with
  | none => exact absurd (List.find?_eq_none.1 hl t ht) (by simp)
  | some u =>
    obtain ⟨hu, he⟩ := lookup_some hl
    rw [List.inj_on_of_nodup_map hn hu ht he]

theorem dependenciesOf_task {tasks : List Packet} (hn : (tasks.map (fun t => t.taskId)).Nodup) {t : Packet}
    (ht : t ∈ tasks) : dependenciesOf tasks t.taskId = t.dependsOn := by
  unfold dependenciesOf
  rw [lookup_of_mem hn ht]
  rfl

theorem mem_of_dependencies {tasks : List Packet} {id : String} (h : dependenciesOf tasks id ≠ []) :
    id ∈ tasks.map (fun t => t.taskId) := by
  unfold dependenciesOf at h
  cases hl : lookup tasks id with
  | none => rw [hl] at h; exact absurd rfl h
  | some t => exact List.mem_map.2 ⟨t, lookup_some hl⟩

/-! ## One walk -/

theorem detectCycle_cases (tasks : List Packet) (id : String) :
    detectCycle tasks id = .ok () ∨
    ∃ x, detectCycle tasks id = .error (cycleError x) ∧ TransGen (Depends tasks) x x := by
  unfold detectCycle
  have hnodes : ∀ x, dependenciesOf tasks x ≠ [] → x ∈ tasks.map (fun t => t.taskId) := fun x => mem_of_dependencies
  rcases Dfs.visit_cases hnodes (n := tasks.length + 1) (by simp) id with ⟨m, hm⟩ | ⟨x, hx⟩
  · rw [hm]
    exact Or.inl rfl
  · rw [hx]
    exact Or.inr ⟨x, rfl, Dfs.visit_cycle hx⟩

theorem detectCycle_acc {tasks : List Packet} {id : String} (h : detectCycle tasks id = .ok ()) :
    Acc (fun a b => a ∈ dependenciesOf tasks b) id := by
  unfold detectCycle at h
  split at h
  · rename_i m hm
    exact Dfs.visit_acc hm
  · cases h
  · cases h

/-! ## All walks -/

theorem walks_cases (tasks : List Packet) :
    (∀ t ∈ tasks, detectCycle tasks t.taskId = .ok ()) ∨
    ∃ x, tasks.forM (fun t => detectCycle tasks t.taskId) = .error (cycleError x) ∧ TransGen (Depends tasks) x x := by
  rcases forM_cases (f := fun t => detectCycle tasks t.taskId) tasks with ⟨-, hall⟩ | ⟨t, -, e, he, h⟩
  · exact Or.inl hall
  · rcases detectCycle_cases tasks t.taskId with hok | ⟨x, hx, hc⟩
    · rw [hok] at he
      cases he
    · rw [hx] at he
      cases he
      exact Or.inr ⟨x, h, hc⟩

section Walks
variable {tasks : List Packet} (hw : ∀ t ∈ tasks, detectCycle tasks t.taskId = .ok ())
include hw

theorem acc_of_walks (id : String) : Acc (fun a b => a ∈ dependenciesOf tasks b) id := by
  by_cases hid : id ∈ tasks.map (fun t => t.taskId)
  · obtain ⟨t, ht, rfl⟩ := List.mem_map.1 hid
    exact detectCycle_acc (hw t ht)
  · refine Acc.intro id (fun d hd => ?_)
    exact absurd (mem_of_dependencies (List.ne_nil_of_mem hd)) hid

theorem acyclic_of_walks : Acyclic tasks := by
  intro a hc
  have hs : TransGen (Function.swap (Depends tasks)) a a := Relation.transGen_swap.2 hc
  exact Dfs.not_cycle_of_acc (acc_of_walks hw a) hs

/-- **Tasks without a cycle, whose dependencies are tasks, have an order in which dependencies come first.** -/
theorem order_of_walks (hc : Checked tasks) : ∃ order : List Packet, order.Perm tasks ∧ InOrder order := by
  have hacc : ∀ t ∈ tasks, Acc (fun a b : Packet => a.taskId ∈ dependenciesOf tasks b.taskId) t :=
    fun t _ => InvImage.accessible (fun t : Packet => t.taskId) (acc_of_walks hw t.taskId)
  obtain ⟨order, hperm, hord⟩ := Dfs.exists_order tasks.length tasks rfl hacc
  refine ⟨order, hperm, ?_⟩
  rintro before task after rfl d hd
  have hmem : ∀ t ∈ before ++ task :: after, t ∈ tasks := fun t ht => hperm.subset ht
  have htask : task ∈ tasks := hmem task (by simp)
  have hdep : d ∈ dependenciesOf tasks task.taskId := by rw [dependenciesOf_task hc.ids htask]; exact hd
  obtain ⟨u, hu⟩ := Option.isSome_iff_exists.1 (hc.closed task htask d hd)
  obtain ⟨hut, rfl⟩ := lookup_some hu
  -- the dependency is one of the tasks: before this one, this one, or after it
  rcases List.mem_append.1 (hperm.symm.subset hut) with hb | hb
  · exact ⟨u, hb, rfl⟩
  · exfalso
    rcases List.mem_cons.1 hb with rfl | ha
    · exact acyclic_of_walks hw u.taskId (TransGen.single hdep)
    · have hrest := (List.pairwise_cons.1 (List.pairwise_append.1 hord).2.1).1 u ha
      exact hrest hdep

end Walks

/-- **A plan with a cycle that passes the other checks is refused with the cycle error**, at a task on a cycle. -/
theorem validatePlan_cyclic {baseSha : String} {profile : RepositoryProfile} {plan : PacketPlan}
    (h : validateTasks baseSha profile plan = .ok ()) (hc : ¬ Acyclic plan.tasks) :
    ∃ x, validatePlan baseSha profile plan = .error (cycleError x) ∧ TransGen (Depends plan.tasks) x x := by
  rcases walks_cases plan.tasks with hall | ⟨x, hx, hcyc⟩
  · exact absurd (acyclic_of_walks hall) hc
  · refine ⟨x, ?_, hcyc⟩
    unfold validatePlan
    rw [h]
    exact hx

end Plan
end Bildr
