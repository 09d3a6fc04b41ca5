import Bildr.Latest
import Bildr.PlanStorage
import Bildr.TakeReady
import Mathlib.Data.String.Basic
/-!
# IntegrationOrder — the order commits are integrated in (`harness-orchestrator/src/lib.rs`)

`ordered_task_commits` puts the verified commits of a run in the order they are integrated in: dependencies come first, and
of what is ready the smallest id (`ordered_task_commits_order`).  What `validate_plan` refuses at planning time is what
would stop it, so once the commits of a validated plan are there it succeeds (`validated_plan_integrates`).
-/
namespace Bildr
namespace Integration

open Plan (Packet PacketPlan RepositoryProfile validatePlan)

/-- What the function reads of a task. -/
structure TaskSummary where
  id : String
  externalTaskId : String
  dependencies : List String
deriving DecidableEq

inductive OrchestratorError
  | blocked (why : String)
  | protocol (why : String)
  | validation (why : String)
deriving DecidableEq

/-- A task with its verified commit. -/
structure Verified where
  task : TaskSummary
  sha : String
deriving DecidableEq

def Verified.externalId (e : Verified) : String := e.task.externalTaskId

def Verified.dependencies (e : Verified) : List String := e.task.dependencies

def requireExactSha (value : String) : Except OrchestratorError Unit :=
  ensure (Improvement.isLowerHex value 40)
    (.validation ("expected an exact lowercase 40-character Git SHA, observed " ++ value))

/-- The last commit that is listed for a task. -/
def commitOf (commits : List (String × String)) (task : String) : Option String :=
  (Latest.find Prod.fst commits task).map Prod.snd

def verifiedTask (commits : List (String × String)) (task : TaskSummary) : Except OrchestratorError Verified := do
  let sha ← okOr (commitOf commits task.id)
    (.blocked ("verified task " ++ task.externalTaskId ++ " has no verified commit"))
  return ⟨task, sha⟩

/-- The loop over a map by external id. -/
def takeInOrder (pending : List Verified) : Except OrchestratorError (List Verified) :=
  TakeReady.takeAll Verified.externalId Verified.dependencies (fun e => requireExactSha e.sha)
    (.protocol "approved task dependencies could not be topologically ordered") pending.length pending []

def orderedTaskCommits (tasks : List TaskSummary) (commits : List (String × String)) :
    Except OrchestratorError (List (String × String)) := do
  let pending ← tasks.mapM (verifiedTask commits)
  let ordered ← takeInOrder (Latest.collect Verified.externalId pending)
  return ordered.map (fun e => (e.task.id, e.sha))

/-! ## The order -/

/-- Every task stands after the tasks it depends on. -/
def DependenciesFirst (order : List TaskSummary) : Prop :=
  ∀ pre t post, order = pre ++ t :: post → ∀ n ∈ t.dependencies, n ∈ pre.map TaskSummary.externalTaskId

/-- A task waits behind one with a larger id only for a dependency. -/
def SmallestFirst (order : List TaskSummary) : Prop :=
  ∀ pre t post, order = pre ++ t :: post → ∀ u ∈ post, u.externalTaskId < t.externalTaskId →
    ∃ n ∈ u.dependencies, n ∉ pre.map TaskSummary.externalTaskId

/-- The commit of a task is an exact one. -/
def HasCommit (commits : List (String × String)) (t : TaskSummary) : Prop :=
  ∃ sha, commitOf commits t.id = some sha ∧ Improvement.isLowerHex sha 40 = true

def shaOf (commits : List (String × String)) (t : TaskSummary) : String := (commitOf commits t.id).getD ""

variable {tasks : List TaskSummary} {commits ordered : List (String × String)}

theorem verifiedTask_ok {t : TaskSummary} {e : Verified} : verifiedTask commits t = .ok e ↔
    e.task = t ∧ commitOf commits t.id = some e.sha := by
  unfold verifiedTask
  cases h : commitOf commits t.id with
  | none => simp [okOr]
  | some sha =>
    cases e
    simp only [okOr, ok_bind, pure_ok, Except.ok.injEq, Verified.mk.injEq, Option.some.injEq]
    exact and_congr_left' eq_comm

theorem mapM_verified {pending : List Verified} (h : tasks.mapM (verifiedTask commits) = .ok pending) :
    pending.map Verified.task = tasks := by
  induction tasks generalizing pending with
  | nil =>
    cases h
    rfl
  | cons t tasks ih =>
    rw [List.mapM_cons] at h
    obtain ⟨e, he, h⟩ := bind_ok h
    obtain ⟨rest, hrest, h⟩ := bind_ok h
    cases h
    rw [List.map_cons, ih hrest, (verifiedTask_ok.1 he).1]

theorem perm_pending {pending : List Verified} (hids : (tasks.map TaskSummary.externalTaskId).Nodup)
    (h : tasks.mapM (verifiedTask commits) = .ok pending) : (Latest.collect Verified.externalId pending).Perm pending := by
  apply Latest.perm_collect
  rw [← mapM_verified h, List.map_map] at hids
  exact hids

/-- **The order of a run** has all its tasks with their exact commits, dependencies first, and of those that are ready the
smallest id first. -/
theorem ordered_task_commits_order (hids : (tasks.map TaskSummary.externalTaskId).Nodup)
    (h : orderedTaskCommits tasks commits = .ok ordered) :
    (∀ t ∈ tasks, HasCommit commits t) ∧ ∃ order : List TaskSummary, order.Perm tasks ∧ DependenciesFirst order ∧
      SmallestFirst order ∧ ordered = order.map (fun t => (t.id, shaOf commits t)) := by
  obtain ⟨pending, hpending, h⟩ := bind_ok h
  obtain ⟨l, hl, h⟩ := bind_ok h
  cases h
  have hcollect := perm_pending hids hpending
  obtain ⟨hperm, ho, hchecked⟩ := TakeReady.takeAll_ok rfl (Latest.sorted_collect _ _) hl
  have hperm := hperm.trans hcollect
  have hentry : ∀ e ∈ l, commitOf commits e.task.id = some e.sha := by
    intro e he
    obtain ⟨t, -, ht⟩ := (mem_mapM hpending).1 (hperm.subset he)
    obtain ⟨rfl, hsha⟩ := verifiedTask_ok.1 ht
    exact hsha
  have htasks : (l.map Verified.task).Perm tasks := mapM_verified hpending ▸ hperm.map Verified.task
  -- a cut of the tasks is one of the entries
  have hcut : ∀ pre t post, l.map Verified.task = pre ++ t :: post → ∃ pre' e post', l = pre' ++ e :: post' ∧
      pre'.map Verified.task = pre ∧ e.task = t ∧ post'.map Verified.task = post := by
    intro pre t post hcut
    obtain ⟨pre', rest, rfl, hpre, hrest⟩ := List.map_eq_append_iff.1 hcut
    obtain ⟨e, post', rfl, he, hpost⟩ := List.map_eq_cons_iff.1 hrest
    exact ⟨pre', e, post', rfl, hpre, he, hpost⟩
  refine ⟨fun t ht => ?_, l.map Verified.task, htasks, ?_, ?_, ?_⟩
  · obtain ⟨e, he, rfl⟩ := List.mem_map.1 (htasks.symm.subset ht)
    exact ⟨e.sha, hentry e he, ensure_ok (hchecked e he)⟩
  · intro pre t post hcut'
    obtain ⟨pre', e, post', hsplit, rfl, rfl, -⟩ := hcut pre t post hcut'
    intro n hn
    rw [List.map_map]
    exact ((TakeReady.inOrder_split ho _ _ _ hsplit).1 n hn).resolve_left List.not_mem_nil
  · intro pre t post hcut'
    obtain ⟨pre', e, post', hsplit, rfl, rfl, rfl⟩ := hcut pre t post hcut'
    intro u hu hlt
    obtain ⟨f, hf, rfl⟩ := List.mem_map.1 hu
    obtain ⟨n, hn, -, hnot⟩ := (TakeReady.inOrder_split ho _ _ _ hsplit).2 f hf hlt
    rw [List.map_map]
    exact ⟨n, hn, hnot⟩
  · rw [List.map_map]
    refine List.map_congr_left (fun e he => ?_)
    show _ = (e.task.id, shaOf commits e.task)
    rw [shaOf, hentry e he]
    rfl

/-! ## Validated plans -/

/-- The tasks of a run are the packets of its plan. -/
structure StoredPlan (plan : List Packet) (tasks : List TaskSummary) : Prop where
  ids : (tasks.map TaskSummary.externalTaskId).Nodup
  packet : ∀ t ∈ tasks, ∃ p ∈ plan, p.taskId = t.externalTaskId ∧ ∀ n, n ∈ t.dependencies ↔ n ∈ p.dependsOn
  task : ∀ p ∈ plan, p.taskId ∈ tasks.map TaskSummary.externalTaskId

variable {baseSha : String} {profile : RepositoryProfile} {plan : PacketPlan}

/-- **A validated plan can be integrated**: once its commits are there, the run is not refused for want of an order. -/
theorem validated_plan_integrates (h : validatePlan baseSha profile plan = .ok ()) (hs : StoredPlan plan.tasks tasks)
    (hc : ∀ t ∈ tasks, HasCommit commits t) : ∃ ordered, orderedTaskCommits tasks commits = .ok ordered := by
  obtain ⟨htasks, hwalks⟩ := Plan.validatePlan_ok h
  have hchecked := Plan.validateTasks_ok htasks
  obtain ⟨pending, hpending⟩ : ∃ pending, tasks.mapM (verifiedTask commits) = .ok pending := by
    refine mapM_isOk (fun t ht => ?_)
    obtain ⟨sha, hsha, -⟩ := hc t ht
    exact ⟨⟨t, sha⟩, verifiedTask_ok.2 ⟨rfl, hsha⟩⟩
  have hcollect := perm_pending hs.ids hpending
  have hmem : ∀ {e}, e ∈ Latest.collect Verified.externalId pending → e.task ∈ tasks ∧ commitOf commits e.task.id = some e.sha := by
    intro e he
    obtain ⟨t, ht, hverified⟩ := (mem_mapM hpending).1 (hcollect.subset he)
    obtain ⟨rfl, hsha⟩ := verifiedTask_ok.1 hverified
    exact ⟨ht, hsha⟩
  have hdepends : ∀ {f e : Verified}, e.task ∈ tasks → f.externalId ∈ e.dependencies →
      Plan.Depends plan.tasks e.externalId f.externalId := by
    intro f e he hdep
    obtain ⟨p, hp, hid, hdeps⟩ := hs.packet e.task he
    unfold Plan.Depends
    rw [Verified.externalId, ← hid, Plan.dependenciesOf_task hchecked.ids hp]
    exact (hdeps _).1 hdep
  -- a cycle of entries would be one of packets, the other way around
  let R : Verified → Verified → Prop := fun f e =>
    f ∈ Latest.collect Verified.externalId pending ∧ e.task ∈ tasks ∧ f.externalId ∈ e.dependencies
  have hlift : ∀ {a b}, Relation.TransGen R a b → Relation.TransGen (Plan.Depends plan.tasks) b.externalId a.externalId := by
    intro a b hway
    induction hway with
    | single hab => exact Relation.TransGen.single (hdepends hab.2.1 hab.2.2)
    | tail _ hbc ih => exact Relation.TransGen.head (hdepends hbc.2.1 hbc.2.2) ih
  have hacc : ∀ e, Acc R e := Dfs.acc_of_acyclic (s := { x | x ∈ Latest.collect Verified.externalId pending })
    (List.finite_toSet _) (fun x y h => h.1) (fun x hcycle => Plan.acyclic_of_walks hwalks _ (hlift hcycle))
  have hclosed : ∀ e ∈ Latest.collect Verified.externalId pending, ∀ n ∈ e.dependencies,
      n ∈ ([] : List String) ∨ ∃ f ∈ Latest.collect Verified.externalId pending, f.externalId = n ∧ R f e := by
    intro e he n hn
    obtain ⟨p, hp, -, hdeps⟩ := hs.packet e.task (hmem he).1
    obtain ⟨q, hq⟩ := Option.isSome_iff_exists.1 (hchecked.closed p hp n ((hdeps n).1 hn))
    obtain ⟨hqp, rfl⟩ := Plan.lookup_some hq
    have htask := hs.task q hqp
    rw [← mapM_verified hpending, List.map_map] at htask
    obtain ⟨f, hf, hfn⟩ := List.mem_map.1 htask
    have hfn : f.externalId = q.taskId := hfn
    have hf := hcollect.symm.subset hf
    exact Or.inr ⟨f, hf, hfn, hf, (hmem he).1, by rw [hfn]; exact hn⟩
  have hexact : ∀ e ∈ Latest.collect Verified.externalId pending, requireExactSha e.sha = .ok () := by
    intro e he
    obtain ⟨sha, hsha, hhex⟩ := hc e.task (hmem he).1
    obtain rfl := Option.some.inj (hsha.symm.trans (hmem he).2)
    unfold requireExactSha
    rw [hhex, ensure_true]
  have horder : ∃ l, takeInOrder (Latest.collect Verified.externalId pending) = .ok l :=
    TakeReady.takeAll_isOk rfl (Latest.sorted_collect Verified.externalId pending) hexact hclosed (fun l hl _ => by
      obtain ⟨x, hx⟩ := List.exists_mem_of_ne_nil l hl
      exact Dfs.exists_minimal (hacc x) hx)
  obtain ⟨l, hl⟩ := horder
  refine ⟨l.map (fun e => (e.task.id, e.sha)), ?_⟩
  unfold orderedTaskCommits
  rw [hpending, ok_bind, hl]
  rfl

section Chain

def exactSha (c : Char) : String := String.ofList (List.replicate 40 c)

/-- `B` depends on `A`. -/
def chain : List TaskSummary := [⟨"2", "B", ["A"]⟩, ⟨"1", "A", []⟩]

def chainCommits : List (String × String) := [("2", exactSha 'b'), ("1", exactSha 'a')]

theorem chain_commits : ∀ t ∈ chain, HasCommit chainCommits t := by
  intro t ht
  simp only [chain, List.mem_cons, List.not_mem_nil, or_false] at ht
  rcases ht with rfl | rfl
  · exact ⟨exactSha 'b', rfl, by decide⟩
  · exact ⟨exactSha 'a', rfl, by decide⟩

theorem storedPlan_chain : StoredPlan Plan.chainPlan.tasks chain where
  ids := by decide
  packet t ht := by
    simp only [chain, List.mem_cons, List.not_mem_nil, or_false] at ht
    rcases ht with rfl | rfl
    · exact ⟨Plan.packet "B" ["A"] ["src/b.rs"], by simp [Plan.chainPlan, Plan.slicePlan], rfl, fun _ => Iff.rfl⟩
    · exact ⟨Plan.packet "A" [] ["src/a.rs"], by simp [Plan.chainPlan, Plan.slicePlan], rfl, fun _ => Iff.rfl⟩
  task p hp := by
    simp only [Plan.chainPlan, Plan.slicePlan, List.mem_cons, List.not_mem_nil, or_false] at hp
    rcases hp with rfl | rfl
    · simp [chain, Plan.packet]
    · simp [chain, Plan.packet]

theorem validated_plan_integrates_chain : ∃ ordered, orderedTaskCommits chain chainCommits = .ok ordered :=
  validated_plan_integrates Plan.chainPlan_valid storedPlan_chain chain_commits

theorem ordered_task_commits_order_chain : ∃ order : List TaskSummary, order.Perm chain ∧ DependenciesFirst order ∧
    SmallestFirst order ∧ [("1", exactSha 'a'), ("2", exactSha 'b')] = order.map (fun t => (t.id, shaOf chainCommits t)) := by
  have h : orderedTaskCommits chain chainCommits = .ok [("1", exactSha 'a'), ("2", exactSha 'b')] := by decide +kernel
  exact (ordered_task_commits_order (by decide) h).2

end Chain

end Integration
end Bildr
