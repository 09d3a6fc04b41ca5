import Bildr.Approval
import Bildr.Calls
import Bildr.Plan
import Bildr.ReconciliationCalls
/-!
# TaskTransitions — the states of a task (`harness-store/src/queries.rs`)

`transition_task` reads a task, checks the move and writes it if the version has not changed since, each under a lock of
its own; `mark_unblocked_tasks_ready` and `set_task_failure_reason` are one statement each.  The calls step in any order,
and in between others write states, `store_plan` replaces tasks and their dependencies, and `delete_run` deletes them
(`TaskEvent`).
-/
namespace Bildr
namespace Tasks

open Plan (TaskRow TaskDependency)
open Calls (Pool)
open Approval (sqliteVersion)

structure TaskTables where
  plans : Plan.Tables
  failureReason : String → Option String

/-- A state in which a task's dependents need not wait for it. -/
def satisfies (s : TaskState) : Bool :=
  [TaskState.verified, .integrationQueued, .integrating, .integrated, .ciProven, .liveProven, .closed].contains s

/-- The `NOT EXISTS` of `mark_unblocked_tasks_ready`. -/
def unblocked (t : Plan.Tables) (r : TaskRow) : Bool :=
  !t.dependencies.rows.any (fun d => d.taskId == r.id &&
    t.tasks.rows.any (fun k => k.id == d.dependsOnTaskId && !satisfies k.state))

def task (t : TaskTables) (id : String) : Except StoreError TaskRow :=
  match t.plans.tasks.get id with
  | some r => .ok r
  | none   => .error (.notFound ("task " ++ id))

structure Transition where
  id : String
  next : TaskState
  expectedVersion : Option Nat
  now : Int

inductive Request
  | transition (q : Transition)
  | markUnblockedReady (run : String) (now : Int)
  | setFailureReason (id : String) (reason : Option String) (now : Int)

inductive Answer
  | task (r : TaskRow)
  | changed (n : Nat)
  | stored

inductive Phase
  | start
  | read (seen : TaskRow)
  | wrote
  | done (answer : Except StoreError Answer)

structure TaskCall where
  request : Request
  phase : Phase

def moved (s : TaskState) (now : Int) (r : TaskRow) : TaskRow :=
  { r with state := s, updatedAt := now, version := r.version + 1 }

theorem moved_id (s : TaskState) (now : Int) (r : TaskRow) : (moved s now r).id = r.id := rfl

def noted (now : Int) (r : TaskRow) : TaskRow := { r with updatedAt := now, version := r.version + 1 }

theorem noted_id (now : Int) (r : TaskRow) : (noted now r).id = r.id := rfl

def TaskTables.withTasks (t : TaskTables) (tasks : Table TaskRow.id) : TaskTables :=
  { t with plans := { t.plans with tasks := tasks } }

/-- The read of `transition_task` and its checks. -/
def readTask (t : TaskTables) (q : Transition) : Except StoreError TaskRow := do
  let current ← task t q.id
  ensure (!q.expectedVersion.any (fun v => v != current.version)) (.conflict ("stale task version for " ++ q.id))
  ensure (current.state.canTransitionTo q.next)
    (.conflict ("illegal task transition " ++ current.state.text ++ " -> " ++ q.next.text))
  let _ ← sqliteVersion current.version
  return current

def chosen (q : Transition) (seen : TaskRow) (r : TaskRow) : Bool := r.id == q.id && r.version == seen.version

def writeTask (t : TaskTables) (q : Transition) (seen : TaskRow) : Except StoreError TaskTables :=
  if t.plans.tasks.rows.any (chosen q seen) then
    .ok (t.withTasks (t.plans.tasks.update (chosen q seen) (moved q.next q.now) (moved_id q.next q.now)))
  else .error (.conflict ("task " ++ q.id ++ " changed concurrently"))

def isWaiting (t : Plan.Tables) (run : String) (r : TaskRow) : Bool :=
  r.runId == run && decide (r.state = .waitingDependency) && unblocked t r

def markUnblockedReady (t : TaskTables) (run : String) (now : Int) : TaskTables × Nat :=
  (t.withTasks (t.plans.tasks.update (isWaiting t.plans run) (moved .ready now) (moved_id .ready now)),
    t.plans.tasks.rows.countP (isWaiting t.plans run))

def setFailureReason (t : TaskTables) (id : String) (reason : Option String) (now : Int) :
    TaskTables × Except StoreError Answer :=
  match t.plans.tasks.get id with
  | none   => (t, .error (.notFound ("task " ++ id)))
  | some _ =>
    ({ t.withTasks (t.plans.tasks.update (fun r => r.id == id) (noted now) (noted_id now)) with
      failureReason := fun k => if k = id then reason else t.failureReason k }, .ok .stored)

/-- The next lock a call takes. -/
def next (t : TaskTables) (c : TaskCall) : TaskTables × TaskCall :=
  match c.request, c.phase with
  | .transition q, .start                   =>
    match readTask t q with
    | .error e => (t, { c with phase := .done (.error e) })
    | .ok seen => (t, { c with phase := .read seen })
  | .transition q, .read seen               =>
    match writeTask t q seen with
    | .error e => (t, { c with phase := .done (.error e) })
    | .ok t'   => (t', { c with phase := .wrote })
  | .transition q, .wrote                   => (t, { c with phase := .done ((task t q.id).map Answer.task) })
  | .markUnblockedReady run now, .start     =>
    ((markUnblockedReady t run now).1, { c with phase := .done (.ok (.changed (markUnblockedReady t run now).2)) })
  | .setFailureReason id reason now, .start =>
    ((setFailureReason t id reason now).1, { c with phase := .done (setFailureReason t id reason now).2 })
  | _, _                                    => (t, c)

/-- The task of a row that a call has read. -/
def TaskCall.hasRead (id : String) (c : TaskCall) : Bool :=
  match c.request, c.phase with
  | .transition q, .read _ => q.id == id
  | _, _                   => false

/-- What others do: every other statement that writes the states of tasks counts their versions too, and `store_plan` and
`delete_run` delete and insert tasks and dependencies. -/
inductive TaskEvent
  | call (k : Nat)
  | other (p : TaskRow → Bool) (state : TaskRow → TaskState) (now : Int)
  | deleted (p : TaskRow → Bool)
  | inserted (r : TaskRow)
  | depends (dependencies : Table TaskDependency.key)

/-- A new task has an id of its own: no row has it, and no call has read it. -/
def insertTask (p : Pool TaskTables TaskCall) (r : TaskRow) : TaskTables :=
  match p.shared.plans.tasks.insert r with
  | none       => p.shared
  | some tasks => if p.calls.any (TaskCall.hasRead r.id) then p.shared else p.shared.withTasks tasks

def taskStep (p : Pool TaskTables TaskCall) : TaskEvent → Pool TaskTables TaskCall
  | .call k               => Calls.step next p k
  | .other f state now    =>
    { p with shared := p.shared.withTasks (p.shared.plans.tasks.update f (fun r => moved (state r) now r) (fun _ => rfl)) }
  | .deleted f            => { p with shared := p.shared.withTasks (p.shared.plans.tasks.delete f) }
  | .inserted r           => { p with shared := insertTask p r }
  | .depends dependencies =>
    { p with shared := { p.shared with plans := { p.shared.plans with dependencies := dependencies } } }

/-- Calls that have not begun. -/
def calling (t : TaskTables) (requests : List Request) : Pool TaskTables TaskCall :=
  ⟨t, requests.map (fun q => ⟨q, .start⟩)⟩

/-! ## What a step does to a task -/

/-- A task before and after a step of one of the calls. -/
def Legal (t : Plan.Tables) (r r' : TaskRow) : Prop :=
  r' = r ∨ (r'.version = r.version + 1 ∧ (r.state.canTransitionTo r'.state = true ∨
    (r.state = .waitingDependency ∧ r'.state = .ready ∧ unblocked t r = true)))

/-- Every task is still there, and what became of it is legal. -/
def Legally (t t' : TaskTables) : Prop :=
  ∀ id r, t.plans.tasks.get id = some r → ∃ r', t'.plans.tasks.get id = some r' ∧ Legal t.plans r r'

/-- Tasks in a last state stay in it; a failed task is not in one. -/
def KeepsLast (t t' : TaskTables) : Prop :=
  ∀ id r, t.plans.tasks.get id = some r → r.state.isTerminal = true → r.state ≠ .failed →
    ∃ r', t'.plans.tasks.get id = some r' ∧ r'.state = r.state

variable {t : TaskTables} {id : String} {r : TaskRow} {es : List TaskEvent}

theorem canTransitionTo_self (s : TaskState) : s.canTransitionTo s = true := by simp [TaskState.canTransitionTo]

theorem readTask_ok {q : Transition} {seen : TaskRow} (h : readTask t q = .ok seen) :
    t.plans.tasks.get q.id = some seen ∧ seen.state.canTransitionTo q.next = true := by
  unfold readTask task at h
  obtain ⟨current, hcurrent, h⟩ := bind_ok h
  obtain ⟨_, -, h⟩ := bind_ok h
  obtain ⟨_, hlegal, h⟩ := bind_ok h
  obtain ⟨_, -, h⟩ := bind_ok h
  cases h
  cases hget : t.plans.tasks.get q.id with
  | none =>
    rw [hget] at hcurrent
    cases hcurrent
  | some r =>
    rw [hget] at hcurrent
    cases hcurrent
    exact ⟨rfl, ensure_ok hlegal⟩

/-- The row of an id after a statement. -/
theorem get_withTasks (p : TaskRow → Bool) (f : TaskRow → TaskRow) (hf) (h : t.plans.tasks.get id = some r) :
    (t.withTasks (t.plans.tasks.update p f hf)).plans.tasks.get id = some (if p r then f r else r) := by
  show (t.plans.tasks.update p f hf).get id = _
  rw [Table.get_update, h]
  rfl

/-- What a transition has read: the move is legal from there, and the row, if it is still there, is as it was read while its
version is. -/
def Seen (t : TaskTables) (c : TaskCall) : Prop :=
  ∀ q seen, c.request = .transition q → c.phase = .read seen → seen.state.canTransitionTo q.next = true ∧
    ∀ r, t.plans.tasks.get q.id = some r → seen.version ≤ r.version ∧ (r.version = seen.version → r = seen)

/-- Rows change only with their version, and none of them is new. -/
def Counts (t t' : TaskTables) : Prop :=
  ∀ id r', t'.plans.tasks.get id = some r' →
    ∃ r, t.plans.tasks.get id = some r ∧ (r' = r ∨ r'.version = r.version + 1)

theorem counts_refl (t : TaskTables) : Counts t t := fun _ r hr => ⟨r, hr, Or.inl rfl⟩

theorem seen_counts {c : TaskCall} {t' : TaskTables} (h : Seen t c) (ht : Counts t t') : Seen t' c := by
  intro q seen hq hp
  obtain ⟨hlegal, hrow⟩ := h q seen hq hp
  refine ⟨hlegal, fun r' hr' => ?_⟩
  obtain ⟨r, hr, rfl | hv⟩ := ht _ r' hr'
  · exact hrow r' hr
  · have hle := (hrow r hr).1
    exact ⟨by omega, fun h => by omega⟩

theorem counts_update (p : TaskRow → Bool) (f : TaskRow → TaskRow) (hf) (hv : ∀ r, (f r).version = r.version + 1) :
    Counts t (t.withTasks (t.plans.tasks.update p f hf)) := by
  intro id r' hr'
  have hget : ((t.plans.tasks.get id).map (fun r => if p r then f r else r)) = some r' := by
    rw [← Table.get_update _ _ _ hf]
    exact hr'
  obtain ⟨r, hr, rfl⟩ := Option.map_eq_some_iff.1 hget
  refine ⟨r, hr, ?_⟩
  by_cases h : p r = true
  · rw [if_pos h]
    exact Or.inr (hv r)
  · rw [if_neg h]
    exact Or.inl rfl

theorem counts_delete (p : TaskRow → Bool) : Counts t (t.withTasks (t.plans.tasks.delete p)) := by
  intro id r' hr'
  have hget : (t.plans.tasks.delete p).get id = some r' := hr'
  obtain ⟨hmem, hid⟩ := Table.get_some.1 hget
  exact ⟨r', Table.get_some.2 ⟨(Table.mem_delete.1 hmem).1, hid⟩, Or.inl rfl⟩

/-- A new task is not the one a call has read. -/
theorem seen_insert {p : Pool TaskTables TaskCall} {c : TaskCall} {k : Nat} (hk : p.call k = some c)
    (h : Seen p.shared c) (r : TaskRow) : Seen (insertTask p r) c := by
  unfold insertTask
  cases hinsert : p.shared.plans.tasks.insert r with
  | none => exact h
  | some tasks =>
    by_cases hread : p.calls.any (TaskCall.hasRead r.id) = true
    · simp only [hread]
      exact h
    · simp only [hread]
      intro q seen hq hp
      obtain ⟨hlegal, hrow⟩ := h q seen hq hp
      refine ⟨hlegal, fun r' hr' => ?_⟩
      have hnot : q.id ≠ r.id := by
        intro hid
        refine hread (List.any_eq_true.2 ⟨c, List.mem_of_getElem? hk, ?_⟩)
        unfold TaskCall.hasRead
        rw [hq, hp]
        exact beq_iff_eq.2 hid
      have hget : tasks.get q.id = some r' := hr'
      rw [Table.get_insert hinsert, if_neg hnot] at hget
      exact hrow r' hget

/-- **The next lock of a call** changes tasks legally, counts what it changes, and reads what is there. -/
theorem next_legal (t : TaskTables) (c : TaskCall) (h : Seen t c) :
    Legally t (next t c).1 ∧ Seen (next t c).1 (next t c).2 := by
  have hsame : Legally t t := fun id r hr => ⟨r, hr, Or.inl rfl⟩
  have hidle : ∀ t' (c' : TaskCall), (∀ seen, c'.phase ≠ .read seen) → Seen t' c' :=
    fun t' c' hphase q seen _ hp => absurd hp (hphase seen)
  obtain ⟨request, phase⟩ := c
  unfold next
  split
  · rename_i q hq hp
    cases hread : readTask t q with
    | error e => exact ⟨hsame, hidle _ _ (fun _ hp => by cases hp)⟩
    | ok seen =>
      obtain ⟨hget, hlegal⟩ := readTask_ok hread
      refine ⟨hsame, fun q' seen' hq' hp' => ?_⟩
      cases hq.symm.trans hq'
      cases hp'
      refine ⟨hlegal, fun r hr => ?_⟩
      cases hget.symm.trans hr
      exact ⟨Nat.le_refl _, fun _ => rfl⟩
  · rename_i q seen hq hp
    cases hwrite : writeTask t q seen with
    | error e => exact ⟨hsame, hidle _ _ (fun _ hp => by cases hp)⟩
    | ok t' =>
      unfold writeTask at hwrite
      split at hwrite
      · cases hwrite
        refine ⟨fun id r hr => ⟨_, get_withTasks _ _ _ hr, ?_⟩, hidle _ _ (fun _ hp => by cases hp)⟩
        by_cases hc : chosen q seen r = true
        · -- the version is the one that was read, so the row is
          rw [if_pos hc]
          unfold chosen at hc
          rw [Bool.and_eq_true, beq_iff_eq, beq_iff_eq] at hc
          obtain ⟨hlegal, hrow⟩ := h q seen hq hp
          rw [← hc.1, Table.key_of_get hr] at hrow
          rw [← (hrow r hr).2 hc.2] at hlegal
          exact Or.inr ⟨rfl, Or.inl hlegal⟩
        · rw [if_neg hc]
          exact Or.inl rfl
      · cases hwrite
  · exact ⟨hsame, hidle _ _ (fun _ hp => by cases hp)⟩
  · rename_i run now hq hp
    refine ⟨fun id r hr => ⟨_, get_withTasks _ _ _ hr, ?_⟩, hidle _ _ (fun _ hp => by cases hp)⟩
    by_cases hw : isWaiting t.plans run r = true
    · rw [if_pos hw]
      unfold isWaiting at hw
      simp only [Bool.and_eq_true, decide_eq_true_eq] at hw
      exact Or.inr ⟨rfl, Or.inr ⟨hw.1.2, rfl, hw.2⟩⟩
    · rw [if_neg hw]
      exact Or.inl rfl
  · rename_i k reason now hq hp
    unfold setFailureReason
    cases t.plans.tasks.get k with
    | none => exact ⟨hsame, hidle _ _ (fun _ hp => by cases hp)⟩
    | some _ =>
      refine ⟨fun id r hr => ⟨_, get_withTasks _ _ _ hr, ?_⟩, hidle _ _ (fun _ hp => by cases hp)⟩
      by_cases hk : (r.id == k) = true
      · rw [if_pos hk]
        exact Or.inr ⟨rfl, Or.inl (canTransitionTo_self _)⟩
      · rw [if_neg hk]
        exact Or.inl rfl
  · exact ⟨hsame, h⟩

theorem next_counts (t : TaskTables) (c : TaskCall) : Counts t (next t c).1 := by
  obtain ⟨request, phase⟩ := c
  unfold next
  split
  · split <;> exact counts_refl t
  · split
    · exact counts_refl t
    · rename_i hwrite
      unfold writeTask at hwrite
      split at hwrite
      · cases hwrite
        exact counts_update _ _ _ (fun _ => rfl)
      · cases hwrite
  · exact counts_refl t
  · exact counts_update _ _ _ (fun _ => rfl)
  · unfold setFailureReason
    split
    · exact counts_refl t
    · exact counts_update _ _ _ (fun _ => rfl)
  · exact counts_refl t

/-! ## Runs -/

def AllSeen (p : Pool TaskTables TaskCall) : Prop := ∀ k c, p.call k = some c → Seen p.shared c

theorem step_legal {p : Pool TaskTables TaskCall} (h : AllSeen p) (k : Nat) :
    Legally p.shared (Calls.step next p k).shared ∧ AllSeen (Calls.step next p k) := by
  cases hk : p.call k with
  | none =>
    rw [Calls.step_none hk]
    exact ⟨fun id r hr => ⟨r, hr, Or.inl rfl⟩, h⟩
  | some c =>
    obtain ⟨hlegal, hseen⟩ := next_legal p.shared c (h k c hk)
    rw [← Calls.step_shared hk] at hlegal hseen
    refine ⟨hlegal, fun j a ha => ?_⟩
    rcases Calls.step_call_cases hk ha with ⟨rfl, rfl⟩ | ⟨-, hj⟩
    · exact hseen
    · rw [Calls.step_shared hk]
      exact seen_counts (h j a hj) (next_counts p.shared c)

theorem allSeen_step {p : Pool TaskTables TaskCall} (h : AllSeen p) (e : TaskEvent) : AllSeen (taskStep p e) := by
  cases e with
  | call k => exact (step_legal h k).2
  | other f state now => exact fun k c hc => seen_counts (h k c hc) (counts_update f _ _ (fun _ => rfl))
  | deleted f => exact fun k c hc => seen_counts (h k c hc) (counts_delete f)
  | inserted r =>
    intro k c hc
    have hc' : p.call k = some c := hc
    exact seen_insert hc' (h k c hc') r
  | depends dependencies => exact fun k c hc => h k c hc

theorem allSeen_run (t : TaskTables) (requests : List Request) (es : List TaskEvent) :
    AllSeen (Trace.run taskStep (calling t requests) es) := by
  induction es using List.reverseRecOn with
  | nil =>
    intro k c hc q seen _ hp
    obtain ⟨request, -, rfl⟩ := List.mem_map.1 (List.mem_of_getElem? hc)
    cases hp
  | append_singleton es e ih =>
    rw [Trace.run_append]
    exact allSeen_step ih e

/-- **No call moves a task illegally**: wherever a call of the three steps, whatever calls and other writers did before,
every task is as it was, or its version is one higher and its state moved legally from the state it had, or it waited for
dependencies that are done and is ready. -/
theorem transitions_legal (t : TaskTables) (requests : List Request) (es : List TaskEvent) (k : Nat) :
    Legally (Trace.run taskStep (calling t requests) es).shared
      (Trace.run taskStep (calling t requests) (es ++ [.call k])).shared := by
  rw [Trace.run_append]
  exact (step_legal (allSeen_run t requests es) k).1

theorem last_legal {t : Plan.Tables} {r' : TaskRow} (hr : r.state.isTerminal = true) (hf : r.state ≠ .failed)
    (h : Legal t r r') : r'.state = r.state := by
  rcases h with rfl | ⟨-, h | ⟨hw, -⟩⟩
  · rfl
  · revert h hr hf
    cases r.state <;> cases r'.state <;> decide
  · rw [hw] at hr
    cases hr

theorem keepsLast_calls : ∀ (ks : List Nat) {p : Pool TaskTables TaskCall}, AllSeen p →
    KeepsLast p.shared (Trace.run taskStep p (ks.map TaskEvent.call)).shared
  | [], _, _ => fun id r hr _ _ => ⟨r, hr, rfl⟩
  | k :: ks, p, h => by
    intro id r hr ht hf
    obtain ⟨hlegal, hseen⟩ := step_legal h k
    obtain ⟨r', hr', hl⟩ := hlegal id r hr
    have hstate := last_legal ht hf hl
    obtain ⟨r'', hr'', hstate'⟩ := keepsLast_calls ks hseen id r' hr' (by rw [hstate]; exact ht) (by rw [hstate]; exact hf)
    exact ⟨r'', hr'', hstate'.trans hstate⟩

/-- **Closed, superseded and canceled are last**: no further calls of the three, however they interleave, take a task out of
them. -/
theorem last_states_stay (t : TaskTables) (requests : List Request) (es : List TaskEvent) (ks : List Nat) :
    KeepsLast (Trace.run taskStep (calling t requests) es).shared
      (Trace.run taskStep (calling t requests) (es ++ ks.map TaskEvent.call)).shared := by
  rw [Trace.run_append]
  exact keepsLast_calls ks (allSeen_run t requests es)

end Tasks
end Bildr
