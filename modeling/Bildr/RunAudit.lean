import Bildr.RunLifecycle
import Bildr.Trace
import Mathlib.Data.List.Chain
/-!
# RunAudit — the lifecycle events of a run tell its history

A call leaves the tables alone, adds a run, sets columns that are no part of the history, or moves one run and writes
the move (`step_cases`).  So the events of a run chain from the state it was created in to the stored one
(`audit_of_run`).  The time of completion is the first terminal move's as long as no run that has one is moved to a
terminal state again (`KeepsCompletion`).
-/
namespace Bildr
namespace Run

open Json (Value)
open Trace

/-! ## Reading the journal -/

def DomainEvent.text (e : DomainEvent) (field : String) : Option String := (e.payload.get field).bind Value.asStr

def DomainEvent.priorState (e : DomainEvent) : Option String := e.text "prior_state"

def DomainEvent.nextState (e : DomainEvent) : Option String := e.text "next_state"

def DomainEvent.runVersion (e : DomainEvent) : Option Nat := (e.payload.get "run_version").bind Value.asU64

def isLifecycle (id : String) (e : DomainEvent) : Bool :=
  e.aggregateType == "run" && e.aggregateId == id && decide (e.runId = some id) &&
    e.eventType == "run.lifecycle.transitioned"

def lifecycle (t : Tables) (id : String) : List DomainEvent := t.events.filter (isLifecycle id)

def DomainEvent.terminal (e : DomainEvent) : Bool := (e.nextState.bind RunState.parse).any RunState.isTerminal

def completionTime (l : List DomainEvent) : Option Int := (l.find? DomainEvent.terminal).map DomainEvent.occurredAt

structure Audited (created : String) (r : RunRow) (l : List DomainEvent) : Prop where
  allowed : ∀ e ∈ l, ∃ (s next : RunState) (version : Nat), e.priorState = some s.name ∧ e.nextState = some next.name ∧
    s.canTransitionTo next = true ∧ e.runVersion = some version ∧ version ≤ r.version
  starts : ∀ e ∈ l.head?, e.priorState = some created
  linked : l.IsChain (fun e e' => e'.priorState = e.nextState)
  ends : some r.state = (l.getLast?.map DomainEvent.nextState).getD (some created)
  grows : (l.filterMap DomainEvent.runVersion).Pairwise (· < ·)

theorem parse_name (s : RunState) : RunState.parse s.name = some s := by
  cases s <;> decide

theorem name_of_parse {text : String} {s : RunState} (h : RunState.parse text = some s) : s.name = text := by
  simpa using List.find?_some h

/-! ## What a call does -/

inductive Op
  | createRun (i : NewRun) (now : Int)
  | transitionRun (id : String) (next : RunState) (phase : String) (expected : Option Nat)
      (failure : Option (String × String)) (now : Int)
  | setSchedulerPaused (id : String) (paused : Bool) (now : Int)
  | setRunTokenBudgetAndResume (id : String) (tokenBudget : Nat) (now : Int)
  | setRunPinned (id : String) (pinned : Bool) (now : Int)
  | setRunIntegration (id branch sha : String) (now : Int)
  | clearRunIntegration (id : String) (now : Int)

def step (t : Tables) : Op → Tables
  | .createRun i now => (createRun i now t).2
  | .transitionRun id next phase expected failure now => (transitionRun id next phase expected failure now t).2
  | .setSchedulerPaused id paused now => (setSchedulerPaused id paused now t).2
  | .setRunTokenBudgetAndResume id tokenBudget now => (setRunTokenBudgetAndResume id tokenBudget now t).2
  | .setRunPinned id pinned now => (setRunPinned id pinned now t).2
  | .setRunIntegration id branch sha now => (setRunIntegration id branch sha now t).2
  | .clearRunIntegration id now => (clearRunIntegration id now t).2

def emptyRuns (repositories : List String) : Tables := ⟨repositories, ∅, [], 0⟩

/-- The run is there, its version is the expected one and can grow, and the move is allowed. -/
def accepted (t : Tables) (id : String) (next : RunState) (expected : Option Nat) : Bool :=
  (t.runs.get id).any (fun r => expected.all (fun v => v == r.version) && fitsI64 (r.version + 1) &&
    (RunState.parse r.state).any (fun s => s.canTransitionTo next))

def moveEvent (t : Tables) (r : RunRow) (s next : RunState) (phase : String) (failure : Option (String × String))
    (now : Int) : DomainEvent :=
  ⟨t.sequence + 1, some r.id, "run", r.id, "run.lifecycle.transitioned", now,
    lifecyclePayload s next phase (r.version + 1) (failure.map Prod.fst)⟩

structure Moved (t t' : Tables) (r : RunRow) (s next : RunState) (phase : String) (failure : Option (String × String))
    (now : Int) : Prop where
  row : t.runs.get r.id = some r
  state : RunState.parse r.state = some s
  allowed : s.canTransitionTo next = true
  fits : fitsI64 (r.version + 1) = true
  runs : t'.runs.rows = t.runs.rows.map (fun q => if q.id = r.id then q.transitioned next phase failure now else q)
  events : t'.events = t.events ++ [moveEvent t r s next phase failure now]
  repositories : t'.repositories = t.repositories

structure Touched (t t' : Tables) : Prop where
  ids : t'.runs.rows.map RunRow.id = t.runs.rows.map RunRow.id
  rows : ∀ q' ∈ t'.runs.rows, ∃ q ∈ t.runs.rows, q'.id = q.id ∧ q'.state = q.state ∧ q'.completedAt = q.completedAt ∧
    q.version ≤ q'.version
  events : t'.events = t.events
  repositories : t'.repositories = t.repositories

/-- A run was added; its repository is known and its id was free. -/
structure Added (t t' : Tables) (i : NewRun) (now : Int) : Prop where
  known : t.repositories.contains i.repositoryId = true
  free : t.runs.get i.id = none
  rows : t'.runs.rows = t.runs.rows ++ [i.row now]
  events : t'.events = t.events
  repositories : t'.repositories = t.repositories

theorem mapRun_ok {r : RunRow} {q : RunSummary} (h : mapRun r = .ok q) :
    RunState.parse r.state = some q.state ∧ fitsI64 r.version = true ∧ q.version = r.version := by
  unfold mapRun at h
  obtain ⟨s, hs, h⟩ := bind_ok h
  obtain ⟨_, hv, h⟩ := bind_ok h
  cases h
  exact ⟨okOr_ok hs, ensure_ok hv, rfl⟩

theorem mapRun_eq {r : RunRow} {s : RunState} (hs : RunState.parse r.state = some s) (hv : fitsI64 r.version = true) :
    ∃ q, mapRun r = .ok q ∧ q.state = s ∧ q.version = r.version := by
  cases h : mapRun r with
  | error e => simp [mapRun, hs, okOr, hv] at h
  | ok q =>
    obtain ⟨hq, -, hv⟩ := mapRun_ok h
    exact ⟨q, rfl, Option.some.inj (hq.symm.trans hs), hv⟩

theorem fitsI64_of_succ {n : Nat} (h : fitsI64 (n + 1) = true) : fitsI64 n = true := by
  unfold fitsI64 at *
  rw [decide_eq_true_eq] at *
  omega

theorem createRun_cases (i : NewRun) (now : Int) (t : Tables) :
    ((t.repositories.contains i.repositoryId = true → (t.runs.get i.id).isSome = true) ∧ (createRun i now t).2 = t) ∨
      Added t (createRun i now t).2 i now := by
  have hkeep : (createRun i now t).2 = (commit (insertRun i now) t).2 := andThen_keeps id (fun _ => rfl)
  rw [hkeep]
  cases hk : t.repositories.contains i.repositoryId with
  | false =>
    refine Or.inl ⟨fun h => Bool.noConfusion h, ?_⟩
    rw [commit_error (e := .sqlite .constraintViolation) (by simp only [insertRun, hk]; rfl)]
  | true =>
    cases hf : t.runs.get i.id with
    | some r =>
      have hnone : t.runs.insert (i.row now) = none := Table.insert_none.2 (by rw [show (i.row now).id = i.id from rfl, hf]; rfl)
      refine Or.inl ⟨fun _ => rfl, ?_⟩
      rw [commit_error (e := .sqlite .constraintViolation) (by simp only [insertRun, hk, insertRow, hnone]; rfl)]
    | none =>
      obtain ⟨runs, hr⟩ := Table.insert_isSome (t := t.runs) (r := i.row now) hf
      have hb : insertRun i now t = .ok { t with runs := runs } := by
        simp only [insertRun, hk, insertRow, hr]
        rfl
      rw [commit_ok hb]
      exact Or.inr ⟨hk, hf, (Table.insert_some hr).2, rfl, rfl⟩

theorem get_transitioned {t : Tables} {r : RunRow} (hr : t.runs.get r.id = some r) (f : RunRow → RunRow)
    (hf : ∀ q, (f q).id = q.id) :
    (t.runs.update (fun q => q.id == r.id && q.version == r.version) f hf).rows =
      t.runs.rows.map (fun q => if q.id = r.id then f q else q) ∧
    (t.runs.update (fun q => q.id == r.id && q.version == r.version) f hf).get r.id = some (f r) := by
  refine ⟨?_, ?_⟩
  · refine List.map_congr_left (fun q hq => ?_)
    by_cases hid : q.id = r.id
    · -- the row under the id is the one that was read
      have hqr : q = r := Option.some.inj ((Table.get_of_mem hq).symm.trans (hid ▸ hr))
      rw [hqr]
      simp
    · simp [hid]
  · rw [Table.get_update, hr]
    simp

/-- **A transition** changes nothing, or moves the run and writes the move. -/
theorem transitionRun_cases (id : String) (next : RunState) (phase : String) (expected : Option Nat)
    (failure : Option (String × String)) (now : Int) (t : Tables) :
    (accepted t id next expected = false ∧ (transitionRun id next phase expected failure now t).2 = t) ∨
    (accepted t id next expected = true ∧
      ∃ r s, r.id = id ∧ Moved t (transitionRun id next phase expected failure now t).2 r s next phase failure now) := by
  unfold transitionRun
  cases ha : accepted t id next expected with
  | false =>
    refine Or.inl ⟨rfl, ?_⟩
    rcases transaction_cases _ t with ⟨e, -, ht⟩ | ⟨q, t', hb, ht⟩
    · rw [ht]
    · -- a body that succeeds has passed every check of `accepted`
      exfalso
      obtain ⟨current, hcur, hb⟩ := bind_ok hb
      obtain ⟨_, hexp, hb⟩ := bind_ok hb
      obtain ⟨_, hcan, hb⟩ := bind_ok hb
      obtain ⟨_, -, hb⟩ := bind_ok hb
      obtain ⟨_, -, hb⟩ := bind_ok hb
      obtain ⟨updated, hup, -⟩ := bind_ok hb
      obtain ⟨r, hr, hcur⟩ := bind_ok hcur
      have hr := okOr_ok hr
      obtain ⟨hs, -, hv⟩ := mapRun_ok hcur
      obtain rfl := Table.key_of_get hr
      rw [hv] at hup
      obtain ⟨r', hr', hup⟩ := bind_ok hup
      have hget := (get_transitioned hr (fun q => q.transitioned next phase failure now) (fun _ => rfl)).2
      have hr' := Option.some.inj ((okOr_ok hr').symm.trans hget)
      obtain ⟨-, hfit, -⟩ := mapRun_ok hup
      have hexp := ensure_ok hexp
      rw [hv] at hexp
      rw [hr'] at hfit
      have hfit : fitsI64 (r.version + 1) = true := hfit
      simp only [accepted, hr, Option.any_some, hexp, hfit, hs, ensure_ok hcan, Bool.and_self] at ha
      exact Bool.noConfusion ha
  | true =>
    refine Or.inr ⟨rfl, ?_⟩
    unfold accepted at ha
    rw [Option.any_eq_true] at ha
    obtain ⟨r, hr, ha⟩ := ha
    simp only [Bool.and_eq_true, Option.any_eq_true] at ha
    obtain ⟨⟨hexp, hfit⟩, s, hs, hcan⟩ := ha
    obtain rfl := Table.key_of_get hr
    obtain ⟨q, hq, rfl, hv⟩ := mapRun_eq hs (fitsI64_of_succ hfit)
    have hany : t.runs.rows.any (fun q => q.id == r.id && q.version == r.version) = true :=
      List.any_eq_true.2 ⟨r, Table.mem_of_get hr, by simp⟩
    obtain ⟨hrows, hget⟩ := get_transitioned hr (fun q => q.transitioned next phase failure now) (fun _ => rfl)
    obtain ⟨u, hu, -, -⟩ := mapRun_eq (r := r.transitioned next phase failure now) (parse_name next) hfit
    refine ⟨r, q.state, rfl, hr, hs, hcan, hfit, ?_, ?_, ?_⟩
    · simp only [transaction, readRun, hr, okOr, ok_bind, hq, hv, hexp, ensure_true, hcan, fitsI64_of_succ hfit, hany,
        Tables.appendEvent, hget, hu, pure_ok]
      exact hrows
    · simp only [transaction, readRun, hr, okOr, ok_bind, hq, hv, hexp, ensure_true, hcan, fitsI64_of_succ hfit, hany,
        Tables.appendEvent, hget, hu, pure_ok]
      rfl
    · simp only [transaction, readRun, hr, okOr, ok_bind, hq, hv, hexp, ensure_true, hcan, fitsI64_of_succ hfit, hany,
        Tables.appendEvent, hget, hu, pure_ok]

structure Quiet (f : RunRow → RunRow) : Prop where
  id : ∀ r, (f r).id = r.id
  state : ∀ r, (f r).state = r.state
  completedAt : ∀ r, (f r).completedAt = r.completedAt
  version : ∀ r, r.version ≤ (f r).version

theorem updateRun_touched (t : Tables) (id : String) {f : RunRow → RunRow} (hf : Quiet f) :
    Touched t (updateRun t id f hf.id) := by
  refine ⟨?_, fun q' hq' => ?_, rfl, rfl⟩
  · exact Table.map_key_map _ (fun r => by split <;> simp [hf.id]) t.runs.rows
  · simp only [updateRun, Table.mem_update] at hq'
    obtain ⟨q, hq, rfl⟩ := hq'
    refine ⟨q, hq, ?_⟩
    split
    · exact ⟨hf.id q, hf.state q, hf.completedAt q, hf.version q⟩
    · exact ⟨rfl, rfl, rfl, Nat.le_refl _⟩

theorem changeRun_touched (t : Tables) (id : String) {f : RunRow → RunRow} (hf : Quiet f) :
    (changeRun id f hf.id t).2 = t ∨ Touched t (changeRun id f hf.id t).2 := by
  rcases commit_cases _ t with ⟨e, -, ht⟩ | ⟨t', hb, ht⟩
  · exact Or.inl (congrArg Prod.snd ht)
  · obtain ⟨_, -, hb⟩ := bind_ok hb
    cases hb
    refine Or.inr ?_
    unfold changeRun
    rw [ht]
    exact updateRun_touched t id hf

theorem quiet_paused (paused : Bool) (now : Int) : Quiet (fun r => r.paused paused now) :=
  ⟨fun _ => rfl, fun _ => rfl, fun _ => rfl, fun r => Nat.le_succ r.version⟩

theorem quiet_budgeted (tokenBudget : Nat) (now : Int) : Quiet (fun r => r.budgeted tokenBudget now) :=
  ⟨fun _ => rfl, fun _ => rfl, fun _ => rfl, fun r => Nat.le_succ r.version⟩

theorem quiet_pin (pinned : Bool) (now : Int) : Quiet (fun r => r.pin pinned now) :=
  ⟨fun _ => rfl, fun _ => rfl, fun _ => rfl, fun r => Nat.le_refl r.version⟩

theorem quiet_integrated (branch sha : Option String) (now : Int) : Quiet (fun r => r.integrated branch sha now) :=
  ⟨fun _ => rfl, fun _ => rfl, fun _ => rfl, fun r => Nat.le_succ r.version⟩

def Refused (t : Tables) : Op → Prop
  | .createRun i _ => t.repositories.contains i.repositoryId = true → (t.runs.get i.id).isSome = true
  | .transitionRun id next _ expected _ _ => accepted t id next expected = false
  | _ => True

theorem step_cases (t : Tables) (o : Op) :
    (∃ i now, o = .createRun i now ∧ Added t (step t o) i now) ∨
    (∃ id next phase expected failure now, o = .transitionRun id next phase expected failure now ∧
      accepted t id next expected = true ∧ ∃ r s, r.id = id ∧ Moved t (step t o) r s next phase failure now) ∨
    (Refused t o ∧ (step t o = t ∨ Touched t (step t o))) := by
  cases o with
  | createRun i now =>
    rcases createRun_cases i now t with ⟨hk, ht⟩ | ha
    · exact Or.inr (Or.inr ⟨hk, Or.inl ht⟩)
    · exact Or.inl ⟨i, now, rfl, ha⟩
  | transitionRun id next phase expected failure now =>
    rcases transitionRun_cases id next phase expected failure now t with ⟨hk, ht⟩ | ⟨hk, r, s, hid, hm⟩
    · exact Or.inr (Or.inr ⟨hk, Or.inl ht⟩)
    · exact Or.inr (Or.inl ⟨id, next, phase, expected, failure, now, rfl, hk, r, s, hid, hm⟩)
  | setSchedulerPaused id paused now =>
    have hkeep : step t (.setSchedulerPaused id paused now) = (changeRun id _ (quiet_paused paused now).id t).2 :=
      andThen_keeps (fun u => u) (fun _ => rfl)
    rw [hkeep]
    exact Or.inr (Or.inr ⟨trivial, changeRun_touched t id (quiet_paused paused now)⟩)
  | setRunTokenBudgetAndResume id tokenBudget now =>
    have hkeep : step t (.setRunTokenBudgetAndResume id tokenBudget now) =
        (changeRun id _ (quiet_budgeted tokenBudget now).id t).2 := andThen_keeps (fun u => u) (fun _ => rfl)
    rw [hkeep]
    exact Or.inr (Or.inr ⟨trivial, changeRun_touched t id (quiet_budgeted tokenBudget now)⟩)
  | setRunPinned id pinned now =>
    have hkeep : step t (.setRunPinned id pinned now) = (changeRun id _ (quiet_pin pinned now).id t).2 :=
      andThen_keeps (fun u => u) (fun _ => rfl)
    rw [hkeep]
    exact Or.inr (Or.inr ⟨trivial, changeRun_touched t id (quiet_pin pinned now)⟩)
  | setRunIntegration id branch sha now =>
    exact Or.inr (Or.inr ⟨trivial, Or.inr (updateRun_touched t id (quiet_integrated (some branch) (some sha) now))⟩)
  | clearRunIntegration id now =>
    exact Or.inr (Or.inr ⟨trivial, changeRun_touched t id (quiet_integrated none none now)⟩)

/-! ## The chain of moves -/

theorem lifecycle_same {t t' : Tables} (h : t'.events = t.events) (id : String) : lifecycle t' id = lifecycle t id := by
  unfold lifecycle
  rw [h]

theorem Moved.lifecycle_eq {t t' : Tables} {r : RunRow} {s next : RunState} {phase : String}
    {failure : Option (String × String)} {now : Int} (h : Moved t t' r s next phase failure now) (id : String) :
    lifecycle t' id = lifecycle t id ++ if id = r.id then [moveEvent t r s next phase failure now] else [] := by
  unfold lifecycle
  rw [h.events, List.filter_append, List.filter_singleton]
  by_cases hid : id = r.id
  · subst hid
    simp [isLifecycle, moveEvent]
  · simp [isLifecycle, moveEvent, Ne.symm hid, hid]

theorem moveEvent_reads (t : Tables) (r : RunRow) (s next : RunState) (phase : String)
    (failure : Option (String × String)) (now : Int) (hfit : fitsI64 (r.version + 1) = true) :
    (moveEvent t r s next phase failure now).priorState = some s.name ∧
    (moveEvent t r s next phase failure now).nextState = some next.name ∧
    (moveEvent t r s next phase failure now).runVersion = some (r.version + 1) := by
  refine ⟨rfl, rfl, ?_⟩
  unfold fitsI64 i64Max at hfit
  rw [decide_eq_true_eq] at hfit
  have hle : r.version + 1 ≤ 18446744073709551615 := by omega
  exact if_pos hle

theorem Audited.row {created : String} {r r' : RunRow} {l : List DomainEvent} (h : Audited created r l)
    (hs : r'.state = r.state) (hv : r.version ≤ r'.version) : Audited created r' l := by
  refine ⟨fun e he => ?_, h.starts, h.linked, hs ▸ h.ends, h.grows⟩
  obtain ⟨s, next, v, h1, h2, h3, h4, h5⟩ := h.allowed e he
  exact ⟨s, next, v, h1, h2, h3, h4, Nat.le_trans h5 hv⟩

theorem Moved.audited {t t' : Tables} {r : RunRow} {s next : RunState} {phase : String}
    {failure : Option (String × String)} {now : Int} (h : Moved t t' r s next phase failure now) {created : String}
    {l : List DomainEvent} (ha : Audited created r l) :
    Audited created (r.transitioned next phase failure now) (l ++ [moveEvent t r s next phase failure now]) := by
  obtain ⟨hp, hn, hv⟩ := moveEvent_reads t r s next phase failure now h.fits
  have hs : s.name = r.state := name_of_parse h.state
  have hends := ha.ends
  refine ⟨fun e he => ?_, fun e he => ?_, ?_, ?_, ?_⟩
  · rcases List.mem_append.1 he with he | he
    · obtain ⟨a, b, v, h1, h2, h3, h4, h5⟩ := ha.allowed e he
      exact ⟨a, b, v, h1, h2, h3, h4, Nat.le_succ_of_le h5⟩
    · obtain rfl := List.mem_singleton.1 he
      exact ⟨s, next, r.version + 1, hp, hn, h.allowed, hv, Nat.le_refl _⟩
  · cases l with
    | nil =>
      simp only [List.nil_append, List.head?_cons, Option.mem_def, Option.some.injEq] at he
      subst he
      rw [hp, hs]
      simpa using hends
    | cons a l => exact ha.starts e (by simpa using he)
  · rw [List.isChain_append]
    refine ⟨ha.linked, List.isChain_singleton _, fun x hx y hy => ?_⟩
    obtain rfl : moveEvent t r s next phase failure now = y := by simpa using hy
    rw [Option.mem_def.1 hx] at hends
    rw [hp, hs]
    exact hends
  · rw [List.getLast?_concat]
    exact hn.symm
  · rw [List.filterMap_append, List.pairwise_append]
    refine ⟨ha.grows, ?_, fun a hm b hb => ?_⟩
    · simp [hv]
    · obtain rfl : b = r.version + 1 := by simpa [hv] using hb
      obtain ⟨e, he, hea⟩ := List.mem_filterMap.1 hm
      obtain ⟨-, -, v, -, -, -, h4, h5⟩ := ha.allowed e he
      obtain rfl : v = a := Option.some.inj (h4.symm.trans hea)
      omega

def creates (repositories : List String) (id : String) : Op → Option NewRun
  | .createRun i _ => if i.id == id && repositories.contains i.repositoryId then some i else none
  | _              => none

/-- What the run was created from: the first `create_run` with its id and a known repository. -/
def creation (repositories : List String) (ops : List Op) (id : String) : Option NewRun :=
  ops.findSome? (creates repositories id)

structure AuditInv (repositories : List String) (ops : List Op) (t : Tables) : Prop where
  known : t.repositories = repositories
  created : ∀ id, (creation repositories ops id).isSome = (t.runs.get id).isSome
  audited : ∀ r ∈ t.runs.rows, ∃ i, creation repositories ops r.id = some i ∧ Audited i.state r (lifecycle t r.id)
  owned : ∀ id, lifecycle t id ≠ [] → (t.runs.get id).isSome = true

theorem creation_append (repositories : List String) (ops : List Op) (o : Op) (id : String) :
    creation repositories (ops ++ [o]) id = (creation repositories ops id).or (creates repositories id o) := by
  unfold creation
  rw [List.findSome?_append, List.findSome?_cons, List.findSome?_nil]
  cases creates repositories id o <;> rfl

theorem creation_refused {repositories : List String} {ops : List Op} {t : Tables} (h : AuditInv repositories ops t)
    {o : Op} (ho : ∀ i now, o = .createRun i now → t.repositories.contains i.repositoryId = true →
      (t.runs.get i.id).isSome = true) (id : String) :
    creation repositories (ops ++ [o]) id = creation repositories ops id := by
  rw [creation_append]
  cases hc : creation repositories ops id with
  | some i => rfl
  | none =>
    have hnone := h.created id
    rw [hc] at hnone
    rw [Option.none_or]
    cases o with
    | createRun i now =>
      have hi := ho i now rfl
      rw [h.known] at hi
      unfold creates
      by_cases hid : i.id = id
      · subst hid
        by_cases hk : repositories.contains i.repositoryId = true
        · rw [hi hk] at hnone
          exact Bool.noConfusion hnone
        · simp only [hk, Bool.and_false, Bool.false_eq_true, if_false]
      · have hne : (i.id == id) = false := by simpa using hid
        simp only [hne, Bool.false_and, Bool.false_eq_true, if_false]
    | _ => rfl

theorem Touched.inv {repositories : List String} {ops : List Op} {t t' : Tables} {o : Op}
    (h : AuditInv repositories ops t) (ht : Touched t t')
    (hc : ∀ id, creation repositories (ops ++ [o]) id = creation repositories ops id) :
    AuditInv repositories (ops ++ [o]) t' := by
  have hget : ∀ id, (t'.runs.get id).isSome = (t.runs.get id).isSome := by
    intro id
    rw [Bool.eq_iff_iff, Table.get_isSome, Table.get_isSome, ht.ids]
  refine ⟨ht.repositories.trans h.known, fun id => ?_, fun r' hr' => ?_, fun id hid => ?_⟩
  · rw [hc, hget]
    exact h.created id
  · obtain ⟨r, hr, hid, hs, -, hv⟩ := ht.rows r' hr'
    obtain ⟨i, hi, ha⟩ := h.audited r hr
    rw [hid, hc, lifecycle_same ht.events]
    exact ⟨i, hi, ha.row hs hv⟩
  · rw [lifecycle_same ht.events] at hid
    rw [hget]
    exact h.owned id hid

theorem Added.inv {repositories : List String} {ops : List Op} {t t' : Tables} {i : NewRun} {now : Int}
    (h : AuditInv repositories ops t) (ht : Added t t' i now) :
    AuditInv repositories (ops ++ [.createRun i now]) t' := by
  have hknown : repositories.contains i.repositoryId = true := h.known ▸ ht.known
  have hnone : creation repositories ops i.id = none := by
    have := h.created i.id
    rw [ht.free] at this
    simpa using this
  have hc : ∀ id, creation repositories (ops ++ [.createRun i now]) id =
      if i.id = id then some i else creation repositories ops id := by
    intro id
    rw [creation_append]
    simp only [creates, hknown, Bool.and_true, beq_iff_eq]
    by_cases hid : i.id = id
    · subst hid
      rw [hnone, Option.none_or]
    · rw [if_neg hid, if_neg hid, Option.or_none]
  have hget : ∀ id, (t'.runs.get id).isSome = true ↔ (t.runs.get id).isSome = true ∨ i.id = id := by
    intro id
    rw [Table.get_isSome, Table.get_isSome, ht.rows, List.map_append, List.mem_append]
    simp [NewRun.row, eq_comm]
  refine ⟨ht.repositories.trans h.known, fun id => ?_, fun r' hr' => ?_, fun id hid => ?_⟩
  · rw [hc, Bool.eq_iff_iff, hget, ← h.created id]
    by_cases hid : i.id = id
    · simp [hid]
    · simp [hid]
  · rw [ht.rows] at hr'
    rw [lifecycle_same ht.events, hc]
    rcases List.mem_append.1 hr' with hr' | hr'
    · obtain ⟨j, hj, ha⟩ := h.audited r' hr'
      have hne : i.id ≠ r'.id := fun heq => Table.get_none.1 ht.free r' hr' heq.symm
      rw [if_neg hne]
      exact ⟨j, hj, ha⟩
    · -- the new run has no events yet
      obtain rfl := List.mem_singleton.1 hr'
      have hempty : lifecycle t i.id = [] := by
        by_contra hne
        have := h.owned i.id hne
        rw [ht.free] at this
        exact Bool.noConfusion this
      rw [show (i.row now).id = i.id from rfl, if_pos rfl, hempty]
      refine ⟨i, rfl, fun e he => absurd he List.not_mem_nil, fun e he => ?_, List.isChain_nil, rfl, List.Pairwise.nil⟩
      rw [List.head?_nil] at he
      cases he
  · rw [lifecycle_same ht.events] at hid
    exact (hget id).2 (Or.inl (h.owned id hid))

theorem Moved.inv {repositories : List String} {ops : List Op} {t t' : Tables} {r : RunRow} {s next : RunState}
    {phase : String} {failure : Option (String × String)} {now : Int} {o : Op} (h : AuditInv repositories ops t)
    (hm : Moved t t' r s next phase failure now)
    (hc : ∀ id, creation repositories (ops ++ [o]) id = creation repositories ops id) :
    AuditInv repositories (ops ++ [o]) t' := by
  have hids : t'.runs.rows.map RunRow.id = t.runs.rows.map RunRow.id := by
    rw [hm.runs]
    exact Table.map_key_map _ (fun q => by split <;> rfl) t.runs.rows
  have hget : ∀ id, (t'.runs.get id).isSome = (t.runs.get id).isSome := by
    intro id
    rw [Bool.eq_iff_iff, Table.get_isSome, Table.get_isSome, hids]
  refine ⟨hm.repositories.trans h.known, fun id => ?_, fun q' hq' => ?_, fun id hid => ?_⟩
  · rw [hc, hget]
    exact h.created id
  · rw [hm.runs] at hq'
    obtain ⟨q, hq, rfl⟩ := List.mem_map.1 hq'
    obtain ⟨i, hi, ha⟩ := h.audited q hq
    by_cases hid : q.id = r.id
    · have hqr : q = r := Option.some.inj ((Table.get_of_mem hq).symm.trans (hid ▸ hm.row))
      subst hqr
      rw [if_pos rfl, show (q.transitioned next phase failure now).id = q.id from rfl, hm.lifecycle_eq, if_pos rfl, hc]
      exact ⟨i, hi, hm.audited ha⟩
    · rw [if_neg hid, hm.lifecycle_eq, if_neg hid, List.append_nil, hc]
      exact ⟨i, hi, ha⟩
  · rw [hget]
    by_cases hr : id = r.id
    · rw [hr, hm.row]
      rfl
    · rw [hm.lifecycle_eq, if_neg hr, List.append_nil] at hid
      exact h.owned id hid

theorem step_audit {repositories : List String} {ops : List Op} {t : Tables} (h : AuditInv repositories ops t) (o : Op) :
    AuditInv repositories (ops ++ [o]) (step t o) := by
  rcases step_cases t o with ⟨i, now, rfl, ha⟩ | ⟨id, next, phase, expected, failure, now, rfl, -, r, s, -, hm⟩ | ⟨hr, ht⟩
  · exact ha.inv h
  · exact hm.inv h (creation_refused h (fun _ _ ho => by cases ho))
  · have hc := creation_refused h (o := o) (fun i now ho => by subst ho; exact hr)
    rcases ht with ht | ht
    · rw [ht]
      refine ⟨h.known, fun id => ?_, fun r hr => ?_, h.owned⟩
      · rw [hc]
        exact h.created id
      · rw [hc]
        exact h.audited r hr
    · exact ht.inv h hc

/-- **The events of every run chain from its creation to its state.** -/
theorem audit_of_run (repositories : List String) (ops : List Op) :
    AuditInv repositories ops (run step (emptyRuns repositories) ops) := by
  induction ops using List.reverseRecOn with
  | nil => exact ⟨rfl, fun _ => rfl, fun _ hr => absurd hr List.not_mem_nil, fun _ h => absurd rfl h⟩
  | append_singleton ops o ih =>
    rw [run_append]
    exact step_audit ih o

/-! ## The time of completion -/

/-- Every run has the time of its first terminal move, or none when there was no such move. -/
def Completed (t : Tables) : Prop := ∀ r ∈ t.runs.rows, r.completedAt = completionTime (lifecycle t r.id)

/-- An accepted move to a terminal state finds no time of completion, or its own. -/
def keepsCompletion (t : Tables) : Op → Bool
  | .transitionRun id next _ expected _ now => !(accepted t id next expected && next.isTerminal) ||
      ((t.runs.get id).bind RunRow.completedAt).all (fun c => c == now)
  | _ => true

def Owned (t : Tables) : Prop := ∀ id, lifecycle t id ≠ [] → (t.runs.get id).isSome = true

theorem moveEvent_terminal (t : Tables) (r : RunRow) (s next : RunState) (phase : String)
    (failure : Option (String × String)) (now : Int) :
    (moveEvent t r s next phase failure now).terminal = next.isTerminal := by
  have hnext : (moveEvent t r s next phase failure now).nextState = some next.name := rfl
  unfold DomainEvent.terminal
  rw [hnext, Option.bind_some, parse_name, Option.any_some]

theorem completionTime_concat (l : List DomainEvent) (e : DomainEvent) :
    completionTime (l ++ [e]) = (completionTime l).or (if e.terminal then some e.occurredAt else none) := by
  unfold completionTime
  rw [List.find?_append, List.find?_cons, List.find?_nil]
  cases l.find? DomainEvent.terminal with
  | some x => rfl
  | none => cases e.terminal <;> rfl

/-- **The completion times after a move**: the moved run keeps its time exactly when it had none or the same one. -/
theorem Moved.completed_iff {t t' : Tables} {r : RunRow} {s next : RunState} {phase : String}
    {failure : Option (String × String)} {now : Int} (hm : Moved t t' r s next phase failure now) (h : Completed t) :
    Completed t' ↔ (next.isTerminal = true → r.completedAt.all (fun c => c == now) = true) := by
  have hr := h r (Table.mem_of_get hm.row)
  have hmoved : (r.transitioned next phase failure now).completedAt = completionTime (lifecycle t' r.id) ↔
      (next.isTerminal = true → r.completedAt.all (fun c => c == now) = true) := by
    rw [hm.lifecycle_eq, if_pos rfl, completionTime_concat, moveEvent_terminal, ← hr]
    have hat : (moveEvent t r s next phase failure now).occurredAt = now := rfl
    unfold RunRow.transitioned
    rw [hat]
    cases next.isTerminal with
    | false => cases r.completedAt <;> simp
    | true =>
      cases r.completedAt with
      | none => simp
      | some c => simpa using eq_comm
  rw [← hmoved]
  refine ⟨fun h' => ?_, fun h' q' hq' => ?_⟩
  · have hmem : r.transitioned next phase failure now ∈ t'.runs.rows := by
      rw [hm.runs]
      exact List.mem_map.2 ⟨r, Table.mem_of_get hm.row, if_pos rfl⟩
    exact h' _ hmem
  · rw [hm.runs] at hq'
    obtain ⟨q, hq, rfl⟩ := List.mem_map.1 hq'
    by_cases hid : q.id = r.id
    · have hqr : q = r := Option.some.inj ((Table.get_of_mem hq).symm.trans (hid ▸ hm.row))
      subst hqr
      rw [if_pos rfl]
      exact h'
    · rw [if_neg hid, hm.lifecycle_eq, if_neg hid, List.append_nil]
      exact h q hq

/-- **One call keeps the times of completion exactly when it repeats no completion.** -/
theorem step_completed {t : Tables} (ho : Owned t) (h : Completed t) (o : Op) :
    Completed (step t o) ↔ keepsCompletion t o = true := by
  rcases step_cases t o with ⟨i, now, rfl, ha⟩ | ⟨id, next, phase, expected, failure, now, rfl, hacc, r, s, rfl, hm⟩ |
    ⟨href, ht⟩
  · refine ⟨fun _ => rfl, fun _ r hr => ?_⟩
    rw [ha.rows] at hr
    rw [lifecycle_same ha.events]
    rcases List.mem_append.1 hr with hr | hr
    · exact h r hr
    · obtain rfl := List.mem_singleton.1 hr
      have hempty : lifecycle t i.id = [] := by
        by_contra hne
        have := ho i.id hne
        rw [ha.free] at this
        exact Bool.noConfusion this
      rw [show (i.row now).id = i.id from rfl, hempty]
      rfl
  · rw [hm.completed_iff h]
    simp only [keepsCompletion, hacc, Bool.true_and, hm.row, Option.bind_some]
    cases next.isTerminal <;> simp
  · have hkeep : keepsCompletion t o = true := by
      cases o with
      | transitionRun id next phase expected failure now =>
        have hacc : accepted t id next expected = false := href
        simp only [keepsCompletion, hacc, Bool.false_and, Bool.not_false, Bool.true_or]
      | _ => rfl
    refine ⟨fun _ => hkeep, fun _ => ?_⟩
    rcases ht with ht | ht
    · rw [ht]
      exact h
    · intro q' hq'
      obtain ⟨q, hq, hid, -, hc, -⟩ := ht.rows q' hq'
      rw [lifecycle_same ht.events, hid, hc]
      exact h q hq

/-- **The lifecycle audit of runs.**  Every run's events chain from the state it was created in to its stored state by
allowed moves under growing versions; a refused transition changes nothing; and the time of completion is the first
terminal move's in every state reached exactly when no accepted move to a terminal state finds another time there. -/
theorem run_lifecycle_audited (repositories : List String) (ops : List Op) :
    let t := run step (emptyRuns repositories) ops
    (∀ r ∈ t.runs.rows, ∃ i, creation repositories ops r.id = some i ∧ Audited i.state r (lifecycle t r.id)) ∧
    (∀ id next phase expected failure now e, (transitionRun id next phase expected failure now t).1 = .error e →
      (transitionRun id next phase expected failure now t).2 = t) ∧
    (Along step (fun s o => Completed (step s o)) (emptyRuns repositories) ops ↔
      Along step (fun s o => keepsCompletion s o = true) (emptyRuns repositories) ops) := by
  intro t
  refine ⟨(audit_of_run repositories ops).audited, fun id next phase expected failure now e => transaction_error, ?_⟩
  -- a state is paired with the calls that led to it, so that the audit's invariant is available at every step
  suffices hgen : ∀ before, Completed (run step (emptyRuns repositories) before) →
      (Along step (fun s o => Completed (step s o)) (run step (emptyRuns repositories) before) ops ↔
        Along step (fun s o => keepsCompletion s o = true) (run step (emptyRuns repositories) before) ops) from
    hgen [] (fun r hr => absurd hr List.not_mem_nil)
  induction ops with
  | nil => exact fun _ _ => Iff.rfl
  | cons o ops ih =>
    intro before h
    rw [Along, Along, step_completed (audit_of_run repositories before).owned h o]
    refine and_congr_right (fun ho => ?_)
    have hstep : step (run step (emptyRuns repositories) before) o = run step (emptyRuns repositories) (before ++ [o]) := by
      rw [run_append]
      rfl
    rw [hstep]
    refine ih (before ++ [o]) ?_
    rw [← hstep]
    exact (step_completed (audit_of_run repositories before).owned h o).2 ho

def archivedRun : List Op :=
  [.createRun ⟨"run-1", "repository", "PUBLICATION_READY", "publish", none⟩ 1,
   .transitionRun "run-1" .completed "done" none none 10,
   .transitionRun "run-1" .archived "archive" none none 20]

/-- **Archiving rewrites the time of completion.** -/
theorem archiving_rewrites_completion :
    ¬ Completed (run step (emptyRuns ["repository"]) archivedRun) := by
  have hrow : ((run step (emptyRuns ["repository"]) archivedRun).runs.get "run-1").map
      (fun r => (r.id, r.completedAt)) = some ("run-1", some 20) := by decide
  have htime : completionTime (lifecycle (run step (emptyRuns ["repository"]) archivedRun) "run-1") = some 10 := by
    decide
  intro h
  obtain ⟨r, hr, hrow⟩ := Option.map_eq_some_iff.1 hrow
  simp only [Prod.mk.injEq] at hrow
  have := h r (Table.mem_of_get hr)
  rw [hrow.1, hrow.2, htime] at this
  exact absurd this (by decide)

end Run
end Bildr
