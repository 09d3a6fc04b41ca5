import Bildr.EvaluationCalls
import Bildr.ImprovementLedger
import Bildr.Trace
/-!
# EvaluationHistory — what evaluation calls leave behind

`Change` says once what a step can do to the tables; from it: rows are only added, the members of a launched taskset stay
as they are, and a run that is no longer recording keeps its status (`Later`).
-/
namespace Bildr

section KeyedCall
variable {σ χ ρ α : Type} {check : σ → Except StoreError χ} {lookup : σ → Option ρ}
  {answer : χ → ρ → σ → Except StoreError α} {write : χ → σ → Except StoreError (α × σ)}

theorem keyed_ok {t : σ} {a : α} (h : (transaction (Keyed.body check lookup answer write) t).1 = .ok a) :
    ∃ c, check t = .ok c ∧
      ((∃ row, lookup t = some row ∧ answer c row t = .ok a ∧
          (transaction (Keyed.body check lookup answer write) t).2 = t) ∨
        (lookup t = none ∧ write c t = .ok (a, (transaction (Keyed.body check lookup answer write) t).2))) := by
  rcases transaction_cases (Keyed.body check lookup answer write) t with ⟨e, -, ht⟩ | ⟨b, t', hb, ht⟩
  · rw [ht] at h
    cases h
  · rw [ht] at h ⊢
    obtain rfl : b = a := by simpa using h
    exact Keyed.body_ok hb

theorem keyed_change (check : σ → Except StoreError χ) (lookup : σ → Option ρ)
    (answer : χ → ρ → σ → Except StoreError α) (write : χ → σ → Except StoreError (α × σ)) (t : σ) :
    (transaction (Keyed.body check lookup answer write) t).2 = t ∨
      ∃ c a, check t = .ok c ∧ lookup t = none ∧
        write c t = .ok (a, (transaction (Keyed.body check lookup answer write) t).2) := by
  cases h : (transaction (Keyed.body check lookup answer write) t).1 with
  | error e => exact Or.inl (transaction_error h)
  | ok a =>
    obtain ⟨c, hc, ⟨row, -, -, ht⟩ | ⟨hl, hw⟩⟩ := keyed_ok h
    · exact Or.inl ht
    · exact Or.inr ⟨c, a, hc, hl, hw⟩

theorem keyed_repeat {t : σ} {c : χ} {row : ρ} {a : α} (hc : check t = .ok c) (hl : lookup t = some row)
    (ha : answer c row t = .ok a) : transaction (Keyed.body check lookup answer write) t = (.ok a, t) := by
  simp only [transaction, Keyed.body_repeat hc hl ha]

end KeyedCall

namespace Eval

open Trace

/-! ## What a call writes -/

theorem insert_ok {α κ : Type} {key : α → κ} [DecidableEq κ] {b : Bool} {table : Table key} {row : α}
    {f : Table key → Tables} {t' : Tables}
    (h : (require b >>= fun _ => insertRow table row >>= fun u => pure (f u)) = .ok t') :
    b = true ∧ ∃ u, table.insert row = some u ∧ t' = f u := by
  obtain ⟨_, hreq, h⟩ := bind_ok h
  obtain ⟨u, hu, h⟩ := bind_ok h
  cases h
  exact ⟨require_ok hreq, u, insertRow_ok hu, rfl⟩

theorem writeMembership_ok {i : NewTasksetMembership} {now : Int} {t t' : Tables} {a : Unit}
    (h : writeMembership i now t = .ok (a, t')) :
    launched t i.tasksetRevisionId = false ∧
      ∃ u, t.memberships.insert ⟨i.tasksetRevisionId, i.evalCaseRevisionId, i.ordinal, now⟩ = some u ∧
        t' = { t with memberships := u } := by
  obtain ⟨_, -, h⟩ := bind_ok h
  obtain ⟨_, hopen, h⟩ := bind_ok h
  obtain ⟨t₁, h₁, h⟩ := bind_ok h
  cases h
  exact ⟨by simpa using ensure_ok hopen, (insert_ok h₁).2⟩

theorem writeRun_ok {w : EvalWire} {i : NewEvaluationRun} {now : Int} {split : Split} {t t' : Tables}
    {a : EvaluationRunReceipt} (h : writeRun w i now split t = .ok (a, t')) :
    readEvaluationRun t' i.id = .ok a ∧ ∃ u v, t.runs.insert (i.row split now) = some u ∧
      t.statuses.insert (i.initialStatus w now) = some v ∧ t' = { t with runs := u, statuses := v } := by
  obtain ⟨t₁, h₁, h⟩ := bind_ok h
  obtain ⟨t₂, h₂, h⟩ := bind_ok h
  obtain ⟨r, hr, h⟩ := bind_ok h
  cases h
  obtain ⟨-, u, hu, rfl⟩ := insert_ok h₁
  obtain ⟨-, v, hv, rfl⟩ := insert_ok h₂
  exact ⟨hr, u, v, hu, hv, rfl⟩

theorem writeStatus_ok {i : NewEvaluationRunStatus} {now : Int} {t t' : Tables} {a : Unit}
    (h : writeStatus i now t = .ok (a, t')) :
    runStatus t i.evaluationRunId = some .recording ∧ (t.runs.get i.evaluationRunId).isSome = true ∧
      ∃ u, t.statuses.insert (i.row (maxSequence t i.evaluationRunId + 1) now) = some u ∧
        t' = { t with statuses := u } := by
  obtain ⟨prior, hprior, h⟩ := bind_ok h
  obtain ⟨_, -, h⟩ := bind_ok h
  obtain ⟨_, -, h⟩ := bind_ok h
  obtain ⟨_, hallowed, h⟩ := bind_ok h
  obtain ⟨t₁, h₁, h⟩ := bind_ok h
  cases h
  obtain ⟨hreq, u, hu, rfl⟩ := insert_ok h₁
  have hrec : prior = .recording := by
    have := ensure_ok hallowed
    simp only [transitionAllowed, Bool.and_eq_true, decide_eq_true_eq] at this
    exact this.1
  simp only [Bool.and_eq_true] at hreq
  refine ⟨?_, hreq.1.1.1, u, hu, rfl⟩
  rw [← hrec]
  exact okOr_ok hprior

theorem writeSample_ok {i : NewEvaluationSample} {now : Int} {t t' : Tables} {a : EvaluationSampleReceipt}
    (h : writeSample i now t = .ok (a, t')) :
    readEvaluationSample t' i.id = .ok a ∧ ∃ u, t.samples.insert (i.row now) = some u ∧ t' = { t with samples := u } := by
  obtain ⟨_, -, h⟩ := bind_ok h
  obtain ⟨t₁, h₁, h⟩ := bind_ok h
  obtain ⟨r, hr, h⟩ := bind_ok h
  cases h
  exact ⟨hr, (insert_ok h₁).2⟩

theorem writeVerdict_ok {w : EvalWire} {i : NewPairedStatVerdict} {now : Int} {t t' : Tables}
    {a : PairedStatVerdictReceipt} (h : writeVerdict w i now t = .ok (a, t')) :
    a = ⟨i.id, false⟩ ∧ ∃ u, t.verdicts.insert (i.row w now) = some u ∧ t' = { t with verdicts := u } := by
  obtain ⟨t₁, h₁, h⟩ := bind_ok h
  cases h
  exact ⟨rfl, (insert_ok h₁).2⟩

theorem writeAccess_ok {i : NewHoldoutAccess} {now : Int} {split : Split} {t t' : Tables} {a : HoldoutAccessReceipt}
    (h : writeAccess i now split t = .ok (a, t')) :
    a = ⟨i.id, i.granted split⟩ ∧ ∃ u, t.accesses.insert (i.row split now) = some u ∧ t' = { t with accesses := u } := by
  obtain ⟨t₁, h₁, h⟩ := bind_ok h
  cases h
  exact ⟨rfl, (insert_ok h₁).2⟩

theorem writeInvalidation_ok {i : NewEvaluationInvalidation} {now : Int} {t t' : Tables} {a : Unit}
    (h : writeInvalidation i now t = .ok (a, t')) :
    ∃ u, t.invalidations.insert (i.row now) = some u ∧ t' = { t with invalidations := u } := by
  obtain ⟨t₁, h₁, h⟩ := bind_ok h
  cases h
  exact (insert_ok h₁).2

/-! ## What a step can do -/

/-- A request, a call of the improvement ledger, or a call that adds runs and changes evidence. -/
inductive Op
  | request (q : Request) (now : Int)
  | ledgerCall (o : Improvement.Op)
  | records (runs : List ControllerRun) (evidence : Evidence)

def step (w : EvalWire) (t : Tables) : Op → Tables
  | .request q now          => (exec w q now t).2
  | .ledgerCall o           => { t with ledger := Improvement.step w.toWire t.ledger o }
  | .records runs evidence  => { t with controllerRuns := t.controllerRuns ++ runs, evidence := evidence }

inductive Change (w : EvalWire) (t : Tables) : Tables → Prop
  | same : Change w t t
  | member {m : Membership} {u : Table Membership.key} (hm : t.memberships.insert m = some u)
      (hopen : launched t m.tasksetRevisionId = false) : Change w t { t with memberships := u }
  | launch {r : EvaluationRun} {s : StatusRevision} {u : Table EvaluationRun.id} {v : Table StatusRevision.id}
      (hr : t.runs.insert r = some u) (hs : t.statuses.insert s = some v) (hrun : s.evaluationRunId = r.id)
      (hseq : s.sequence = 1) : Change w t { t with runs := u, statuses := v }
  | status {s : StatusRevision} {v : Table StatusRevision.id} (hs : t.statuses.insert s = some v)
      (hrun : (t.runs.get s.evaluationRunId).isSome = true) (hprior : runStatus t s.evaluationRunId = some .recording)
      (hseq : s.sequence = maxSequence t s.evaluationRunId + 1) : Change w t { t with statuses := v }
  | sample {s : EvaluationSample} {u : Table EvaluationSample.id} (hs : t.samples.insert s = some u) :
      Change w t { t with samples := u }
  | verdict {i : NewPairedStatVerdict} {now : Int} {u : Table StatVerdict.id} (hc : checkVerdict i t = .ok ())
      (hk : verdictByKey i.idempotencyKey t = none) (hv : t.verdicts.insert (i.row w now) = some u) :
      Change w t { t with verdicts := u }
  | access {a : HoldoutAccess} {u : Table HoldoutAccess.id} (ha : t.accesses.insert a = some u) :
      Change w t { t with accesses := u }
  | invalidation {i : Invalidation} {u : Table Invalidation.id} (hi : t.invalidations.insert i = some u) :
      Change w t { t with invalidations := u }
  | ledger {l : Improvement.Tables} (hl : Improvement.Extends t.ledger l) : Change w t { t with ledger := l }
  | records (runs : List ControllerRun) (evidence : Evidence) :
      Change w t { t with controllerRuns := t.controllerRuns ++ runs, evidence := evidence }

theorem Change.of_eq {w : EvalWire} {t t' : Tables} (h : t' = t) : Change w t t' := by
  rw [h]
  exact .same

theorem exec_change (w : EvalWire) (q : Request) (now : Int) (t : Tables) : Change w t (exec w q now t).2 := by
  cases q with
  | membership i =>
    rcases keyed_change (checkMembership w i) (memberByKey i) (fun _ m _ => answerMembership i m)
      (fun _ => writeMembership i now) t with h | ⟨c, a, -, -, hw⟩
    · exact .of_eq h
    · obtain ⟨hopen, u, hu, ht⟩ := writeMembership_ok hw
      exact ht ▸ Change.member hu hopen
  | start i =>
    rcases keyed_change (checkLaunch w i) (runByKey i.idempotencyKey) (fun _ => answerRun i) (writeRun w i now) t with
      h | ⟨c, a, -, -, hw⟩
    · exact .of_eq h
    · obtain ⟨-, u, v, hu, hv, ht⟩ := writeRun_ok hw
      exact ht ▸ Change.launch hu hv rfl rfl
  | status i =>
    rcases keyed_change (checkStatus i) (statusByKey i.idempotencyKey) (fun _ s _ => answerStatus i s)
      (fun _ => writeStatus i now) t with h | ⟨c, a, -, -, hw⟩
    · exact .of_eq h
    · obtain ⟨hprior, hrun, u, hu, ht⟩ := writeStatus_ok hw
      exact ht ▸ Change.status hu hrun hprior rfl
  | sample i =>
    rcases keyed_change (checkSample w i) (sampleByKey i.idempotencyKey) (fun _ => answerSample i)
      (fun _ => writeSample i now) t with h | ⟨c, a, -, -, hw⟩
    · exact .of_eq h
    · obtain ⟨-, u, hu, ht⟩ := writeSample_ok hw
      exact ht ▸ Change.sample hu
  | verdict i =>
    rcases keyed_change (checkVerdict i) (verdictByKey i.idempotencyKey) (fun _ v _ => answerVerdict w i v)
      (fun _ => writeVerdict w i now) t with h | ⟨c, a, hc, hk, hw⟩
    · exact .of_eq h
    · obtain ⟨-, u, hu, ht⟩ := writeVerdict_ok hw
      exact ht ▸ Change.verdict hc hk hu
  | access i =>
    rcases keyed_change (checkAccess w i) (accessByKey i.idempotencyKey) (fun split a _ => answerAccess i split a)
      (writeAccess i now) t with h | ⟨c, a, -, -, hw⟩
    · exact .of_eq h
    · obtain ⟨-, u, hu, ht⟩ := writeAccess_ok hw
      exact ht ▸ Change.access hu
  | invalidation i =>
    rcases keyed_change (checkInvalidation i) (invalidationByKey i.idempotencyKey) (fun _ q _ => answerInvalidation i q)
      (fun _ => writeInvalidation i now) t with h | ⟨c, a, -, -, hw⟩
    · exact .of_eq h
    · obtain ⟨u, hu, ht⟩ := writeInvalidation_ok hw
      exact ht ▸ Change.invalidation hu

theorem step_change (w : EvalWire) (t : Tables) (o : Op) : Change w t (step w t o) := by
  cases o with
  | request q now => exact exec_change w q now t
  | ledgerCall o => exact .ledger (Improvement.step_extends w.toWire t.ledger o)
  | records runs evidence => exact .records runs evidence

/-! ## Rows are only added -/

structure Grows (t t' : Tables) : Prop where
  controllerRuns : t.controllerRuns <+: t'.controllerRuns
  ledger : Improvement.Extends t.ledger t'.ledger
  memberships : t.memberships.rows <+: t'.memberships.rows
  runs : t.runs.rows <+: t'.runs.rows
  statuses : t.statuses.rows <+: t'.statuses.rows
  samples : t.samples.rows <+: t'.samples.rows
  verdicts : t.verdicts.rows <+: t'.verdicts.rows
  accesses : t.accesses.rows <+: t'.accesses.rows
  invalidations : t.invalidations.rows <+: t'.invalidations.rows

theorem Grows.refl (t : Tables) : Grows t t :=
  ⟨List.prefix_refl _, Improvement.extends_refl _, List.prefix_refl _, List.prefix_refl _, List.prefix_refl _,
    List.prefix_refl _, List.prefix_refl _, List.prefix_refl _, List.prefix_refl _⟩

theorem Grows.trans {t u v : Tables} (h : Grows t u) (h' : Grows u v) : Grows t v :=
  ⟨h.controllerRuns.trans h'.controllerRuns, Improvement.extends_trans h.ledger h'.ledger,
    h.memberships.trans h'.memberships, h.runs.trans h'.runs, h.statuses.trans h'.statuses, h.samples.trans h'.samples,
    h.verdicts.trans h'.verdicts, h.accesses.trans h'.accesses, h.invalidations.trans h'.invalidations⟩

theorem insert_longer {α κ : Type} {key : α → κ} [DecidableEq κ] {t u : Table key} {r : α} (h : t.insert r = some u) :
    t.rows <+: u.rows := by
  rw [(Table.insert_some h).2]
  exact List.prefix_append _ _

theorem Change.grows {w : EvalWire} {t t' : Tables} (h : Change w t t') : Grows t t' := by
  have hr := Grows.refl t
  cases h with
  | same => exact hr
  | member hm _ => exact { hr with memberships := insert_longer hm }
  | launch hu hs _ _ => exact { hr with runs := insert_longer hu, statuses := insert_longer hs }
  | status hs _ _ _ => exact { hr with statuses := insert_longer hs }
  | sample hs => exact { hr with samples := insert_longer hs }
  | verdict _ _ hv => exact { hr with verdicts := insert_longer hv }
  | access ha => exact { hr with accesses := insert_longer ha }
  | invalidation hi => exact { hr with invalidations := insert_longer hi }
  | ledger hl => exact { hr with ledger := hl }
  | records runs _ => exact { hr with controllerRuns := List.prefix_append _ _ }

theorem get_isSome_prefix {α κ : Type} {key : α → κ} [DecidableEq κ] {t u : Table key} (h : t.rows <+: u.rows) {k : κ}
    (hk : (t.get k).isSome = true) : (u.get k).isSome = true := by
  obtain ⟨r, hr⟩ := Option.isSome_iff_exists.1 hk
  rw [Table.get_extends h hr]
  rfl

theorem any_longer {α : Type} {p : α → Bool} {l l' : List α} (h : l <+: l') (ha : l.any p = true) : l'.any p = true := by
  obtain ⟨a, hm, hp⟩ := List.any_eq_true.1 ha
  exact List.any_eq_true.2 ⟨a, h.subset hm, hp⟩

/-! ## The statuses of a run are numbered -/

structure StatusInv (t : Tables) : Prop where
  numbered : ∀ run, (statusesOf t run).map StatusRevision.sequence = List.range' 1 (statusesOf t run).length
  owned : ∀ s ∈ t.statuses.rows, (t.runs.get s.evaluationRunId).isSome = true

theorem mem_statusesOf {t : Tables} {run : String} {s : StatusRevision} :
    s ∈ statusesOf t run ↔ s ∈ t.statuses.rows ∧ s.evaluationRunId = run := by
  unfold statusesOf
  rw [List.mem_filter, beq_iff_eq]

theorem statusesOf_insert {t : Tables} {s : StatusRevision} {u : Table EvaluationRun.id} {v : Table StatusRevision.id}
    (hs : t.statuses.insert s = some v) (run : String) :
    statusesOf { t with runs := u, statuses := v } run =
      statusesOf t run ++ if s.evaluationRunId = run then [s] else [] := by
  unfold statusesOf
  rw [(Table.insert_some hs).2, List.filter_append, List.filter_singleton]
  by_cases h : s.evaluationRunId = run
  · simp [h]
  · rw [if_neg h, beq_false_of_ne h, cond_false]

theorem StatusInv.insert {t : Tables} (h : StatusInv t) {s : StatusRevision} {u : Table EvaluationRun.id}
    {v : Table StatusRevision.id} (hs : t.statuses.insert s = some v) (hu : t.runs.rows <+: u.rows)
    (hrun : (u.get s.evaluationRunId).isSome = true) (hseq : s.sequence = maxSequence t s.evaluationRunId + 1) :
    StatusInv { t with runs := u, statuses := v } := by
  refine ⟨fun run => ?_, fun q hq => ?_⟩
  · rw [statusesOf_insert hs]
    by_cases hr : s.evaluationRunId = run
    · rw [if_pos hr]
      refine Table.numbered_concat StatusRevision.sequence (h.numbered run) ?_
      rw [hseq, hr]
      rfl
    · rw [if_neg hr, List.append_nil]
      exact h.numbered run
  · rcases (Table.mem_insert hs).1 hq with hq | rfl
    · exact get_isSome_prefix hu (h.owned q hq)
    · exact hrun

theorem StatusInv.statusesOf_fresh {t : Tables} (h : StatusInv t) {run : String} (hrun : t.runs.get run = none) :
    statusesOf t run = [] := by
  rw [List.eq_nil_iff_forall_not_mem]
  intro s hs
  obtain ⟨hmem, rfl⟩ := mem_statusesOf.1 hs
  have := h.owned s hmem
  rw [hrun] at this
  cases this

theorem Change.statusInv {w : EvalWire} {t t' : Tables} (h : Change w t t') (hi : StatusInv t) : StatusInv t' := by
  cases h with
  | launch hu hs hrun hseq =>
    rename_i r s u v
    have hfresh : t.runs.get s.evaluationRunId = none := by
      rw [hrun]
      exact (Table.insert_some hu).1
    refine hi.insert hs (insert_longer hu) ?_ ?_
    · rw [hrun, Table.get_of_mem ((Table.mem_insert hu).2 (Or.inr rfl))]
      rfl
    · rw [hseq, maxSequence, hi.statusesOf_fresh hfresh]
      rfl
  | status hs hrun hprior hseq => exact hi.insert hs (List.prefix_refl _) hrun hseq
  | _ => exact ⟨hi.numbered, hi.owned⟩

/-! ## What later states keep -/

/-- Rows are only added, the members of a launched taskset stay, and so does a status other than recording. -/
structure Later (t t' : Tables) : Prop where
  grows : Grows t t'
  frozen : ∀ taskset, launched t taskset = true → membersOf t' taskset = membersOf t taskset
  settled : ∀ run status, runStatus t run = some status → status ≠ .recording → runStatus t' run = some status

theorem launched_grows {t t' : Tables} (h : Grows t t') {taskset : String} (hl : launched t taskset = true) :
    launched t' taskset = true := any_longer h.runs hl

theorem Later.refl (t : Tables) : Later t t := ⟨.refl t, fun _ _ => rfl, fun _ _ h _ => h⟩

theorem Later.trans {t u v : Tables} (h : Later t u) (h' : Later u v) : Later t v where
  grows := h.grows.trans h'.grows
  frozen taskset hl := (h'.frozen taskset (launched_grows h.grows hl)).trans (h.frozen taskset hl)
  settled run status hs hne := h'.settled run status (h.settled run status hs hne) hne

theorem Change.frozen {w : EvalWire} {t t' : Tables} (h : Change w t t') {taskset : String}
    (hl : launched t taskset = true) : membersOf t' taskset = membersOf t taskset := by
  cases h with
  | member hm hopen =>
    rename_i m u
    have hne : (m.tasksetRevisionId == taskset) = false := by
      rw [beq_eq_false_iff_ne]
      rintro rfl
      rw [hopen] at hl
      cases hl
    unfold membersOf
    rw [(Table.insert_some hm).2, List.filter_append, List.filter_singleton, hne]
    simp
  | _ => rfl

theorem runStatus_congr {t t' : Tables} {run : String} (h : statusesOf t' run = statusesOf t run) :
    runStatus t' run = runStatus t run := by
  unfold runStatus maxSequence
  rw [h]

theorem Change.settled {w : EvalWire} {t t' : Tables} (h : Change w t t') (hi : StatusInv t) {run : String}
    {status : EvaluationRunStatus} (hs : runStatus t run = some status) (hne : status ≠ .recording) :
    runStatus t' run = some status := by
  cases h with
  | launch hu hins hrun hseq =>
    rename_i r s u v
    rw [← hs]
    refine runStatus_congr ?_
    rw [statusesOf_insert hins, if_neg, List.append_nil]
    rintro rfl
    -- the new run is not there before, so it had no status
    rw [runStatus, hi.statusesOf_fresh (by rw [hrun]; exact (Table.insert_some hu).1)] at hs
    cases hs
  | status hins hrun hprior hseq =>
    rename_i s v
    rw [← hs]
    refine runStatus_congr ?_
    rw [statusesOf_insert hins, if_neg, List.append_nil]
    rintro rfl
    rw [hprior] at hs
    exact hne (Option.some.inj hs).symm
  | _ => exact hs

theorem Change.later {w : EvalWire} {t t' : Tables} (h : Change w t t') (hi : StatusInv t) : Later t t' :=
  ⟨h.grows, fun _ hl => h.frozen hl, fun _ _ hs hne => h.settled hi hs hne⟩

theorem run_later (w : EvalWire) : ∀ (ops : List Op) {t : Tables}, StatusInv t →
    StatusInv (run (step w) t ops) ∧ Later t (run (step w) t ops)
  | [], t, hi => ⟨hi, .refl t⟩
  | o :: ops, t, hi => by
    have hc := step_change w t o
    obtain ⟨hinv, hlater⟩ := run_later w ops (hc.statusInv hi)
    exact ⟨hinv, (hc.later hi).trans hlater⟩

def emptyRecords (runs : List ControllerRun) (evidence : Evidence) (ledger : Improvement.Tables) : Tables :=
  ⟨runs, evidence, ledger, ∅, ∅, ∅, ∅, ∅, ∅, ∅⟩

theorem emptyRecords_statusInv (runs : List ControllerRun) (evidence : Evidence) (ledger : Improvement.Tables) :
    StatusInv (emptyRecords runs evidence ledger) := ⟨fun _ => rfl, fun _ hs => absurd hs List.not_mem_nil⟩

end Eval
end Bildr
