import Bildr.FailureReplay
/-!
# FailureStall — when the projection of a run stalls

In every state that calls on runs, results of attempts, new revisions and projections lead to, a projection of a run
succeeds exactly when no attempt of the run was projected with another terminal code than its terminal class has now
(`failure_projection_stalls_iff`).  What the other sources are projected to never changes (`from_same`).
-/
namespace Bildr
namespace FailureProjection

open Failure (TerminalCode FailureScope expectedClass)
open Improvement (Revision LedgerInv CollisionFree readable parseOutcome isSafeOperatorControlIdentifier)
open SortBy (sortBy)
open Trace (Along)

/-! ## The sources a projection visits -/

def failureSource (run : String) (r : Revision) : Option Source :=
  match r.payload with
  | .outcome o =>
    if o.runId == run && (decide (o.classification = .negative) || decide (o.classification = .unknown)) then
      some (revisionSource r o.code)
    else none
  | .other _   => none

def lifecycleSources (W : World) (run : String) : List Source :=
  match (W.runs.runs.get run).bind Run.RunRow.failureClass with
  | none      => []
  | some code => (terminalRunFailureEvents W.runs run code).map (eventSource code)

def visited (W : World) (run : String) : List Source :=
  lifecycleSources W run ++ (attemptRows W run).map attemptSource ++
    (storedOutcomes W.ledger).filterMap (failureSource run)

theorem mem_storedOutcomes {t : Improvement.Tables} {r : Revision} :
    r ∈ storedOutcomes t ↔ r ∈ t.revisions.rows ∧ r.aggregateKind = .outcome := by
  unfold storedOutcomes
  rw [SortBy.mem_sortBy, List.mem_filter, decide_eq_true_eq]

theorem readable_valid {w : Improvement.Wire} {r : Revision} (h : readable w r = true)
    (hkind : r.aggregateKind = .outcome) : ∃ o, r.payload = .outcome o ∧ o.validate = .ok () := by
  obtain ⟨o, ho⟩ := Improvement.readable_outcome h hkind
  refine ⟨o, ho, ?_⟩
  unfold readable at h
  rw [ho] at h
  have hcontract := (Bool.and_eq_true_iff.1 h).2
  cases hs : r.schema <;> rw [hs] at hcontract <;> first | exact isOk_unit hcontract | cases hcontract

theorem outcomeRevisions_eq {w : Wire} {t : Improvement.Tables}
    (hread : ∀ r ∈ t.revisions.rows, readable w.toWire r = true) : outcomeRevisions w t = .ok (storedOutcomes t) := by
  have hall : ∀ r ∈ storedOutcomes t, readable w.toWire r = true := fun r hr => hread r (mem_storedOutcomes.1 hr).1
  unfold outcomeRevisions
  revert hall
  generalize storedOutcomes t = rows
  intro hall
  induction rows with
  | nil => rfl
  | cons r rows ih =>
    rw [List.mapM_cons, hall r List.mem_cons_self, ih (fun q hq => hall q (List.mem_cons_of_mem r hq))]
    rfl

section Body
variable {w : Wire} {runs : Run.Tables} {run repository : String} {now : Int}

theorem projectRevision_eq {p : Projecting} {r : Revision} {o : Improvement.OutcomeWireV1} (ho : r.payload = .outcome o)
    (hvalid : o.validate = .ok ()) : projectRevision w runs run repository now p r =
      match failureSource run r with
      | some s => project w runs repository now p s
      | none   => .ok p := by
  unfold projectRevision failureSource
  rw [ho]
  simp only [parseOutcome, ok_bind, hvalid, Except.mapError]
  by_cases hrun : (o.runId == run && (decide (o.classification = .negative) || decide (o.classification = .unknown))) = true
  · rw [if_pos hrun, if_pos hrun]
  · rw [if_neg hrun, if_neg hrun]
    rfl

theorem projectRevisions_eq : ∀ {rows : List Revision} {p : Projecting},
    (∀ r ∈ rows, ∃ o, r.payload = .outcome o ∧ o.validate = .ok ()) →
      rows.foldlM (projectRevision w runs run repository now) p =
        (rows.filterMap (failureSource run)).foldlM (project w runs repository now) p
  | [], _, _ => rfl
  | r :: rows, p, h => by
    obtain ⟨o, ho, hvalid⟩ := h r List.mem_cons_self
    have hrest := fun p' => @projectRevisions_eq rows p' (fun q hq => h q (List.mem_cons_of_mem r hq))
    rw [List.foldlM_cons, projectRevision_eq ho hvalid]
    cases hs : failureSource run r with
    | none =>
      rw [List.filterMap_cons_none hs]
      exact hrest p
    | some s =>
      rw [List.filterMap_cons_some hs, List.foldlM_cons]
      exact congrArg _ (funext hrest)

theorem projectBody_eq {W : World} {row : Run.RunRow} (hrow : W.runs.runs.get run = some row)
    (hread : ∀ r ∈ W.ledger.revisions.rows, readable w.toWire r = true) :
    projectBody w run now W =
      ((visited W run).foldlM (project w W.runs row.repositoryId now) ⟨W.failures, 0, 0⟩ >>= fun p =>
        .ok (⟨p.inserted, p.alreadyProjected⟩, { W with failures := p.failures })) := by
  have hlifecycle : projectLifecycle w W run row.repositoryId now row.failureClass ⟨W.failures, 0, 0⟩ =
      (lifecycleSources W run).foldlM (project w W.runs row.repositoryId now) ⟨W.failures, 0, 0⟩ := by
    unfold projectLifecycle lifecycleSources
    rw [hrow, Option.bind_some]
    cases row.failureClass <;> rfl
  have hvalid : ∀ r ∈ storedOutcomes W.ledger, ∃ o, r.payload = .outcome o ∧ o.validate = .ok () := fun r hr =>
    readable_valid (hread r (mem_storedOutcomes.1 hr).1) (mem_storedOutcomes.1 hr).2
  unfold projectBody visited
  rw [show queryRow (W.runs.runs.get run) = .ok row by rw [hrow]; rfl, ok_bind]
  rw [hlifecycle, outcomeRevisions_eq hread, List.foldlM_append, List.foldlM_append, bind_assoc, bind_assoc]
  refine congrArg _ (funext (fun p => congrArg _ (funext (fun p => ?_))))
  rw [ok_bind, projectRevisions_eq hvalid]
  rfl

end Body

/-! ## Where a source comes from -/

def repositoryOf (W : World) (run : String) : Option String := (W.runs.runs.get run).map Run.RunRow.repositoryId

/-- The source is one of a run of the repository, of an attempt with any terminal code. -/
inductive From (W : World) (repository : String) : Source → Prop
  | event {run code : String} {e : Run.DomainEvent} (hrun : repositoryOf W run = some repository)
      (he : e ∈ Run.lifecycle W.runs run) (hcode : e.payload.get "failure_class" = some (.str code)) :
      From W repository (eventSource code e.id)
  | attempt {a : AttemptRow} {task : TaskRow} {code : String} (hrun : repositoryOf W task.runId = some repository)
      (ha : a ∈ W.attempts.rows) (htask : W.tasks.get a.taskId = some task) :
      From W repository (attemptSource (a.id, code))
  | outcome {r : Revision} {o : Improvement.OutcomeWireV1} (hrun : repositoryOf W o.runId = some repository)
      (hr : r ∈ W.ledger.revisions.rows) (ho : r.payload = .outcome o) : From W repository (revisionSource r o.code)

theorem mem_attemptRows {W : World} {run id code : String} : (id, code) ∈ attemptRows W run ↔
    ∃ a ∈ W.attempts.rows, ownedBy W run a = true ∧ a.id = id ∧ a.terminalClass = some code := by
  unfold attemptRows
  rw [List.mem_filterMap]
  constructor
  · rintro ⟨a, ha, hcode⟩
    rw [SortBy.mem_sortBy, List.mem_filter] at ha
    obtain ⟨code', hclass, hpair⟩ := Option.map_eq_some_iff.1 hcode
    obtain ⟨rfl, rfl⟩ := Prod.mk.inj hpair
    exact ⟨a, ha.1, ha.2, rfl, hclass⟩
  · rintro ⟨a, ha, howned, rfl, hclass⟩
    refine ⟨a, ?_, by rw [hclass]; rfl⟩
    rw [SortBy.mem_sortBy, List.mem_filter]
    exact ⟨ha, howned⟩

theorem visited_from {W : World} {run : String} {row : Run.RunRow} (hrow : W.runs.runs.get run = some row) {s : Source}
    (hs : s ∈ visited W run) : From W row.repositoryId s := by
  have hrun : repositoryOf W run = some row.repositoryId := by rw [repositoryOf, hrow]; rfl
  unfold visited at hs
  rcases List.mem_append.1 hs with hs | hs
  · rcases List.mem_append.1 hs with hs | hs
    · unfold lifecycleSources at hs
      rw [hrow, Option.bind_some] at hs
      cases hclass : row.failureClass with
      | none =>
        rw [hclass] at hs
        cases hs
      | some code =>
        rw [hclass] at hs
        obtain ⟨n, hn, rfl⟩ := List.mem_map.1 hs
        obtain ⟨e, he, rfl⟩ := List.mem_map.1 hn
        obtain ⟨he, hcode⟩ := List.mem_filter.1 he
        exact From.event hrun he (of_decide_eq_true hcode)
    · obtain ⟨⟨id, code⟩, hrow', rfl⟩ := List.mem_map.1 hs
      obtain ⟨a, ha, howned, rfl, -⟩ := mem_attemptRows.1 hrow'
      unfold ownedBy at howned
      obtain ⟨task, htask, hid⟩ := (Option.any_eq_true _ _).1 howned
      refine From.attempt ?_ ha htask
      rw [beq_iff_eq.1 hid]
      exact hrun
  · obtain ⟨r, hr, hsource⟩ := List.mem_filterMap.1 hs
    unfold failureSource at hsource
    cases hpayload : r.payload with
    | other v =>
      rw [hpayload] at hsource
      cases hsource
    | outcome o =>
      rw [hpayload] at hsource
      dsimp only at hsource
      split at hsource
      · rename_i hown
        obtain rfl := Option.some.inj hsource
        refine From.outcome ?_ (mem_storedOutcomes.1 hr).1 hpayload
        rw [beq_iff_eq.1 (Bool.and_eq_true_iff.1 hown).1]
        exact hrun
      · cases hsource

structure Grows (W W' : World) : Prop where
  runs : ∀ {run repository}, repositoryOf W run = some repository → repositoryOf W' run = some repository
  events : ∀ e ∈ W.runs.events, e ∈ W'.runs.events
  tasks : W'.tasks = W.tasks
  attempts : ∀ a ∈ W.attempts.rows, ∃ a' ∈ W'.attempts.rows, a'.id = a.id ∧ a'.taskId = a.taskId
  revisions : ∀ r ∈ W.ledger.revisions.rows, r ∈ W'.ledger.revisions.rows

theorem From.mono {W W' : World} (hg : Grows W W') {repository : String} {s : Source} (h : From W repository s) :
    From W' repository s := by
  cases h with
  | event hrun he hcode =>
    obtain ⟨hmem, hown⟩ := List.mem_filter.1 he
    exact From.event (hg.runs hrun) (List.mem_filter.2 ⟨hg.events _ hmem, hown⟩) hcode
  | attempt hrun ha htask =>
    obtain ⟨a', ha', hid, htask'⟩ := hg.attempts _ ha
    rw [← hid]
    exact From.attempt (hg.runs hrun) ha' (by rw [hg.tasks, htask']; exact htask)
  | outcome hrun hr ho => exact From.outcome (hg.runs hrun) (hg.revisions _ hr) ho

theorem eventId_inj {m n : Nat} (h : "domain-event-" ++ toString m = "domain-event-" ++ toString n) : m = n := by
  have hlist := congrArg String.toList h
  rw [String.toList_append, String.toList_append, List.append_right_inj] at hlist
  exact Texts.toString_number_inj (String.toList_inj.1 hlist)

/-- **What a source is projected to does not change**, but for the terminal code of an attempt. -/
theorem from_same {W : World} (hevents : (W.runs.events.map Run.DomainEvent.id).Nodup) {repository repository' : String}
    {s s' : Source} (h : From W repository s) (h' : From W repository' s') (hkey : s.key = s'.key) :
    repository = repository' ∧ s.event = s'.event ∧ (s.kind = .attemptTerminal ∨ s.terminal = s'.terminal) := by
  have hkind : s.kind = s'.kind := congrArg Prod.fst hkey
  have hid : s.id = s'.id := congrArg Prod.snd hkey
  cases h with
  | event hrun he hcode =>
    cases h' with
    | event hrun' he' hcode' =>
      obtain ⟨hmem, hown⟩ := List.mem_filter.1 he
      obtain ⟨hmem', hown'⟩ := List.mem_filter.1 he'
      obtain rfl := List.inj_on_of_nodup_map hevents hmem hmem' (eventId_inj hid)
      -- the event names its run and its failure class
      simp only [Run.isLifecycle, Bool.and_eq_true, beq_iff_eq, decide_eq_true_eq] at hown hown'
      obtain rfl := hown.1.1.2.symm.trans hown'.1.1.2
      refine ⟨Option.some.inj (hrun.symm.trans hrun'), rfl, Or.inr ?_⟩
      obtain rfl := Json.Value.str.inj (Option.some.inj (hcode.symm.trans hcode'))
      rfl
    | attempt hrun' ha' htask' => cases hkind
    | outcome hrun' hr' ho' => cases hkind
  | attempt hrun ha htask =>
    cases h' with
    | event hrun' he' hcode' => cases hkind
    | attempt hrun' ha' htask' =>
      obtain rfl := List.inj_on_of_nodup_map W.attempts.nodup ha ha' hid
      obtain rfl := Option.some.inj (htask.symm.trans htask')
      exact ⟨Option.some.inj (hrun.symm.trans hrun'), rfl, Or.inl rfl⟩
    | outcome hrun' hr' ho' => cases hkind
  | outcome hrun hr ho =>
    cases h' with
    | event hrun' he' hcode' => cases hkind
    | attempt hrun' ha' htask' => cases hkind
    | outcome hrun' hr' ho' =>
      obtain rfl := List.inj_on_of_nodup_map W.ledger.revisions.nodup hr hr' hid
      obtain rfl := Improvement.Payload.outcome.inj (ho.symm.trans ho')
      exact ⟨Option.some.inj (hrun.symm.trans hrun'), rfl, Or.inr rfl⟩

/-! ## The state of a run -/

inductive Op
  | onRuns (o : Run.Op)
  | setAttemptResult (id state : String) (headSha terminalClass failureReason : Option String) (now : Int)
  | onLedger (o : Improvement.Op)
  | project (run : String) (now : Int)

def refer (W : World) : Improvement.Tables :=
  { W.ledger with
    referenced := { W.ledger.referenced with
      runs := W.runs.runs.rows.map Run.RunRow.id,
      attempts := W.attempts.rows.filterMap (fun a => (W.tasks.get a.taskId).map (fun t => (a.id, t.runId))),
      domainEvents := W.runs.events.map (fun e => (e.id : Int)) } }

def step (w : Wire) (W : World) : Op → World
  | .onRuns o                                                            => { W with runs := Run.step W.runs o }
  | .setAttemptResult id state headSha terminalClass failureReason now =>
    setAttemptResult id state headSha terminalClass failureReason now W
  | .onLedger o                                                          =>
    { W with ledger := Improvement.step w.toWire (refer W) o }
  | .project run now                                                     => (projectFailuresForRun w run now W).2

def Stood (w : Wire) (W : World) (o : Occurrence) : Prop :=
  ∃ repository s now, From W repository s ∧ o = s.occurrence w repository now

structure WorldInv (w : Wire) (W : World) : Prop where
  ledger : LedgerInv w.toWire W.ledger
  cites : ∀ r ∈ W.ledger.revisions.rows, ∀ e, r.sourceDomainEventId = some e → ∃ q ∈ W.runs.events, (q.id : Int) = e
  known : ∀ r ∈ W.runs.runs.rows, W.runs.repositories.contains r.repositoryId = true
  numbered : ∀ e ∈ W.runs.events, e.id ≤ W.runs.sequence
  distinct : (W.runs.events.map Run.DomainEvent.id).Nodup
  once : Once W.failures
  stood : ∀ o ∈ W.failures.occurrences.rows, Stood w W o

def emptyWorld (repositories : List String) (tasks : Table TaskRow.id) (attempts : Table AttemptRow.id)
    (referenced : Improvement.Referenced) : World :=
  ⟨Run.emptyRuns repositories, tasks, attempts, Improvement.emptyLedger referenced, ⟨∅, ∅, ∅⟩⟩

theorem emptyWorld_inv (w : Wire) (repositories : List String) (tasks : Table TaskRow.id) (attempts : Table AttemptRow.id)
    (referenced : Improvement.Referenced) : WorldInv w (emptyWorld repositories tasks attempts referenced) where
  ledger := Improvement.emptyLedger_inv w.toWire referenced
  cites := fun _ hr => absurd hr List.not_mem_nil
  known := fun _ hr => absurd hr List.not_mem_nil
  numbered := fun _ he => absurd he List.not_mem_nil
  distinct := List.nodup_nil
  once := ⟨List.nodup_nil, fun _ ho => absurd ho List.not_mem_nil, fun _ hm => absurd hm List.not_mem_nil⟩
  stood := fun _ ho => absurd ho List.not_mem_nil

/-! ### What each call keeps -/

theorem mem_setAttemptResult {W : World} {id state : String} {headSha terminalClass failureReason : Option String}
    {now : Int} {a' : AttemptRow} :
    a' ∈ (setAttemptResult id state headSha terminalClass failureReason now W).attempts.rows ↔ ∃ a ∈ W.attempts.rows,
      a' = if a.id == id then a.settled state headSha terminalClass failureReason now else a :=
  @Table.mem_update _ _ AttemptRow.id W.attempts (fun a => a.id == id)
    (fun a => a.settled state headSha terminalClass failureReason now) (fun _ => rfl) a'

section Keeps
variable {w : Wire} {W : World}

theorem keeps_repositoryOf {t' : Run.Tables} (hk : Run.Keeps W.runs t') {run repository : String}
    (h : repositoryOf W run = some repository) : repositoryOf { W with runs := t' } run = some repository := by
  obtain ⟨row, hrow, hrepository⟩ := Option.map_eq_some_iff.1 h
  obtain ⟨new, howners, -⟩ := hk.owners
  obtain ⟨hmem, hid⟩ := Table.get_some.1 hrow
  have howner : row.owner ∈ t'.runs.rows.map Run.RunRow.owner := by
    rw [howners]
    exact List.mem_append_left _ (List.mem_map.2 ⟨row, hmem, rfl⟩)
  obtain ⟨row', hmem', hsame⟩ := List.mem_map.1 howner
  have hid' : row'.id = run := (congrArg Prod.fst hsame).trans hid
  have hget : t'.runs.get run = some row' := Table.get_some.2 ⟨hmem', hid'⟩
  show (t'.runs.get run).map Run.RunRow.repositoryId = some repository
  rw [hget, Option.map_some, ← hrepository]
  exact congrArg some (congrArg Prod.snd hsame)

theorem keeps_events {t t' : Run.Tables} (hk : Run.Keeps t t') : ∀ e ∈ t.events, e ∈ t'.events := by
  intro e he
  rcases hk.events with hsame | ⟨new, -, hsame⟩
  · rw [(Prod.mk.inj hsame).1]
    exact he
  · rw [(Prod.mk.inj hsame).1]
    exact List.mem_append_left _ he

theorem grows_onRuns (o : Run.Op) : Grows W (step w W (.onRuns o)) :=
  ⟨fun h => keeps_repositoryOf (Run.step_keeps W.runs o) h, keeps_events (Run.step_keeps W.runs o), rfl,
    fun a ha => ⟨a, ha, rfl, rfl⟩, fun _ hr => hr⟩

theorem grows_setAttemptResult (id state : String) (headSha terminalClass failureReason : Option String) (now : Int) :
    Grows W (step w W (.setAttemptResult id state headSha terminalClass failureReason now)) := by
  refine ⟨fun h => h, fun _ he => he, rfl, fun a ha => ?_, fun _ hr => hr⟩
  refine ⟨_, mem_setAttemptResult.2 ⟨a, ha, rfl⟩, ?_, ?_⟩
  · split <;> rfl
  · split <;> rfl

theorem grows_onLedger (o : Improvement.Op) : Grows W (step w W (.onLedger o)) :=
  ⟨fun h => h, fun _ he => he, rfl, fun a ha => ⟨a, ha, rfl, rfl⟩,
    fun _ hr => (Improvement.step_extends w.toWire (refer W) o).revisions.subset hr⟩

theorem projectFailuresForRun_cases (h : WorldInv w W) (run : String) (now : Int) :
    (projectFailuresForRun w run now W).2 = W ∨ ∃ row p, W.runs.runs.get run = some row ∧
      Projected w row.repositoryId now (visited W run) ⟨W.failures, 0, 0⟩ p ∧
      projectFailuresForRun w run now W = (.ok ⟨p.inserted, p.alreadyProjected⟩, { W with failures := p.failures }) := by
  unfold projectFailuresForRun
  rcases transaction_cases (projectBody w run now) W with ⟨e, -, ht⟩ | ⟨receipt, W', hb, ht⟩
  · exact Or.inl (congrArg Prod.snd ht)
  · have hrow : ∃ row, W.runs.runs.get run = some row := by
      obtain ⟨row, hrow, -⟩ := bind_ok hb
      exact ⟨row, okOr_ok hrow⟩
    obtain ⟨row, hrow⟩ := hrow
    rw [projectBody_eq hrow h.ledger.readable] at hb
    obtain ⟨p, hp, hb⟩ := bind_ok hb
    obtain ⟨rfl, rfl⟩ := Prod.mk.inj (Except.ok.inj hb)
    exact Or.inr ⟨row, p, hrow, foldProject_projected hp, ht⟩

theorem grows_failures (f : Failures) : Grows W { W with failures := f } :=
  ⟨fun h => h, fun _ he => he, rfl, fun a ha => ⟨a, ha, rfl, rfl⟩, fun _ hr => hr⟩

theorem Stood.mono {W' : World} (hg : Grows W W') {o : Occurrence} (h : Stood w W o) : Stood w W' o := by
  obtain ⟨repository, s, now, hs, ho⟩ := h
  exact ⟨repository, s, now, hs.mono hg, ho⟩

theorem step_inv (h : WorldInv w W) (o : Op) : WorldInv w (step w W o) := by
  cases o with
  | onRuns o =>
    have hk := Run.step_keeps W.runs o
    have hg : Grows W (step w W (.onRuns o)) := grows_onRuns o
    refine ⟨h.ledger, fun r hr e he => ?_, fun r hr => ?_, ?_, ?_, h.once, fun o ho => (h.stood o ho).mono hg⟩
    · obtain ⟨q, hq, hid⟩ := h.cites r hr e he
      exact ⟨q, keeps_events hk q hq, hid⟩
    · obtain ⟨new, howners, hnew⟩ := hk.owners
      have howner : r.owner ∈ (Run.step W.runs o).runs.rows.map Run.RunRow.owner := List.mem_map.2 ⟨r, hr, rfl⟩
      show (Run.step W.runs o).repositories.contains r.repositoryId = true
      rw [hk.repositories]
      rw [howners] at howner
      rcases List.mem_append.1 howner with howner | howner
      · obtain ⟨q, hq, hsame⟩ := List.mem_map.1 howner
        rw [← show q.repositoryId = r.repositoryId from congrArg Prod.snd hsame]
        exact h.known q hq
      · exact hnew _ howner
    · show ∀ e ∈ (Run.step W.runs o).events, e.id ≤ (Run.step W.runs o).sequence
      rcases hk.events with hsame | ⟨new, hid, hsame⟩
      · rw [(Prod.mk.inj hsame).1, (Prod.mk.inj hsame).2]
        exact h.numbered
      · rw [(Prod.mk.inj hsame).1, (Prod.mk.inj hsame).2]
        intro e he
        rcases List.mem_append.1 he with he | he
        · exact Nat.le_succ_of_le (h.numbered e he)
        · obtain rfl := List.mem_singleton.1 he
          exact hid.le
    · show ((Run.step W.runs o).events.map Run.DomainEvent.id).Nodup
      rcases hk.events with hsame | ⟨new, hid, hsame⟩
      · rw [(Prod.mk.inj hsame).1]
        exact h.distinct
      · rw [(Prod.mk.inj hsame).1, List.map_append]
        refine List.nodup_append.2 ⟨h.distinct, List.nodup_singleton _, fun a ha b hb => ?_⟩
        obtain ⟨e, he, rfl⟩ := List.mem_map.1 ha
        have hb' : b = new.id := List.mem_singleton.1 hb
        have hle := h.numbered e he
        omega
  | setAttemptResult id state headSha terminalClass failureReason now =>
    exact ⟨h.ledger, h.cites, h.known, h.numbered, h.distinct, h.once, fun o ho =>
      (h.stood o ho).mono (grows_setAttemptResult id state headSha terminalClass failureReason now)⟩
  | onLedger o =>
    have hrefer : LedgerInv w.toWire (refer W) := ⟨h.ledger.paired, h.ledger.numbered, h.ledger.readable⟩
    refine ⟨Improvement.step_inv w.toWire (refer W) o hrefer, fun r hr e he => ?_, h.known, h.numbered, h.distinct, h.once,
      fun q hq => (h.stood q hq).mono (grows_onLedger o)⟩
    rcases Improvement.step_cites w.toWire (refer W) o r hr with hold | hnew
    · exact h.cites r hold e he
    · rw [he, Option.all_some, List.contains_iff_mem] at hnew
      obtain ⟨q, hq, hid⟩ := List.mem_map.1 hnew
      exact ⟨q, hq, hid⟩
  | project run now =>
    rcases projectFailuresForRun_cases h run now with hsame | ⟨row, p, hrow, hp, hcall⟩
    · show WorldInv w (projectFailuresForRun w run now W).2
      rw [hsame]
      exact h
    · have hstep : step w W (.project run now) = { W with failures := p.failures } := congrArg Prod.snd hcall
      rw [hstep]
      refine ⟨h.ledger, h.cites, h.known, h.numbered, h.distinct, hp.once h.once, fun o ho => ?_⟩
      rcases hp.new o ho with ho | ⟨s, hs, rfl⟩
      · exact (h.stood o ho).mono (grows_failures p.failures)
      · exact ⟨row.repositoryId, s, now, (visited_from hrow hs).mono (grows_failures p.failures), rfl⟩

theorem run_inv : ∀ (ops : List Op) {W : World}, WorldInv w W → WorldInv w (Trace.run (step w) W ops)
  | [], _, h => h
  | o :: ops, _, h => run_inv ops (step_inv h o)

end Keeps

/-! ## The sources are different -/

theorem keys_nodup {α : Type} {l : List α} {f : α → Option Source} {name : α → String} (hl : (l.map name).Nodup)
    (hf : ∀ a s, f a = some s → s.id = name a) : ((l.filterMap f).map Source.key).Nodup := by
  unfold List.Nodup at hl ⊢
  rw [List.pairwise_map] at hl ⊢
  rw [List.pairwise_filterMap]
  refine hl.imp (fun {a b} hab s hs s' hs' hkey => hab ?_)
  rw [← hf a s hs, ← hf b s' hs']
  exact congrArg Prod.snd hkey

theorem attemptSources_eq (W : World) (run : String) : (attemptRows W run).map attemptSource =
    (sortBy AttemptRow.id (W.attempts.rows.filter (ownedBy W run))).filterMap
      (fun a => a.terminalClass.map (fun code => attemptSource (a.id, code))) := by
  unfold attemptRows
  rw [List.map_filterMap]
  refine congrArg (fun f => List.filterMap f _) (funext (fun a => ?_))
  rw [Option.map_map]
  rfl

theorem kind_of_lifecycle {W : World} {run : String} {s : Source} (hs : s ∈ lifecycleSources W run) :
    s.kind = .runTerminal := by
  unfold lifecycleSources at hs
  split at hs
  · cases hs
  · obtain ⟨n, -, rfl⟩ := List.mem_map.1 hs
    rfl

theorem kind_of_outcome {run : String} {r : Revision} {s : Source} (hs : failureSource run r = some s) :
    s.kind = .typedOutcome ∧ s.id = r.id := by
  unfold failureSource at hs
  split at hs
  · split at hs
    · obtain rfl := Option.some.inj hs
      exact ⟨rfl, rfl⟩
    · cases hs
  · cases hs

theorem lifecycleSources_nodup {W : World} (hevents : (W.runs.events.map Run.DomainEvent.id).Nodup) (run : String) :
    ((lifecycleSources W run).map Source.key).Nodup := by
  unfold lifecycleSources
  split
  · exact List.nodup_nil
  · rename_i code _
    have hids : (terminalRunFailureEvents W.runs run code).Nodup := by
      unfold terminalRunFailureEvents Run.lifecycle
      exact hevents.sublist ((List.filter_sublist.trans List.filter_sublist).map _)
    rw [List.map_map]
    exact hids.map (fun m n hmn => eventId_inj (congrArg Prod.snd hmn))

theorem visited_nodup {W : World} (hevents : (W.runs.events.map Run.DomainEvent.id).Nodup) (run : String) :
    ((visited W run).map Source.key).Nodup := by
  have hattempts : (((attemptRows W run).map attemptSource).map Source.key).Nodup := by
    rw [attemptSources_eq]
    refine @keys_nodup _ _ _ AttemptRow.id ?_ (fun a s hs => ?_)
    · rw [((SortBy.perm_sortBy AttemptRow.id _).map AttemptRow.id).nodup_iff]
      exact W.attempts.nodup.sublist (List.filter_sublist.map _)
    · obtain ⟨code, -, rfl⟩ := Option.map_eq_some_iff.1 hs
      rfl
  have houtcomes : (((storedOutcomes W.ledger).filterMap (failureSource run)).map Source.key).Nodup := by
    refine @keys_nodup _ _ _ Revision.id ?_ (fun r s hs => (kind_of_outcome hs).2)
    unfold storedOutcomes
    rw [((SortBy.perm_sortBy _ _).map Revision.id).nodup_iff]
    exact W.ledger.revisions.nodup.sublist (List.filter_sublist.map _)
  have hkinds : ∀ {k k' : FailureScope} {l l' : List Source}, k ≠ k' → (∀ s ∈ l, s.kind = k) → (∀ s ∈ l', s.kind = k') →
      ∀ a ∈ l.map Source.key, ∀ b ∈ l'.map Source.key, a ≠ b := by
    rintro k k' l l' hne hl hl' a ha b hb rfl
    obtain ⟨s, hs, rfl⟩ := List.mem_map.1 ha
    obtain ⟨s', hs', hkey⟩ := List.mem_map.1 hb
    exact hne ((hl s hs).symm.trans ((congrArg Prod.fst hkey).symm.trans (hl' s' hs')))
  have hattemptKind : ∀ s ∈ (attemptRows W run).map attemptSource, s.kind = .attemptTerminal := by
    intro s hs
    obtain ⟨r, -, rfl⟩ := List.mem_map.1 hs
    rfl
  have houtcomeKind : ∀ s ∈ (storedOutcomes W.ledger).filterMap (failureSource run), s.kind = .typedOutcome := by
    intro s hs
    obtain ⟨r, -, hr⟩ := List.mem_filterMap.1 hs
    exact (kind_of_outcome hr).1
  unfold visited
  rw [List.map_append, List.map_append]
  refine List.nodup_append.2 ⟨List.nodup_append.2 ⟨lifecycleSources_nodup hevents run, hattempts,
    hkinds (by decide) (fun s hs => kind_of_lifecycle hs) hattemptKind⟩, houtcomes, fun a ha => ?_⟩
  rcases List.mem_append.1 ha with ha | ha
  · exact hkinds (by decide) (fun s hs => kind_of_lifecycle hs) houtcomeKind a ha
  · exact hkinds (by decide) hattemptKind houtcomeKind a ha

theorem visited_attempt {W : World} {run : String} {s : Source} (hs : s ∈ visited W run)
    (hkind : s.kind = .attemptTerminal) : ∃ a ∈ W.attempts.rows, ownedBy W run a = true ∧
      ∃ code, a.terminalClass = some code ∧ s = attemptSource (a.id, code) := by
  unfold visited at hs
  rcases List.mem_append.1 hs with hs | hs
  · rcases List.mem_append.1 hs with hs | hs
    · rw [kind_of_lifecycle hs] at hkind
      cases hkind
    · obtain ⟨⟨id, code⟩, hrow, rfl⟩ := List.mem_map.1 hs
      obtain ⟨a, ha, howned, rfl, hclass⟩ := mem_attemptRows.1 hrow
      exact ⟨a, ha, howned, code, hclass, rfl⟩
  · obtain ⟨r, -, hr⟩ := List.mem_filterMap.1 hs
    rw [(kind_of_outcome hr).1] at hkind
    cases hkind

theorem attempt_visited {W : World} {run : String} {a : AttemptRow} (ha : a ∈ W.attempts.rows)
    (howned : ownedBy W run a = true) {code : String} (hclass : a.terminalClass = some code) :
    attemptSource (a.id, code) ∈ visited W run := by
  unfold visited
  exact List.mem_append_left _ (List.mem_append_right _ (List.mem_map.2 ⟨(a.id, code),
    mem_attemptRows.2 ⟨a, ha, howned, rfl, hclass⟩, rfl⟩))

/-! ## When a projection stalls -/

/-- Every attempt of the run that was projected has the terminal code it was projected with. -/
def Steady (W : World) (run : String) : Prop :=
  ∀ a ∈ W.attempts.rows, ownedBy W run a = true → ∀ code, a.terminalClass = some code →
    ∀ o ∈ W.failures.occurrences.rows, o.key = (.attemptTerminal, a.id) → o.terminalCode = TerminalCode.parse code

def Projects (w : Wire) (W : World) (run : String) (now : Int) : Prop :=
  ∃ receipt W', projectFailuresForRun w run now W = (.ok receipt, W') ∧
    receipt.inserted + receipt.alreadyProjected = (visited W run).length ∧
    ∀ s ∈ visited W run, ∃ o ∈ W'.failures.occurrences.rows, o.key = s.key

section Stall
variable {w : Wire} {W : World} {run : String} {row : Run.RunRow} {now : Int}

/-- **An occurrence agrees with its source** when the terminal code is the same. -/
theorem stood_agrees_iff (h : WorldInv w W) {o : Occurrence} (ho : Stood w W o) {repository : String} {s : Source}
    (hs : From W repository s) (hkey : o.key = s.key) :
    o.agrees (s.occurrence w repository now) = true ↔ o.terminalCode = s.terminal := by
  obtain ⟨repository₀, s₀, now₀, hs₀, rfl⟩ := ho
  have hkey₀ : s₀.key = s.key := hkey
  obtain ⟨rfl, hevent, -⟩ := from_same h.distinct hs₀ hs hkey₀
  have hkind : s₀.kind = s.kind := congrArg Prod.fst hkey₀
  have hid : s₀.id = s.id := congrArg Prod.snd hkey₀
  unfold Occurrence.agrees Source.occurrence
  constructor
  · intro hagrees
    simp only [Bool.and_eq_true, decide_eq_true_eq] at hagrees
    exact hagrees.1.1.1.1.1.1.1.2
  · intro hterminal
    have hterminal' : s₀.terminal = s.terminal := hterminal
    simp [hkind, hid, hevent, hterminal']

theorem visited_projectable (h : WorldInv w W) (hrow : W.runs.runs.get run = some row)
    (hsafe : ∀ s ∈ visited W run, isSafeOperatorControlIdentifier s.id = true)
    (hfree : CollisionFree w.sha256
      ((W.failures.occurrences.rows.map Occurrence.key ++ (visited W run).map Source.key).map sourceText)) :
    Projectable w W.runs row.repositoryId (visited W run) W.failures := by
  refine ⟨hsafe, h.known row (Table.mem_of_get hrow), fun s hs e he => ?_, visited_nodup h.distinct run, h.once,
    fun o ho => ?_, hfree⟩
  · cases visited_from hrow hs with
    | event hrun hmem hcode =>
      obtain rfl := Option.some.inj he
      exact ⟨_, (List.mem_filter.1 hmem).1, rfl⟩
    | attempt hrun ha htask => cases he
    | outcome hrun hr ho => exact h.cites _ hr e he
  · obtain ⟨repository, s, now, -, rfl⟩ := h.stood o ho
    rfl

theorem projects_iff (h : WorldInv w W) (hrow : W.runs.runs.get run = some row)
    (hsafe : ∀ s ∈ visited W run, isSafeOperatorControlIdentifier s.id = true)
    (hfree : CollisionFree w.sha256
      ((W.failures.occurrences.rows.map Occurrence.key ++ (visited W run).map Source.key).map sourceText)) :
    Projects w W run now ↔ Steady W run := by
  have hfold := @foldProject_isOk_iff w W.runs row.repositoryId now (visited W run) ⟨W.failures, 0, 0⟩
    (visited_projectable h hrow hsafe hfree)
  constructor
  · rintro ⟨receipt, W', hcall, -⟩
    have hbody := transaction_ok hcall
    rw [projectBody_eq hrow h.ledger.readable] at hbody
    obtain ⟨p, hp, -⟩ := bind_ok hbody
    intro a ha howned code hclass o ho hkey
    have hvisited := attempt_visited ha howned hclass
    exact (stood_agrees_iff h (h.stood o ho) (visited_from hrow hvisited) hkey).1
      (hfold.1 ⟨p, hp⟩ _ hvisited o ho hkey)
  · intro hsteady
    obtain ⟨p, hp⟩ := hfold.2 (fun s hs o ho hkey => by
      refine (stood_agrees_iff h (h.stood o ho) (visited_from hrow hs) hkey).2 ?_
      obtain ⟨repository, s₀, now₀, hs₀, rfl⟩ := h.stood o ho
      rcases (from_same h.distinct hs₀ (visited_from hrow hs) hkey).2.2 with hkind | hterminal
      · have hkind' : s.kind = .attemptTerminal := (congrArg Prod.fst hkey).symm.trans hkind
        obtain ⟨a, ha, howned, code, hclass, rfl⟩ := visited_attempt hs hkind'
        exact hsteady a ha howned code hclass _ ho hkey
      · exact hterminal)
    have hprojected := foldProject_projected hp
    refine ⟨⟨p.inserted, p.alreadyProjected⟩, { W with failures := p.failures }, ?_, ?_, fun s hs => ?_⟩
    · unfold projectFailuresForRun transaction
      rw [projectBody_eq hrow h.ledger.readable, hp]
      rfl
    · have hcounted := hprojected.counted
      rw [Nat.zero_add, Nat.zero_add] at hcounted
      exact hcounted
    · obtain ⟨o, ho, hagrees⟩ := hprojected.agreed s hs
      exact ⟨o, ho, agrees_key hagrees⟩

end Stall

/-! ## Calls that do not write a projected attempt anew -/

/-- The result has another terminal code than the attempt was projected with. -/
def Rewrites (W : World) : Op → Prop
  | .setAttemptResult id _ _ terminalClass _ _ => ∃ code, terminalClass = some code ∧
      ∃ o ∈ W.failures.occurrences.rows, o.key = (.attemptTerminal, id) ∧ o.terminalCode ≠ TerminalCode.parse code
  | _                                          => False

/-- Every attempt that was projected has the terminal code it was projected with. -/
def Settled (W : World) : Prop :=
  ∀ a ∈ W.attempts.rows, ∀ code, a.terminalClass = some code →
    ∀ o ∈ W.failures.occurrences.rows, o.key = (.attemptTerminal, a.id) → o.terminalCode = TerminalCode.parse code

theorem step_settled {w : Wire} {W : World} (h : WorldInv w W) (hs : Settled W) {o : Op} (hkeeps : ¬ Rewrites W o) :
    Settled (step w W o) := by
  cases o with
  | onRuns o => exact hs
  | onLedger o => exact hs
  | setAttemptResult id state headSha terminalClass failureReason now =>
    intro a' ha' code hclass q hq hkey
    obtain ⟨a, ha, rfl⟩ := mem_setAttemptResult.1 ha'
    by_cases hid : a.id = id
    · rw [if_pos (by simpa using hid)] at hclass hkey
      by_contra hne
      exact hkeeps ⟨code, hclass, q, hq, hid ▸ hkey, hne⟩
    · rw [if_neg (by simpa using hid)] at hclass hkey
      exact hs a ha code hclass q hq hkey
  | project run now =>
    rcases projectFailuresForRun_cases h run now with hsame | ⟨row, p, hrow, hp, hcall⟩
    · show Settled (projectFailuresForRun w run now W).2
      rw [hsame]
      exact hs
    · have hstep : step w W (.project run now) = { W with failures := p.failures } := congrArg Prod.snd hcall
      rw [hstep]
      intro a ha code hclass q hq hkey
      rcases hp.new q hq with hq | ⟨s, hvisited, rfl⟩
      · exact hs a ha code hclass q hq hkey
      · obtain ⟨a', ha', -, code', hclass', rfl⟩ := visited_attempt hvisited (congrArg Prod.fst hkey)
        obtain rfl := List.inj_on_of_nodup_map W.attempts.nodup ha ha' (congrArg Prod.snd hkey).symm
        obtain rfl := Option.some.inj (hclass.symm.trans hclass')
        rfl

theorem run_settled {w : Wire} : ∀ (ops : List Op) {W : World}, WorldInv w W → Settled W →
    Along (step w) (fun W o => ¬ Rewrites W o) W ops → Settled (Trace.run (step w) W ops)
  | [], _, _, hs, _ => hs
  | _ :: ops, _, h, hs, halong => run_settled ops (step_inv h _) (step_settled h hs halong.1) halong.2

/-- **A projection stalls exactly on an attempt that was written anew**: in every state that calls lead to, every source
is projected at most once and every occurrence has one first membership; the projection of a run succeeds, and has
counted and projected what it visits, exactly when the run is steady, which it is if no result so far had another
terminal code than its attempt was projected with. -/
theorem failure_projection_stalls_iff (w : Wire) (repositories : List String) (tasks : Table TaskRow.id)
    (attempts : Table AttemptRow.id) (referenced : Improvement.Referenced) (ops : List Op) (W : World)
    (hreached : W = Trace.run (step w) (emptyWorld repositories tasks attempts referenced) ops) (run : String)
    (row : Run.RunRow) (hrun : W.runs.runs.get run = some row)
    (hsafe : ∀ s ∈ visited W run, isSafeOperatorControlIdentifier s.id = true)
    (hfree : CollisionFree w.sha256
      ((W.failures.occurrences.rows.map Occurrence.key ++ (visited W run).map Source.key).map sourceText)) (now : Int) :
    Once W.failures ∧ (Projects w W run now ↔ Steady W run) ∧
      (Along (step w) (fun W o => ¬ Rewrites W o) (emptyWorld repositories tasks attempts referenced) ops →
        Projects w W run now) := by
  have hstart := emptyWorld_inv w repositories tasks attempts referenced
  have hinv : WorldInv w W := by
    rw [hreached]
    exact run_inv ops hstart
  have hiff : Projects w W run now ↔ Steady W run := projects_iff hinv hrun hsafe hfree
  refine ⟨hinv.once, hiff, fun halong => hiff.2 (fun a ha _ code hclass o ho hkey => ?_)⟩
  have hsettled := run_settled ops hstart (fun _ _ _ _ _ ho => absurd ho List.not_mem_nil) halong
  rw [← hreached] at hsettled
  exact hsettled a ha code hclass o ho hkey

/-! ### An attempt with two results -/

def resultDigest (text : String) : String :=
  if text = sourceText (.attemptTerminal, "attempt-1") then
    "f3fc047aa641768a000e4aa94f06029a61a97fd9415bcf8c8e29f193a35b3a98"
  else if text = Failure.fingerprintText "repo-1" .attemptTerminal .budgetExhausted then
    "e76a5adf7fa0df1de5dfa995e9bc9d222c56df18cd36357151245a6c796d5de5"
  else if text = Failure.fingerprintText "repo-1" .attemptTerminal .sourceFailure then
    "81566476e10545e4e756e47f52315eca3680fed86e1685cf98230acfcc66ef90"
  else "0000000000000000000000000000000000000000000000000000000000000000"

theorem resultDigest_hex (text : String) : Improvement.isLowerHex (resultDigest text) 64 = true := by
  unfold resultDigest
  split
  · decide
  · split
    · decide
    · split <;> decide

def resultWire : Wire := { Improvement.sampleWire with sha256 := resultDigest, hex := resultDigest_hex }

def loneWorld : World :=
  emptyWorld ["repo-1"] ⟨[⟨"task-1", "run-1"⟩], by decide⟩
    ⟨[⟨"attempt-1", "task-1", "RUNNING", none, none, none, some 1, none, 1, 1⟩], by decide⟩ ⟨[], [], [], [], [], []⟩

def startRun : Op := .onRuns (.createRun ⟨"run-1", "repo-1", "CREATED", "created", none⟩ 1)

def failAttempt (terminalClass : String) (now : Int) : Op :=
  .setAttemptResult "attempt-1" "FAILED" none (some terminalClass) none now

def projectedWorld : World :=
  Trace.run (step resultWire) loneWorld [startRun, failAttempt "budget_exhausted" 2, .project "run-1" 3]

theorem projected_again : Projects resultWire projectedWorld "run-1" 4 := by
  refine (failure_projection_stalls_iff resultWire ["repo-1"] ⟨[⟨"task-1", "run-1"⟩], by decide⟩
    ⟨[⟨"attempt-1", "task-1", "RUNNING", none, none, none, some 1, none, 1, 1⟩], by decide⟩ ⟨[], [], [], [], [], []⟩
    [startRun, failAttempt "budget_exhausted" 2, .project "run-1" 3] projectedWorld rfl "run-1"
    ⟨"run-1", "repo-1", "CREATED", "created", none, none, false, none, 1, some 1, none, none, none, false, 1⟩
    (by decide) (by decide) (by unfold CollisionFree; decide) 4).2.2 ?_
  refine ⟨fun h => h, ?_, fun h => h, trivial⟩
  rintro ⟨code, -, o, ho, -⟩
  exact absurd ho List.not_mem_nil

/-- The second result of the projected attempt stops the projection of its run. -/
theorem rewritten_attempt_stalls :
    (projectFailuresForRun resultWire "run-1" 4 projectedWorld).1 = .ok ⟨0, 1⟩ ∧
      (projectFailuresForRun resultWire "run-1" 5 (step resultWire projectedWorld (failAttempt "source_failure" 4))).1 =
        .error (.conflict "failure projection source collision has different immutable semantics") := by
  decide

end FailureProjection
end Bildr
