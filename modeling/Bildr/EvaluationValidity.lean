import Bildr.EvaluationHistory
/-!
# EvaluationValidity — who sees an invalidation

A verdict rests on its two runs and on their pass/fail samples.  Each reader decides anew whether something it rests on
is invalidated: `pairedStatVerdict` asks for the verdict and the runs, a repeated `recordPairedStatVerdict` only for the
runs, `evaluationSample` for the sample and its run.
-/
namespace Bildr
namespace Eval

open Trace

def sampleTainted (t : Tables) (v : StatVerdict) : Bool :=
  t.samples.rows.any (fun s =>
    (s.evaluationRunId == v.championEvaluationRunId || s.evaluationRunId == v.challengerEvaluationRunId) &&
      passOrFail s.classification && invalidated t .evaluationSample s.id)

def runsInvalidated (t : Tables) (v : StatVerdict) : Bool :=
  invalidated t .evaluationRun v.championEvaluationRunId || invalidated t .evaluationRun v.challengerEvaluationRunId

def tainted (t : Tables) (v : StatVerdict) : Bool :=
  invalidated t .statVerdict v.id || runsInvalidated t v || sampleTainted t v

def Valid (x : Except StoreError PairedStatVerdictReceipt) : Prop := ∃ r, x = .ok r ∧ r.invalidated = false

/-- No reader returns what rests on something invalidated as valid. -/
structure FailsClosed (w : EvalWire) (t : Tables) : Prop where
  read : ∀ v ∈ t.verdicts.rows, tainted t v = true → ¬ Valid (pairedStatVerdict t v.id)
  replay : ∀ v ∈ t.verdicts.rows, tainted t v = true → ∀ i now, verdictByKey i.idempotencyKey t = some v →
    ¬ Valid (recordPairedStatVerdict w i now t).1
  sample : ∀ s ∈ t.samples.rows, sampleInvalidated t s.id s.evaluationRunId = true →
    ∀ r, evaluationSample t s.id ≠ .ok r

/-! ## Recorded verdicts -/

theorem readEvaluationRun_ok {t : Tables} {id : String} {r : EvaluationRunReceipt} (h : readEvaluationRun t id = .ok r) :
    ∃ row status, t.runs.get id = some row ∧ runStatus t id = some status ∧
      r = ⟨row.id, row.controllerRunId, row.tasksetRevisionId, row.graderBundleRevisionId, row.split, status,
        invalidated t .evaluationRun row.id⟩ := by
  unfold readEvaluationRun at h
  obtain ⟨row, hrow, h⟩ := bind_ok h
  obtain ⟨status, hstatus, h⟩ := bind_ok h
  cases h
  exact ⟨row, status, okOr_ok hrow, okOr_ok hstatus, rfl⟩

theorem readEvaluationRun_eq {t : Tables} {id : String} {row : EvaluationRun} {status : EvaluationRunStatus}
    (hrow : t.runs.get id = some row) (hstatus : runStatus t id = some status) :
    readEvaluationRun t id = .ok ⟨row.id, row.controllerRunId, row.tasksetRevisionId, row.graderBundleRevisionId,
      row.split, status, invalidated t .evaluationRun row.id⟩ := by
  simp only [readEvaluationRun, hrow, hstatus, okOr, ok_bind, pure_ok]

/-- The two runs are of one taskset, grader and split, completed, and each sampled for its arm. -/
structure Comparable (t : Tables) (champion challenger : String) : Prop where
  runs : ∃ a b, t.runs.get champion = some a ∧ t.runs.get challenger = some b ∧ a.split = b.split ∧
    a.tasksetRevisionId = b.tasksetRevisionId ∧ a.graderBundleRevisionId = b.graderBundleRevisionId
  completed : runStatus t champion = some .completed ∧ runStatus t challenger = some .completed
  sampled : armSampled t champion .champion = true ∧ armSampled t challenger .challenger = true

theorem Comparable.later {t t' : Tables} (h : Later t t') {x y : String} (hc : Comparable t x y) : Comparable t' x y := by
  obtain ⟨⟨a, b, ha, hb, hab⟩, ⟨hx, hy⟩, hsx, hsy⟩ := hc
  refine ⟨⟨a, b, Table.get_extends h.grows.runs ha, Table.get_extends h.grows.runs hb, hab⟩, ⟨?_, ?_⟩, ?_, ?_⟩
  · exact h.settled x .completed hx (by decide)
  · exact h.settled y .completed hy (by decide)
  · exact any_longer h.grows.samples hsx
  · exact any_longer h.grows.samples hsy

theorem checkPair_ok {t : Tables} {x y : String} {u : Unit} (h : checkPair x y t = .ok u) :
    Comparable t x y ∧ invalidated t .evaluationRun x = false ∧ invalidated t .evaluationRun y = false := by
  unfold checkPair at h
  obtain ⟨a, ha, h⟩ := bind_ok h
  obtain ⟨b, hb, h⟩ := bind_ok h
  obtain ⟨_, hsame, h⟩ := bind_ok h
  obtain ⟨sx, hsx, h⟩ := bind_ok h
  obtain ⟨sy, hsy, h⟩ := bind_ok h
  obtain ⟨_, hdone, h⟩ := bind_ok h
  have hsame := ensure_ok hsame
  have hdone := ensure_ok hdone
  have hsampled := ensure_ok h
  obtain ⟨ra, sa, hra, -, rfl⟩ := readEvaluationRun_ok ha
  obtain ⟨rb, sb, hrb, -, rfl⟩ := readEvaluationRun_ok hb
  simp only [Bool.and_eq_true, Bool.not_eq_true', decide_eq_true_eq, beq_iff_eq] at hsame hdone hsampled
  obtain ⟨⟨⟨⟨hxa, hyb⟩, hsplit⟩, htask⟩, hgrader⟩ := hsame
  obtain ⟨rfl, rfl⟩ := hdone
  have hida : ra.id = x := Table.key_of_get hra
  have hidb : rb.id = y := Table.key_of_get hrb
  rw [hida] at hxa
  rw [hidb] at hyb
  exact ⟨⟨⟨ra, rb, hra, hrb, hsplit, htask, hgrader⟩, ⟨okOr_ok hsx, okOr_ok hsy⟩, hsampled⟩, hxa, hyb⟩

theorem Comparable.checkPair {t : Tables} {x y : String} (h : Comparable t x y)
    (hx : invalidated t .evaluationRun x = false) (hy : invalidated t .evaluationRun y = false) :
    checkPair x y t = .ok () := by
  obtain ⟨⟨a, b, ha, hb, hsplit, htask, hgrader⟩, ⟨hsx, hsy⟩, hpx, hpy⟩ := h
  have hida : a.id = x := Table.key_of_get ha
  have hidb : b.id = y := Table.key_of_get hb
  simp only [Eval.checkPair, readEvaluationRun_eq ha hsx, readEvaluationRun_eq hb hsy, hida, hidb, hx, hy, hsplit, htask,
    hgrader, evaluationRunStatus, hsx, hsy, hpx, hpy, okOr, ok_bind, Bool.not_false, Bool.and_self, decide_true,
    beq_self_eq_true, ensure_true]

theorem checkVerdict_ok {i : NewPairedStatVerdict} {t : Tables} {u : Unit} (h : checkVerdict i t = .ok u) :
    checkPair i.championEvaluationRunId i.challengerEvaluationRunId t = .ok () ∧
      ∀ t', checkPair i.championEvaluationRunId i.challengerEvaluationRunId t' = .ok () → checkVerdict i t' = .ok () := by
  unfold checkVerdict at h
  obtain ⟨_, h1, h⟩ := bind_ok h
  obtain ⟨_, h2, h⟩ := bind_ok h
  obtain ⟨_, h3, h⟩ := bind_ok h
  obtain ⟨_, h4, h⟩ := bind_ok h
  refine ⟨h4, fun t' h4' => ?_⟩
  unfold checkVerdict
  rw [h1, ok_bind, h2, ok_bind, h3, ok_bind, h4', ok_bind]
  exact h

theorem describes_verdictRow (w : EvalWire) (i : NewPairedStatVerdict) (now : Int) :
    i.describes w (i.row w now) = true := by
  simp [NewPairedStatVerdict.describes, NewPairedStatVerdict.row]

/-- Verdicts have keys of their own, and each was recorded for runs that are still comparable. -/
structure VerdictInv (w : EvalWire) (t : Tables) : Prop where
  keys : (t.verdicts.rows.map StatVerdict.idempotencyKey).Nodup
  recorded : ∀ v ∈ t.verdicts.rows, ∃ i now, v = NewPairedStatVerdict.row w i now ∧
    Comparable t i.championEvaluationRunId i.challengerEvaluationRunId ∧
    ∀ t', checkPair i.championEvaluationRunId i.challengerEvaluationRunId t' = .ok () → checkVerdict i t' = .ok ()

theorem VerdictInv.later {w : EvalWire} {t t' : Tables} (h : VerdictInv w t) (hl : Later t t')
    (hv : t'.verdicts.rows = t.verdicts.rows) : VerdictInv w t' := by
  refine ⟨by rw [hv]; exact h.keys, fun v hmem => ?_⟩
  rw [hv] at hmem
  obtain ⟨i, now, hrow, hcomp, hcheck⟩ := h.recorded v hmem
  exact ⟨i, now, hrow, hcomp.later hl, hcheck⟩

theorem Change.verdictInv {w : EvalWire} {t t' : Tables} (h : Change w t t') (hi : StatusInv t) (hv : VerdictInv w t) :
    VerdictInv w t' := by
  have hl := h.later hi
  cases h with
  | verdict hc hk hins =>
    rename_i i now u
    obtain ⟨-, hrows⟩ := Table.insert_some hins
    refine ⟨?_, fun v hmem => ?_⟩
    · change (u.rows.map StatVerdict.idempotencyKey).Nodup
      rw [hrows, List.map_append, List.nodup_append']
      refine ⟨hv.keys, List.nodup_singleton _, ?_⟩
      -- no verdict has the new key
      rw [List.map_singleton, List.disjoint_singleton]
      intro hmem
      obtain ⟨v, hv, hkey⟩ := List.mem_map.1 hmem
      exact absurd (List.find?_eq_none.1 hk v hv) (by simp [hkey, NewPairedStatVerdict.row])
    · rcases (Table.mem_insert hins).1 hmem with hmem | rfl
      · obtain ⟨j, at', hrow, hcomp, hcheck⟩ := hv.recorded v hmem
        exact ⟨j, at', hrow, hcomp.later hl, hcheck⟩
      · obtain ⟨hpair, hcheck⟩ := checkVerdict_ok hc
        exact ⟨i, now, rfl, (checkPair_ok hpair).1.later hl, hcheck⟩
  | _ => exact hv.later hl rfl

theorem run_verdictInv (w : EvalWire) : ∀ (ops : List Op) {t : Tables}, StatusInv t → VerdictInv w t →
    VerdictInv w (run (step w) t ops)
  | [], _, _, hv => hv
  | o :: ops, t, hi, hv =>
    have hc := step_change w t o
    run_verdictInv w ops (hc.statusInv hi) (hc.verdictInv hi hv)

/-! ## Readers -/

theorem VerdictInv.byKey {w : EvalWire} {t : Tables} (h : VerdictInv w t) {v : StatVerdict} (hv : v ∈ t.verdicts.rows) :
    verdictByKey v.idempotencyKey t = some v := by
  unfold verdictByKey
  cases hf : t.verdicts.rows.find? (fun q => q.idempotencyKey == v.idempotencyKey) with
  | none => exact absurd (List.find?_eq_none.1 hf v hv) (by simp)
  | some q =>
    have hkey : q.idempotencyKey = v.idempotencyKey := by simpa using List.find?_some hf
    rw [List.inj_on_of_nodup_map h.keys (List.mem_of_find?_eq_some hf) hv hkey]

/-- **A recorded verdict is returned as valid when it is recorded again, unless one of its runs is invalidated.** -/
theorem VerdictInv.replayed {w : EvalWire} {t : Tables} (h : VerdictInv w t) {v : StatVerdict}
    (hv : v ∈ t.verdicts.rows) (hruns : runsInvalidated t v = false) (now : Int) :
    ∃ i, verdictByKey i.idempotencyKey t = some v ∧ recordPairedStatVerdict w i now t = (.ok ⟨v.id, false⟩, t) := by
  obtain ⟨i, at', rfl, hcomp, hcheck⟩ := h.recorded v hv
  simp only [runsInvalidated, Bool.or_eq_false_iff] at hruns
  have hbyKey : verdictByKey i.idempotencyKey t = some (i.row w at') := h.byKey hv
  have hc := hcheck t (hcomp.checkPair hruns.1 hruns.2)
  have ha : answerVerdict w i (i.row w at') = .ok ⟨i.id, false⟩ := by
    rw [answerVerdict, describes_verdictRow]
    rfl
  exact ⟨i, hbyKey, keyed_repeat hc hbyKey ha⟩

theorem pairedStatVerdict_invalidated {t : Tables} {v : StatVerdict} (hv : v ∈ t.verdicts.rows)
    (hruns : runsInvalidated t v = true) : ¬ Valid (pairedStatVerdict t v.id) := by
  rintro ⟨r, hr, -⟩
  unfold pairedStatVerdict at hr
  obtain ⟨_, -, hr⟩ := bind_ok hr
  obtain ⟨q, hq, hr⟩ := bind_ok hr
  obtain ⟨_, hvalid, -⟩ := bind_ok hr
  obtain rfl : q = v := Option.some.inj ((okOr_ok hq).symm.trans (Table.get_of_mem hv))
  have hvalid := ensure_ok hvalid
  rw [Bool.or_assoc] at hvalid
  unfold runsInvalidated at hruns
  rw [hruns, Bool.or_true] at hvalid
  cases hvalid

theorem recordPairedStatVerdict_invalidated {w : EvalWire} {i : NewPairedStatVerdict} {now : Int} {t : Tables}
    {v : StatVerdict} (hkey : verdictByKey i.idempotencyKey t = some v) (hruns : runsInvalidated t v = true) :
    ¬ Valid (recordPairedStatVerdict w i now t).1 := by
  rintro ⟨r, hr, -⟩
  obtain ⟨c, hc, ⟨q, hq, ha, -⟩ | ⟨hnone, -⟩⟩ := keyed_ok hr
  · obtain rfl : q = v := Option.some.inj (hq.symm.trans hkey)
    obtain ⟨_, hd, -⟩ := bind_ok ha
    have hd := ensure_ok hd
    simp only [NewPairedStatVerdict.describes, Bool.and_eq_true, beq_iff_eq] at hd
    obtain ⟨⟨⟨⟨⟨⟨⟨⟨⟨⟨-, hx⟩, hy⟩, -⟩, -⟩, -⟩, -⟩, -⟩, -⟩, -⟩, -⟩ := hd
    obtain ⟨-, hvx, hvy⟩ := checkPair_ok (checkVerdict_ok hc).1
    simp only [runsInvalidated, hx, hy, hvx, hvy, Bool.or_self] at hruns
    cases hruns
  · rw [hkey] at hnone
    cases hnone

theorem readEvaluationSample_ok {t : Tables} {id : String} {r : EvaluationSampleReceipt}
    (h : readEvaluationSample t id = .ok r) : ∃ s, t.samples.get id = some s ∧ 0 < s.seed ∧
      r = ⟨s.id, s.evaluationRunId, s.controllerEvidenceId, s.graderEvidenceId, s.evalCaseRevisionId, s.arm, s.seed,
        s.classification, s.sampleDigest, sampleInvalidated t s.id s.evaluationRunId⟩ := by
  unfold readEvaluationSample at h
  obtain ⟨s, hs, h⟩ := bind_ok h
  obtain ⟨_, hseed, h⟩ := bind_ok h
  cases h
  exact ⟨s, okOr_ok hs, by simpa using ensure_ok hseed, rfl⟩

theorem evaluationSample_invalidated {t : Tables} {s : EvaluationSample} (hs : s ∈ t.samples.rows)
    (hi : sampleInvalidated t s.id s.evaluationRunId = true) (r : EvaluationSampleReceipt) :
    evaluationSample t s.id ≠ .ok r := by
  intro hr
  unfold evaluationSample at hr
  obtain ⟨_, -, hr⟩ := bind_ok hr
  obtain ⟨receipt, hread, hr⟩ := bind_ok hr
  obtain ⟨_, hvalid, -⟩ := bind_ok hr
  have hvalid := ensure_ok hvalid
  obtain ⟨q, hq, -, rfl⟩ := readEvaluationSample_ok hread
  obtain rfl : q = s := Option.some.inj (hq.symm.trans (Table.get_of_mem hs))
  simp only [hi, Bool.not_true] at hvalid
  cases hvalid

/-- **When invalidations reach every reader**: in every state reached, exactly if each verdict that is invalidated, or
rests on an invalidated sample, has a run that is invalidated. -/
theorem invalidations_reach_readers (w : EvalWire) (runs : List ControllerRun) (evidence : Evidence)
    (ledger : Improvement.Tables) (ops : List Op) :
    let t := run (step w) (emptyRecords runs evidence ledger) ops
    FailsClosed w t ↔ ∀ v ∈ t.verdicts.rows,
      (invalidated t .statVerdict v.id || sampleTainted t v) = true → runsInvalidated t v = true := by
  intro t
  have hinv : VerdictInv w t := run_verdictInv w ops (emptyRecords_statusInv runs evidence ledger)
    ⟨List.nodup_nil, fun _ hv => absurd hv List.not_mem_nil⟩
  refine ⟨fun h v hv htaint => ?_, fun h => ?_⟩
  · by_contra hruns
    have hruns := Bool.eq_false_iff.2 hruns
    obtain ⟨i, hkey, hcall⟩ := hinv.replayed hv hruns 0
    refine h.replay v hv ?_ i 0 hkey ⟨_, congrArg Prod.fst hcall, rfl⟩
    unfold tainted
    rw [hruns, Bool.or_false]
    exact htaint
  · have hruns : ∀ v ∈ t.verdicts.rows, tainted t v = true → runsInvalidated t v = true := by
      intro v hv htaint
      cases hr : runsInvalidated t v with
      | true => rfl
      | false =>
        unfold tainted at htaint
        rw [hr, Bool.or_false] at htaint
        exact hr.symm.trans (h v hv htaint)
    refine ⟨fun v hv htaint => ?_, fun v hv htaint i now hkey => ?_, fun s hs hi => ?_⟩
    · exact pairedStatVerdict_invalidated hv (hruns v hv htaint)
    · exact recordPairedStatVerdict_invalidated hkey (hruns v hv htaint)
    · exact evaluationSample_invalidated hs hi

end Eval
end Bildr
