import Bildr.EpisodeLedger
/-!
# LivenessRecovery — stalls clear by material progress

No observation but one of material progress leads from a stalled state back to a clear one.  The reducer overwrites the
time of the last progress, so that time is the latest one recorded exactly when progress is recorded in order.
-/
namespace Bildr
namespace Control

open Trace (run run_append Along along_append)

def LivenessState.stalled (s : LivenessState) : Bool :=
  [.waitingExternal, .degraded, .suspectedStall, .confirmedStall, .ownershipUncertain, .recoveryRequired].contains s

def LivenessState.clear (s : LivenessState) : Bool := decide (s = .healthy) || decide (s = .quietActive)

def LivenessObservation.isProgress (o : LivenessObservation) : Bool := decide (o.observationKind = .materialProgress)

/-! ## States -/

theorem verdict_stalled {e : LivenessEpisode} {o : LivenessObservation} {s : LivenessState} {reasons : List String}
    (hs : e.state.stalled = true) (hp : o.isProgress = false) (h : verdict e o = some (s, reasons)) :
    s.stalled = true := by
  have hkind : o.observationKind ≠ .materialProgress := by simpa [LivenessObservation.isProgress] using hp
  have hactive : ¬ (e.state = .healthy ∨ e.state = .quietActive) := by
    rintro (h | h) <;> rw [h] at hs <;> cases hs
  unfold verdict at h
  rw [if_neg hkind] at h
  split at h
  · cases h; rfl
  split at h
  · cases h; rfl
  split at h
  · split at h
    · cases h; rfl
    · cases h; rfl
  rw [if_neg (fun hc => hactive hc.2)] at h
  cases h

theorem reduce_stalled {e : LivenessEpisode} {o : LivenessObservation} (hs : e.state.stalled = true)
    (hp : o.isProgress = false) : (reduceEpisode e o).state.stalled = true := by
  unfold reduceEpisode
  cases hv : verdict e o with
  | none => exact hs
  | some found =>
    obtain ⟨s, reasons⟩ := found
    have hst := verdict_stalled hs hp hv
    simp only
    split
    · exact hst
    · exact hst

theorem clear_of_stalled {s : LivenessState} (h : s.stalled = true) : s.clear = false := by
  cases s <;> first | rfl | cases h

/-- Since the tables `t`, progress of the episode was recorded, or it is still stalled. -/
def RecoversByProgress (t : ControlTables) (id : String) (t' : ControlTables) : Prop :=
  t.observations.rows <+: t'.observations.rows ∧
  ((∃ o ∈ t'.observations.rows, o ∉ t.observations.rows ∧ o.episodeId = id ∧ o.isProgress = true) ∨
    ∃ row, t'.episodes.get id = some row ∧ row.payload.state.stalled = true)

theorem get_rewrite {t t' : ControlTables} {id : String} {f : LivenessRow → LivenessRow} (hf : ∀ r, (f r).id = r.id)
    (hrows : t'.episodes.rows = t.episodes.rows.map (fun r => if r.id == id then f r else r)) {k : String} :
    t'.episodes.get k = (t.episodes.get k).map (fun r => if r.id == id then f r else r) := by
  have : t'.episodes = t.episodes.update (fun r => r.id == id) f hf := Table.ext_rows hrows
  rw [this, Table.get_update]

theorem RecoversByProgress.perform {w : CustodyWire} {t u : ControlTables} {id : String} (c : ControlCall)
    (h : RecoversByProgress t id u) : RecoversByProgress t id (perform w u c) := by
  obtain ⟨hpre, h⟩ := h
  rcases perform_liveness w u c with hq | ⟨e, -, ho⟩ | ⟨i, v, o, row, -, ho, -⟩ | ⟨row, r, hc⟩
  · unfold RecoversByProgress
    rw [hq.observations, hq.episodes]
    exact ⟨hpre, h⟩
  · unfold RecoversByProgress
    rw [ho.observations]
    refine ⟨hpre, h.imp_right (fun ⟨q, hq, hs⟩ => ⟨q, ?_, hs⟩)⟩
    exact Table.get_extends ⟨[rowOfEpisode e], ho.rows.symm⟩ hq
  · -- the new observation is progress of this episode, or the state stays where it was
    refine ⟨hpre.trans ⟨[o], ho.observations.symm⟩, ?_⟩
    rcases h with ⟨o', ho', hrest⟩ | ⟨q, hq, hs⟩
    · exact Or.inl ⟨o', by rw [ho.observations]; exact List.mem_append_left _ ho', hrest⟩
    · have hget := get_rewrite (t := u) (f := LivenessRow.revise (observed w.toWire row.payload o)) (fun _ => rfl)
        ho.episodes (k := id)
      by_cases hid : o.episodeId = id
      · subst hid
        obtain rfl : row = q := Option.some.inj (ho.found.symm.trans hq)
        cases hp : o.isProgress with
        | true =>
          refine Or.inl ⟨o, by rw [ho.observations]; simp, fun hin => ?_, rfl, hp⟩
          have hnew : o.observationId ∉ u.observations.rows.map LivenessObservation.observationId := by
            have hn := (Control.perform w u c).observations.nodup
            rw [ho.observations, List.map_append] at hn
            exact fun hm => (List.nodup_append.1 hn).2.2 _ hm _ (by simp) rfl
          exact hnew (List.mem_map.2 ⟨o, hpre.subset hin, rfl⟩)
        | false =>
          refine Or.inr ⟨row.revise (observed w.toWire row.payload o), ?_, reduce_stalled hs hp⟩
          rw [hget, hq, Option.map_some, if_pos (by simpa using Table.key_of_get hq)]
      · refine Or.inr ⟨q, ?_, hs⟩
        have hne : ¬ (q.id == o.episodeId) = true := by
          rw [Table.key_of_get hq]
          simpa using Ne.symm hid
        rw [hget, hq, Option.map_some, if_neg hne]
  · unfold RecoversByProgress
    rw [hc.observations]
    refine ⟨hpre, h.imp_right (fun ⟨q, hq, hs⟩ => ?_)⟩
    have hget := get_rewrite (t := u) (f := LivenessRow.count (intervened w.toWire row.payload r)) (fun _ => rfl)
      hc.episodes (k := id)
    rw [hq, Option.map_some] at hget
    by_cases hid : q.id = r.episodeId
    · obtain rfl : row = q := by
        have hqk := Table.key_of_get hq
        rw [← hqk, hid] at hq
        exact Option.some.inj (hc.found.symm.trans hq)
      rw [if_pos (by simpa using hid)] at hget
      exact ⟨_, hget, hs⟩
    · rw [if_neg (by simpa using hid)] at hget
      exact ⟨q, hget, hs⟩

theorem recovers_run (w : CustodyWire) {t : ControlTables} {id : String} : ∀ (calls : List ControlCall) {u : ControlTables},
    RecoversByProgress t id u → RecoversByProgress t id (run (perform w) u calls)
  | [], _, h => h
  | c :: calls, _, h => recovers_run w calls (h.perform c)

theorem stall_clears_by_progress (w : CustodyWire) {t : ControlTables} {id : String} {row row' : LivenessRow}
    {later : List ControlCall} (hrow : t.episodes.get id = some row) (hs : row.payload.state.stalled = true)
    (hrow' : (run (perform w) t later).episodes.get id = some row') (hclear : row'.payload.state.clear = true) :
    ∃ o ∈ (run (perform w) t later).observations.rows, o ∉ t.observations.rows ∧ o.episodeId = id ∧
      o.observationKind = .materialProgress := by
  rcases (recovers_run w later ⟨List.prefix_rfl, Or.inr ⟨row, hrow, hs⟩⟩).2 with ⟨o, ho, hnew, hid, hp⟩ | ⟨q, hq, hst⟩
  · exact ⟨o, ho, hnew, hid, by simpa [LivenessObservation.isProgress] using hp⟩
  · obtain rfl := Option.some.inj (hrow'.symm.trans hq)
    rw [clear_of_stalled hst] at hclear
    cases hclear

/-! ## The time of the last progress -/

def latest (start : Option Int) (times : List Int) : Option Int :=
  times.foldl (fun m v => some (m.elim v (max v))) start

def progressTimes (t : ControlTables) (id : String) : List Int :=
  (t.observations.rows.filter (fun o => o.episodeId == id && o.isProgress)).map LivenessObservation.observedAtMs

theorem latest_concat (start : Option Int) (times : List Int) (v : Int) :
    latest start (times ++ [v]) = some ((latest start times).elim v (max v)) := by
  unfold latest
  rw [List.foldl_append]
  rfl

/-- An observation of progress that is recorded is not earlier than the last progress. -/
def ProgressInOrder (w : CustodyWire) (t : ControlTables) (c : ControlCall) : Prop :=
  ∀ id v o row, c = .observe id v o → o.validate w.toWire = .ok () → t.episodes.get o.episodeId = some row →
    row.payload.version = v → row.payload.openedAtMs ≤ o.observedAtMs → findObservation t o = none →
    o.observationKind = .materialProgress → ∀ last ∈ row.payload.lastMaterialProgressAtMs, last ≤ o.observedAtMs

theorem reduce_progress (e : LivenessEpisode) (o : LivenessObservation) :
    (reduceEpisode e o).lastMaterialProgressAtMs =
      if o.isProgress then some o.observedAtMs else e.lastMaterialProgressAtMs := by
  by_cases hp : o.observationKind = .materialProgress
  · simp [reduceEpisode, verdict, LivenessObservation.isProgress, hp]
  · unfold reduceEpisode
    rw [show o.isProgress = false by simpa [LivenessObservation.isProgress] using hp]
    split
    · rfl
    · rw [if_neg hp]
      rfl

/-- The last progress never moves back from `last`. -/
def NotBefore (last next : Option Int) : Prop := ∀ v ∈ last, ∃ v' ∈ next, v ≤ v'

theorem NotBefore.refl (last : Option Int) : NotBefore last last := fun v hv => ⟨v, hv, le_refl v⟩

theorem NotBefore.trans {a b c : Option Int} (h : NotBefore a b) (h' : NotBefore b c) : NotBefore a c := by
  intro v hv
  obtain ⟨v', hv', hle⟩ := h v hv
  obtain ⟨v'', hv'', hle'⟩ := h' v' hv'
  exact ⟨v'', hv'', hle.trans hle'⟩

theorem progressTimes_append {t t' : ControlTables} {o : LivenessObservation}
    (h : t'.observations.rows = t.observations.rows ++ [o]) (id : String) :
    progressTimes t' id = progressTimes t id ++ if o.episodeId = id ∧ o.isProgress = true then [o.observedAtMs] else [] := by
  unfold progressTimes
  rw [h, List.filter_append, List.map_append]
  by_cases hc : o.episodeId = id ∧ o.isProgress = true
  · rw [if_pos hc, List.filter_cons_of_pos (by simp [hc.1, hc.2])]
    rfl
  · rw [if_neg hc, List.filter_cons_of_neg (by simpa using hc)]
    rfl

/-- The last progress of an episode is the latest of the recorded times and of the time it was opened with; `e` is the
episode that was opened. -/
structure Follows (t : ControlTables) (row : LivenessRow) (e : LivenessEpisode) : Prop where
  id : e.episodeId = row.id
  last : row.payload.lastMaterialProgressAtMs = latest e.lastMaterialProgressAtMs (progressTimes t row.id)

/-- **A call whose progress is in order** keeps what was opened and moves no last progress back; a row that is new was
opened by it. -/
theorem follows_perform {w : CustodyWire} {t : ControlTables} {c : ControlCall} (hl : LivenessLedger t)
    (hc : ProgressInOrder w t c) {row' : LivenessRow} (hrow' : row' ∈ (perform w t c).episodes.rows) :
    (∃ row, t.episodes.get row'.id = some row ∧ NotBefore row.payload.lastMaterialProgressAtMs
        row'.payload.lastMaterialProgressAtMs ∧ ∀ e, Follows t row e → Follows (perform w t c) row' e) ∨
    ∃ e, c = .openLiveness e ∧ Opened w.toWire t (perform w t c) e ∧ Follows (perform w t c) row' e := by
  rcases perform_liveness w t c with hq | ⟨e, rfl, ho⟩ | ⟨id, v, o, row, rfl, ho, hv⟩ | ⟨row, r, hr⟩
  · rw [hq.episodes] at hrow'
    refine Or.inl ⟨row', Table.get_of_mem hrow', NotBefore.refl _, fun e he => ⟨he.id, ?_⟩⟩
    unfold progressTimes
    rw [hq.observations]
    exact he.last
  · have htimes : ∀ k, progressTimes (perform w t (.openLiveness e)) k = progressTimes t k := fun k => by
      unfold progressTimes
      rw [ho.observations]
    rw [ho.rows] at hrow'
    rcases List.mem_append.1 hrow' with hr | hr
    · refine Or.inl ⟨row', Table.get_of_mem hr, NotBefore.refl _, fun e' he => ⟨he.id, ?_⟩⟩
      rw [htimes]
      exact he.last
    · rw [List.mem_singleton.1 hr]
      refine Or.inr ⟨e, rfl, ho, rfl, ?_⟩
      have hnone : progressTimes t e.episodeId = [] := by
        unfold progressTimes
        rw [List.map_eq_nil_iff, List.filter_eq_nil_iff]
        intro o' ho' hid
        have := (hl.none_of_fresh ho.fresh).1
        rw [observationsOf, List.countP_eq_zero] at this
        simp only [Bool.and_eq_true] at hid
        exact this o' ho' hid.1
      rw [show (rowOfEpisode e).id = e.episodeId from rfl, htimes, hnone]
      rfl
  · rw [ho.episodes] at hrow'
    rcases Table.mem_map_key ho.found hrow' with rfl | ⟨hr, hne⟩
    · have hid : row.id = o.episodeId := Table.key_of_get ho.found
      have hlast : (row.revise (observed w.toWire row.payload o)).payload.lastMaterialProgressAtMs =
          if o.isProgress then some o.observedAtMs else row.payload.lastMaterialProgressAtMs :=
        reduce_progress row.payload o
      have horder : o.isProgress = true → ∀ last ∈ row.payload.lastMaterialProgressAtMs, last ≤ o.observedAtMs :=
        fun hp => hc id v o row rfl ho.validObservation ho.found hv ho.started ho.unseen
          (by simpa [LivenessObservation.isProgress] using hp)
      refine Or.inl ⟨row, by rw [show (row.revise _).id = row.id from rfl, hid]; exact ho.found, ?_, fun e he => ⟨he.id, ?_⟩⟩
      · intro last hlastm
        rw [hlast]
        cases hp : o.isProgress with
        | true => exact ⟨o.observedAtMs, rfl, horder hp last hlastm⟩
        | false => exact ⟨last, hlastm, le_refl _⟩
      · rw [hlast, show (row.revise (observed w.toWire row.payload o)).id = row.id from rfl,
          progressTimes_append ho.observations]
        cases hp : o.isProgress with
        | true =>
          rw [if_pos rfl, if_pos ⟨hid.symm, rfl⟩, latest_concat, ← he.last]
          cases hrl : row.payload.lastMaterialProgressAtMs with
          | none => rfl
          | some last => simp [max_eq_left (horder hp last (by simp [hrl]))]
        | false =>
          rw [if_neg Bool.false_ne_true, if_neg (fun h => Bool.false_ne_true h.2), List.append_nil]
          exact he.last
    · refine Or.inl ⟨row', Table.get_of_mem hr, NotBefore.refl _, fun e he => ⟨he.id, ?_⟩⟩
      rw [progressTimes_append ho.observations, if_neg (fun h => hne h.1.symm), List.append_nil]
      exact he.last
  · have htimes : ∀ k, progressTimes (perform w t c) k = progressTimes t k := fun k => by
      unfold progressTimes
      rw [hr.observations]
    rw [hr.episodes] at hrow'
    rcases Table.mem_map_key hr.found hrow' with rfl | ⟨hm, -⟩
    · have hid : row.id = r.episodeId := Table.key_of_get hr.found
      refine Or.inl ⟨row, by rw [show (row.count _).id = row.id from rfl, hid]; exact hr.found, NotBefore.refl _,
        fun e he => ⟨he.id, ?_⟩⟩
      rw [htimes]
      exact he.last
    · refine Or.inl ⟨row', Table.get_of_mem hm, NotBefore.refl _, fun e he => ⟨he.id, ?_⟩⟩
      rw [htimes]
      exact he.last

/-! ## Histories -/

theorem isSome_perform {w : CustodyWire} {t : ControlTables} (c : ControlCall) {id : String}
    (h : (t.episodes.get id).isSome = true) : ((perform w t c).episodes.get id).isSome = true := by
  rcases perform_liveness w t c with hq | ⟨e, -, ho⟩ | ⟨i, v, o, row, -, ho, -⟩ | ⟨row, r, hr⟩
  · rw [hq.episodes]
    exact h
  · exact isSome_append ho.rows h
  · exact isSome_rewrite (f := LivenessRow.revise _) (fun _ => rfl) ho.episodes h
  · exact isSome_rewrite (f := LivenessRow.count _) (fun _ => rfl) hr.episodes h

theorem isSome_run {w : CustodyWire} {id : String} : ∀ (calls : List ControlCall) {t : ControlTables},
    (t.episodes.get id).isSome = true → ((run (perform w) t calls).episodes.get id).isSome = true
  | [], _, h => h
  | c :: calls, _, h => isSome_run calls (isSome_perform c h)

theorem livenessLedger_run (w : CustodyWire) (calls : List ControlCall) :
    LivenessLedger (run (perform w) ControlTables.empty calls) :=
  (ledgers_run w calls livenessLedger_empty reconciliationLedger_empty).1

theorem run_concat (w : CustodyWire) (t : ControlTables) (calls : List ControlCall) (c : ControlCall) :
    run (perform w) t (calls ++ [c]) = perform w (run (perform w) t calls) c := by
  rw [run_append]
  rfl

theorem follows_run (w : CustodyWire) (calls : List ControlCall) :
    Along (perform w) (ProgressInOrder w) ControlTables.empty calls →
    ∀ row ∈ (run (perform w) ControlTables.empty calls).episodes.rows, ∃ e before after,
      calls = before ++ .openLiveness e :: after ∧ Openable w.toWire (run (perform w) ControlTables.empty before) e ∧
        Follows (run (perform w) ControlTables.empty calls) row e := by
  induction calls using List.reverseRecOn with
  | nil =>
    intro _ row hrow
    cases hrow
  | append_singleton calls c ih =>
    intro h row hrow
    rw [along_append] at h
    rw [run_concat] at hrow ⊢
    rcases follows_perform (livenessLedger_run w calls) h.2.1 hrow with ⟨prior, hprior, -, hkeep⟩ | ⟨e, rfl, ho, hf⟩
    · obtain ⟨e, before, after, rfl, hopen, hf⟩ := ih h.1 prior (Table.mem_of_get hprior)
      exact ⟨e, before, after ++ [c], by simp, hopen, hkeep e hf⟩
    · exact ⟨e, calls, [], rfl, ho.toOpenable, hf⟩

theorem notBefore_run (w : CustodyWire) (before later : List ControlCall) {id : String} {row : LivenessRow}
    (hrow : (run (perform w) ControlTables.empty before).episodes.get id = some row) :
    Along (perform w) (ProgressInOrder w) ControlTables.empty (before ++ later) →
    ∀ row', (run (perform w) ControlTables.empty (before ++ later)).episodes.get id = some row' →
      NotBefore row.payload.lastMaterialProgressAtMs row'.payload.lastMaterialProgressAtMs := by
  induction later using List.reverseRecOn with
  | nil =>
    intro _ row' hrow'
    rw [List.append_nil] at hrow'
    rw [Option.some.inj (hrow.symm.trans hrow')]
    exact NotBefore.refl _
  | append_singleton later c ih =>
    intro h row' hrow'
    rw [← List.append_assoc, along_append] at h
    rw [← List.append_assoc, run_concat] at hrow'
    have hid : row'.id = id := Table.key_of_get hrow'
    rcases follows_perform (livenessLedger_run w (before ++ later)) h.2.1 (Table.mem_of_get hrow') with
      ⟨prior, hprior, hnext, -⟩ | ⟨e, rfl, ho, hf⟩
    · rw [hid] at hprior
      exact (ih h.1 prior hprior).trans hnext
    · -- an episode that is there is not opened again
      have hfresh := ho.fresh
      rw [hf.id, hid] at hfresh
      have hthere : ((run (perform w) ControlTables.empty before).episodes.get id).isSome = true := by
        rw [hrow]
        rfl
      have hsome := isSome_run (w := w) later hthere
      rw [← run_append, hfresh] at hsome
      cases hsome

/-- **Stalls clear by progress, and the last progress is the latest**, over every history that records progress in
order. -/
theorem progress_recovers (w : CustodyWire) (calls : List ControlCall)
    (horder : Along (perform w) (ProgressInOrder w) ControlTables.empty calls) :
    (∀ before later, calls = before ++ later → ∀ id row row',
      (run (perform w) ControlTables.empty before).episodes.get id = some row → row.payload.state.stalled = true →
      (run (perform w) ControlTables.empty calls).episodes.get id = some row' → row'.payload.state.clear = true →
      ∃ o ∈ (run (perform w) ControlTables.empty calls).observations.rows,
        o ∉ (run (perform w) ControlTables.empty before).observations.rows ∧ o.episodeId = id ∧
          o.observationKind = .materialProgress) ∧
    (∀ before later, calls = before ++ later → ∀ id row row',
      (run (perform w) ControlTables.empty before).episodes.get id = some row →
      (run (perform w) ControlTables.empty calls).episodes.get id = some row' →
      ∀ v ∈ row.payload.lastMaterialProgressAtMs, ∃ v' ∈ row'.payload.lastMaterialProgressAtMs, v ≤ v') ∧
    ∀ row ∈ (run (perform w) ControlTables.empty calls).episodes.rows, ∃ e before after,
      calls = before ++ .openLiveness e :: after ∧ Openable w.toWire (run (perform w) ControlTables.empty before) e ∧
      e.episodeId = row.id ∧ row.payload.lastMaterialProgressAtMs =
        latest e.lastMaterialProgressAtMs (progressTimes (run (perform w) ControlTables.empty calls) row.id) := by
  refine ⟨fun before later hs id row row' hrow hst hrow' hcl => ?_, fun before later hs id row row' hrow hrow' => ?_,
    fun row hrow => ?_⟩
  · subst hs
    rw [run_append] at hrow' ⊢
    exact stall_clears_by_progress w hrow hst hrow' hcl
  · subst hs
    exact notBefore_run w before later hrow horder row' hrow'
  · obtain ⟨e, before, after, hcalls, hopen, hf⟩ := follows_run w calls horder row hrow
    exact ⟨e, before, after, hcalls, hopen, hf.id, hf.last⟩

/-- The last progress of an episode on which two observations are recorded, in order and out of order. -/
theorem progress_recorded :
    ((run (perform progressWire) ControlTables.empty [openHealthy]).episodes.get "e").map
      (fun r => r.payload.lastMaterialProgressAtMs) = some none ∧
    ((run (perform progressWire) ControlTables.empty [openHealthy, observeEarly 1]).episodes.get "e").map
      (fun r => r.payload.lastMaterialProgressAtMs) = some (some 500) ∧
    (run (perform progressWire) ControlTables.empty [openHealthy, observeEarly 1, observeLate 2]).episodes.rows.map
      (fun r => (r.version, r.payload.lastMaterialProgressAtMs)) = [(3, some 1000)] ∧
    (run (perform progressWire) ControlTables.empty [openHealthy, observeLate 1]).episodes.rows.map
      (fun r => r.payload.lastMaterialProgressAtMs) = [some 1000] ∧
    (run (perform progressWire) ControlTables.empty [openHealthy, observeLate 1, observeEarly 2]).episodes.rows.map
      (fun r => r.payload.lastMaterialProgressAtMs) = [some 500] ∧
    progressTimes (run (perform progressWire) ControlTables.empty [openHealthy, observeLate 1, observeEarly 2]) "e" =
      [1000, 500] := by
  decide +kernel

theorem progress_recovers_in_order :
    Along (perform progressWire) (ProgressInOrder progressWire) ControlTables.empty
      [openHealthy, observeEarly 1, observeLate 2] ∧
    (run (perform progressWire) ControlTables.empty [openHealthy, observeEarly 1, observeLate 2]).episodes.rows.map
      (fun r => (r.version, r.payload.lastMaterialProgressAtMs)) = [(3, some 1000)] ∧
    ∀ row ∈ (run (perform progressWire) ControlTables.empty [openHealthy, observeEarly 1, observeLate 2]).episodes.rows,
      ∃ e before after, [openHealthy, observeEarly 1, observeLate 2] = before ++ .openLiveness e :: after ∧
        row.payload.lastMaterialProgressAtMs = latest e.lastMaterialProgressAtMs (progressTimes
          (run (perform progressWire) ControlTables.empty [openHealthy, observeEarly 1, observeLate 2]) row.id) := by
  obtain ⟨hopened, hearly, hlate, -⟩ := progress_recorded
  have horder : Along (perform progressWire) (ProgressInOrder progressWire) ControlTables.empty
      [openHealthy, observeEarly 1, observeLate 2] := by
    refine ⟨fun id v o row hc => (by cases hc), fun id v o row hc _ hrow => ?_, fun id v o row hc _ hrow => ?_, trivial⟩
    · cases hc
      have hrow : (perform progressWire ControlTables.empty openHealthy).episodes.get "e" = some row := hrow
      rw [Trace.run_cons, Trace.run_nil, hrow] at hopened
      intro _ _ _ _ last hm
      rw [show row.payload.lastMaterialProgressAtMs = _ from Option.some.inj hopened] at hm
      cases hm
    · cases hc
      have hrow : (perform progressWire (perform progressWire ControlTables.empty openHealthy) (observeEarly 1)).episodes.get "e" =
        some row := hrow
      rw [Trace.run_cons, Trace.run_cons, Trace.run_nil, hrow] at hearly
      intro _ _ _ _ last hm
      rw [show row.payload.lastMaterialProgressAtMs = _ from Option.some.inj hearly] at hm
      cases hm
      decide
  refine ⟨horder, hlate, fun row hrow => ?_⟩
  obtain ⟨e, before, after, hcalls, -, -, hlast⟩ := (progress_recovers progressWire _ horder).2.2 row hrow
  exact ⟨e, before, after, hcalls, hlast⟩

theorem progress_moves_back :
    (run (perform progressWire) ControlTables.empty [openHealthy, observeLate 1]).episodes.rows.map
      (fun r => r.payload.lastMaterialProgressAtMs) = [some 1000] ∧
    (run (perform progressWire) ControlTables.empty [openHealthy, observeLate 1, observeEarly 2]).episodes.rows.map
      (fun r => r.payload.lastMaterialProgressAtMs) = [some 500] ∧
    progressTimes (run (perform progressWire) ControlTables.empty [openHealthy, observeLate 1, observeEarly 2]) "e" =
      [1000, 500] :=
  progress_recorded.2.2.2

end Control
end Bildr
