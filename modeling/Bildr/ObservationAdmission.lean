import Bildr.EpisodeLedger
import Bildr.LinkLedger
/-!
# ObservationAdmission — which observations an episode takes

An observation of material progress clears the review of its episode.  Any other one schedules a review from its own time
or leaves the review there is, while the episode's time only moves forward: an episode whose review would lie before its
time does not pass its checks, and the observation is refused.  `observation_accepted_iff` says when that happens.
-/
namespace Bildr
namespace Control

open Improvement (isSafeOperatorControlIdentifier)
open Trace (run)

/-! ## Episodes that pass their checks -/

theorem validate_episode_iff {w : Wire} {e : LivenessEpisode} :
    e.validate w = .ok () ↔
      e.schema = "harness.liveness-episode.v1" ∧ validateIdentifier e.episodeId "liveness episode id" = .ok () ∧
      validateOptional e.runId "liveness episode run id" = .ok () ∧
      validateOptional e.taskId "liveness episode task id" = .ok () ∧
      validateOptional e.attemptId "liveness episode attempt id" = .ok () ∧
      validateOptional e.outcome "liveness episode outcome" = .ok () ∧
      (e.version ≠ 0 ∧ 0 ≤ e.openedAtMs ∧ e.openedAtMs ≤ e.updatedAtMs) ∧
      (∀ v ∈ e.lastMaterialProgressAtMs, e.openedAtMs ≤ v ∧ v ≤ e.updatedAtMs) ∧
      (∀ v ∈ e.nextReviewAtMs, e.updatedAtMs ≤ v) ∧
      validateBoundedTexts e.stateReasonCodes "liveness state reason codes" 32 160 = .ok () ∧
      (w.digestJson e.unsigned).hex = e.sha256 := by
  unfold LivenessEpisode.validate
  rw [ensure_bind_ok, bind_unit_ok, bind_unit_ok, bind_unit_ok, bind_unit_ok, bind_unit_ok, ensure_bind_ok,
    ensure_bind_ok, ensure_bind_ok, bind_unit_ok, validateDigest_ok]
  simp only [beq_iff_eq, Bool.and_eq_true, Bool.not_eq_true', beq_eq_false_iff_ne, decide_eq_true_eq, Option.all_eq_true,
    and_assoc, Option.mem_def]

theorem review_reduce (e : LivenessEpisode) (o : LivenessObservation) :
    (reduceEpisode e o).nextReviewAtMs =
      if o.observationKind = .materialProgress then none
      else if (verdict e o).isSome then some (reviewAt o.observedAtMs) else e.nextReviewAtMs := by
  unfold reduceEpisode
  by_cases hp : o.observationKind = .materialProgress
  · rw [if_pos hp]
    simp [verdict, hp]
  · rw [if_neg hp]
    cases hv : verdict e o with
    | none => rfl
    | some found => simp [hp]

theorem progress_reduce (e : LivenessEpisode) (o : LivenessObservation) :
    (reduceEpisode e o).lastMaterialProgressAtMs = e.lastMaterialProgressAtMs ∨
      (reduceEpisode e o).lastMaterialProgressAtMs = some o.observedAtMs := by
  unfold reduceEpisode
  split
  · exact Or.inl rfl
  · split
    · exact Or.inr rfl
    · exact Or.inl rfl

theorem reasons_reduce (e : LivenessEpisode) (o : LivenessObservation) :
    (reduceEpisode e o).stateReasonCodes = e.stateReasonCodes ∨
      validateBoundedTexts (reduceEpisode e o).stateReasonCodes "liveness state reason codes" 32 160 = .ok () := by
  unfold reduceEpisode
  cases hv : verdict e o with
  | none => exact Or.inl rfl
  | some found =>
    obtain ⟨state, reasons⟩ := found
    have hreasons : validateBoundedTexts reasons "liveness state reason codes" 32 160 = .ok () := by
      unfold verdict at hv
      split at hv
      · cases hv; decide
      split at hv
      · cases hv; decide
      split at hv
      · cases hv; decide
      split at hv
      · split at hv
        · cases hv; decide
        · cases hv; decide
      split at hv
      · cases hv; decide
      · cases hv
    right
    simp only
    split
    · exact hreasons
    · exact hreasons

/-- The observation leaves a review that does not lie before the episode's time. -/
def OnTime (e : LivenessEpisode) (o : LivenessObservation) : Prop :=
  o.observationKind = .materialProgress ∨
  ((verdict e o).isSome = true ∧ e.updatedAtMs ≤ o.observedAtMs + observeReviewDelayMs) ∨
  (verdict e o = none ∧ ∀ review ∈ e.nextReviewAtMs, o.observedAtMs ≤ review)

theorem review_onTime {e : LivenessEpisode} {o : LivenessObservation} (he : ∀ v ∈ e.nextReviewAtMs, e.updatedAtMs ≤ v)
    (hend : o.observedAtMs ≤ i64Max - observeReviewDelayMs) :
    (∀ v ∈ (reduceEpisode e o).nextReviewAtMs, max o.observedAtMs e.updatedAtMs ≤ v) ↔ OnTime e o := by
  have hreview : reviewAt o.observedAtMs = o.observedAtMs + observeReviewDelayMs := by
    unfold reviewAt
    rw [if_pos (by omega)]
  have hdelay : observeReviewDelayMs = 300000 := rfl
  rw [review_reduce]
  unfold OnTime
  by_cases hp : o.observationKind = .materialProgress
  · simp [hp]
  · rw [if_neg hp]
    cases hv : verdict e o with
    | some found =>
      simp only [hp, Option.isSome_some, if_true, Option.mem_def, Option.some.injEq, hreview, forall_eq', max_le_iff,
        false_or, true_and, reduceCtorEq, false_and, or_false]
      omega
    | none =>
      simp only [hp, Option.isSome_none, Bool.false_eq_true, if_false, false_or, false_and, true_and, max_le_iff]
      exact ⟨fun h v hv => (h v hv).1, fun h v hv => ⟨h v hv, he v hv⟩⟩

/-- **The next episode passes its checks exactly if the observation is on time.** -/
theorem observed_valid_iff {w : Wire} {e : LivenessEpisode} {o : LivenessObservation} (he : e.validate w = .ok ())
    (hstart : e.openedAtMs ≤ o.observedAtMs) (hend : o.observedAtMs ≤ i64Max - observeReviewDelayMs) :
    (observed w e o).validate w = .ok () ↔ OnTime e o := by
  obtain ⟨hschema, hid, hrun, htask, hattempt, houtcome, ⟨-, hzero, hmono⟩, hlast, hreview, hreasons, -⟩ :=
    validate_episode_iff.1 he
  obtain ⟨fid, fattempt, fopened, -, -, fschema, frun, ftask, foutcome⟩ := reduceEpisode_frame e o
  rw [← review_onTime hreview hend, validate_episode_iff]
  constructor
  · exact fun h => h.2.2.2.2.2.2.2.2.1
  · intro hnext
    refine ⟨fschema.trans hschema, ?_, ?_, ?_, ?_, ?_, ⟨Nat.succ_ne_zero _, ?_, ?_⟩, ?_, hnext, ?_, rfl⟩
    · show validateIdentifier (reduceEpisode e o).episodeId _ = _
      rw [fid, hid]
    · show validateOptional (reduceEpisode e o).runId _ = _
      rw [frun, hrun]
    · show validateOptional (reduceEpisode e o).taskId _ = _
      rw [ftask, htask]
    · show validateOptional (reduceEpisode e o).attemptId _ = _
      rw [fattempt, hattempt]
    · show validateOptional (reduceEpisode e o).outcome _ = _
      rw [foutcome, houtcome]
    · show 0 ≤ (reduceEpisode e o).openedAtMs
      rw [fopened]
      exact hzero
    · show (reduceEpisode e o).openedAtMs ≤ max o.observedAtMs e.updatedAtMs
      rw [fopened]
      omega
    · intro v hv
      show (reduceEpisode e o).openedAtMs ≤ v ∧ v ≤ max o.observedAtMs e.updatedAtMs
      rw [fopened]
      change v ∈ (reduceEpisode e o).lastMaterialProgressAtMs at hv
      rcases progress_reduce e o with h | h
      · rw [h] at hv
        have := hlast v hv
        omega
      · rw [h] at hv
        cases hv
        omega
    · show validateBoundedTexts (reduceEpisode e o).stateReasonCodes _ _ _ = _
      rcases reasons_reduce e o with h | h
      · rw [h, hreasons]
      · exact h

def ValidEpisodes (w : Wire) (t : ControlTables) : Prop := ∀ r ∈ t.episodes.rows, r.payload.validate w = .ok ()

theorem ValidEpisodes.perform {w : CustodyWire} {t : ControlTables} (c : ControlCall) (h : ValidEpisodes w.toWire t) :
    ValidEpisodes w.toWire (perform w t c) := by
  intro r hr
  rcases perform_liveness w t c with hq | ⟨e, -, ho⟩ | ⟨id, v, o, row, -, ho, -⟩ | ⟨row, q, hc⟩
  · exact h r (hq.episodes ▸ hr)
  · rw [ho.rows] at hr
    rcases List.mem_append.1 hr with hr | hr
    · exact h r hr
    · rw [List.mem_singleton.1 hr]
      exact ho.valid
  · rw [ho.episodes] at hr
    rcases Table.mem_map_key ho.found hr with rfl | ⟨hr, -⟩
    · exact ho.next
    · exact h r hr
  · rw [hc.episodes] at hr
    rcases Table.mem_map_key hc.found hr with rfl | ⟨hr, -⟩
    · exact hc.next
    · exact h r hr

theorem validEpisodes_run {w : CustodyWire} : ∀ (calls : List ControlCall) {t : ControlTables}, ValidEpisodes w.toWire t →
    ValidEpisodes w.toWire (run (perform w) t calls)
  | [], _, h => h
  | c :: calls, _, h => validEpisodes_run calls (h.perform c)

/-! ## Links of observations -/

def observationTrace (w : Wire) (episodeId : String) : String :=
  (w.sha256 ("harness.liveness-observation.trace.v1:" ++ episodeId)).take 32

def observationLink (w : Wire) (o : LivenessObservation) : CorrelationLink :=
  ⟨"harness.correlation-link.v1",
    "correlation-" ++ (w.sha256 ("harness.liveness-observation.link.v1:" ++ o.observationId)).take 48,
    ⟨observationTrace w o.episodeId, (w.sha256 ("harness.liveness-observation.span.v1:" ++ o.observationId)).take 16, none⟩,
    "liveness_episode", o.episodeId, "liveness_observation", o.observationId, "has_observation", o.observedAtMs⟩

theorem observationLink_eq (w : Wire) (o : LivenessObservation) :
    livenessObservationCorrelationLink w o = .ok (observationLink w o) := derivedLink_eq w _ _ _ _ _ _ _ _ _

/-- The digests of the observation's trace and span are not zero, and no link has the id of its link. -/
def Linkable (w : Wire) (links : Links) (o : LivenessObservation) : Prop :=
  allZero (observationTrace w o.episodeId) = false ∧
  allZero ((w.sha256 ("harness.liveness-observation.span.v1:" ++ o.observationId)).take 16) = false ∧
  links.get ("correlation-" ++ (w.sha256 ("harness.liveness-observation.link.v1:" ++ o.observationId)).take 48) = none

theorem validate_observation_ids {w : Wire} {o : LivenessObservation} (h : o.validate w = .ok ()) :
    isSafeOperatorControlIdentifier o.episodeId = true ∧ isSafeOperatorControlIdentifier o.observationId = true := by
  unfold LivenessObservation.validate at h
  obtain ⟨-, h⟩ := ensure_bind_ok.1 h
  obtain ⟨hid, h⟩ := bind_unit_ok.1 h
  obtain ⟨hepisode, -⟩ := bind_unit_ok.1 h
  exact ⟨validateIdentifier_ok.1 hepisode, validateIdentifier_ok.1 hid⟩

theorem stored_of_causality {w : Wire} {t : ControlTables} {l : CorrelationLink} {o : LivenessObservation}
    (hg : Grounded w t l) (hrel : l.relation = "has_observation") (hto : l.target = (observationLink w o).target)
    (htrace : l.trace.traceId = observationTrace w o.episodeId) : ∃ q ∈ t.observations.rows, q.observationId = o.observationId := by
  cases hg with
  | observation q hq h =>
    refine ⟨q, hq, ?_⟩
    rw [observationLink_eq] at h
    cases h
    have hnode : node (observationTrace w q.episodeId) "liveness_observation" q.observationId =
        node (observationTrace w o.episodeId) "liveness_observation" o.observationId := hto
    rw [show observationTrace w q.episodeId = observationTrace w o.episodeId from htrace] at hnode
    exact String.append_right_inj _ |>.1 hnode
  | receipt r _ h => exact absurd ((relation_derived h).symm.trans hrel) (by decide)
  | opening e h => exact absurd ((relation_derived h).symm.trans hrel) (by decide)
  | finding f _ h => exact absurd ((relation_derived h).symm.trans hrel) (by decide)
  | action a _ h => exact absurd ((relation_derived h).symm.trans hrel) (by decide)
  | proof p h => exact absurd ((relation_derived h).symm.trans hrel) (by decide)

theorem observationsOf_le_links {w : Wire} {elsewhere : CorrelationLink → Prop} {t : ControlTables}
    (h : LinkLedger w elsewhere t) (id : String) :
    observationsOf t id ≤ (linksOf t.links (observationTrace w id)).length := by
  have hnodup : ((t.observations.rows.filter (fun o => o.episodeId == id)).map LivenessObservation.observationId).Nodup :=
    t.observations.nodup.sublist ((List.filter_sublist).map _)
  have hsub : (t.observations.rows.filter (fun o => o.episodeId == id)).map LivenessObservation.observationId ⊆
      (linksOf t.links (observationTrace w id)).map CorrelationLink.toId := by
    intro k hk
    obtain ⟨o, ho, rfl⟩ := List.mem_map.1 hk
    obtain ⟨ho, hid⟩ := List.mem_filter.1 ho
    obtain ⟨l, hl, hlink⟩ := h.observed o ho
    rw [observationLink_eq] at hlink
    cases hlink
    refine List.mem_map.2 ⟨observationLink w o, List.mem_filter.2 ⟨hl, ?_⟩, rfl⟩
    rw [← show o.episodeId = id by simpa using hid]
    exact beq_self_eq_true _
  have hle := (List.subperm_of_subset hnodup hsub).length_le
  rw [List.length_map, List.length_map] at hle
  rw [observationsOf, List.countP_eq_length_filter]
  exact hle

/-! ## The call -/

def Unrecorded (t : ControlTables) (o : LivenessObservation) : Prop :=
  ∀ q ∈ t.observations.rows, q.observationId ≠ o.observationId ∧
    ¬ (q.episodeId = o.episodeId ∧ q.observationKind = o.observationKind ∧ q.sourceEventId = o.sourceEventId)

theorem find_unrecorded {t : ControlTables} {o : LivenessObservation} (h : Unrecorded t o) : findObservation t o = none := by
  refine List.find?_eq_none.2 (fun q hq hsame => (h q hq).2 ?_)
  simpa [and_assoc] using hsame

theorem observeEpisode_isOk {w : Wire} {t : ControlTables} {o : LivenessObservation} {row : LivenessRow}
    (hrow : t.episodes.get o.episodeId = some row) (hvalid : row.payload.validate w = .ok ())
    (hcolumn : row.version = row.payload.version) (hlive : row.payload.state ≠ .terminal)
    (hstart : row.payload.openedAtMs ≤ o.observedAtMs) (hfits : (row.payload.version : Int) + 1 ≤ i64Max)
    (hnext : (observed w row.payload o).validate w = .ok ()) (hnew : Unrecorded t o) :
    ∃ t', observeEpisode w o row.payload.version t = .ok (observed w row.payload o, t') ∧ t'.links = t.links ∧
      t'.episodes.get o.episodeId = some (row.revise (observed w row.payload o)) := by
  have hi64 : i64Max = 9223372036854775807 := rfl
  have hu64 : Usage.u64Max = 18446744073709551615 := rfl
  have hread : readEpisode w row = .ok row.payload := readEpisode_ok.2 ⟨hvalid, rfl⟩
  have hversion : toI64 row.payload.version "liveness episode version" = .ok (row.payload.version : Int) :=
    toI64_ok.2 ⟨by simp only [fitsI64, decide_eq_true_eq]; omega, rfl⟩
  have hnextVersion : toI64 (observed w row.payload o).version "liveness episode version" =
      .ok ((row.payload.version + 1 : Nat) : Int) :=
    toI64_ok.2 ⟨by simp only [fitsI64, decide_eq_true_eq]; exact_mod_cast hfits, rfl⟩
  have hcas : casEpisode t o.episodeId row.payload.version (LivenessRow.revise (observed w row.payload o)) (fun _ => rfl)
      ("liveness episode " ++ o.episodeId ++ " changed during observation reduction") =
      .ok { t with
        episodes := t.episodes.update (fun r => r.id == o.episodeId) (LivenessRow.revise (observed w row.payload o))
          (fun _ => rfl) } := by
    refine casEpisode_ok.2 ⟨?_, rfl⟩
    rw [hrow]
    simpa using hcolumn
  obtain ⟨observations, hinsert⟩ := insertRow_isOk (t := t.observations) (r := o) (fun hm => by
    obtain ⟨q, hq, he⟩ := List.mem_map.1 hm
    exact (hnew q hq).1 he)
  refine ⟨{ t with
    episodes := t.episodes.update (fun r => r.id == o.episodeId) (LivenessRow.revise (observed w row.payload o))
      (fun _ => rfl)
    observations := observations }, ?_, rfl, ?_⟩
  · unfold observeEpisode
    rw [hrow]
    simp only [okOr, ok_bind, hread, hversion, beq_self_eq_true, ensure_true, hlive, decide_false, Bool.not_false,
      hstart, decide_true, show row.payload.version < Usage.u64Max by omega, hnext, hnextVersion, hcas]
    rw [show findObservation { t with
        episodes := t.episodes.update (fun r => r.id == o.episodeId) (LivenessRow.revise (observed w row.payload o))
          (fun _ => rfl) } o = none from find_unrecorded hnew]
    simp only [Option.isNone_none, require, ensure_true, ok_bind, hinsert]
    rfl
  · refine (Table.get_update t.episodes _ (LivenessRow.revise (observed w row.payload o)) (fun _ => rfl) _).trans ?_
    rw [hrow, Option.map_some, if_pos (by simpa using Table.key_of_get hrow)]

/-- **An observation is taken exactly if it is on time**, and its link can be written: in every state that calls reach,
for every live episode and every observation of it that passes its checks, lies in the episode's time and was not recorded
before. -/
theorem observation_accepted_iff (w : CustodyWire) (calls : List ControlCall) (o : LivenessObservation) (row : LivenessRow)
    (helsewhere : ∀ l, .link l ∈ calls → l.trace.traceId ≠ observationTrace w.toWire o.episodeId)
    (hrow : (run (perform w) ControlTables.empty calls).episodes.get o.episodeId = some row)
    (hlive : row.payload.state ≠ .terminal) (hvalid : o.validate w.toWire = .ok ())
    (hstart : row.payload.openedAtMs ≤ o.observedAtMs) (hend : o.observedAtMs ≤ i64Max - observeReviewDelayMs)
    (hnew : Unrecorded (run (perform w) ControlTables.empty calls) o)
    (hroom : (linksOf (run (perform w) ControlTables.empty calls).links
      (observationTrace w.toWire o.episodeId)).length < 8192) :
    (∃ e t', recordLivenessObservation w.toWire o.episodeId row.payload.version o
        (run (perform w) ControlTables.empty calls) = (.ok e, t') ∧
      e.validate w.toWire = .ok () ∧ (t'.episodes.get o.episodeId).map LivenessRow.payload = some e) ↔
    OnTime row.payload o ∧ Linkable w.toWire (run (perform w) ControlTables.empty calls).links o := by
  have hledger := (ledgers_run w calls livenessLedger_empty reconciliationLedger_empty).1
  have hlinks : LinkLedger w.toWire (fun l => l.trace.traceId ≠ observationTrace w.toWire o.episodeId)
      (run (perform w) ControlTables.empty calls) := linkLedger_run calls (linkLedger_empty _ _) helsewhere
  have hepisodes : ValidEpisodes w.toWire (run (perform w) ControlTables.empty calls) :=
    validEpisodes_run calls (fun r hr => by cases hr)
  generalize run (perform w) ControlTables.empty calls = t at *
  have hmem := Table.mem_of_get hrow
  have hrowvalid := hepisodes row hmem
  have hi64 : i64Max = 9223372036854775807 := rfl
  have hfits : (row.payload.version : Int) + 1 ≤ i64Max := by
    have h1 := hledger.versions row hmem
    have h2 := observationsOf_le_links hlinks row.id
    have h3 := (hledger.counted row hmem).2
    rw [show row.id = o.episodeId from Table.key_of_get hrow] at h1 h2 h3
    have h4 : u32Max = 4294967295 := rfl
    omega
  -- every link of the trace is that of a record, and none says what the observation's link says
  have hground : ∀ l ∈ linksOf t.links (observationTrace w.toWire o.episodeId), Grounded w.toWire t l := by
    intro l hl
    obtain ⟨hl, htrace⟩ := List.mem_filter.1 hl
    exact (hlinks.grounded l hl).resolve_left (fun hne => hne (by simpa using htrace))
  have hcausal : ∀ l ∈ linksOf t.links (observationTrace w.toWire o.episodeId),
      l.causality ≠ (observationLink w.toWire o).causality := by
    intro l hl he
    simp only [CorrelationLink.causality, Prod.mk.injEq] at he
    obtain ⟨q, hq, hid⟩ := stored_of_causality (hground l hl) he.2.2.2 he.2.2.1 he.1
    exact (hnew q hq).1 hid
  have hadmitted : t.links.get (observationLink w.toWire o).linkId = none →
      ((∃ links, recordCorrelationLinkInTransaction t.links (observationLink w.toWire o) = .ok links) ↔
        allZero (observationTrace w.toWire o.episodeId) = false ∧
        allZero ((w.sha256 ("harness.liveness-observation.span.v1:" ++ o.observationId)).take 16) = false) := by
    intro hnone
    rw [record_fresh_iff hlinks.sound hnone hroom (fun r hr => (hground r hr).ranked)
      (ranked_derived (observationLink_eq w.toWire o) (by decide) (by decide) (by decide)),
      and_iff_left (show ∀ r ∈ linksOf t.links (observationLink w.toWire o).trace.traceId, _ from hcausal)]
    obtain ⟨hepisode, hid⟩ := validate_observation_ids hvalid
    exact validate_derived (observationLink_eq w.toWire o)
      ⟨by decide, by decide, by decide, by decide⟩ ⟨hepisode, hid⟩
  have hversion : toI64 row.payload.version "liveness expected version" = .ok (row.payload.version : Int) :=
    toI64_ok.2 ⟨by simp only [fitsI64, decide_eq_true_eq]; omega, rfl⟩
  constructor
  · rintro ⟨e, t', hcall, -, -⟩
    have hbody : observationBody w.toWire o.episodeId row.payload.version o t = .ok (e, t') := by
      rcases transaction_cases (observationBody w.toWire o.episodeId row.payload.version o) t with
        ⟨e', -, h⟩ | ⟨e', t'', hok, h⟩
      · rw [show recordLivenessObservation w.toWire o.episodeId row.payload.version o t = _ from h] at hcall
        cases hcall
      · rw [show recordLivenessObservation w.toWire o.episodeId row.payload.version o t = _ from h] at hcall
        cases hcall
        exact hok
    obtain ⟨hstep, -, ⟨l, hl, hrec⟩, hstored⟩ := observationBody_ok hbody
    rw [observationLink_eq] at hl
    cases hl
    rcases hstep with hq | ⟨row', ho, -⟩
    · rw [hq.observations] at hstored
      exact absurd rfl (hnew o hstored).1
    · obtain rfl : row' = row := Option.some.inj (ho.found.symm.trans hrow)
      refine ⟨(observed_valid_iff hrowvalid hstart hend).1 ho.next, ?_⟩
      have hnone : t.links.get (observationLink w.toWire o).linkId = none := by
        rcases record_cases hrec with ⟨hg, -⟩ | ⟨hnone, -⟩
        · exact absurd rfl (hcausal _ (List.mem_filter.2 ⟨Table.mem_of_get hg, by simp [observationLink]⟩))
        · exact hnone
      obtain ⟨hzero, hspan⟩ := (hadmitted hnone).1 ⟨_, hrec⟩
      exact ⟨hzero, hspan, hnone⟩
  · rintro ⟨hontime, hzero, hspan, hnone⟩
    have hnext := (observed_valid_iff hrowvalid hstart hend).2 hontime
    obtain ⟨t', hobserve, hkeep, hget⟩ := observeEpisode_isOk hrow hrowvalid (hledger.columns row hmem).version hlive hstart
      hfits hnext hnew
    obtain ⟨links, hrec⟩ := (hadmitted hnone).2 ⟨hzero, hspan⟩
    refine ⟨observed w.toWire row.payload o, { t' with links := links }, ?_, hnext, ?_⟩
    · have hbody : observationBody w.toWire o.episodeId row.payload.version o t =
          .ok (observed w.toWire row.payload o, { t' with links := links }) := by
        unfold observationBody
        rw [hvalid, observationLink_eq, hversion]
        simp only [beq_self_eq_true, ensure_true, ok_bind, find_unrecorded hnew, hobserve, hkeep, hrec]
        rfl
      show transaction _ t = _
      unfold transaction
      rw [hbody]
    · show (t'.episodes.get o.episodeId).map _ = _
      rw [hget]
      rfl

/-! ## A stalled episode and two heartbeats -/

/-- The digests of an episode under suspicion with a review at 300000, and of a heartbeat at that time (`k`) and of one
a millisecond later (`h`). -/
def reviewWire : CustodyWire :=
  tableWire
    [("harness.liveness-observation.trace.v1:e", livenessTrace),
      ("harness.liveness-observation.span.v1:k",
        ⟨"838e25e5214d5db934d14c2027d7257640850ee528d515e98d7d0cfa3edb64ba", isLowerHex_ofList (by decide)⟩),
      ("harness.liveness-observation.link.v1:k",
        ⟨"858f7a3a9a4e4c1e0a63f2175f26f13cbeb52a36e44c4881d4bae40f8960bfdd", isLowerHex_ofList (by decide)⟩),
      ("harness.liveness-observation.span.v1:h",
        ⟨"10c80dd4a1adcee0797f4c3679041f8032b12376ff3114ef14e21927e76634b3", isLowerHex_ofList (by decide)⟩),
      ("harness.liveness-observation.link.v1:h",
        ⟨"a82e5cbb8326d662049ec701e93a0149109827253f1ffc4b2a14407d790dd002", isLowerHex_ofList (by decide)⟩)]
    ["observation_id", "version", "updated_at_ms"]
    [([some (.str "k"), none, none],
        ⟨"20974ec8fde69f5cc690339efa5d6e0776ee00f1201cb4489166966390421e23", isLowerHex_ofList (by decide)⟩),
      ([some (.str "h"), none, none],
        ⟨"4497096de774dea5f113aaf826c80057df14753027248d46a9f4821c3bc05ea8", isLowerHex_ofList (by decide)⟩),
      ([none, some (ofNat 1), some (ofNat 0)],
        ⟨"1d617a1a5d4c9f9851f18f86560200fc3b654daaee9d5ea2f4c77a4b033a689b", isLowerHex_ofList (by decide)⟩),
      ([none, some (ofNat 2), some (ofNat 300000)],
        ⟨"6c34a2b83dcb9bec65077be35be22941334158380b402b95698dccff0c4ae6d3", isLowerHex_ofList (by decide)⟩),
      ([none, some (ofNat 2), some (ofNat 300001)],
        ⟨"5b545cdb7bd3e07b44be4b1b140d96e44ee11bf8221ed34ae88e25780652feb5", isLowerHex_ofList (by decide)⟩)]

def suspectedEpisode : LivenessEpisode :=
  newEpisode .suspectedStall (some 300000) 0 "1d617a1a5d4c9f9851f18f86560200fc3b654daaee9d5ea2f4c77a4b033a689b"

def heartbeat (id : String) (observedAtMs : Int) (sha256 : String) : LivenessObservation :=
  newObservation id "s" .runtimeHeartbeat observedAtMs sha256

def dueHeartbeat : LivenessObservation :=
  heartbeat "k" 300000 "20974ec8fde69f5cc690339efa5d6e0776ee00f1201cb4489166966390421e23"

def lateHeartbeat : LivenessObservation :=
  heartbeat "h" 300001 "4497096de774dea5f113aaf826c80057df14753027248d46a9f4821c3bc05ea8"

def suspected : ControlTables := run (perform reviewWire) ControlTables.empty [.openLiveness suspectedEpisode]

theorem due_heartbeat_accepted :
    OnTime suspectedEpisode dueHeartbeat ∧ Linkable reviewWire.toWire suspected.links dueHeartbeat ∧
    ∃ e t', recordLivenessObservation reviewWire.toWire "e" 1 dueHeartbeat suspected = (.ok e, t') ∧
      e.validate reviewWire.toWire = .ok () ∧ (t'.episodes.get "e").map LivenessRow.payload = some e := by
  have hontime : OnTime suspectedEpisode dueHeartbeat :=
    Or.inr (Or.inr ⟨by decide, fun review h => by cases h; decide⟩)
  have hlinkable : Linkable reviewWire.toWire suspected.links dueHeartbeat :=
    ⟨by decide, by decide, by decide⟩
  have hnew : Unrecorded suspected dueHeartbeat := fun q hq => by
    rw [show suspected.observations.rows = [] by decide] at hq
    cases hq
  have hrow : suspected.episodes.get "e" = some (rowOfEpisode suspectedEpisode) := by decide
  have hiff := observation_accepted_iff reviewWire [.openLiveness suspectedEpisode] dueHeartbeat
    (rowOfEpisode suspectedEpisode) (fun l hl => by simp at hl) hrow (by decide) (by decide) (by decide)
    (by decide) hnew (by decide)
  exact ⟨hontime, hlinkable, hiff.2 ⟨hontime, hlinkable⟩⟩

theorem late_heartbeat_refused :
    suspected.episodes.get "e" = some (rowOfEpisode suspectedEpisode) ∧ suspectedEpisode.state ≠ .terminal ∧
    lateHeartbeat.validate reviewWire.toWire = .ok () ∧ suspectedEpisode.openedAtMs ≤ lateHeartbeat.observedAtMs ∧
    lateHeartbeat.observedAtMs ≤ i64Max - observeReviewDelayMs ∧ suspected.observations.rows = [] ∧
    suspected.links.rows = [] ∧
    (recordLivenessObservation reviewWire.toWire "e" 1 lateHeartbeat suspected).1 =
      .error (invalidField "liveness next review" "must not precede the current episode revision") := by
  decide

end Control
end Bildr
