import Bildr.EpisodeLedger
import Bildr.LinkLedger
/-!
# FactAdmission — which findings and action receipts a reconciliation takes

A finding is known by its kind and its source event, and so is an action receipt; the causal link written with it names
the source event alone.  A second finding from one source event says what a stored link says, and is refused whatever its
kind (`facts_recorded_iff`).
-/
namespace Bildr
namespace Control

open Improvement (isSafeOperatorControlIdentifier)
open Trace (run)

/-! ## Episodes that pass their checks -/

theorem validate_reconciliation_iff {w : Wire} {e : ReconciliationEpisode} :
    e.validate w = .ok () ↔
      e.schema = "harness.reconciliation-episode.v1" ∧ validateIdentifier e.episodeId "reconciliation episode id" = .ok () ∧
      validateOptional e.runId "reconciliation run id" = .ok () ∧
      validateIdentifier e.sourceEventId "reconciliation source event id" = .ok () ∧
      (∀ report ∈ e.report, validateText report "reconciliation report" 4000 = .ok ()) ∧
      (e.version ≠ 0 ∧ 0 ≤ e.openedAtMs ∧ e.openedAtMs ≤ e.updatedAtMs) ∧
      validateLowerHex e.inventorySha256 "reconciliation inventory sha256" 64 = .ok () ∧
      (w.digestJson e.unsigned).hex = e.sha256 := by
  unfold ReconciliationEpisode.validate
  rw [ensure_bind_ok, bind_unit_ok, bind_unit_ok, bind_unit_ok]
  cases e.report with
  | none =>
    simp only [bind_unit_ok, ensure_ok_iff, validateDigest_ok, beq_iff_eq, Bool.and_eq_true, Bool.not_eq_true',
      beq_eq_false_iff_ne, decide_eq_true_eq, and_assoc]
    simp
  | some report =>
    simp only [bind_unit_ok, ensure_ok_iff, validateDigest_ok, beq_iff_eq, Bool.and_eq_true, Bool.not_eq_true',
      beq_eq_false_iff_ne, decide_eq_true_eq, and_assoc]
    simp

theorem advanced_valid {w : Wire} {e : ReconciliationEpisode} {occurredAtMs : Int} {c : ReconciliationCounter}
    (h : e.validate w = .ok ()) : (advanced w e occurredAtMs c).validate w = .ok () := by
  obtain ⟨hschema, hid, hrun, hsource, hreport, ⟨-, hzero, hmono⟩, hinventory, -⟩ := validate_reconciliation_iff.1 h
  refine validate_reconciliation_iff.2
    ⟨hschema, hid, hrun, hsource, hreport, ⟨Nat.succ_ne_zero _, hzero, ?_⟩, hinventory, rfl⟩
  exact le_trans hmono (le_max_left _ _)

/-- Every stored episode passes its checks, and no counter is beyond 32 bits. -/
def BoundedReconciliations (w : Wire) (t : ControlTables) : Prop :=
  ∀ r ∈ t.reconciliations.rows, r.payload.validate w = .ok () ∧ r.payload.findingCount ≤ u32Max ∧
    r.payload.actionCount ≤ u32Max

theorem BoundedReconciliations.advance {w : Wire} {t t' : ControlTables} {row : ReconciliationRow} {id : String}
    {occurredAtMs : Int} {c : ReconciliationCounter} (h : BoundedReconciliations w t)
    (ha : Advanced w t t' row id occurredAtMs c) : BoundedReconciliations w t' := by
  intro r hr
  rw [ha.reconciliations] at hr
  rcases Table.mem_map_key ha.found hr with rfl | ⟨hr, -⟩
  · obtain ⟨hvalid, hfindings, hactions⟩ := h row (Table.mem_of_get ha.found)
    have hcounter := ha.counter
    refine ⟨advanced_valid hvalid, ?_, ?_⟩
    · show (if c = .finding then row.payload.findingCount + 1 else row.payload.findingCount) ≤ u32Max
      cases c with
      | finding => exact hcounter
      | action => exact hfindings
    · show (if c = .action then row.payload.actionCount + 1 else row.payload.actionCount) ≤ u32Max
      cases c with
      | finding => exact hactions
      | action => exact hcounter
  · exact h r hr

theorem BoundedReconciliations.perform {w : CustodyWire} {t : ControlTables} (c : ControlCall)
    (h : BoundedReconciliations w.toWire t) : BoundedReconciliations w.toWire (perform w t c) := by
  rcases perform_reconciliation w t c with hq | ⟨e, he⟩ | ⟨row, f, hf⟩ | ⟨row, r, ha⟩
  · intro r hr
    exact h r (hq.reconciliations ▸ hr)
  · intro r hr
    rw [he.rows] at hr
    rcases List.mem_append.1 hr with hr | hr
    · exact h r hr
    · rw [List.mem_singleton.1 hr]
      refine ⟨he.valid, ?_, ?_⟩
      · show e.findingCount ≤ u32Max
        rw [he.findingCount]
        exact Nat.zero_le _
      · show e.actionCount ≤ u32Max
        rw [he.actionCount]
        exact Nat.zero_le _
  · exact h.advance hf.toAdvanced
  · exact h.advance ha.toAdvanced

theorem boundedReconciliations_run {w : CustodyWire} : ∀ (calls : List ControlCall) {t : ControlTables},
    BoundedReconciliations w.toWire t → BoundedReconciliations w.toWire (run (perform w) t calls)
  | [], _, h => h
  | c :: calls, _, h => boundedReconciliations_run calls (h.perform c)

theorem advance_isOk {w : Wire} {t : ControlTables} {id : String} {row : ReconciliationRow} {occurredAtMs : Int}
    {c : ReconciliationCounter} (hrow : t.reconciliations.get id = some row) (hvalid : row.payload.validate w = .ok ())
    (hcolumn : row.version = row.payload.version) (hactive : row.payload.state.active = true)
    (hstart : row.payload.openedAtMs ≤ occurredAtMs) (hcounter : c.of row.payload < u32Max)
    (hfits : (row.payload.version : Int) + 1 ≤ i64Max) :
    ∃ reconciliations, advanceReconciliationEpisode w t id row.payload.version occurredAtMs c =
      .ok (advanced w row.payload occurredAtMs c, { t with reconciliations := reconciliations }) := by
  have hi64 : i64Max = 9223372036854775807 := rfl
  have hu64 : Usage.u64Max = 18446744073709551615 := rfl
  have hread : reconciliationEpisodeInTransaction w t id = .ok row.payload :=
    reconciliationEpisode_ok.2 ⟨row, hrow, hvalid, rfl⟩
  have hversion : toI64 row.payload.version "reconciliation expected version" = .ok (row.payload.version : Int) :=
    toI64_ok.2 ⟨by simp only [fitsI64, decide_eq_true_eq]; omega, rfl⟩
  have hnext : toI64 (advanced w row.payload occurredAtMs c).version "reconciliation version" =
      .ok ((row.payload.version + 1 : Nat) : Int) :=
    toI64_ok.2 ⟨by simp only [fitsI64, decide_eq_true_eq]; exact_mod_cast hfits, rfl⟩
  refine ⟨t.reconciliations.update (fun r => r.id == id)
    (ReconciliationRow.revise (advanced w row.payload occurredAtMs c)) (fun _ => rfl), ?_⟩
  unfold advanceReconciliationEpisode
  simp only [hread, ok_bind, beq_self_eq_true, ensure_true, hactive, hstart, decide_true, hcounter,
    show row.payload.version < Usage.u64Max by omega, advanced_valid hvalid, hnext, hversion, hrow, Option.any_some,
    hcolumn]
  rfl

/-! ## Links of findings and actions -/

def reconciliationTrace (w : Wire) (episodeId : String) : String :=
  (w.sha256 ("harness.reconciliation.trace.v1:" ++ episodeId)).take 32

def factText (recordClass part episodeId recordKind sourceEventId : String) : String :=
  "harness.reconciliation." ++ recordClass ++ part ++ episodeId ++ ":" ++ recordKind ++ ":" ++ sourceEventId

def factLink (w : Wire) (episodeId recordClass recordKind sourceEventId toKind relation : String) (createdAtMs : Int) :
    CorrelationLink :=
  ⟨"harness.correlation-link.v1",
    "correlation-" ++ (w.sha256 (factText recordClass ".link.v1:" episodeId recordKind sourceEventId)).take 48,
    ⟨reconciliationTrace w episodeId,
      (w.sha256 (factText recordClass ".span.v1:" episodeId recordKind sourceEventId)).take 16, none⟩,
    "reconciliation_episode", episodeId, toKind, sourceEventId, relation, createdAtMs⟩

def findingLink (w : Wire) (f : ReconciliationFinding) : CorrelationLink :=
  factLink w f.episodeId "finding" f.kind.name f.sourceEventId "reconciliation_finding" "has_finding" f.observedAtMs

def actionLink (w : Wire) (r : ReconciliationActionReceipt) : CorrelationLink :=
  factLink w r.episodeId "action" r.kind.name r.sourceEventId "reconciliation_action" "has_action" r.createdAtMs

theorem factLink_eq (w : Wire) (id cls kind source toKind relation : String) (createdAtMs : Int) :
    reconciliationCorrelationLink w id cls kind source toKind relation createdAtMs =
      .ok (factLink w id cls kind source toKind relation createdAtMs) := derivedLink_eq w _ _ _ _ _ _ _ _ _

theorem findingLink_eq (w : Wire) (f : ReconciliationFinding) :
    reconciliationFindingCorrelationLink w f = .ok (findingLink w f) := factLink_eq w _ _ _ _ _ _ _

theorem actionLink_eq (w : Wire) (r : ReconciliationActionReceipt) :
    reconciliationActionCorrelationLink w r = .ok (actionLink w r) := factLink_eq w _ _ _ _ _ _ _

def FactDigests (w : Wire) (recordClass episodeId recordKind sourceEventId : String) : Prop :=
  allZero (reconciliationTrace w episodeId) = false ∧
    allZero ((w.sha256 (factText recordClass ".span.v1:" episodeId recordKind sourceEventId)).take 16) = false

theorem validate_factLink {w : Wire} {id cls kind source toKind relation : String} {createdAtMs : Int}
    (hkinds : isSafeOperatorControlIdentifier toKind = true ∧ isSafeOperatorControlIdentifier relation = true ∧
      "reconciliation_episode" ≠ toKind)
    (hids : isSafeOperatorControlIdentifier id = true ∧ isSafeOperatorControlIdentifier source = true) :
    (factLink w id cls kind source toKind relation createdAtMs).validate = .ok () ↔ FactDigests w cls id kind source :=
  validate_derived (factLink_eq w id cls kind source toKind relation createdAtMs)
    ⟨by decide, hkinds.1, hkinds.2.1, hkinds.2.2⟩ hids

theorem causality_factLink {w : Wire} {id id' cls cls' kind kind' source source' toKind toKind' rel rel' : String}
    {at₀ at₁ : Int} (htrace : reconciliationTrace w id = reconciliationTrace w id')
    (h : (factLink w id cls kind source toKind rel at₀).causality = (factLink w id' cls' kind' source' toKind' rel' at₁).causality)
    (hto : toKind = toKind') : id = id' ∧ source = source' := by
  simp only [CorrelationLink.causality, Prod.mk.injEq] at h
  obtain ⟨-, hs, ht, -⟩ := h
  subst hto
  have hfrom : node (reconciliationTrace w id) "reconciliation_episode" id =
      node (reconciliationTrace w id') "reconciliation_episode" id' := hs
  have htarget : node (reconciliationTrace w id) toKind source = node (reconciliationTrace w id') toKind source' := ht
  rw [htrace] at hfrom htarget
  exact ⟨(String.append_right_inj _).1 hfrom, (String.append_right_inj _).1 htarget⟩

theorem finding_of_causality {w : Wire} {t : ControlTables} {l : CorrelationLink} {f : ReconciliationFinding}
    (hg : Grounded w t l) (h : l.causality = (findingLink w f).causality) :
    ∃ g ∈ t.findings.rows, g.episodeId = f.episodeId ∧ g.sourceEventId = f.sourceEventId := by
  have hrel : l.relation = "has_finding" := by
    simp only [CorrelationLink.causality, Prod.mk.injEq] at h
    exact h.2.2.2
  cases hg with
  | observation o _ h' => exact absurd ((relation_derived h').symm.trans hrel) (by decide)
  | receipt r _ h' => exact absurd ((relation_derived h').symm.trans hrel) (by decide)
  | opening e h' => exact absurd ((relation_derived h').symm.trans hrel) (by decide)
  | finding g hg h' =>
    rw [findingLink_eq] at h'
    cases h'
    have htrace : reconciliationTrace w g.episodeId = reconciliationTrace w f.episodeId := congrArg Prod.fst h
    exact ⟨g, hg, causality_factLink htrace h rfl⟩
  | action a _ h' => exact absurd ((relation_derived h').symm.trans hrel) (by decide)
  | proof p h' => exact absurd ((relation_derived h').symm.trans hrel) (by decide)

theorem action_of_causality {w : Wire} {t : ControlTables} {l : CorrelationLink} {r : ReconciliationActionReceipt}
    (hg : Grounded w t l) (h : l.causality = (actionLink w r).causality) :
    ∃ a ∈ t.actions.rows, a.receipt.episodeId = r.episodeId ∧ a.receipt.sourceEventId = r.sourceEventId := by
  have hrel : l.relation = "has_action" := by
    simp only [CorrelationLink.causality, Prod.mk.injEq] at h
    exact h.2.2.2
  cases hg with
  | observation o _ h' => exact absurd ((relation_derived h').symm.trans hrel) (by decide)
  | receipt r _ h' => exact absurd ((relation_derived h').symm.trans hrel) (by decide)
  | opening e h' => exact absurd ((relation_derived h').symm.trans hrel) (by decide)
  | finding g _ h' => exact absurd ((relation_derived h').symm.trans hrel) (by decide)
  | action a ha h' =>
    rw [actionLink_eq] at h'
    cases h'
    have htrace : reconciliationTrace w a.receipt.episodeId = reconciliationTrace w r.episodeId := congrArg Prod.fst h
    exact ⟨a, ha, causality_factLink htrace h rfl⟩
  | proof p h' => exact absurd ((relation_derived h').symm.trans hrel) (by decide)

/-! ## The calls -/

/-- The finding's counter has room, its digests are not zero, and its link is stored already or is new in its id while no
finding of the episode has the source event. -/
def FindingFits (w : Wire) (t : ControlTables) (row : ReconciliationRow) (f : ReconciliationFinding) : Prop :=
  row.payload.findingCount < u32Max ∧ FactDigests w "finding" f.episodeId f.kind.name f.sourceEventId ∧
  (t.links.get (findingLink w f).linkId = some (findingLink w f) ∨
    (t.links.get (findingLink w f).linkId = none ∧
      ∀ g ∈ t.findings.rows, g.episodeId = f.episodeId → g.sourceEventId ≠ f.sourceEventId))

/-- As `FindingFits`, for an action receipt. -/
def ActionFits (w : Wire) (t : ControlTables) (row : ReconciliationRow) (r : ReconciliationActionReceipt) : Prop :=
  row.payload.actionCount < u32Max ∧ FactDigests w "action" r.episodeId r.kind.name r.sourceEventId ∧
  (t.links.get (actionLink w r).linkId = some (actionLink w r) ∨
    (t.links.get (actionLink w r).linkId = none ∧
      ∀ a ∈ t.actions.rows, a.receipt.episodeId = r.episodeId → a.receipt.sourceEventId ≠ r.sourceEventId))

theorem validate_finding_ids {w : Wire} {f : ReconciliationFinding} (h : f.validate w = .ok ()) :
    isSafeOperatorControlIdentifier f.episodeId = true ∧ isSafeOperatorControlIdentifier f.sourceEventId = true := by
  unfold ReconciliationFinding.validate at h
  obtain ⟨-, h⟩ := ensure_bind_ok.1 h
  obtain ⟨hid, h⟩ := bind_unit_ok.1 h
  obtain ⟨hsource, -⟩ := bind_unit_ok.1 h
  exact ⟨validateIdentifier_ok.1 hid, validateIdentifier_ok.1 hsource⟩

theorem validate_action_ids {w : Wire} {r : ReconciliationActionReceipt} (h : r.validate w = .ok ()) :
    isSafeOperatorControlIdentifier r.episodeId = true ∧ isSafeOperatorControlIdentifier r.sourceEventId = true := by
  unfold ReconciliationActionReceipt.validate at h
  obtain ⟨-, h⟩ := ensure_bind_ok.1 h
  obtain ⟨hid, h⟩ := bind_unit_ok.1 h
  obtain ⟨hsource, -⟩ := bind_unit_ok.1 h
  exact ⟨validateIdentifier_ok.1 hid, validateIdentifier_ok.1 hsource⟩

section Episode
variable {w : Wire} {t : ControlTables} {row : ReconciliationRow} {id : String}

/-- A state in which facts of the episode `id` are recorded. -/
structure Receptive (w : Wire) (t : ControlTables) (row : ReconciliationRow) (id : String) : Prop where
  found : t.reconciliations.get id = some row
  valid : row.payload.validate w = .ok ()
  column : row.version = row.payload.version
  active : row.payload.state.active = true
  fits : (row.payload.version : Int) + 1 ≤ i64Max
  sound : Sound t.links
  grounded : ∀ l ∈ linksOf t.links (reconciliationTrace w id), Grounded w t l
  room : (linksOf t.links (reconciliationTrace w id)).length < 8192
  findings : ∀ f ∈ t.findings.rows, findingLink w f ∈ t.links.rows
  actions : ∀ a ∈ t.actions.rows, actionLink w a.receipt ∈ t.links.rows

theorem Receptive.factLink_iff (h : Receptive w t row id) {cls kind source toKind relation : String} {createdAtMs : Int}
    (hkinds : isSafeOperatorControlIdentifier toKind = true ∧ isSafeOperatorControlIdentifier relation = true ∧
      "reconciliation_episode" ≠ toKind)
    (hids : isSafeOperatorControlIdentifier id = true ∧ isSafeOperatorControlIdentifier source = true)
    (hplain : ':' ∉ toKind.toList) (hlater : kindRank "reconciliation_episode" < kindRank toKind) :
    (∃ links, recordCorrelationLinkInTransaction t.links (factLink w id cls kind source toKind relation createdAtMs) =
      .ok links) ↔
      FactDigests w cls id kind source ∧
      (t.links.get (factLink w id cls kind source toKind relation createdAtMs).linkId =
          some (factLink w id cls kind source toKind relation createdAtMs) ∨
        (t.links.get (factLink w id cls kind source toKind relation createdAtMs).linkId = none ∧
          ∀ l ∈ linksOf t.links (reconciliationTrace w id),
            l.causality ≠ (factLink w id cls kind source toKind relation createdAtMs).causality)) := by
  rw [← validate_factLink hkinds hids]
  exact record_iff h.sound h.room (fun r hr => (h.grounded r hr).ranked)
    (ranked_derived (factLink_eq w id cls kind source toKind relation createdAtMs) (by decide) hplain hlater)

theorem Receptive.findingLink_iff (h : Receptive w t row id) {f : ReconciliationFinding} (hid : f.episodeId = id)
    (hv : f.validate w = .ok ()) :
    (∃ links, recordCorrelationLinkInTransaction t.links (findingLink w f) = .ok links) ↔
      FactDigests w "finding" f.episodeId f.kind.name f.sourceEventId ∧
      (t.links.get (findingLink w f).linkId = some (findingLink w f) ∨
        (t.links.get (findingLink w f).linkId = none ∧
          ∀ g ∈ t.findings.rows, g.episodeId = f.episodeId → g.sourceEventId ≠ f.sourceEventId)) := by
  subst hid
  refine (h.factLink_iff ⟨by decide, by decide, by decide⟩ (validate_finding_ids hv)
    (by decide) (by decide)).trans (and_congr_right (fun _ => or_congr_right (and_congr_right (fun _ =>
      ⟨fun hnew g hg hid hsource => ?_, fun hnew l hl hc => ?_⟩))))
  · -- the link of the other finding says the same
    refine hnew (findingLink w g) (List.mem_filter.2 ⟨h.findings g hg, ?_⟩) ?_
    · simp [findingLink, factLink, hid]
    · simp only [findingLink, factLink, CorrelationLink.causality, CorrelationLink.source, CorrelationLink.target, hid,
        hsource]
  · obtain ⟨g, hg, hid, hsource⟩ := finding_of_causality (h.grounded l hl) hc
    exact hnew g hg hid hsource

theorem Receptive.actionLink_iff (h : Receptive w t row id) {r : ReconciliationActionReceipt} (hid : r.episodeId = id)
    (hv : r.validate w = .ok ()) :
    (∃ links, recordCorrelationLinkInTransaction t.links (actionLink w r) = .ok links) ↔
      FactDigests w "action" r.episodeId r.kind.name r.sourceEventId ∧
      (t.links.get (actionLink w r).linkId = some (actionLink w r) ∨
        (t.links.get (actionLink w r).linkId = none ∧
          ∀ a ∈ t.actions.rows, a.receipt.episodeId = r.episodeId → a.receipt.sourceEventId ≠ r.sourceEventId)) := by
  subst hid
  refine (h.factLink_iff ⟨by decide, by decide, by decide⟩ (validate_action_ids hv)
    (by decide) (by decide)).trans (and_congr_right (fun _ => or_congr_right (and_congr_right (fun _ =>
      ⟨fun hnew a ha hid hsource => ?_, fun hnew l hl hc => ?_⟩))))
  · refine hnew (actionLink w a.receipt) (List.mem_filter.2 ⟨h.actions a ha, ?_⟩) ?_
    · simp [actionLink, factLink, hid]
    · simp only [actionLink, factLink, CorrelationLink.causality, CorrelationLink.source, CorrelationLink.target, hid,
        hsource]
  · obtain ⟨a, ha, hid, hsource⟩ := action_of_causality (h.grounded l hl) hc
    exact hnew a ha hid hsource

theorem Receptive.finding_iff (h : Receptive w t row id) {f : ReconciliationFinding} (hid : f.episodeId = id)
    (hv : f.validate w = .ok ()) (hstart : row.payload.openedAtMs ≤ f.observedAtMs) (hnew : t.findings.get f.key = none) :
    (∃ e t', findingBody w f row.payload.version t = .ok (e, t')) ↔ FindingFits w t row f := by
  have hlink := h.findingLink_iff hid hv
  constructor
  · rintro ⟨e, t', hbody⟩
    rcases findingBody_ok hbody with ⟨-, hold⟩ | ⟨row', hf, -⟩
    · rw [hnew] at hold
      cases hold
    · obtain rfl : row' = row := Option.some.inj (hf.found.symm.trans (hid ▸ h.found))
      obtain ⟨l, hl, hrec⟩ := hf.link
      rw [findingLink_eq] at hl
      cases hl
      exact ⟨hf.counter, hlink.1 ⟨_, hrec⟩⟩
  · rintro ⟨hcounter, hfits⟩
    obtain ⟨links, hrec⟩ := hlink.2 hfits
    obtain ⟨reconciliations, hadvance⟩ := advance_isOk (c := .finding) (hid ▸ h.found) h.valid h.column h.active hstart
      hcounter h.fits
    obtain ⟨findings, hinsert⟩ := insertRow_isOk (t := t.findings) (r := f) (by
      rw [← Table.get_isSome, hnew]
      exact Bool.false_ne_true)
    refine ⟨advanced w row.payload f.observedAtMs .finding,
      { t with reconciliations := reconciliations, findings := findings, links := links }, ?_⟩
    unfold findingBody
    rw [hv, findingLink_eq, ok_bind, ok_bind, hnew]
    simp only [hadvance, ok_bind, hinsert, hrec]
    rfl

theorem Receptive.action_iff (h : Receptive w t row id) {r : ReconciliationActionReceipt} (hid : r.episodeId = id)
    (hv : r.validate w = .ok ()) (hkind : r.kind ≠ .authorizeFreshAttempt)
    (hstart : row.payload.openedAtMs ≤ r.createdAtMs) (hnew : findAction t r = none) :
    (∃ e t', actionBody w r row.payload.version t = .ok (e, t')) ↔ ActionFits w t row r := by
  have hlink := h.actionLink_iff hid hv
  have hkind' : (!decide (r.kind = .authorizeFreshAttempt)) = true := by simpa using hkind
  constructor
  · rintro ⟨e, t', hbody⟩
    rcases actionBody_ok hbody with ⟨-, hold⟩ | ⟨row', ha, -⟩
    · rw [hnew] at hold
      cases hold
    · obtain rfl : row' = row := Option.some.inj (ha.found.symm.trans (hid ▸ h.found))
      obtain ⟨l, hl, hrec⟩ := ha.link
      rw [actionLink_eq] at hl
      cases hl
      exact ⟨ha.counter, hlink.1 ⟨_, hrec⟩⟩
  · rintro ⟨hcounter, hfits⟩
    obtain ⟨links, hrec⟩ := hlink.2 hfits
    obtain ⟨reconciliations, hadvance⟩ := advance_isOk (c := .action) (hid ▸ h.found) h.valid h.column h.active hstart
      hcounter h.fits
    obtain ⟨actions, hinsert⟩ := insertRow_isOk (t := t.actions)
      (r := ⟨Table.maxOf ActionRow.id t.actions.rows + 1, r⟩) (fun hm => by
        obtain ⟨a, ha, he⟩ := List.mem_map.1 hm
        have hle := Table.le_maxOf ActionRow.id ha
        rw [he] at hle
        exact absurd hle (Nat.not_succ_le_self _))
    refine ⟨advanced w row.payload r.createdAtMs .action,
      { t with reconciliations := reconciliations, actions := actions, links := links }, ?_⟩
    unfold actionBody
    rw [hv, actionLink_eq, ok_bind, hkind', ensure_true, ok_bind, ok_bind, hnew]
    simp only [hadvance, ok_bind, insertAction,
      show findAction { t with reconciliations := reconciliations } r = none from hnew, Option.isNone_none, require,
      ensure_true, hinsert, pure_ok, hrec]

end Episode

theorem receptive_run {w : CustodyWire} {calls : List ControlCall} {row : ReconciliationRow} {id : String}
    (helsewhere : ∀ l, .link l ∈ calls → l.trace.traceId ≠ reconciliationTrace w.toWire id)
    (hrow : (run (perform w) ControlTables.empty calls).reconciliations.get id = some row)
    (hactive : row.payload.state.active = true)
    (hroom : (linksOf (run (perform w) ControlTables.empty calls).links (reconciliationTrace w.toWire id)).length < 8191) :
    Receptive w.toWire (run (perform w) ControlTables.empty calls) row id := by
  have hledger := (ledgers_run w calls livenessLedger_empty reconciliationLedger_empty).2
  have hlinks : LinkLedger w.toWire (fun l => l.trace.traceId ≠ reconciliationTrace w.toWire id)
      (run (perform w) ControlTables.empty calls) := linkLedger_run calls (linkLedger_empty _ _) helsewhere
  have hbounds : BoundedReconciliations w.toWire (run (perform w) ControlTables.empty calls) :=
    boundedReconciliations_run calls (fun r hr => by cases hr)
  have hmem := Table.mem_of_get hrow
  obtain ⟨hvalid, hfindings, hactions⟩ := hbounds row hmem
  refine ⟨hrow, hvalid, (hledger.columns row hmem).version, hactive, ?_, hlinks.sound, fun l hl => ?_, ?_, fun f hf => ?_,
    fun a ha => ?_⟩
  · have hversion := hledger.versions row hmem
    have hi64 : i64Max = 9223372036854775807 := rfl
    have hu32 : u32Max = 4294967295 := rfl
    omega
  · obtain ⟨hl, htrace⟩ := List.mem_filter.1 hl
    exact (hlinks.grounded l hl).resolve_left (fun hne => hne (by simpa using htrace))
  · omega
  · obtain ⟨l, hl, hlink⟩ := hlinks.found f hf
    rw [findingLink_eq] at hlink
    cases hlink
    exact hl
  · obtain ⟨l, hl, hlink⟩ := hlinks.acted a ha
    rw [actionLink_eq] at hlink
    cases hlink
    exact hl

theorem transaction_ok_iff {σ α : Type} {body : σ → Except StoreError (α × σ)} {s : σ} :
    (∃ a s', transaction body s = (.ok a, s')) ↔ ∃ a s', body s = .ok (a, s') := by
  rcases transaction_cases body s with ⟨e, hb, h⟩ | ⟨a, s', hb, h⟩
  · rw [h, hb]
    simp
  · rw [h, hb]
    simp

/-- **Which facts an active episode takes**, in every state that calls reach: a finding, or an action receipt that does not
authorize an attempt, that passes its checks, does not predate the episode and is new in its kind and source event is
recorded at the current version exactly if it fits. -/
theorem facts_recorded_iff (w : CustodyWire) (calls : List ControlCall) (row : ReconciliationRow) (id : String)
    (helsewhere : ∀ l, .link l ∈ calls → l.trace.traceId ≠ reconciliationTrace w.toWire id)
    (hrow : (run (perform w) ControlTables.empty calls).reconciliations.get id = some row)
    (hactive : row.payload.state.active = true)
    (hroom : (linksOf (run (perform w) ControlTables.empty calls).links (reconciliationTrace w.toWire id)).length < 8191) :
    (∀ f : ReconciliationFinding, f.episodeId = id → f.validate w.toWire = .ok () →
      row.payload.openedAtMs ≤ f.observedAtMs → (run (perform w) ControlTables.empty calls).findings.get f.key = none →
      ((∃ e t', recordReconciliationFinding w.toWire f row.payload.version (run (perform w) ControlTables.empty calls) =
        (.ok e, t')) ↔ FindingFits w.toWire (run (perform w) ControlTables.empty calls) row f)) ∧
    (∀ r : ReconciliationActionReceipt, r.episodeId = id → r.validate w.toWire = .ok () →
      r.kind ≠ .authorizeFreshAttempt → row.payload.openedAtMs ≤ r.createdAtMs →
      findAction (run (perform w) ControlTables.empty calls) r = none →
      ((∃ e t', recordReconciliationActionReceipt w.toWire r row.payload.version
        (run (perform w) ControlTables.empty calls) = (.ok e, t')) ↔
        ActionFits w.toWire (run (perform w) ControlTables.empty calls) row r)) := by
  have h := receptive_run helsewhere hrow hactive hroom
  refine ⟨fun f hid hv hstart hnew => ?_, fun r hid hv hkind hstart hnew => ?_⟩
  · exact transaction_ok_iff.trans (h.finding_iff hid hv hstart hnew)
  · exact transaction_ok_iff.trans (h.action_iff hid hv hkind hstart hnew)

/-! ## Two findings from one event -/

/-- The digests of the links of an episode, and of the episode as it is opened and after an action. -/
def traceDigest : Digest :=
  ⟨"c19a982a219c66c32576828e8adc1c57318ec0ef2d6262d4473fae3d79dbb935", isLowerHex_ofList (by decide)⟩

def spanDigest : Digest :=
  ⟨"2b47eb9875d6f4109ca84ed5861fe5009d55fd9bc76e2817ac30f9d0647f9988", isLowerHex_ofList (by decide)⟩

def linkDigest : Digest :=
  ⟨"0acb64dbdafd5e4194f93c005a8d78231592cdf164f45a28d1238e51ce4f7a39", isLowerHex_ofList (by decide)⟩

def openedDigest : Digest :=
  ⟨"f3b02027d76402b10d277679c97edd1967cd3b216eed3d12f9567ff23e056d1a", isLowerHex_ofList (by decide)⟩

def actedDigest : Digest :=
  ⟨"0c0504d3513e0bc773f18810f1360212323383f02f02cb52457dd28022680284", isLowerHex_ofList (by decide)⟩

/-- The digests of an episode, of a live owner and a stale approval found by the event `s`, and of a preservation by it. -/
def reconciliationWire : CustodyWire :=
  tableWire
    [("harness.reconciliation.trace.v1:e", traceDigest),
      ("harness.reconciliation.episode.span.v1:e", spanDigest),
      ("harness.reconciliation.episode.link.v1:e", linkDigest),
      ("harness.reconciliation.finding.span.v1:e:live_owner:s",
        ⟨"7be24334634e2e878e88e40bc836631ef8ad147e37944038e435d09f88836eb1", isLowerHex_ofList (by decide)⟩),
      ("harness.reconciliation.finding.link.v1:e:live_owner:s",
        ⟨"d19a25dd49072f5f492f93901b9c8f6b5f5225168fa5f9da43992707cd502014", isLowerHex_ofList (by decide)⟩),
      ("harness.reconciliation.finding.span.v1:e:stale_approval:s",
        ⟨"bb23da097f4b9c2d3526a7dc01e4a43295dab8605337ded01c51ec5573bba830", isLowerHex_ofList (by decide)⟩),
      ("harness.reconciliation.finding.link.v1:e:stale_approval:s",
        ⟨"0a94618e304dac1756eaeee6dfe48476e72dcf09e5fa9c19a0de202abf7c572c", isLowerHex_ofList (by decide)⟩),
      ("harness.reconciliation.action.span.v1:e:preserve:s",
        ⟨"8ab58b23b6eb56b0c2040053f3857be62d21dd005d4a1f7cb5177bb0578242cf", isLowerHex_ofList (by decide)⟩),
      ("harness.reconciliation.action.link.v1:e:preserve:s",
        ⟨"dc29852f1f7233a91c8bd9c46fc79e1f9fac65e3a42796326e856838f5aff007", isLowerHex_ofList (by decide)⟩)]
    ["kind", "finding_count", "action_count"]
    [([some (.str "live_owner"), none, none],
        ⟨"97b07293d902f585780254b9a4f54e2fd1fc420ce96c1f504567167db16447bf", isLowerHex_ofList (by decide)⟩),
      ([some (.str "stale_approval"), none, none],
        ⟨"ee8348bba03674930ad51691d6d687c8739054dc9b8a6467b66134de7d266f66", isLowerHex_ofList (by decide)⟩),
      ([some (.str "preserve"), none, none],
        ⟨"52ee433fe12f53ace62ee8eecde0a4abf9bba22458e3079bcc0cf3680b0d70c8", isLowerHex_ofList (by decide)⟩),
      ([none, some (ofNat 0), some (ofNat 0)], openedDigest),
      ([none, some (ofNat 1), some (ofNat 0)],
        ⟨"6c04ad1a5f3a2e3bbaa324e133791d7157fcd41958b6e119539a601882476ffa", isLowerHex_ofList (by decide)⟩),
      ([none, some (ofNat 0), some (ofNat 1)], actedDigest),
      ([none, some (ofNat 2), some (ofNat 0)],
        ⟨"8318d6f012150aba225d48c3d913439cf344ffc3dceaa27f8f5528e650d7eff3", isLowerHex_ofList (by decide)⟩)]

def newReconciliation : ReconciliationEpisode :=
  ⟨"harness.reconciliation-episode.v1", "e", some "r", .processLoss, .open, 1, 0, 0, "s", emptyDigest.hex, 0, 0, none,
    "f3b02027d76402b10d277679c97edd1967cd3b216eed3d12f9567ff23e056d1a"⟩

def liveOwner : ReconciliationFinding :=
  ⟨"harness.reconciliation-finding.v1", "e", .liveOwner, "s", 0, .obj [],
    "97b07293d902f585780254b9a4f54e2fd1fc420ce96c1f504567167db16447bf"⟩

def staleApproval : ReconciliationFinding :=
  ⟨"harness.reconciliation-finding.v1", "e", .staleApproval, "s", 0, .obj [],
    "ee8348bba03674930ad51691d6d687c8739054dc9b8a6467b66134de7d266f66"⟩

def preservation : ReconciliationActionReceipt :=
  ⟨"harness.reconciliation-action-receipt.v1", "e", .preserve, "s", none, 0, .obj [],
    "52ee433fe12f53ace62ee8eecde0a4abf9bba22458e3079bcc0cf3680b0d70c8"⟩

/-- The ids of the links, the episodes, the findings and the ids of the actions. -/
def ControlTables.reconciliationView (t : ControlTables) :
    List String × List ReconciliationRow × List ReconciliationFinding × List Nat :=
  match t with
  | ⟨links, _, _, _, reconciliations, findings, actions, _, _, _, _, _⟩ =>
    (links.rows.map CorrelationLink.linkId, reconciliations.rows, findings.rows, actions.rows.map ActionRow.id)

/-- The tables after the episode was opened, and after the live owner was found. -/
def reconciling : ControlTables :=
  run (perform reconciliationWire) ControlTables.empty [.openReconciliation newReconciliation]

def reconcilingOwner : ControlTables :=
  run (perform reconciliationWire) ControlTables.empty [.openReconciliation newReconciliation, .finding liveOwner 1]

theorem reconciling_view : reconciling.reconciliationView =
    (["correlation-0acb64dbdafd5e4194f93c005a8d78231592cdf164f45a28"], [rowOfReconciliation newReconciliation], [], []) := by
  decide +kernel

def ownerRow : ReconciliationRow :=
  (rowOfReconciliation newReconciliation).revise (advanced reconciliationWire.toWire newReconciliation 0 .finding)

theorem reconcilingOwner_view : reconcilingOwner.reconciliationView =
    (["correlation-0acb64dbdafd5e4194f93c005a8d78231592cdf164f45a28", "correlation-d19a25dd49072f5f492f93901b9c8f6b5f5225168fa5f9da"],
      [ownerRow], [liveOwner], []) := by
  decide +kernel

theorem of_view {t : ControlTables} {links : List String} {row : ReconciliationRow}
    {findings : List ReconciliationFinding} {actions : List Nat}
    (h : t.reconciliationView = (links, [row], findings, actions)) :
    t.reconciliations.get row.id = some row ∧ t.links.rows.map CorrelationLink.linkId = links ∧
      t.findings.rows = findings ∧ t.actions.rows.map ActionRow.id = actions ∧
      ∀ trace, (linksOf t.links trace).length ≤ links.length := by
  have hview : t.reconciliationView =
    (t.links.rows.map CorrelationLink.linkId, t.reconciliations.rows, t.findings.rows, t.actions.rows.map ActionRow.id) := rfl
  rw [hview] at h
  simp only [Prod.mk.injEq] at h
  obtain ⟨hlinks, hrow, hfindings, hactions⟩ := h
  refine ⟨Table.get_of_mem (by rw [hrow]; simp), hlinks, hfindings, hactions, fun trace => ?_⟩
  rw [← hlinks, List.length_map]
  exact List.length_filter_le _ _

theorem get_none_of_ids {t : Links} {ids : List String} {id : String} (h : t.rows.map CorrelationLink.linkId = ids)
    (hid : id ∉ ids) : t.get id = none := by
  rw [← Option.not_isSome_iff_eq_none, Table.get_isSome, h]
  exact hid

theorem first_facts_recorded :
    FindingFits reconciliationWire.toWire reconciling (rowOfReconciliation newReconciliation) liveOwner ∧
    ActionFits reconciliationWire.toWire reconciling (rowOfReconciliation newReconciliation) preservation ∧
    (∃ e t', recordReconciliationFinding reconciliationWire.toWire liveOwner 1 reconciling = (.ok e, t')) ∧
    ∃ e t', recordReconciliationActionReceipt reconciliationWire.toWire preservation 1 reconciling = (.ok e, t') := by
  obtain ⟨hrow, hlinks, hfindings, hactions, hlength⟩ := of_view reconciling_view
  have hnone := List.map_eq_nil_iff.1 hactions
  have hfinding : FindingFits reconciliationWire.toWire reconciling (rowOfReconciliation newReconciliation) liveOwner := by
    refine ⟨by decide +kernel, ⟨by decide +kernel, by decide +kernel⟩,
      Or.inr ⟨get_none_of_ids hlinks (by decide +kernel), fun g hg => ?_⟩⟩
    rw [hfindings] at hg
    cases hg
  have haction : ActionFits reconciliationWire.toWire reconciling (rowOfReconciliation newReconciliation) preservation := by
    refine ⟨by decide +kernel, ⟨by decide +kernel, by decide +kernel⟩,
      Or.inr ⟨get_none_of_ids hlinks (by decide +kernel), fun a ha => ?_⟩⟩
    rw [hnone] at ha
    cases ha
  have hfresh : reconciling.findings.get liveOwner.key = none := by
    rw [← Option.not_isSome_iff_eq_none, Table.get_isSome, hfindings]
    simp
  have hunacted : findAction reconciling preservation = none := by
    unfold findAction
    rw [hnone]
    rfl
  have hiff := facts_recorded_iff reconciliationWire [.openReconciliation newReconciliation]
    (rowOfReconciliation newReconciliation) "e" (fun l hl => by simp at hl) hrow (by decide +kernel)
    (lt_of_le_of_lt (hlength _) (by decide +kernel))
  refine ⟨hfinding, haction, ?_, ?_⟩
  · exact (hiff.1 liveOwner rfl (by decide +kernel) (by decide +kernel) hfresh).2 hfinding
  · exact (hiff.2 preservation rfl (by decide +kernel) (by decide +kernel) (by decide +kernel) hunacted).2 haction

theorem second_kind_refused :
    staleApproval.validate reconciliationWire.toWire = .ok () ∧
    reconcilingOwner.findings.get staleApproval.key = none ∧
    reconcilingOwner.reconciliations.get "e" = some ownerRow ∧ ownerRow.payload.state.active = true ∧
    ownerRow.payload.version = 2 ∧
    ¬ ∃ e t', recordReconciliationFinding reconciliationWire.toWire staleApproval 2 reconcilingOwner = (.ok e, t') := by
  obtain ⟨hrow, hlinks, hfindings, -, hlength⟩ := of_view reconcilingOwner_view
  have hvalid : staleApproval.validate reconciliationWire.toWire = .ok () := by decide +kernel
  have hfresh : reconcilingOwner.findings.get staleApproval.key = none := by
    rw [← Option.not_isSome_iff_eq_none, Table.get_isSome, hfindings]
    decide +kernel
  have hreceptive : Receptive reconciliationWire.toWire reconcilingOwner ownerRow "e" :=
    receptive_run (fun l hl => by simp at hl) hrow (by decide +kernel) (lt_of_le_of_lt (hlength _) (by decide +kernel))
  refine ⟨hvalid, hfresh, hrow, rfl, rfl, fun h => ?_⟩
  obtain ⟨-, -, hstored | ⟨-, hother⟩⟩ :=
    (hreceptive.finding_iff (f := staleApproval) rfl hvalid (by decide +kernel) hfresh).1 (transaction_ok_iff.1 h)
  · rw [get_none_of_ids hlinks (by decide +kernel)] at hstored
    cases hstored
  · exact hother liveOwner (by rw [hfindings]; simp) rfl rfl

end Control
end Bildr
