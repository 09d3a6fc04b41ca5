import Bildr.Calls
import Bildr.ObservationAdmission
import Bildr.EpisodeLedger
/-!
# Interventions — waits and pauses that are requested again

A request for a wait or a pause has one id, so identical requests store one receipt.  A pause looks and writes under one
lock and every repetition is answered with the episode.  A wait looks, reads and writes under three: it is answered so as
long as no other wait stores the receipt while it is on its way, or stores the very receipt it made.
-/
namespace Bildr
namespace Control

open Calls (Pool)
open Improvement (isSafeOperatorControlIdentifier)
open Trace (run Along)

/-! ## Receipts of a request -/

def requestReceipt (w : Wire) (p : InterventionPolicy) (q : Intervention) (e : LivenessEpisode) (now : Int) :
    InterventionReceipt :=
  InterventionReceipt.signed w ⟨"harness.intervention-receipt.v1", interventionIdOf w p q, q.episodeId, p.kind,
    interventionSourceOf w p q, q.expectedVersion, p.policyVersion, q.requestedBy, max now e.updatedAtMs, ""⟩

def PlainStem (p : InterventionPolicy) : Prop :=
  isSafeOperatorControlIdentifier ("intervention-" ++ p.stem ++ "-") = true ∧
    ("intervention-" ++ p.stem ++ "-").toList.length + 32 ≤ 160

theorem newReceipt_eq {p : InterventionPolicy} (hp : PlainStem p) (w : Wire) (q : Intervention) (e : LivenessEpisode)
    (now : Int) : newReceipt w p q e now = .ok (requestReceipt w p q e now) := by
  have hsafe : isSafeOperatorControlIdentifier (interventionIdOf w p q) = true :=
    safe_append_take _ (by omega) hp.1 hp.2
  unfold newReceipt
  rw [validateIdentifier_ok.2 hsafe]
  rfl

theorem plain_wait : PlainStem waitPolicy := ⟨by decide, by decide⟩

theorem plain_pause : PlainStem pausePolicy := ⟨by decide, by decide⟩

section Request
variable {w : Wire} {p : InterventionPolicy} {q : Intervention} {e : LivenessEpisode} {now now' : Int}

theorem validate_requestReceipt (he : 0 ≤ e.updatedAtMs) (h : (requestReceipt w p q e now).validate w = .ok ()) :
    (requestReceipt w p q e now').validate w = .ok () := by
  unfold InterventionReceipt.validate at h ⊢
  obtain ⟨hhead, h⟩ := ensure_bind_ok.1 h
  obtain ⟨hid, h⟩ := bind_unit_ok.1 h
  obtain ⟨hepisode, h⟩ := bind_unit_ok.1 h
  obtain ⟨hsource, h⟩ := bind_unit_ok.1 h
  obtain ⟨hpolicy, h⟩ := bind_unit_ok.1 h
  obtain ⟨hby, -⟩ := bind_unit_ok.1 h
  simp only [Bool.and_eq_true] at hhead
  have htime : decide (0 ≤ (requestReceipt w p q e now').createdAtMs) = true :=
    decide_eq_true (le_trans he (le_max_right _ _))
  refine ensure_bind_ok.2 ⟨by simp only [Bool.and_eq_true]; exact ⟨hhead.1, htime⟩, bind_unit_ok.2 ⟨hid,
    bind_unit_ok.2 ⟨hepisode, bind_unit_ok.2 ⟨hsource, bind_unit_ok.2 ⟨hpolicy, bind_unit_ok.2 ⟨hby, ?_⟩⟩⟩⟩⟩⟩
  exact validateDigest_ok.2 rfl

theorem intervened_valid {r : InterventionReceipt} (he : e.validate w = .ok ()) : (intervened w e r).validate w = .ok () := by
  obtain ⟨hschema, hid, hrun, htask, hattempt, houtcome, ⟨-, hzero, hmono⟩, hlast, hreview, hreasons, -⟩ :=
    validate_episode_iff.1 he
  refine validate_episode_iff.2 ⟨hschema, hid, hrun, htask, hattempt, houtcome, ⟨Nat.succ_ne_zero _, hzero, ?_⟩, ?_, ?_,
    hreasons, rfl⟩
  · exact le_trans hmono (le_max_left _ _)
  · intro v hv
    have := hlast v hv
    exact ⟨this.1, le_trans this.2 (le_max_left _ _)⟩
  · intro v hv
    show max e.updatedAtMs r.createdAtMs ≤ v
    change v ∈ e.nextReviewAtMs.map (fun v => if v < max e.updatedAtMs r.createdAtMs
      then max e.updatedAtMs r.createdAtMs else v) at hv
    obtain ⟨u, -, rfl⟩ := Option.mem_map.1 hv
    split
    · exact le_refl _
    · omega

def interventionLink (w : Wire) (r : InterventionReceipt) : CorrelationLink :=
  ⟨"harness.correlation-link.v1",
    "correlation-" ++ (w.sha256 ("harness.intervention.link.v1:" ++ r.interventionId)).take 48,
    ⟨(w.sha256 ("harness.intervention.trace.v1:" ++ r.interventionId)).take 32,
      (w.sha256 ("harness.intervention.span.v1:" ++ r.interventionId)).take 16, none⟩,
    "liveness_episode", r.episodeId, "intervention_receipt", r.interventionId, "has_intervention", r.createdAtMs⟩

theorem interventionLink_eq (w : Wire) (r : InterventionReceipt) :
    interventionCorrelationLink w r = .ok (interventionLink w r) := derivedLink_eq w _ _ _ _ _ _ _ _ _

end Request

/-! ## Recording a receipt -/

section Recording
variable {w : Wire} {t t' : ControlTables} {r : InterventionReceipt}

theorem interveneEpisode_isOk {row : LivenessRow} (hrow : t.episodes.get r.episodeId = some row)
    (hvalid : row.payload.validate w = .ok ()) (hcolumn : row.version = row.payload.version)
    (htarget : row.payload.version = r.targetVersion) (hfits : fitsI64 (row.payload.version + 1) = true)
    (hlive : row.payload.state ≠ .terminal) (hstart : row.payload.openedAtMs ≤ r.createdAtMs)
    (hcounter : row.payload.interventionCount < u32Max) (hnone : t.receipts.get r.interventionId = none) :
    ∃ t', interveneEpisode w r t = .ok (intervened w row.payload r, t') ∧ t'.links = t.links := by
  have hi64 : i64Max = 9223372036854775807 := rfl
  have hu64 : Usage.u64Max = 18446744073709551615 := rfl
  simp only [fitsI64, decide_eq_true_eq] at hfits
  have hread : readEpisode w row = .ok row.payload := readEpisode_ok.2 ⟨hvalid, rfl⟩
  have hnextVersion : toI64 (intervened w row.payload r).version "liveness episode version" =
      .ok ((row.payload.version + 1 : Nat) : Int) :=
    toI64_ok.2 ⟨by simp only [fitsI64, decide_eq_true_eq]; exact hfits, rfl⟩
  have hversion : toI64 r.targetVersion "intervention target version" = .ok (r.targetVersion : Int) :=
    toI64_ok.2 ⟨by simp only [fitsI64, decide_eq_true_eq]; omega, rfl⟩
  have hcas : casEpisode t r.episodeId r.targetVersion (LivenessRow.count (intervened w row.payload r)) (fun _ => rfl)
      ("liveness episode " ++ r.episodeId ++ " changed during intervention recording") =
      .ok { t with
        episodes := t.episodes.update (fun q => q.id == r.episodeId) (LivenessRow.count (intervened w row.payload r))
          (fun _ => rfl) } := by
    refine casEpisode_ok.2 ⟨?_, rfl⟩
    rw [hrow]
    simpa [htarget] using hcolumn
  obtain ⟨receipts, hinsert⟩ := insertRow_isOk (t := t.receipts) (r := r) (by
    rw [← Table.get_isSome, hnone]
    exact Bool.false_ne_true)
  refine ⟨{ t with
    episodes := t.episodes.update (fun q => q.id == r.episodeId) (LivenessRow.count (intervened w row.payload r))
      (fun _ => rfl)
    receipts := receipts }, ?_, rfl⟩
  unfold interveneEpisode
  rw [hrow]
  simp only [okOr, ok_bind, hread, beq_iff_eq.2 htarget, ensure_true, hlive, decide_false, Bool.not_false, hstart,
    decide_true, hcounter, show row.payload.version < Usage.u64Max by omega, intervened_valid hvalid, hnextVersion, hversion,
    hcas, hinsert]
  rfl

/-- **A receipt that is stored is answered with the episode**, and nothing changes. -/
theorem record_stored {row : LivenessRow} (hv : r.validate w = .ok ()) (hget : t.receipts.get r.interventionId = some r)
    (hrow : t.episodes.get r.episodeId = some row) (hvalid : row.payload.validate w = .ok ()) (hs : Sound t.links)
    (hlink : interventionLink w r ∈ t.links.rows) :
    recordInterventionReceiptInTransaction w r t = .ok (row.payload, t) := by
  unfold recordInterventionReceiptInTransaction replayReceipt
  rw [hv, ok_bind, interventionLink_eq, ok_bind, hget]
  simp only [checkedReceipt_ok.2 ⟨hv, rfl⟩, ok_bind, beq_self_eq_true, ensure_true, hrow, okOr,
    readEpisode_ok.2 ⟨hvalid, rfl⟩, record_again hs hlink, pure_ok]

end Recording

theorem record_new {w : Wire} {t t' : ControlTables} {r : InterventionReceipt} {e : LivenessEpisode}
    (hnone : t.receipts.get r.interventionId = none) (h : recordInterventionReceiptInTransaction w r t = .ok (e, t')) :
    ∃ row, Counted w t t' row r ∧ e = intervened w row.payload r ∧
      recordCorrelationLinkInTransaction t.links (interventionLink w r) = .ok t'.links ∧
      t'.humanActions = t.humanActions := by
  obtain ⟨hq | ⟨row, hc, he⟩, -, ⟨l, hl, hrec⟩, hstored, hactions⟩ := receipt_ok h
  · rw [hq.receipts] at hstored
    rw [Table.get_of_mem hstored] at hnone
    cases hnone
  · rw [interventionLink_eq] at hl
    cases hl
    exact ⟨row, hc, he, hrec, hactions⟩

section Retimed
variable {w : Wire} {t u t' : ControlTables} {p : InterventionPolicy} {q : Intervention} {row : LivenessRow} {now : Int}
  {e : LivenessEpisode}

def OwnLinks (w : Wire) (p : InterventionPolicy) (q : Intervention) (t : ControlTables) : Prop :=
  ∀ l ∈ t.links.rows, l.toId = interventionIdOf w p q → Grounded w t l

theorem link_free (hown : OwnLinks w p q t) (hnone : t.receipts.get (interventionIdOf w p q) = none)
    {links : Links}
    (h : recordCorrelationLinkInTransaction t.links (interventionLink w (requestReceipt w p q e now)) = .ok links) :
    t.links.get (interventionLink w (requestReceipt w p q e now)).linkId = none := by
  rcases record_cases h with ⟨hg, -⟩ | ⟨hfree, -⟩
  · -- a stored link of this receipt would be that of a stored receipt
    exfalso
    have hrel : (interventionLink w (requestReceipt w p q e now)).relation = "has_intervention" := rfl
    have hto : (interventionLink w (requestReceipt w p q e now)).toId = interventionIdOf w p q := rfl
    have hground := hown _ (Table.mem_of_get hg) rfl
    generalize interventionLink w (requestReceipt w p q e now) = l at hrel hto hground
    cases hground with
    | observation o _ h' => exact absurd ((relation_derived h').symm.trans hrel) (by decide)
    | receipt r hr h' =>
      rw [interventionLink_eq] at h'
      cases h'
      rw [← show r.interventionId = interventionIdOf w p q from hto, Table.get_of_mem hr] at hnone
      cases hnone
    | opening e h' => exact absurd ((relation_derived h').symm.trans hrel) (by decide)
    | finding g _ h' => exact absurd ((relation_derived h').symm.trans hrel) (by decide)
    | action a _ h' => exact absurd ((relation_derived h').symm.trans hrel) (by decide)
    | proof p h' => exact absurd ((relation_derived h').symm.trans hrel) (by decide)
  · exact hfree

/-- **Whether a request is recorded does not depend on its time**, nor on other tables. -/
theorem record_any_time (hs : Sound t.links) (hown : OwnLinks w p q t)
    (hnone : t.receipts.get (interventionIdOf w p q) = none) (hrow : t.episodes.get q.episodeId = some row)
    (h : recordInterventionReceiptInTransaction w (requestReceipt w p q row.payload now) t = .ok (e, t')) (now' : Int)
    (hlinks : u.links = t.links) (hepisodes : u.episodes = t.episodes) (hreceipts : u.receipts = t.receipts) :
    ∃ e' u', recordInterventionReceiptInTransaction w (requestReceipt w p q row.payload now') u = .ok (e', u') := by
  obtain ⟨row', hc, -, hrec, -⟩ := record_new hnone h
  obtain rfl : row' = row := Option.some.inj (hc.found.symm.trans hrow)
  obtain ⟨-, -, -, -, -, -, ⟨-, hzero, hmono⟩, -⟩ := validate_episode_iff.1 hc.valid
  have hv : (requestReceipt w p q row'.payload now').validate w = .ok () :=
    validate_requestReceipt (hzero.trans hmono) hc.validReceipt
  have hunseen : findReceipt u (requestReceipt w p q row'.payload now') = none := by
    have h' := hc.unseen
    unfold findReceipt at h' ⊢
    rw [hreceipts]
    exact h'
  obtain ⟨u', hintervene, hkeep⟩ := interveneEpisode_isOk (w := w) (t := u) (r := requestReceipt w p q row'.payload now')
    (by rw [hepisodes]; exact hrow) hc.valid hc.column hc.target hc.fits hc.nonterminal
    (hmono.trans (le_max_right _ _)) hc.counter (by rw [hreceipts]; exact hnone)
  obtain ⟨links, hlink⟩ := record_retimed hs (link_free hown hnone hrec) hrec
    (requestReceipt w p q row'.payload now').createdAtMs
  refine ⟨intervened w row'.payload (requestReceipt w p q row'.payload now'), { u' with links := links }, ?_⟩
  unfold recordInterventionReceiptInTransaction
  rw [hv, ok_bind, interventionLink_eq, ok_bind,
    show u.receipts.get (requestReceipt w p q row'.payload now').interventionId = none by rw [hreceipts]; exact hnone, hunseen]
  simp only [hintervene, ok_bind, hkeep, hlinks]
  rw [show interventionLink w (requestReceipt w p q row'.payload now') =
    { interventionLink w (requestReceipt w p q row'.payload now) with
      createdAtMs := (requestReceipt w p q row'.payload now').createdAtMs } from rfl, hlink]
  rfl

/-- What a stored receipt leaves: its episode counts one more, and the receipt is answered from there on. -/
structure StoredReceipt (w : Wire) (t t' : ControlTables) (row : LivenessRow) (r : InterventionReceipt) : Prop where
  before : t.episodes.get r.episodeId = some row
  after : t'.episodes.get r.episodeId = some (row.count (intervened w row.payload r))
  receipts : t'.receipts.rows = t.receipts.rows ++ [r]
  answered : recordInterventionReceiptInTransaction w r t' = .ok (intervened w row.payload r, t')
  valid : r.validate w = .ok ()

theorem StoredReceipt.get {r : InterventionReceipt} (h : StoredReceipt w t t' row r) :
    t'.receipts.get r.interventionId = some r := Table.get_of_mem (by rw [h.receipts]; simp)

theorem stored_of_record {r : InterventionReceipt} (hs : Sound t.links) (hnone : t.receipts.get r.interventionId = none)
    (h : recordInterventionReceiptInTransaction w r t = .ok (e, t')) :
    ∃ row, StoredReceipt w t t' row r ∧ e = intervened w row.payload r ∧ t'.humanActions = t.humanActions := by
  obtain ⟨row, hc, he, hrec, hactions⟩ := record_new hnone h
  have hafter : t'.episodes.get r.episodeId = some (row.count (intervened w row.payload r)) := by
    rw [Table.ext_rows (u := t.episodes.update (fun q => q.id == r.episodeId)
      (LivenessRow.count (intervened w row.payload r)) (fun _ => rfl)) hc.episodes]
    refine (Table.get_update t.episodes _ (LivenessRow.count (intervened w row.payload r)) (fun _ => rfl) _).trans ?_
    rw [hc.found, Option.map_some, if_pos (by simpa using Table.key_of_get hc.found)]
  have hget : t'.receipts.get r.interventionId = some r := Table.get_of_mem (by rw [hc.receipts]; simp)
  refine ⟨row, ⟨hc.found, hafter, hc.receipts, ?_, hc.validReceipt⟩, he, hactions⟩
  exact record_stored hc.validReceipt hget hafter hc.next (record_sound hs hrec).1 (mem_of_records hrec).1

end Retimed

/-! ## Waits -/

inductive WaitPhase
  | start | looked | ready (r : InterventionReceipt) | done (result : Except StoreError LivenessEpisode)

structure WaitCall where
  now : Int
  phase : WaitPhase

def waitNext (w : Wire) (q : Intervention) (t : ControlTables) (c : WaitCall) : ControlTables × WaitCall :=
  match c.phase with
  | .start =>
    match waitLookup w q t with
    | .error e     => (t, ⟨c.now, .done (.error e)⟩)
    | .ok none     => (t, ⟨c.now, .looked⟩)
    | .ok (some r) => (t, ⟨c.now, .ready r⟩)
  | .looked =>
    match waitReceipt w q c.now t with
    | .error e => (t, ⟨c.now, .done (.error e)⟩)
    | .ok r    => (t, ⟨c.now, .ready r⟩)
  | .ready r => ((recordInterventionReceipt w r t).2, ⟨c.now, .done (recordInterventionReceipt w r t).1⟩)
  | .done _  => (t, c)

def startWaits (t : ControlTables) (nows : List Int) : Pool ControlTables WaitCall :=
  ⟨t, nows.map (fun now => ⟨now, .start⟩)⟩

def WaitCall.answer (c : WaitCall) : Option (Except StoreError LivenessEpisode) :=
  match c.phase with
  | .done result => some result
  | _            => none

theorem wait_alone (w : Wire) (q : Intervention) (t : ControlTables) (now : Int) :
    (run (Calls.step (waitNext w q)) (startWaits t [now]) [0, 0, 0]).shared = (executeWaitIntervention w q now t).2 ∧
    (run (Calls.step (waitNext w q)) (startWaits t [now]) [0, 0, 0]).calls.map WaitCall.answer =
      [some (executeWaitIntervention w q now t).1] := by
  unfold executeWaitIntervention
  cases hl : waitLookup w q t with
  | error e => simp [Calls.step, Pool.call, startWaits, waitNext, hl, WaitCall.answer]
  | ok found =>
    cases found with
    | some r => simp [Calls.step, Pool.call, startWaits, waitNext, hl, WaitCall.answer]
    | none =>
      cases hr : waitReceipt w q now t with
      | error e => simp [Calls.step, Pool.call, startWaits, waitNext, hl, hr, WaitCall.answer]
      | ok r => simp [Calls.step, Pool.call, startWaits, waitNext, hl, hr, WaitCall.answer]

def WaitCall.left (c : WaitCall) : Nat :=
  match c.phase with
  | .start   => 3
  | .looked  => 2
  | .ready _ => 1
  | .done _  => 0

theorem left_next (w : Wire) (q : Intervention) (t : ControlTables) (c : WaitCall) :
    (waitNext w q t c).2.left ≤ c.left - 1 := by
  obtain ⟨now, phase⟩ := c
  cases phase with
  | start =>
    unfold waitNext
    simp only
    split <;> simp [WaitCall.left]
  | looked =>
    unfold waitNext
    simp only
    split <;> simp [WaitCall.left]
  | ready r => simp [waitNext, WaitCall.left]
  | done result => simp [waitNext, WaitCall.left]

/-- A wait does not read the episode after the receipt was stored, nor record its own after another one was. -/
def WaitPhase.Undisturbed (stored : Option InterventionReceipt) : WaitPhase → Prop
  | .start   => True
  | .looked  => stored = none
  | .ready r => ∀ s ∈ stored, s = r
  | .done _  => True

instance (stored : Option InterventionReceipt) : (phase : WaitPhase) → Decidable (phase.Undisturbed stored)
  | .start   => inferInstanceAs (Decidable True)
  | .looked  => inferInstanceAs (Decidable (stored = none))
  | .ready r => inferInstanceAs (Decidable (∀ s ∈ stored, s = r))
  | .done _  => inferInstanceAs (Decidable True)

/-- No wait takes its second lock after the receipt was stored, and none its third after another receipt was. -/
def Undisturbed (w : Wire) (q : Intervention) (p : Pool ControlTables WaitCall) (k : Nat) : Prop :=
  ∀ c ∈ p.call k, c.phase.Undisturbed (p.shared.receipts.get (interventionIdOf w waitPolicy q))

instance (w : Wire) (q : Intervention) (p : Pool ControlTables WaitCall) (k : Nat) : Decidable (Undisturbed w q p k) :=
  inferInstanceAs (Decidable (∀ c ∈ p.call k, c.phase.Undisturbed (p.shared.receipts.get (interventionIdOf w waitPolicy q))))

theorem waitReceipt_ok {w : Wire} {q : Intervention} {now : Int} {t : ControlTables} {r : InterventionReceipt} :
    waitReceipt w q now t = .ok r ↔ ∃ row, t.episodes.get q.episodeId = some row ∧ row.payload.validate w = .ok () ∧
      row.payload.version = q.expectedVersion ∧ r = requestReceipt w waitPolicy q row.payload now := by
  unfold waitReceipt livenessEpisode
  cases hg : t.episodes.get q.episodeId with
  | none => simp [okOr]
  | some row =>
    cases hv : row.payload.validate w with
    | error e => simp [readEpisode, hv, Except.isOk, Except.toBool, Except.map]
    | ok u =>
      simp only [readEpisode_ok.2 ⟨hv, rfl⟩, Except.map, ok_bind, okOr, ensure_bind_ok, beq_iff_eq,
        newReceipt_eq plain_wait, Except.ok.injEq]
      constructor
      · rintro ⟨hversion, rfl⟩
        exact ⟨row, rfl, hv, hversion, rfl⟩
      · rintro ⟨row', hrow, -, hversion, rfl⟩
        cases hrow
        exact ⟨hversion, rfl⟩

section Waits
variable {w : Wire} {q : Intervention} {t : ControlTables}

def CanStore (w : Wire) (q : Intervention) (t : ControlTables) (now : Int) : Prop :=
  ∃ r e t', waitReceipt w q now t = .ok r ∧ recordInterventionReceiptInTransaction w r t = .ok (e, t')

theorem canStore_any (hs : Sound t.links) (hown : OwnLinks w waitPolicy q t)
    (hnone : t.receipts.get (interventionIdOf w waitPolicy q) = none) {now : Int} (h : CanStore w q t now) (now' : Int) :
    CanStore w q t now' := by
  obtain ⟨r, e, t', hr, hrec⟩ := h
  obtain ⟨row, hrow, hvalid, hversion, rfl⟩ := waitReceipt_ok.1 hr
  obtain ⟨e', u', hrec'⟩ := record_any_time hs hown hnone hrow hrec now' rfl rfl rfl
  exact ⟨_, e', u', waitReceipt_ok.2 ⟨row, hrow, hvalid, hversion, rfl⟩, hrec'⟩

/-- Nothing is stored yet: each wait is on its way, or was refused as every wait would be. -/
structure BeforeWait (w : Wire) (q : Intervention) (t : ControlTables) (p : Pool ControlTables WaitCall) : Prop where
  shared : p.shared = t
  ready : ∀ k c r, p.call k = some c → c.phase = .ready r → waitReceipt w q c.now t = .ok r
  refused : ∀ k c result, p.call k = some c → c.phase = .done result → ¬ CanStore w q t c.now

/-- One wait has stored its receipt, and every answer is the episode that counts it. -/
structure AfterWait (w : Wire) (q : Intervention) (t : ControlTables) (p : Pool ControlTables WaitCall) (row : LivenessRow)
    (r : InterventionReceipt) : Prop where
  stored : StoredReceipt w t p.shared row r
  request : matchesRequest w waitPolicy q r = true
  id : r.interventionId = interventionIdOf w waitPolicy q
  actions : p.shared.humanActions = t.humanActions
  answers : ∀ k c result, p.call k = some c → c.phase = .done result → result = .ok (intervened w row.payload r)

theorem matches_request {p : InterventionPolicy} {e : LivenessEpisode} {now : Int} :
    matchesRequest w p q (requestReceipt w p q e now) = true := by
  simp [matchesRequest, requestReceipt, InterventionReceipt.signed]

theorem waitReceipt_request {now : Int} {r : InterventionReceipt} (h : waitReceipt w q now t = .ok r) :
    r.interventionId = interventionIdOf w waitPolicy q ∧ matchesRequest w waitPolicy q r = true := by
  obtain ⟨row, -, -, -, rfl⟩ := waitReceipt_ok.1 h
  exact ⟨rfl, matches_request⟩

/-- **A step before the receipt is stored** stores nothing, or stores it. -/
theorem BeforeWait.step (hs : Sound t.links) (hown : OwnLinks w waitPolicy q t)
    (hnone : t.receipts.get (interventionIdOf w waitPolicy q) = none) {p : Pool ControlTables WaitCall}
    (h : BeforeWait w q t p) (k : Nat) :
    BeforeWait w q t (Calls.step (waitNext w q) p k) ∨ ∃ row r, AfterWait w q t (Calls.step (waitNext w q) p k) row r := by
  cases hc : p.call k with
  | none =>
    rw [Calls.step_none hc]
    exact Or.inl h
  | some c =>
    have hshared : (Calls.step (waitNext w q) p k).shared = (waitNext w q p.shared c).1 := Calls.step_shared hc
    have hlookup : waitLookup w q t = .ok none := by
      unfold waitLookup
      rw [hnone]
    -- a step that leaves the tables and keeps what is known of the call
    have hstay : ∀ d, waitNext w q p.shared c = (t, d) → (∀ r, d.phase = .ready r → waitReceipt w q d.now t = .ok r) →
        (∀ result, d.phase = .done result → ¬ CanStore w q t d.now) → BeforeWait w q t (Calls.step (waitNext w q) p k) := by
      intro d hd hready hrefused
      rw [hd] at hshared
      refine ⟨hshared, fun j b r hb hr => ?_, fun j b result hb hr => ?_⟩
      · rcases Calls.step_call_cases hc hb with ⟨-, hb⟩ | ⟨-, hb⟩
        · rw [hd] at hb
          subst hb
          exact hready r hr
        · exact h.ready j b r hb hr
      · rcases Calls.step_call_cases hc hb with ⟨-, hb⟩ | ⟨-, hb⟩
        · rw [hd] at hb
          subst hb
          exact hrefused result hr
        · exact h.refused j b result hb hr
    obtain ⟨now, phase⟩ := c
    cases phase with
    | start =>
      left
      refine hstay ⟨now, .looked⟩ ?_ (fun r hr => by cases hr) (fun result hr => by cases hr)
      simp only [waitNext, h.shared, hlookup]
    | looked =>
      left
      cases hr : waitReceipt w q now t with
      | error e =>
        refine hstay ⟨now, .done (.error e)⟩ ?_ (fun r hr' => by cases hr') (fun result _ hcan => ?_)
        · simp only [waitNext, h.shared, hr]
        · obtain ⟨r, e', t', hr', -⟩ := hcan
          rw [hr] at hr'
          cases hr'
      | ok r =>
        refine hstay ⟨now, .ready r⟩ ?_ (fun r' hr' => by cases hr'; exact hr) (fun result hr' => by cases hr')
        simp only [waitNext, h.shared, hr]
    | ready r =>
      have hr : waitReceipt w q now t = .ok r := h.ready k ⟨now, .ready r⟩ r hc rfl
      obtain ⟨hid, hmatches⟩ := waitReceipt_request hr
      rcases transaction_cases (recordInterventionReceiptInTransaction w r) t with ⟨e, hb, hcall⟩ | ⟨e, t', hb, hcall⟩
      · left
        refine hstay ⟨now, .done (.error e)⟩ ?_ (fun r hr' => by cases hr') (fun result _ hcan => ?_)
        · simp only [waitNext, h.shared, recordInterventionReceipt, hcall]
        · obtain ⟨r', e', t', hr', hrec⟩ := hcan
          rw [hr] at hr'
          cases hr'
          rw [hb] at hrec
          cases hrec
      · -- the receipt is stored; a wait refused before could have stored it as well
        right
        obtain ⟨row, hstored, rfl, hactions⟩ := stored_of_record hs (by rw [hid]; exact hnone) hb
        have hnext : waitNext w q p.shared ⟨now, .ready r⟩ = (t', ⟨now, .done (.ok (intervened w row.payload r))⟩) := by
          simp only [waitNext, h.shared, recordInterventionReceipt, hcall]
        rw [hnext] at hshared
        refine ⟨row, r, by rw [hshared]; exact hstored, hmatches, hid, by rw [hshared]; exact hactions,
          fun j b result hb' hr' => ?_⟩
        rcases Calls.step_call_cases hc hb' with ⟨-, hb'⟩ | ⟨-, hb'⟩
        · rw [hnext] at hb'
          subst hb'
          cases hr'
          rfl
        · exact absurd (canStore_any hs hown hnone ⟨_, _, _, hr, hb⟩ b.now) (h.refused j b result hb' hr')
    | done result =>
      left
      refine hstay ⟨now, .done result⟩ ?_ (fun r hr => by cases hr) (fun result' hr => h.refused k ⟨now, .done result⟩ result' hc hr)
      simp only [waitNext, h.shared]

/-- **A step after the receipt is stored** leaves the tables, and an answer is the episode. -/
theorem AfterWait.step {p : Pool ControlTables WaitCall} {row : LivenessRow} {r : InterventionReceipt}
    (h : AfterWait w q t p row r) {k : Nat} (hk : Undisturbed w q p k) :
    AfterWait w q t (Calls.step (waitNext w q) p k) row r := by
  cases hc : p.call k with
  | none =>
    rw [Calls.step_none hc]
    exact h
  | some c =>
    have hget : p.shared.receipts.get (interventionIdOf w waitPolicy q) = some r := by
      rw [← h.id]
      exact h.stored.get
    have hshared : (Calls.step (waitNext w q) p k).shared = (waitNext w q p.shared c).1 := Calls.step_shared hc
    have hstay : ∀ d, waitNext w q p.shared c = (p.shared, d) →
        (∀ result, d.phase = .done result → result = .ok (intervened w row.payload r)) →
        AfterWait w q t (Calls.step (waitNext w q) p k) row r := by
      intro d hd hanswer
      rw [hd] at hshared
      refine ⟨by rw [hshared]; exact h.stored, h.request, h.id, by rw [hshared]; exact h.actions, fun j b result hb hr => ?_⟩
      rcases Calls.step_call_cases hc hb with ⟨-, hb⟩ | ⟨-, hb⟩
      · rw [hd] at hb
        subst hb
        exact hanswer result hr
      · exact h.answers j b result hb hr
    obtain ⟨now, phase⟩ := c
    cases phase with
    | start =>
      have hlookup : waitLookup w q p.shared = .ok (some r) := by
        unfold waitLookup
        rw [hget]
        simp only [checkedReceipt_ok.2 ⟨h.stored.valid, rfl⟩, ok_bind, h.request, ensure_true, pure_ok]
      refine hstay ⟨now, .ready r⟩ ?_ (fun result hr => by cases hr)
      simp only [waitNext, hlookup]
    | looked =>
      have hfree : p.shared.receipts.get (interventionIdOf w waitPolicy q) = none := hk ⟨now, .looked⟩ hc
      rw [hget] at hfree
      cases hfree
    | ready r' =>
      obtain rfl : r = r' := hk ⟨now, .ready r'⟩ hc r hget
      have hcall : recordInterventionReceipt w r p.shared = (.ok (intervened w row.payload r), p.shared) := by
        unfold recordInterventionReceipt transaction
        rw [h.stored.answered]
      refine hstay ⟨now, .done (.ok (intervened w row.payload r))⟩ ?_ (fun result hr => by cases hr; rfl)
      simp only [waitNext, hcall]
    | done result =>
      refine hstay ⟨now, .done result⟩ ?_ (fun result' hr => h.answers k ⟨now, .done result⟩ result' hc hr)
      simp only [waitNext]

/-- **Waits on their way**: nothing is stored yet, or one receipt is. -/
theorem waits_along (hs : Sound t.links) (hown : OwnLinks w waitPolicy q t)
    (hnone : t.receipts.get (interventionIdOf w waitPolicy q) = none) : ∀ (ks : List Nat) {p : Pool ControlTables WaitCall},
    (BeforeWait w q t p ∨ ∃ row r, AfterWait w q t p row r) → Along (Calls.step (waitNext w q)) (Undisturbed w q) p ks →
    BeforeWait w q t (run (Calls.step (waitNext w q)) p ks) ∨
      ∃ row r, AfterWait w q t (run (Calls.step (waitNext w q)) p ks) row r
  | [], _, h, _ => h
  | k :: ks, p, h, hks => by
    rw [Trace.run_cons]
    refine waits_along hs hown hnone ks ?_ hks.2
    rcases h with h | ⟨row, r, h⟩
    · exact h.step hs hown hnone k
    · exact Or.inr ⟨row, r, h.step hks.1⟩

theorem beforeWait_start (nows : List Int) : BeforeWait w q t (startWaits t nows) := by
  have hstart : ∀ {k : Nat} {c : WaitCall}, (startWaits t nows).call k = some c → c.phase = .start := by
    intro k c hc
    obtain ⟨now, -, rfl⟩ := List.mem_map.1 (List.mem_of_getElem? hc)
    rfl
  refine ⟨rfl, fun k c r hc hr => ?_, fun k c result hc hr => ?_⟩
  · rw [hstart hc] at hr
    cases hr
  · rw [hstart hc] at hr
    cases hr

end Waits

/-! ## Pauses -/

structure PauseCall where
  now : Int
  answer : Option (Except StoreError LivenessEpisode)

def pauseNext (w : Wire) (q : Intervention) (t : ControlTables) (c : PauseCall) : ControlTables × PauseCall :=
  match c.answer with
  | none   => ((executePauseForOperatorIntervention w q c.now t).2,
      ⟨c.now, some (executePauseForOperatorIntervention w q c.now t).1⟩)
  | some _ => (t, c)

def startPauses (t : ControlTables) (nows : List Int) : Pool ControlTables PauseCall :=
  ⟨t, nows.map (fun now => ⟨now, none⟩)⟩

def PauseCall.left (c : PauseCall) : Nat :=
  match c.answer with
  | none   => 1
  | some _ => 0

theorem left_pause (w : Wire) (q : Intervention) (t : ControlTables) (c : PauseCall) :
    (pauseNext w q t c).2.left ≤ c.left - 1 := by
  obtain ⟨now, answer⟩ := c
  cases answer with
  | none => simp [pauseNext, PauseCall.left]
  | some result => simp [pauseNext, PauseCall.left]

section Pauses
variable {w : Wire} {q : Intervention} {t t' : ControlTables} {now : Int} {e : LivenessEpisode}

def pauseAction (w : Wire) (q : Intervention) (t : ControlTables) (e : LivenessEpisode) (runId : String) (paused : Bool)
    (now : Int) : HumanAction :=
  ⟨nextActionId t, some runId, none, q.requestedBy, "pause_scheduler_from_liveness", "liveness_episode", q.episodeId,
    (requestReceipt w pausePolicy q e now).createdAtMs,
    pauseActionPayload q e (requestReceipt w pausePolicy q e now) paused⟩

structure Pausable (w : Wire) (q : Intervention) (t : ControlTables) (row : LivenessRow) (runId : String)
    (paused : Bool) : Prop where
  found : t.episodes.get q.episodeId = some row
  valid : row.payload.validate w = .ok ()
  version : row.payload.version = q.expectedVersion
  stalled : row.payload.state = .confirmedStall ∨ row.payload.state = .recoveryRequired
  owner : row.payload.runId = some runId
  running : (t.runs.get runId).map (fun x => x.schedulerPaused) = some paused

theorem pauseBody_new (hnone : t.receipts.get (interventionIdOf w pausePolicy q) = none) :
    pauseBody w q now t = .ok (e, t') ↔ ∃ row runId paused humanActions runs, Pausable w q t row runId paused ∧
      insertRow t.humanActions (pauseAction w q t row.payload runId paused now) = .ok humanActions ∧
      runs = (if paused then t.runs else t.runs.update (fun x => x.id == runId)
        (fun x => { x with
          schedulerPaused := true, updatedAt := (requestReceipt w pausePolicy q row.payload now).createdAtMs
          version := x.version + 1 }) (fun _ => rfl)) ∧
      recordInterventionReceiptInTransaction w (requestReceipt w pausePolicy q row.payload now)
        { t with
          humanActions := humanActions
          runs := runs } = .ok (e, t') := by
  unfold pauseBody
  rw [hnone]
  constructor
  · intro h
    obtain ⟨row, hrow, h⟩ := bind_ok h
    obtain ⟨e₀, hread, h⟩ := bind_ok h
    obtain ⟨hvalid, rfl⟩ := readEpisode_ok.1 hread
    obtain ⟨hversion, h⟩ := ensure_bind_ok.1 h
    obtain ⟨hstate, h⟩ := ensure_bind_ok.1 h
    obtain ⟨runId, hrun, h⟩ := bind_ok h
    obtain ⟨run, hget, h⟩ := bind_ok h
    rw [newReceipt_eq plain_pause, ok_bind] at h
    obtain ⟨humanActions, hinsert, h⟩ := bind_ok h
    refine ⟨row, runId, run.schedulerPaused, humanActions, _, ⟨okOr_ok hrow, hvalid, by simpa using hversion,
      by simpa using hstate, okOr_ok hrun, by rw [okOr_ok hget, Option.map_some]⟩, hinsert, rfl, h⟩
  · rintro ⟨row, runId, paused, humanActions, runs, hp, hinsert, rfl, h⟩
    obtain ⟨run, hrun, rfl⟩ := Option.map_eq_some_iff.1 hp.running
    simp only [hp.found, okOr, ok_bind, readEpisode_ok.2 ⟨hp.valid, rfl⟩, beq_iff_eq.2 hp.version, ensure_true,
      show (decide (row.payload.state = .confirmedStall) || decide (row.payload.state = .recoveryRequired)) = true by
        simpa using hp.stalled, hp.owner, hrun, newReceipt_eq plain_pause]
    rw [show insertRow t.humanActions ⟨nextActionId t, some runId, none, q.requestedBy, "pause_scheduler_from_liveness",
      "liveness_episode", q.episodeId, (requestReceipt w pausePolicy q row.payload now).createdAtMs,
      pauseActionPayload q row.payload (requestReceipt w pausePolicy q row.payload now) run.schedulerPaused⟩ =
      .ok humanActions from hinsert]
    exact h

theorem pause_any_time (hs : Sound t.links) (hown : OwnLinks w pausePolicy q t)
    (hnone : t.receipts.get (interventionIdOf w pausePolicy q) = none) (h : pauseBody w q now t = .ok (e, t'))
    (now' : Int) : ∃ e' u', pauseBody w q now' t = .ok (e', u') := by
  obtain ⟨row, runId, paused, humanActions, runs, hp, hinsert, -, h⟩ := (pauseBody_new hnone).1 h
  -- the key of the action is the next one, whatever its time
  obtain ⟨humanActions', hinsert'⟩ := insertRow_isOk (t := t.humanActions)
    (r := pauseAction w q t row.payload runId paused now') (insertRow_ok_iff.1 hinsert).1
  obtain ⟨e', u', hrec⟩ := record_any_time (t := { t with
      humanActions := humanActions
      runs := runs }) (u := { t with
      humanActions := humanActions'
      runs := if paused then t.runs else t.runs.update (fun x => x.id == runId)
        (fun x => { x with
          schedulerPaused := true, updatedAt := (requestReceipt w pausePolicy q row.payload now').createdAtMs
          version := x.version + 1 }) (fun _ => rfl) })
    hs (fun l hl hto => (hown l hl hto).extend ⟨List.prefix_rfl, List.prefix_rfl, List.prefix_rfl,
      List.prefix_rfl⟩) hnone hp.found h now' rfl rfl rfl
  exact ⟨e', u', (pauseBody_new hnone).2 ⟨row, runId, paused, humanActions', _, hp, hinsert', rfl, hrec⟩⟩

/-- Nothing is stored yet: a pause that was answered was refused, as every pause would be. -/
structure BeforePause (w : Wire) (q : Intervention) (t : ControlTables) (p : Pool ControlTables PauseCall) : Prop where
  shared : p.shared = t
  refused : ∀ k c result, p.call k = some c → c.answer = some result → ∀ e t', pauseBody w q c.now t ≠ .ok (e, t')

/-- One pause has stored its receipt and its action, and every answer is the episode that counts it. -/
structure AfterPause (w : Wire) (q : Intervention) (t : ControlTables) (p : Pool ControlTables PauseCall)
    (row : LivenessRow) (r : InterventionReceipt) (a : HumanAction) : Prop where
  stored : StoredReceipt w t p.shared row r
  request : matchesRequest w pausePolicy q r = true
  id : r.interventionId = interventionIdOf w pausePolicy q
  actions : p.shared.humanActions.rows = t.humanActions.rows ++ [a]
  answers : ∀ k c result, p.call k = some c → c.answer = some result → result = .ok (intervened w row.payload r)

/-- **A pause before the receipt is stored** is refused, or stores it. -/
theorem BeforePause.step (hs : Sound t.links) (hown : OwnLinks w pausePolicy q t)
    (hnone : t.receipts.get (interventionIdOf w pausePolicy q) = none) {p : Pool ControlTables PauseCall}
    (h : BeforePause w q t p) (k : Nat) : BeforePause w q t (Calls.step (pauseNext w q) p k) ∨
      ∃ row r a, AfterPause w q t (Calls.step (pauseNext w q) p k) row r a := by
  cases hc : p.call k with
  | none =>
    rw [Calls.step_none hc]
    exact Or.inl h
  | some c =>
    have hshared : (Calls.step (pauseNext w q) p k).shared = (pauseNext w q p.shared c).1 := Calls.step_shared hc
    obtain ⟨now, answer⟩ := c
    cases answer with
    | some result =>
      left
      have hnext : pauseNext w q p.shared ⟨now, some result⟩ = (p.shared, ⟨now, some result⟩) := rfl
      rw [hnext] at hshared
      refine ⟨hshared.trans h.shared, fun j b result' hb hr => ?_⟩
      rcases Calls.step_call_cases hc hb with ⟨-, hb⟩ | ⟨-, hb⟩
      · rw [hnext] at hb
        subst hb
        exact h.refused k ⟨now, some result⟩ result' hc hr
      · exact h.refused j b result' hb hr
    | none =>
      rcases transaction_cases (pauseBody w q now) t with ⟨e, hb, hcall⟩ | ⟨e, t', hb, hcall⟩
      · left
        have hnext : pauseNext w q p.shared ⟨now, none⟩ = (t, ⟨now, some (.error e)⟩) := by
          simp only [pauseNext, h.shared, executePauseForOperatorIntervention, hcall]
        rw [hnext] at hshared
        refine ⟨hshared, fun j b result' hb' hr e' t' => ?_⟩
        rcases Calls.step_call_cases hc hb' with ⟨-, hb'⟩ | ⟨-, hb'⟩
        · rw [hnext] at hb'
          subst hb'
          rw [hb]
          simp
        · exact h.refused j b result' hb' hr e' t'
      · right
        have hnext : pauseNext w q p.shared ⟨now, none⟩ = (t', ⟨now, some (.ok e)⟩) := by
          simp only [pauseNext, h.shared, executePauseForOperatorIntervention, hcall]
        rw [hnext] at hshared
        obtain ⟨row, runId, paused, humanActions, runs, hp, hinsert, -, hrec⟩ := (pauseBody_new hnone).1 hb
        obtain ⟨row', hstored, rfl, hactions⟩ := stored_of_record (t := { t with
          humanActions := humanActions
          runs := runs }) hs hnone hrec
        refine ⟨row', requestReceipt w pausePolicy q row.payload now, pauseAction w q t row.payload runId paused now,
          ?_, matches_request, rfl, ?_, fun j b result' hb' hr => ?_⟩
        · rw [hshared]
          exact { hstored with }
        · rw [hshared]
          exact (congrArg Table.rows hactions).trans (insertRow_ok_iff.1 hinsert).2
        · rcases Calls.step_call_cases hc hb' with ⟨-, hb'⟩ | ⟨-, hb'⟩
          · rw [hnext] at hb'
            subst hb'
            exact (Option.some.inj hr).symm
          · obtain ⟨e', u', hpause⟩ := pause_any_time hs hown hnone hb b.now
            exact absurd hpause (h.refused j b result' hb' hr e' u')

/-- **A pause after the receipt is stored** leaves the tables and is answered with the episode. -/
theorem AfterPause.step {p : Pool ControlTables PauseCall} {row : LivenessRow} {r : InterventionReceipt} {a : HumanAction}
    (h : AfterPause w q t p row r a) (k : Nat) : AfterPause w q t (Calls.step (pauseNext w q) p k) row r a := by
  cases hc : p.call k with
  | none =>
    rw [Calls.step_none hc]
    exact h
  | some c =>
    have hget : p.shared.receipts.get (interventionIdOf w pausePolicy q) = some r := by
      rw [← h.id]
      exact h.stored.get
    have hbody : ∀ now, pauseBody w q now p.shared = .ok (intervened w row.payload r, p.shared) := by
      intro now
      unfold pauseBody
      rw [hget]
      simp only [checkedReceipt_ok.2 ⟨h.stored.valid, rfl⟩, ok_bind, h.request, ensure_true]
      exact h.stored.answered
    have hshared : (Calls.step (pauseNext w q) p k).shared = (pauseNext w q p.shared c).1 := Calls.step_shared hc
    have hnext : (pauseNext w q p.shared c).1 = p.shared ∧ ∀ result, (pauseNext w q p.shared c).2.answer = some result →
        result = .ok (intervened w row.payload r) := by
      obtain ⟨now, answer⟩ := c
      cases answer with
      | some result => exact ⟨rfl, fun result' hr => h.answers k ⟨now, some result⟩ result' hc hr⟩
      | none =>
        simp only [pauseNext, executePauseForOperatorIntervention, transaction, hbody, Option.some.injEq]
        exact ⟨trivial, fun result hr => hr.symm⟩
    rw [hnext.1] at hshared
    refine ⟨by rw [hshared]; exact h.stored, h.request, h.id, by rw [hshared]; exact h.actions, fun j b result hb hr => ?_⟩
    rcases Calls.step_call_cases hc hb with ⟨-, rfl⟩ | ⟨-, hb⟩
    · exact hnext.2 result hr
    · exact h.answers j b result hb hr

theorem pauses_along (hs : Sound t.links) (hown : OwnLinks w pausePolicy q t)
    (hnone : t.receipts.get (interventionIdOf w pausePolicy q) = none) : ∀ (ks : List Nat)
    {p : Pool ControlTables PauseCall}, (BeforePause w q t p ∨ ∃ row r a, AfterPause w q t p row r a) →
    BeforePause w q t (run (Calls.step (pauseNext w q)) p ks) ∨
      ∃ row r a, AfterPause w q t (run (Calls.step (pauseNext w q)) p ks) row r a
  | [], _, h => h
  | k :: ks, p, h => by
    rw [Trace.run_cons]
    refine pauses_along hs hown hnone ks ?_
    rcases h with h | ⟨row, r, a, h⟩
    · exact h.step hs hown hnone k
    · exact Or.inr ⟨row, r, a, h.step k⟩

theorem beforePause_start (nows : List Int) : BeforePause w q t (startPauses t nows) := by
  refine ⟨rfl, fun k c result hc hr => ?_⟩
  obtain ⟨now, -, rfl⟩ := List.mem_map.1 (List.mem_of_getElem? hc)
  cases hr

end Pauses

/-! ## Exactly once -/

/-- Identical requests came from `t` to `t'` with these answers: nothing is stored, or one receipt is, with so many human
actions; its episode counts one more, and every answer is this episode. -/
def ExactlyOnce (w : Wire) (p : InterventionPolicy) (q : Intervention) (actions : Nat) (t t' : ControlTables)
    (answers : List (Except StoreError LivenessEpisode)) : Prop :=
  t' = t ∨ ∃ row r written, matchesRequest w p q r = true ∧ r.interventionId = interventionIdOf w p q ∧
    t'.receipts.rows = t.receipts.rows ++ [r] ∧
    t'.humanActions.rows = t.humanActions.rows ++ written ∧ written.length = actions ∧
    t.episodes.get q.episodeId = some row ∧
    t'.episodes.get q.episodeId = some (row.count (intervened w row.payload r)) ∧
    (intervened w row.payload r).interventionCount = row.payload.interventionCount + 1 ∧
    ∀ result ∈ answers, result = .ok (intervened w row.payload r)

theorem matches_episode {w : Wire} {p : InterventionPolicy} {q : Intervention} {r : InterventionReceipt}
    (h : matchesRequest w p q r = true) : r.episodeId = q.episodeId := by
  unfold matchesRequest at h
  simp only [Bool.and_eq_true, beq_iff_eq] at h
  exact h.1.1.1.1.1

theorem once_of_stored {w : Wire} {p : InterventionPolicy} {q : Intervention} {t t' : ControlTables} {row : LivenessRow}
    {r : InterventionReceipt} {written : List HumanAction} {answers : List (Except StoreError LivenessEpisode)}
    (h : StoredReceipt w t t' row r) (hrequest : matchesRequest w p q r = true)
    (hid : r.interventionId = interventionIdOf w p q) (hactions : t'.humanActions.rows = t.humanActions.rows ++ written)
    (hanswers : ∀ result ∈ answers, result = .ok (intervened w row.payload r)) :
    ExactlyOnce w p q written.length t t' answers := by
  have hepisode := matches_episode hrequest
  exact Or.inr ⟨row, r, written, hrequest, hid, h.receipts, hactions, rfl, hepisode ▸ h.before, hepisode ▸ h.after, rfl,
    hanswers⟩

def answersOf {π : Type} (answer : π → Option (Except StoreError LivenessEpisode)) (p : Pool ControlTables π) :
    List (Except StoreError LivenessEpisode) := p.calls.filterMap answer

theorem mem_answersOf {π : Type} {answer : π → Option (Except StoreError LivenessEpisode)} {p : Pool ControlTables π}
    {result : Except StoreError LivenessEpisode} (h : result ∈ answersOf answer p) :
    ∃ k c, p.call k = some c ∧ answer c = some result := by
  obtain ⟨c, hc, hr⟩ := List.mem_filterMap.1 h
  obtain ⟨k, hk⟩ := List.mem_iff_getElem?.1 hc
  exact ⟨k, c, hk, hr⟩

theorem phase_of_answer {c : WaitCall} {result : Except StoreError LivenessEpisode} (h : c.answer = some result) :
    c.phase = .done result := by
  obtain ⟨now, phase⟩ := c
  cases phase with
  | done result' => exact congrArg WaitPhase.done (Option.some.inj h)
  | start => cases h
  | looked => cases h
  | ready r => cases h

theorem answer_of_left {c : WaitCall} (h : c.left = 0) : c.answer.isSome = true := by
  obtain ⟨now, phase⟩ := c
  cases phase with
  | done result => rfl
  | start => cases h
  | looked => cases h
  | ready r => cases h

theorem waits_once {w : Wire} {q : Intervention} {t : ControlTables} (hs : Sound t.links)
    (hown : OwnLinks w waitPolicy q t) (hnone : t.receipts.get (interventionIdOf w waitPolicy q) = none)
    {nows : List Int} {ks : List Nat} (hks : Along (Calls.step (waitNext w q)) (Undisturbed w q) (startWaits t nows) ks) :
    ExactlyOnce w waitPolicy q 0 t (run (Calls.step (waitNext w q)) (startWaits t nows) ks).shared
      (answersOf WaitCall.answer (run (Calls.step (waitNext w q)) (startWaits t nows) ks)) := by
  rcases waits_along hs hown hnone ks (Or.inl (beforeWait_start nows)) hks with h | ⟨row, r, h⟩
  · exact Or.inl h.shared
  · have hactions : (run (Calls.step (waitNext w q)) (startWaits t nows) ks).shared.humanActions.rows =
        t.humanActions.rows ++ [] := by rw [h.actions, List.append_nil]
    refine once_of_stored h.stored h.request h.id hactions (fun result hr => ?_)
    obtain ⟨k, c, hc, ha⟩ := mem_answersOf hr
    exact h.answers k c result hc (phase_of_answer ha)

theorem pauses_once {w : Wire} {q : Intervention} {t : ControlTables} (hs : Sound t.links)
    (hown : OwnLinks w pausePolicy q t) (hnone : t.receipts.get (interventionIdOf w pausePolicy q) = none)
    (nows : List Int) (ks : List Nat) :
    ExactlyOnce w pausePolicy q 1 t (run (Calls.step (pauseNext w q)) (startPauses t nows) ks).shared
      (answersOf PauseCall.answer (run (Calls.step (pauseNext w q)) (startPauses t nows) ks)) := by
  rcases pauses_along hs hown hnone ks (Or.inl (beforePause_start nows)) with h | ⟨row, r, a, h⟩
  · exact Or.inl h.shared
  · refine once_of_stored h.stored h.request h.id h.actions (fun result hr => ?_)
    obtain ⟨k, c, hc, ha⟩ := mem_answersOf hr
    exact h.answers k c result hc ha

theorem waits_answered (w : Wire) (q : Intervention) (t : ControlTables) {nows : List Int} {ks : List Nat} {k : Nat}
    (hk : k < nows.length) (hcount : 3 ≤ ks.count k) :
    ∃ c, (run (Calls.step (waitNext w q)) (startWaits t nows) ks).call k = some c ∧ c.answer.isSome = true := by
  obtain ⟨c, hc, hle⟩ := Calls.rank_run (left_next w q) ks (p := startWaits t nows) (k := k)
    (c := ⟨nows[k], .start⟩) (by simp [Pool.call, startWaits, hk])
  refine ⟨c, hc, answer_of_left ?_⟩
  have : WaitCall.left ⟨nows[k], .start⟩ = 3 := rfl
  omega

theorem pauses_answered (w : Wire) (q : Intervention) (t : ControlTables) {nows : List Int} {ks : List Nat} {k : Nat}
    (hk : k < nows.length) (hcount : 1 ≤ ks.count k) :
    ∃ c, (run (Calls.step (pauseNext w q)) (startPauses t nows) ks).call k = some c ∧ c.answer.isSome = true := by
  obtain ⟨c, hc, hle⟩ := Calls.rank_run (left_pause w q) ks (p := startPauses t nows) (k := k)
    (c := ⟨nows[k], none⟩) (by simp [Pool.call, startPauses, hk])
  have hstart : PauseCall.left ⟨nows[k], none⟩ = 1 := rfl
  refine ⟨c, hc, ?_⟩
  obtain ⟨now, answer⟩ := c
  cases answer with
  | some result => rfl
  | none =>
    have : PauseCall.left ⟨now, none⟩ = 1 := rfl
    omega

theorem ownLinks_run {w : CustodyWire} {p : InterventionPolicy} {q : Intervention} {calls : List ControlCall}
    (h : ∀ l, .link l ∈ calls → l.toId ≠ interventionIdOf w.toWire p q) :
    Sound (run (perform w) ControlTables.empty calls).links ∧
      OwnLinks w.toWire p q (run (perform w) ControlTables.empty calls) := by
  have hempty : LinkLedger w.toWire (fun l => l.toId ≠ interventionIdOf w.toWire p q) ControlTables.empty :=
    linkLedger_empty w.toWire _
  have hledger := linkLedger_run calls hempty h
  exact ⟨hledger.sound, fun l hl hto => (hledger.grounded l hl).resolve_left (fun hne => hne hto)⟩

/-- **Waits and pauses that are requested again.**  Identical pauses act exactly once in every interleaving; so do identical
waits in every interleaving without a wait that goes on after another one stored the receipt. -/
theorem interventions_exactly_once {w : CustodyWire} {q : Intervention} {calls : List ControlCall}
    (hlinks : ∀ p ∈ [waitPolicy, pausePolicy], ∀ l, .link l ∈ calls → l.toId ≠ interventionIdOf w.toWire p q)
    (nows : List Int) (ks : List Nat) :
    ((run (perform w) ControlTables.empty calls).receipts.get (interventionIdOf w.toWire waitPolicy q) = none →
      Along (Calls.step (waitNext w.toWire q)) (Undisturbed w.toWire q)
        (startWaits (run (perform w) ControlTables.empty calls) nows) ks →
      ExactlyOnce w.toWire waitPolicy q 0 (run (perform w) ControlTables.empty calls)
        (run (Calls.step (waitNext w.toWire q)) (startWaits (run (perform w) ControlTables.empty calls) nows) ks).shared
        (answersOf WaitCall.answer
          (run (Calls.step (waitNext w.toWire q)) (startWaits (run (perform w) ControlTables.empty calls) nows) ks))) ∧
    ((run (perform w) ControlTables.empty calls).receipts.get (interventionIdOf w.toWire pausePolicy q) = none →
      ExactlyOnce w.toWire pausePolicy q 1 (run (perform w) ControlTables.empty calls)
        (run (Calls.step (pauseNext w.toWire q)) (startPauses (run (perform w) ControlTables.empty calls) nows) ks).shared
        (answersOf PauseCall.answer
          (run (Calls.step (pauseNext w.toWire q)) (startPauses (run (perform w) ControlTables.empty calls) nows) ks))) ∧
    ∀ k < nows.length,
      (3 ≤ ks.count k → ∃ c, (run (Calls.step (waitNext w.toWire q))
        (startWaits (run (perform w) ControlTables.empty calls) nows) ks).call k = some c ∧ c.answer.isSome = true) ∧
      (1 ≤ ks.count k → ∃ c, (run (Calls.step (pauseNext w.toWire q))
        (startPauses (run (perform w) ControlTables.empty calls) nows) ks).call k = some c ∧ c.answer.isSome = true) := by
  obtain ⟨hs, hwait⟩ := ownLinks_run (p := waitPolicy) (hlinks waitPolicy (by simp))
  obtain ⟨-, hpause⟩ := ownLinks_run (p := pausePolicy) (hlinks pausePolicy (by simp))
  exact ⟨fun hnone hks => waits_once hs hwait hnone hks, fun hnone => pauses_once hs hpause hnone nows ks,
    fun k hk => ⟨waits_answered w.toWire q _ hk, pauses_answered w.toWire q _ hk⟩⟩

/-- The digests of a healthy episode and of waits requested of it at 1000. -/
def waitWire : CustodyWire :=
  tableWire
    [("harness.liveness-wait.v1\x00e\x001\x00o",
        ⟨"38b4ef11b8fced5e1f10a13458a0e938400d32749ee8a6e00f5e41b4a040aa0e", isLowerHex_ofList (by decide)⟩),
      ("harness.intervention.trace.v1:intervention-wait-38b4ef11b8fced5e1f10a13458a0e938",
        ⟨"67f8803614c526b3500160acfe5bc4c6b71ae1a1e4e288099618faaede780ef9", isLowerHex_ofList (by decide)⟩),
      ("harness.intervention.span.v1:intervention-wait-38b4ef11b8fced5e1f10a13458a0e938",
        ⟨"585147a17bf1bf3232ab9683db8f7c671e0053fc47e96ce43dccfcba11f76fd9", isLowerHex_ofList (by decide)⟩),
      ("harness.intervention.link.v1:intervention-wait-38b4ef11b8fced5e1f10a13458a0e938",
        ⟨"055a362d1ac44a88f9a34cac635f5413668446b09affa65761450370dd8d9f08", isLowerHex_ofList (by decide)⟩)]
    ["created_at_ms", "version", "updated_at_ms"]
    [([some (ofNat 1000), none, none],
        ⟨"83595772b40233f80da6ba456277106864321e75a7532ff7f365dad3d90de03f", isLowerHex_ofList (by decide)⟩),
      ([none, some (ofNat 1), some (ofNat 0)], healthyDigest),
      ([none, some (ofNat 2), some (ofNat 1000)],
        ⟨"d0181fc4879ed75683c49fdbc0f2e7b0c1da460d6a2ca4cbbccccfb18e9f8287", isLowerHex_ofList (by decide)⟩)]

def firstWait : Intervention := ⟨"e", 1, "o"⟩

def twoWaits : Pool ControlTables WaitCall :=
  startWaits (run (perform waitWire) ControlTables.empty [openHealthy]) [1000, 2000]

def summary (p : Pool ControlTables WaitCall) : List (String × Int) × List (Option (Except StoreError Nat)) :=
  (p.shared.receipts.rows.map (fun r => (r.interventionId, r.createdAtMs)),
    p.calls.map (fun c => c.answer.map (Except.map LivenessEpisode.version)))

/-- Two waits, one after the other and with the second between the steps of the first. -/
theorem twoWaits_ran :
    Along (Calls.step (waitNext waitWire.toWire firstWait)) (Undisturbed waitWire.toWire firstWait) twoWaits
      [0, 0, 0, 1, 1] ∧
    (run (Calls.step (waitNext waitWire.toWire firstWait)) twoWaits [0, 0, 0, 1, 1]).shared.receipts.rows.length ≠
      twoWaits.shared.receipts.rows.length ∧
    twoWaits.shared.receipts.get (interventionIdOf waitWire.toWire waitPolicy firstWait) = none ∧
    summary (run (Calls.step (waitNext waitWire.toWire firstWait)) twoWaits [0, 1, 0, 0, 1]) =
      ([("intervention-wait-38b4ef11b8fced5e1f10a13458a0e938", 1000)],
        [some (.ok 2), some (.error (.conflict "liveness episode e has version 2, wait requires 1"))]) := by
  decide +kernel

theorem waits_in_turn :
    Along (Calls.step (waitNext waitWire.toWire firstWait)) (Undisturbed waitWire.toWire firstWait) twoWaits
      [0, 0, 0, 1, 1] ∧
    (run (Calls.step (waitNext waitWire.toWire firstWait)) twoWaits [0, 0, 0, 1, 1]).shared ≠ twoWaits.shared ∧
    ExactlyOnce waitWire.toWire waitPolicy firstWait 0 twoWaits.shared
      (run (Calls.step (waitNext waitWire.toWire firstWait)) twoWaits [0, 0, 0, 1, 1]).shared
      (answersOf WaitCall.answer
        (run (Calls.step (waitNext waitWire.toWire firstWait)) twoWaits [0, 0, 0, 1, 1])) := by
  obtain ⟨halong, hstored, hnone, -⟩ := twoWaits_ran
  refine ⟨halong, fun h => hstored (by rw [h]), ?_⟩
  have hlinks : ∀ p ∈ [waitPolicy, pausePolicy], ∀ l, .link l ∈ [openHealthy] →
      l.toId ≠ interventionIdOf waitWire.toWire p firstWait := by
    intro p _ l hl
    cases List.mem_singleton.1 hl
  exact (interventions_exactly_once hlinks [1000, 2000] [0, 0, 0, 1, 1]).1 hnone halong

/-- The second wait looked before the receipt was stored and reads the episode after that. -/
theorem waits_overlapping :
    summary (run (Calls.step (waitNext waitWire.toWire firstWait)) twoWaits [0, 1, 0, 0, 1]) =
      ([("intervention-wait-38b4ef11b8fced5e1f10a13458a0e938", 1000)],
        [some (.ok 2), some (.error (.conflict "liveness episode e has version 2, wait requires 1"))]) :=
  twoWaits_ran.2.2.2

end Control
end Bildr
