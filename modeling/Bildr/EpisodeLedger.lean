import Bildr.ControlPlane
/-!
# EpisodeLedger — the counters of episodes and the rows they count

A liveness episode at version `v` has `v - 1` observations and receipts; a reconciliation episode counts its findings
and its actions.  An episode is opened with the intervention count it comes with: the count is the number of receipts
exactly when it comes with zero.
-/
namespace Bildr
namespace Control

open Trace (run Along)

def observationsOf (t : ControlTables) (id : String) : Nat := t.observations.rows.countP (fun o => o.episodeId == id)

def receiptsOf (t : ControlTables) (id : String) : Nat := t.receipts.rows.countP (fun r => r.episodeId == id)

def findingsOf (t : ControlTables) (id : String) : Nat := t.findings.rows.countP (fun f => f.episodeId == id)

def actionsOf (t : ControlTables) (id : String) : Nat := t.actions.rows.countP (fun a => a.receipt.episodeId == id)

structure LivenessRow.Mirrors (r : LivenessRow) : Prop where
  id : r.id = r.payload.episodeId
  attempt : r.attemptId = r.payload.attemptId
  state : r.state = r.payload.state
  version : r.version = r.payload.version
  updatedAt : r.updatedAt = r.payload.updatedAtMs

structure LivenessLedger (t : ControlTables) : Prop where
  columns : ∀ r ∈ t.episodes.rows, r.Mirrors
  versions : ∀ r ∈ t.episodes.rows, r.payload.version = 1 + observationsOf t r.id + receiptsOf t r.id
  counted : ∀ r ∈ t.episodes.rows, receiptsOf t r.id ≤ r.payload.interventionCount ∧ receiptsOf t r.id ≤ u32Max
  alone : ∀ r ∈ t.episodes.rows, ∀ q ∈ t.episodes.rows, r.state ≠ .terminal → q.state ≠ .terminal →
    r.attemptId = q.attemptId → r = q
  observed : ∀ o ∈ t.observations.rows, (t.episodes.get o.episodeId).isSome = true
  receipted : ∀ r ∈ t.receipts.rows, (t.episodes.get r.episodeId).isSome = true

def CountsReceipts (t : ControlTables) : Prop :=
  ∀ r ∈ t.episodes.rows, r.payload.interventionCount = receiptsOf t r.id

theorem countP_concat {α : Type} (p : α → Bool) (l : List α) (a : α) :
    (l ++ [a]).countP p = l.countP p + if p a then 1 else 0 := by
  rw [List.countP_append, List.countP_singleton]

theorem livenessLedger_empty : LivenessLedger ControlTables.empty := by
  refine ⟨?_, ?_, ?_, ?_, ?_, ?_⟩ <;> intro r hr <;> cases hr

theorem LivenessLedger.of_quiet {t t' : ControlTables} (h : LivenessLedger t) (hq : Quiet t t') : LivenessLedger t' := by
  have hobs : ∀ id, observationsOf t' id = observationsOf t id := fun id => by
    unfold observationsOf
    rw [hq.observations]
  have hrec : ∀ id, receiptsOf t' id = receiptsOf t id := fun id => by
    unfold receiptsOf
    rw [hq.receipts]
  exact {
    columns := hq.episodes ▸ h.columns
    versions := fun r hr => by
      rw [hobs, hrec]
      exact h.versions r (hq.episodes ▸ hr)
    counted := fun r hr => by
      rw [hrec]
      exact h.counted r (hq.episodes ▸ hr)
    alone := hq.episodes ▸ h.alone
    observed := fun o ho => hq.episodes ▸ h.observed o (hq.observations ▸ ho)
    receipted := fun r hr => hq.episodes ▸ h.receipted r (hq.receipts ▸ hr) }

theorem LivenessLedger.none_of_fresh {t : ControlTables} (h : LivenessLedger t) {id : String}
    (hf : t.episodes.get id = none) : observationsOf t id = 0 ∧ receiptsOf t id = 0 := by
  constructor
  · refine List.countP_eq_zero.2 (fun o ho hid => ?_)
    have := h.observed o ho
    rw [show o.episodeId = id by simpa using hid, hf] at this
    cases this
  · refine List.countP_eq_zero.2 (fun r hr hid => ?_)
    have := h.receipted r hr
    rw [show r.episodeId = id by simpa using hid, hf] at this
    cases this

theorem isSome_append {t t' : ControlTables} {row : LivenessRow} (hrows : t'.episodes.rows = t.episodes.rows ++ [row])
    {id : String} (h : (t.episodes.get id).isSome = true) : (t'.episodes.get id).isSome = true := by
  obtain ⟨r, hr⟩ := Option.isSome_iff_exists.1 h
  rw [Table.get_extends ⟨[row], hrows.symm⟩ hr]
  rfl

theorem LivenessLedger.opened {w : Wire} {t t' : ControlTables} {e : LivenessEpisode} (h : LivenessLedger t)
    (ho : Opened w t t' e) : LivenessLedger t' := by
  obtain ⟨hzo, hzr⟩ := h.none_of_fresh ho.fresh
  have hobs : ∀ id, observationsOf t' id = observationsOf t id := fun id => by
    unfold observationsOf
    rw [ho.observations]
  have hrec : ∀ id, receiptsOf t' id = receiptsOf t id := fun id => by
    unfold receiptsOf
    rw [ho.receipts]
  have hmem : ∀ {r}, r ∈ t'.episodes.rows → r ∈ t.episodes.rows ∨ r = rowOfEpisode e := fun {r} hr => by
    rw [ho.rows] at hr
    simpa using hr
  -- no other episode of the attempt can be nonterminal
  have hnone : ∀ r ∈ t.episodes.rows, r.state ≠ .terminal → r.attemptId ≠ e.attemptId := by
    intro r hr hs ha
    have := List.find?_eq_none.1 ho.alone r hr
    simp [hs, ha] at this
  refine ⟨fun r hr => ?_, fun r hr => ?_, fun r hr => ?_, fun r hr q hq hrs hqs ha => ?_, fun o ho' => ?_, fun r hr => ?_⟩
  · rcases hmem hr with hr | rfl
    · exact h.columns r hr
    · exact ⟨rfl, rfl, rfl, rfl, rfl⟩
  · rw [hobs, hrec]
    rcases hmem hr with hr | rfl
    · exact h.versions r hr
    · show e.version = _
      rw [show (rowOfEpisode e).id = e.episodeId from rfl, hzo, hzr, ho.version]
  · rw [hrec]
    rcases hmem hr with hr | rfl
    · exact h.counted r hr
    · rw [show (rowOfEpisode e).id = e.episodeId from rfl, hzr]
      exact ⟨Nat.zero_le _, Nat.zero_le _⟩
  · rcases hmem hr with hr | rfl
    · rcases hmem hq with hq | rfl
      · exact h.alone r hr q hq hrs hqs ha
      · exact absurd ha (hnone r hr hrs)
    · rcases hmem hq with hq | rfl
      · exact absurd ha.symm (hnone q hq hqs)
      · rfl
  · rw [ho.observations] at ho'
    exact isSome_append ho.rows (h.observed o ho')
  · rw [ho.receipts] at hr
    exact isSome_append ho.rows (h.receipted r hr)

theorem isSome_rewrite {t t' : ControlTables} {id : String} {f : LivenessRow → LivenessRow} (hf : ∀ r, (f r).id = r.id)
    (hrows : t'.episodes.rows = t.episodes.rows.map (fun r => if r.id == id then f r else r)) {k : String}
    (h : (t.episodes.get k).isSome = true) : (t'.episodes.get k).isSome = true := by
  rw [Table.get_isSome] at h ⊢
  rw [hrows, Table.map_key_map _ (fun r => by split <;> simp [hf])]
  exact h

theorem LivenessLedger.rewrite {t t' : ControlTables} {row : LivenessRow} {id : String}
    {f : LivenessRow → LivenessRow} (h : LivenessLedger t) (hf : ∀ r, (f r).id = r.id)
    (hg : t.episodes.get id = some row)
    (hrows : t'.episodes.rows = t.episodes.rows.map (fun r => if r.id == id then f r else r))
    (hmirror : (f row).Mirrors) (hattempt : (f row).attemptId = row.attemptId) (hterm : row.state ≠ .terminal)
    (hversion : (f row).payload.version = 1 + observationsOf t' id + receiptsOf t' id)
    (hcount : receiptsOf t' id ≤ (f row).payload.interventionCount ∧ receiptsOf t' id ≤ u32Max)
    (hobs : ∀ k, k ≠ id → observationsOf t' k = observationsOf t k)
    (hrec : ∀ k, k ≠ id → receiptsOf t' k = receiptsOf t k)
    (hobserved : ∀ o ∈ t'.observations.rows, (t.episodes.get o.episodeId).isSome = true)
    (hreceipted : ∀ r ∈ t'.receipts.rows, (t.episodes.get r.episodeId).isSome = true) : LivenessLedger t' := by
  have hrow : row ∈ t.episodes.rows ∧ row.id = id := ⟨Table.mem_of_get hg, Table.key_of_get hg⟩
  have hmem : ∀ {r}, r ∈ t'.episodes.rows → r = f row ∨ (r ∈ t.episodes.rows ∧ r.id ≠ id) := fun {r} hr => by
    rw [hrows] at hr
    exact Table.mem_map_key hg hr
  have hid : (f row).id = id := (hf row).trans hrow.2
  refine ⟨fun r hr => ?_, fun r hr => ?_, fun r hr => ?_, fun r hr q hq hrs hqs ha => ?_,
    fun o ho => isSome_rewrite hf hrows (hobserved o ho), fun r hr => isSome_rewrite hf hrows (hreceipted r hr)⟩
  · rcases hmem hr with rfl | ⟨hr, -⟩
    · exact hmirror
    · exact h.columns r hr
  · rcases hmem hr with rfl | ⟨hr, hne⟩
    · rw [hid]
      exact hversion
    · rw [hobs _ hne, hrec _ hne]
      exact h.versions r hr
  · rcases hmem hr with rfl | ⟨hr, hne⟩
    · rw [hid]
      exact hcount
    · rw [hrec _ hne]
      exact h.counted r hr
  · rcases hmem hr with rfl | ⟨hr, hrne⟩
    · rcases hmem hq with rfl | ⟨hq, hqne⟩
      · rfl
      · have := h.alone row hrow.1 q hq hterm hqs (hattempt.symm.trans ha)
        exact absurd (this ▸ hrow.2) hqne
    · rcases hmem hq with rfl | ⟨hq, hqne⟩
      · have := h.alone r hr row hrow.1 hrs hterm (ha.trans hattempt)
        exact absurd (this ▸ hrow.2) hrne
      · exact h.alone r hr q hq hrs hqs ha

theorem observationsOf_append {t t' : ControlTables} {o : LivenessObservation}
    (h : t'.observations.rows = t.observations.rows ++ [o]) (id : String) :
    observationsOf t' id = observationsOf t id + if o.episodeId = id then 1 else 0 := by
  unfold observationsOf
  rw [h, countP_concat]
  simp

theorem receiptsOf_append {t t' : ControlTables} {r : InterventionReceipt} (h : t'.receipts.rows = t.receipts.rows ++ [r])
    (id : String) : receiptsOf t' id = receiptsOf t id + if r.episodeId = id then 1 else 0 := by
  unfold receiptsOf
  rw [h, countP_concat]
  simp

theorem LivenessLedger.observe {w : Wire} {t t' : ControlTables} {row : LivenessRow} {o : LivenessObservation}
    (h : LivenessLedger t) (ho : Observed w t t' row o) : LivenessLedger t' := by
  have hrow := Table.mem_of_get ho.found
  have hid : row.id = o.episodeId := Table.key_of_get ho.found
  have hm := h.columns row hrow
  have hrec : ∀ k, receiptsOf t' k = receiptsOf t k := fun k => by
    unfold receiptsOf
    rw [ho.receipts]
  obtain ⟨fid, fattempt, -, fcount, -⟩ := reduceEpisode_frame row.payload o
  refine h.rewrite (f := LivenessRow.revise (Control.observed w row.payload o)) (fun _ => rfl) ho.found ho.episodes ?_ rfl
    (hm.state ▸ ho.nonterminal) ?_ ?_ (fun k hk => ?_)
    (fun k _ => hrec k) (fun q hq => ?_) (fun r hr => ?_)
  · exact ⟨hm.id.trans fid.symm, hm.attempt.trans fattempt.symm, rfl, rfl, rfl⟩
  · show row.payload.version + 1 = _
    rw [observationsOf_append ho.observations, if_pos rfl, hrec, h.versions row hrow, hid]
    omega
  · rw [hrec, ← hid]
    refine ⟨?_, (h.counted row hrow).2⟩
    show _ ≤ (reduceEpisode row.payload o).interventionCount
    rw [fcount]
    exact (h.counted row hrow).1
  · rw [observationsOf_append ho.observations, if_neg (Ne.symm hk), Nat.add_zero]
  · rw [ho.observations] at hq
    rcases List.mem_append.1 hq with hq | hq
    · exact h.observed q hq
    · rw [List.mem_singleton.1 hq, ho.found]
      rfl
  · exact h.receipted r (ho.receipts ▸ hr)

theorem LivenessLedger.intervene {w : Wire} {t t' : ControlTables} {row : LivenessRow} {r : InterventionReceipt}
    (h : LivenessLedger t) (hc : Counted w t t' row r) : LivenessLedger t' := by
  have hrow := Table.mem_of_get hc.found
  have hid : row.id = r.episodeId := Table.key_of_get hc.found
  have hm := h.columns row hrow
  have hobs : ∀ k, observationsOf t' k = observationsOf t k := fun k => by
    unfold observationsOf
    rw [hc.observations]
  refine h.rewrite (f := LivenessRow.count (intervened w row.payload r)) (fun _ => rfl) hc.found hc.episodes ?_ rfl
    (hm.state ▸ hc.nonterminal) ?_ ?_ (fun k _ => hobs k)
    (fun k hk => ?_) (fun o ho => ?_) (fun q hq => ?_)
  · exact ⟨hm.id, hm.attempt, hm.state, rfl, rfl⟩
  · show row.payload.version + 1 = _
    rw [receiptsOf_append hc.receipts, if_pos rfl, hobs, h.versions row hrow, hid]
    omega
  · rw [receiptsOf_append hc.receipts, if_pos rfl, ← hid]
    have h1 := (h.counted row hrow).1
    have h2 := hc.counter
    refine ⟨?_, ?_⟩
    · show _ ≤ row.payload.interventionCount + 1
      omega
    · omega
  · rw [receiptsOf_append hc.receipts, if_neg (Ne.symm hk), Nat.add_zero]
  · exact h.observed o (hc.observations ▸ ho)
  · rw [hc.receipts] at hq
    rcases List.mem_append.1 hq with hq | hq
    · exact h.receipted q hq
    · rw [List.mem_singleton.1 hq, hc.found]
      rfl

theorem LivenessLedger.perform {w : CustodyWire} {t : ControlTables} (c : ControlCall) (h : LivenessLedger t) :
    LivenessLedger (perform w t c) := by
  rcases perform_liveness w t c with hq | ⟨e, -, ho⟩ | ⟨id, v, o, row, -, ho, -⟩ | ⟨row, r, hc⟩
  · exact h.of_quiet hq
  · exact h.opened ho
  · exact h.observe ho
  · exact h.intervene hc

/-! ## The intervention counts -/

def OpensAtZero (w : CustodyWire) (t : ControlTables) (c : ControlCall) : Prop :=
  ∀ e, c = .openLiveness e → Openable w.toWire t e → e.interventionCount = 0

theorem CountsReceipts.perform {w : CustodyWire} {t : ControlTables} {c : ControlCall} (hl : LivenessLedger t)
    (h : CountsReceipts t) (hz : OpensAtZero w t c) : CountsReceipts (perform w t c) := by
  rcases perform_liveness w t c with hq | ⟨e, rfl, ho⟩ | ⟨id, v, o, row, -, ho, -⟩ | ⟨row, r, hc⟩
  · intro r hr
    rw [hq.episodes] at hr
    unfold receiptsOf
    rw [hq.receipts]
    exact h r hr
  · intro r hr
    unfold receiptsOf
    rw [ho.receipts]
    rw [ho.rows] at hr
    rcases List.mem_append.1 hr with hr | hr
    · exact h r hr
    · rw [List.mem_singleton.1 hr]
      exact (hz e rfl ho.toOpenable).trans (hl.none_of_fresh ho.fresh).2.symm
  · intro r hr
    unfold receiptsOf
    rw [ho.receipts]
    rw [ho.episodes] at hr
    rcases Table.mem_map_key ho.found hr with rfl | ⟨hr, -⟩
    · show (reduceEpisode row.payload o).interventionCount = _
      rw [(reduceEpisode_frame row.payload o).2.2.2.1]
      exact h row (Table.mem_of_get ho.found)
    · exact h r hr
  · intro q hq
    rw [receiptsOf_append hc.receipts]
    rw [hc.episodes] at hq
    have hid : row.id = r.episodeId := Table.key_of_get hc.found
    rcases Table.mem_map_key hc.found hq with rfl | ⟨hq, hne⟩
    · show row.payload.interventionCount + 1 = receiptsOf t row.id + if r.episodeId = row.id then 1 else 0
      rw [if_pos hid.symm, h row (Table.mem_of_get hc.found)]
    · rw [if_neg (Ne.symm hne), Nat.add_zero]
      exact h q hq

/-! ## Reconciliation -/

structure ReconciliationRow.Mirrors (r : ReconciliationRow) : Prop where
  id : r.id = r.payload.episodeId
  run : r.runId = r.payload.runId
  trigger : r.triggerKind = r.payload.triggerKind
  state : r.state = r.payload.state
  version : r.version = r.payload.version
  updatedAt : r.updatedAt = r.payload.updatedAtMs

structure ReconciliationLedger (t : ControlTables) : Prop where
  columns : ∀ r ∈ t.reconciliations.rows, r.Mirrors
  findings : ∀ r ∈ t.reconciliations.rows, r.payload.findingCount = findingsOf t r.id
  actions : ∀ r ∈ t.reconciliations.rows, r.payload.actionCount = actionsOf t r.id
  versions : ∀ r ∈ t.reconciliations.rows, r.payload.version = 1 + r.payload.findingCount + r.payload.actionCount
  alone : ∀ r ∈ t.reconciliations.rows, ∀ q ∈ t.reconciliations.rows, r.state.active = true → q.state.active = true →
    r.runId = q.runId → r.triggerKind = q.triggerKind → r = q
  found : ∀ f ∈ t.findings.rows, (t.reconciliations.get f.episodeId).isSome = true
  acted : ∀ a ∈ t.actions.rows, (t.reconciliations.get a.receipt.episodeId).isSome = true

theorem reconciliationLedger_empty : ReconciliationLedger ControlTables.empty := by
  refine ⟨?_, ?_, ?_, ?_, ?_, ?_, ?_⟩ <;> intro r hr <;> cases hr

theorem ReconciliationLedger.of_calm {t t' : ControlTables} (h : ReconciliationLedger t) (hc : Calm t t') :
    ReconciliationLedger t' where
  columns := hc.reconciliations ▸ h.columns
  findings := fun r hr => by
    unfold findingsOf
    rw [hc.findings]
    exact h.findings r (hc.reconciliations ▸ hr)
  actions := fun r hr => by
    unfold actionsOf
    rw [hc.actions]
    exact h.actions r (hc.reconciliations ▸ hr)
  versions := hc.reconciliations ▸ h.versions
  alone := hc.reconciliations ▸ h.alone
  found := fun f hf => hc.reconciliations ▸ h.found f (hc.findings ▸ hf)
  acted := fun a ha => hc.reconciliations ▸ h.acted a (hc.actions ▸ ha)

theorem ReconciliationLedger.none_of_fresh {t : ControlTables} (h : ReconciliationLedger t) {id : String}
    (hf : t.reconciliations.get id = none) : findingsOf t id = 0 ∧ actionsOf t id = 0 := by
  constructor
  · refine List.countP_eq_zero.2 (fun f hfm hid => ?_)
    have := h.found f hfm
    rw [show f.episodeId = id by simpa using hid, hf] at this
    cases this
  · refine List.countP_eq_zero.2 (fun a ha hid => ?_)
    have := h.acted a ha
    rw [show a.receipt.episodeId = id by simpa using hid, hf] at this
    cases this

theorem ReconciliationLedger.convene {w : Wire} {t t' : ControlTables} {e : ReconciliationEpisode}
    (h : ReconciliationLedger t) (hc : Convened w t t' e) : ReconciliationLedger t' := by
  obtain ⟨hzf, hza⟩ := h.none_of_fresh hc.fresh
  have hmem : ∀ {r}, r ∈ t'.reconciliations.rows → r ∈ t.reconciliations.rows ∨ r = rowOfReconciliation e :=
    fun {r} hr => by
      rw [hc.rows] at hr
      simpa using hr
  have hkeep : ∀ {id}, (t.reconciliations.get id).isSome = true → (t'.reconciliations.get id).isSome = true :=
    fun {id} hid => by
      obtain ⟨r, hr⟩ := Option.isSome_iff_exists.1 hid
      rw [Table.get_extends ⟨[rowOfReconciliation e], hc.rows.symm⟩ hr]
      rfl
  have hnone : ∀ r ∈ t.reconciliations.rows, r.state.active = true → ¬ (r.runId = e.runId ∧ r.triggerKind = e.triggerKind) := by
    rintro r hr hs ⟨hrun, htrig⟩
    have := List.find?_eq_none.1 hc.alone r hr
    simp [hs, hrun, htrig] at this
  refine ⟨fun r hr => ?_, fun r hr => ?_, fun r hr => ?_, fun r hr => ?_, fun r hr q hq hrs hqs hrun htrig => ?_,
    fun f hf => hkeep (h.found f (hc.findings ▸ hf)), fun a ha => hkeep (h.acted a (hc.actions ▸ ha))⟩
  · rcases hmem hr with hr | rfl
    · exact h.columns r hr
    · exact ⟨rfl, rfl, rfl, rfl, rfl, rfl⟩
  · unfold findingsOf
    rw [hc.findings]
    rcases hmem hr with hr | rfl
    · exact h.findings r hr
    · exact hc.findingCount.trans hzf.symm
  · unfold actionsOf
    rw [hc.actions]
    rcases hmem hr with hr | rfl
    · exact h.actions r hr
    · exact hc.actionCount.trans hza.symm
  · rcases hmem hr with hr | rfl
    · exact h.versions r hr
    · show e.version = 1 + e.findingCount + e.actionCount
      rw [hc.version, hc.findingCount, hc.actionCount]
  · rcases hmem hr with hr | rfl
    · rcases hmem hq with hq | rfl
      · exact h.alone r hr q hq hrs hqs hrun htrig
      · exact absurd ⟨hrun, htrig⟩ (hnone r hr hrs)
    · rcases hmem hq with hq | rfl
      · exact absurd ⟨hrun.symm, htrig.symm⟩ (hnone q hq hqs)
      · rfl

theorem ReconciliationLedger.advance {w : Wire} {t t' : ControlTables} {row : ReconciliationRow} {id : String}
    {occurredAtMs : Int} {c : ReconciliationCounter} (h : ReconciliationLedger t)
    (ha : Advanced w t t' row id occurredAtMs c)
    (hfindings : ∀ k, findingsOf t' k = findingsOf t k + if c = .finding ∧ id = k then 1 else 0)
    (hactions : ∀ k, actionsOf t' k = actionsOf t k + if c = .action ∧ id = k then 1 else 0)
    (hfound : ∀ f ∈ t'.findings.rows, (t.reconciliations.get f.episodeId).isSome = true)
    (hacted : ∀ a ∈ t'.actions.rows, (t.reconciliations.get a.receipt.episodeId).isSome = true) :
    ReconciliationLedger t' := by
  have hrow : row ∈ t.reconciliations.rows ∧ row.id = id := ⟨Table.mem_of_get ha.found, Table.key_of_get ha.found⟩
  have hm := h.columns row hrow.1
  have hmem : ∀ {r}, r ∈ t'.reconciliations.rows →
      r = row.revise (advanced w row.payload occurredAtMs c) ∨ (r ∈ t.reconciliations.rows ∧ r.id ≠ id) := fun {r} hr => by
    rw [ha.reconciliations] at hr
    exact Table.mem_map_key ha.found hr
  have hactive : row.state.active = true := hm.state ▸ ha.active
  have hkeep : ∀ {k}, (t.reconciliations.get k).isSome = true → (t'.reconciliations.get k).isSome = true :=
    fun {k} hk => by
      rw [Table.get_isSome] at hk ⊢
      rw [ha.reconciliations, Table.map_key_map _ (fun r => by split <;> rfl)]
      exact hk
  refine ⟨fun r hr => ?_, fun r hr => ?_, fun r hr => ?_, fun r hr => ?_, fun r hr q hq hrs hqs hrun htrig => ?_,
    fun f hf => hkeep (hfound f hf), fun a ha' => hkeep (hacted a ha')⟩
  · rcases hmem hr with rfl | ⟨hr, -⟩
    · exact ⟨hm.id, hm.run, hm.trigger, rfl, rfl, rfl⟩
    · exact h.columns r hr
  · rw [hfindings]
    rcases hmem hr with rfl | ⟨hr, hne⟩
    · show (if c = .finding then row.payload.findingCount + 1 else row.payload.findingCount) =
        findingsOf t row.id + if c = .finding ∧ id = row.id then 1 else 0
      rw [h.findings row hrow.1]
      cases c with
      | finding => simp [hrow.2]
      | action => simp
    · rw [if_neg (fun hk => hne hk.2.symm), Nat.add_zero]
      exact h.findings r hr
  · rw [hactions]
    rcases hmem hr with rfl | ⟨hr, hne⟩
    · show (if c = .action then row.payload.actionCount + 1 else row.payload.actionCount) =
        actionsOf t row.id + if c = .action ∧ id = row.id then 1 else 0
      rw [h.actions row hrow.1]
      cases c with
      | finding => simp
      | action => simp [hrow.2]
    · rw [if_neg (fun hk => hne hk.2.symm), Nat.add_zero]
      exact h.actions r hr
  · rcases hmem hr with rfl | ⟨hr, -⟩
    · show row.payload.version + 1 = 1 + (if c = .finding then row.payload.findingCount + 1 else row.payload.findingCount) +
        (if c = .action then row.payload.actionCount + 1 else row.payload.actionCount)
      rw [h.versions row hrow.1]
      cases c with
      | finding => simp; omega
      | action => simp; omega
    · exact h.versions r hr
  · rcases hmem hr with rfl | ⟨hr, hrne⟩
    · rcases hmem hq with rfl | ⟨hq, hqne⟩
      · rfl
      · have := h.alone row hrow.1 q hq hactive hqs hrun htrig
        exact absurd (this ▸ hrow.2) hqne
    · rcases hmem hq with rfl | ⟨hq, hqne⟩
      · have := h.alone r hr row hrow.1 hrs hactive hrun htrig
        exact absurd (this ▸ hrow.2) hrne
      · exact h.alone r hr q hq hrs hqs hrun htrig

theorem ReconciliationLedger.find {w : Wire} {t t' : ControlTables} {row : ReconciliationRow} {f : ReconciliationFinding}
    (h : ReconciliationLedger t) (hf : Found w t t' row f) : ReconciliationLedger t' := by
  refine h.advance hf.toAdvanced (fun k => ?_) (fun k => ?_) (fun g hg => ?_) (fun a ha => h.acted a (hf.actions ▸ ha))
  · unfold findingsOf
    rw [hf.findings, countP_concat]
    simp
  · unfold actionsOf
    rw [hf.actions]
    simp
  · rw [hf.findings] at hg
    rcases List.mem_append.1 hg with hg | hg
    · exact h.found g hg
    · rw [List.mem_singleton.1 hg, hf.found]
      rfl

theorem ReconciliationLedger.act {w : Wire} {t t' : ControlTables} {row : ReconciliationRow}
    {r : ReconciliationActionReceipt} (h : ReconciliationLedger t) (ha : Acted w t t' row r) : ReconciliationLedger t' := by
  refine h.advance ha.toAdvanced (fun k => ?_) (fun k => ?_) (fun f hf => h.found f (ha.findings ▸ hf)) (fun b hb => ?_)
  · unfold findingsOf
    rw [ha.findings]
    simp
  · unfold actionsOf
    rw [ha.actions, countP_concat]
    simp
  · rw [ha.actions] at hb
    rcases List.mem_append.1 hb with hb | hb
    · exact h.acted b hb
    · rw [List.mem_singleton.1 hb, ha.found]
      rfl

theorem ReconciliationLedger.perform {w : CustodyWire} {t : ControlTables} (c : ControlCall) (h : ReconciliationLedger t) :
    ReconciliationLedger (perform w t c) := by
  rcases perform_reconciliation w t c with hc | ⟨e, hc⟩ | ⟨row, f, hf⟩ | ⟨row, r, ha⟩
  · exact h.of_calm hc
  · exact h.convene hc
  · exact h.find hf
  · exact h.act ha

/-! ## Histories -/

theorem ledgers_run (w : CustodyWire) : ∀ (calls : List ControlCall) {t : ControlTables}, LivenessLedger t →
    ReconciliationLedger t → LivenessLedger (run (perform w) t calls) ∧ ReconciliationLedger (run (perform w) t calls)
  | [], _, hl, hr => ⟨hl, hr⟩
  | c :: calls, _, hl, hr => ledgers_run w calls (hl.perform c) (hr.perform c)

/-- **The ledgers add up** after every history whose openings start at no intervention. -/
theorem ledgers_add_up (w : CustodyWire) (calls : List ControlCall)
    (hzero : Along (perform w) (OpensAtZero w) ControlTables.empty calls) :
    (∀ r ∈ (run (perform w) ControlTables.empty calls).episodes.rows,
      r.payload.version = 1 + observationsOf (run (perform w) ControlTables.empty calls) r.id +
        receiptsOf (run (perform w) ControlTables.empty calls) r.id ∧
      r.payload.interventionCount = receiptsOf (run (perform w) ControlTables.empty calls) r.id ∧
      r.state = r.payload.state ∧ r.version = r.payload.version ∧ r.updatedAt = r.payload.updatedAtMs) ∧
    (∀ r ∈ (run (perform w) ControlTables.empty calls).reconciliations.rows,
      r.payload.findingCount = findingsOf (run (perform w) ControlTables.empty calls) r.id ∧
      r.payload.actionCount = actionsOf (run (perform w) ControlTables.empty calls) r.id ∧
      r.payload.version = 1 + r.payload.findingCount + r.payload.actionCount ∧
      r.state = r.payload.state ∧ r.version = r.payload.version ∧ r.updatedAt = r.payload.updatedAtMs) ∧
    (∀ r ∈ (run (perform w) ControlTables.empty calls).episodes.rows,
      ∀ q ∈ (run (perform w) ControlTables.empty calls).episodes.rows,
        r.state ≠ .terminal → q.state ≠ .terminal → r.attemptId = q.attemptId → r = q) ∧
    (∀ r ∈ (run (perform w) ControlTables.empty calls).reconciliations.rows,
      ∀ q ∈ (run (perform w) ControlTables.empty calls).reconciliations.rows,
        r.state.active = true → q.state.active = true → r.runId = q.runId → r.triggerKind = q.triggerKind → r = q) := by
  obtain ⟨hl, hr⟩ := ledgers_run w calls livenessLedger_empty reconciliationLedger_empty
  have hc : CountsReceipts (run (perform w) ControlTables.empty calls) := by
    refine (Trace.invariant_of_step (fun t => LivenessLedger t ∧ CountsReceipts t) (fun t c h hz => ?_)
      ⟨livenessLedger_empty, fun r hr => by cases hr⟩ hzero).2
    exact ⟨h.1.perform c, CountsReceipts.perform h.1 h.2 hz⟩
  refine ⟨fun r hm => ?_, fun r hm => ?_, hl.alone, hr.alone⟩
  · have hcol := hl.columns r hm
    exact ⟨hl.versions r hm, hc r hm, hcol.state, hcol.version, hcol.updatedAt⟩
  · have hcol := hr.columns r hm
    exact ⟨hr.findings r hm, hr.actions r hm, hr.versions r hm, hcol.state, hcol.version, hcol.updatedAt⟩

/-! ## A history -/

def emptyDigest : Digest :=
  ⟨"e3b0c44298fc1c149afbf4c8996fb92427ae41e4649b934ca495991b7852b855", isLowerHex_ofList (by decide)⟩

/-- A wire with the digests of some texts, and of some records that are told apart by a few of their fields. -/
def tableWire (texts : List (String × Digest)) (fields : List String) (records : List (List (Option Json.Value) × Digest)) :
    CustodyWire where
  sha256 := fun text => (texts.lookup text).getD emptyDigest
  digestJson := fun v => (records.lookup (fields.map v.get)).getD emptyDigest
  byteLength := fun v => v.text.utf8ByteSize
  packetText := fun _ => ""

def newEpisode (state : LivenessState) (review : Option Int) (interventions : Nat) (sha256 : String) : LivenessEpisode :=
  ⟨"harness.liveness-episode.v1", "e", some "r", some "t", some "a", state, 1, 0, 0, [], none, review, interventions, none,
    sha256⟩

def newObservation (id source : String) (kind : LivenessObservationKind) (observedAtMs : Int) (sha256 : String) :
    LivenessObservation :=
  ⟨"harness.liveness-observation.v1", id, "e", kind, source, observedAtMs, .obj [], "v1", sha256⟩

/-- The digests of the trace of an episode, and of the episode as it is opened. -/
def livenessTrace : Digest :=
  ⟨"30a269475bf918f5268b70c3c7a12fcbd3b343281bc36f2710fce9b3c30db42c", isLowerHex_ofList (by decide)⟩

def healthyDigest : Digest :=
  ⟨"10e53ccd73e0b2734d87b0e84818196766a4b74983cec8933ea6627a56d74f15", isLowerHex_ofList (by decide)⟩

/-- The digests of a healthy episode and of its progress, observed at 1000 (`p`) and at 500 (`q`). -/
def progressWire : CustodyWire :=
  tableWire
    [("harness.liveness-observation.trace.v1:e", livenessTrace),
      ("harness.liveness-observation.span.v1:p",
        ⟨"c9abf626878b6422b90951411d95bccc0c9301ec934fbc44398cc2fb7b385dc2", isLowerHex_ofList (by decide)⟩),
      ("harness.liveness-observation.link.v1:p",
        ⟨"f5d4f97e7d01d22c2960c8ef63d773e9e3785cd6644aecf041e912a25caaca69", isLowerHex_ofList (by decide)⟩),
      ("harness.liveness-observation.span.v1:q",
        ⟨"cc452cccc115eeb64a0be68b55aa640cb67fdd2ce6e2e4b43bdbb6a27fa4ed77", isLowerHex_ofList (by decide)⟩),
      ("harness.liveness-observation.link.v1:q",
        ⟨"62b630d4e14f95a77a46601771ad85c49a2758b18b0aa921dd3e24927a2166c9", isLowerHex_ofList (by decide)⟩)]
    ["observation_id", "version", "updated_at_ms", "last_material_progress_at_ms", "intervention_count"]
    [([some (.str "p"), none, none, none, none],
        ⟨"bb16e7306bcd3472665f19b8d966c949106b0ad74843f1a32a3533e2e17ffd3c", isLowerHex_ofList (by decide)⟩),
      ([some (.str "q"), none, none, none, none],
        ⟨"b5149bcd721540071e93ff618940bf04aace81389e4506a16fbb34a78a6f63be", isLowerHex_ofList (by decide)⟩),
      ([none, some (ofNat 1), some (ofNat 0), some .null, some (ofNat 0)], healthyDigest),
      ([none, some (ofNat 1), some (ofNat 0), some .null, some (ofNat 3)],
        ⟨"32b60bbd7de0693247c29ea22a8a20cde4fde85aa293d3071520a56efb547b6c", isLowerHex_ofList (by decide)⟩),
      ([none, some (ofNat 2), some (ofNat 1000), some (ofNat 1000), some (ofNat 0)],
        ⟨"7ef3c49b2551d0e013946730710ba49e63358431089f66c7bcbb58d5583ba98b", isLowerHex_ofList (by decide)⟩),
      ([none, some (ofNat 3), some (ofNat 1000), some (ofNat 500), some (ofNat 0)],
        ⟨"3a496a20697a927c4170ad1a3c45e384e7d15a69bb1aa783cd23c43b806a8b71", isLowerHex_ofList (by decide)⟩),
      ([none, some (ofNat 2), some (ofNat 500), some (ofNat 500), some (ofNat 0)],
        ⟨"137fb31d22ec06ceee8495b593d62eadb336d9439baf66958d995948641249d2", isLowerHex_ofList (by decide)⟩),
      ([none, some (ofNat 3), some (ofNat 1000), some (ofNat 1000), some (ofNat 0)],
        ⟨"9bf2929710ffc240e7339cf80d9308c919fca9c4158e98b9a39dcfe504025d4e", isLowerHex_ofList (by decide)⟩)]

def openHealthy : ControlCall :=
  .openLiveness (newEpisode .healthy none 0 "10e53ccd73e0b2734d87b0e84818196766a4b74983cec8933ea6627a56d74f15")

def openIntervened : ControlCall :=
  .openLiveness (newEpisode .healthy none 3 "32b60bbd7de0693247c29ea22a8a20cde4fde85aa293d3071520a56efb547b6c")

def observeLate (version : Nat) : ControlCall :=
  .observe "e" version (newObservation "p" "s" .materialProgress 1000
    "bb16e7306bcd3472665f19b8d966c949106b0ad74843f1a32a3533e2e17ffd3c")

def observeEarly (version : Nat) : ControlCall :=
  .observe "e" version (newObservation "q" "u" .materialProgress 500
    "b5149bcd721540071e93ff618940bf04aace81389e4506a16fbb34a78a6f63be")

theorem ledgers_add_up_observed :
    Along (perform progressWire) (OpensAtZero progressWire) ControlTables.empty [openHealthy, observeLate 1] ∧
    (run (perform progressWire) ControlTables.empty [openHealthy, observeLate 1]).episodes.rows.map
      (fun r => (r.id, r.version, r.payload.interventionCount)) = [("e", 2, 0)] ∧
    (∀ r ∈ (run (perform progressWire) ControlTables.empty [openHealthy, observeLate 1]).episodes.rows,
      r.payload.interventionCount =
        receiptsOf (run (perform progressWire) ControlTables.empty [openHealthy, observeLate 1]) r.id) := by
  have hzero : Along (perform progressWire) (OpensAtZero progressWire) ControlTables.empty
      [openHealthy, observeLate 1] := by
    refine ⟨fun e he _ => ?_, fun e he _ => ?_, trivial⟩
    · cases he
      rfl
    · cases he
  refine ⟨hzero, by decide +kernel, fun r hr => ?_⟩
  exact ((ledgers_add_up progressWire _ hzero).1 r hr).2.1

theorem interventions_without_receipts :
    ∃ r ∈ (run (perform progressWire) ControlTables.empty [openIntervened]).episodes.rows,
      r.payload.interventionCount ≠ receiptsOf (run (perform progressWire) ControlTables.empty [openIntervened]) r.id := by
  have h : (run (perform progressWire) ControlTables.empty [openIntervened]).episodes.rows.any (fun r =>
      decide (r.payload.interventionCount ≠
        receiptsOf (run (perform progressWire) ControlTables.empty [openIntervened]) r.id)) = true := by decide +kernel
  obtain ⟨r, hr, hne⟩ := List.any_eq_true.1 h
  exact ⟨r, hr, of_decide_eq_true hne⟩

end Control
end Bildr
