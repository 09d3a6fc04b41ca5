import Bildr.FreshAttempt
import Bildr.LivenessSteps
/-!
# ReconciliationSteps — what a call can do to the reconciliation tables

A call that succeeds leaves the episodes alone (`Calm`), opens one (`Convened`), or advances one by a finding (`Found`)
or by an action (`Acted`).
-/
namespace Bildr
namespace Control

structure Convened (w : Wire) (t t' : ControlTables) (e : ReconciliationEpisode) : Prop where
  valid : e.validate w = .ok ()
  isOpen : e.state = .open
  version : e.version = 1
  findingCount : e.findingCount = 0
  actionCount : e.actionCount = 0
  fresh : t.reconciliations.get e.episodeId = none
  alone : activeReconciliation t e.runId e.triggerKind = none
  rows : t'.reconciliations.rows = t.reconciliations.rows ++ [rowOfReconciliation e]
  findings : t'.findings = t.findings
  actions : t'.actions = t.actions

structure Advanced (w : Wire) (t t' : ControlTables) (row : ReconciliationRow) (id : String) (occurredAtMs : Int)
    (c : ReconciliationCounter) : Prop where
  found : t.reconciliations.get id = some row
  valid : row.payload.validate w = .ok ()
  column : row.version = row.payload.version
  active : row.payload.state.active = true
  started : row.payload.openedAtMs ≤ occurredAtMs
  counter : c.of row.payload < u32Max
  next : (advanced w row.payload occurredAtMs c).validate w = .ok ()
  reconciliations : t'.reconciliations.rows = t.reconciliations.rows.map (fun r => if r.id == id
    then r.revise (advanced w row.payload occurredAtMs c) else r)

structure Found (w : Wire) (t t' : ControlTables) (row : ReconciliationRow) (f : ReconciliationFinding) : Prop extends
    Advanced w t t' row f.episodeId f.observedAtMs .finding where
  validFinding : f.validate w = .ok ()
  findings : t'.findings.rows = t.findings.rows ++ [f]
  actions : t'.actions = t.actions
  link : Records t t' (reconciliationFindingCorrelationLink w f)

structure Acted (w : Wire) (t t' : ControlTables) (row : ReconciliationRow) (r : ReconciliationActionReceipt) : Prop
    extends Advanced w t t' row r.episodeId r.createdAtMs .action where
  validReceipt : r.validate w = .ok ()
  findings : t'.findings = t.findings
  actions : t'.actions.rows = t.actions.rows ++ [⟨Table.maxOf ActionRow.id t.actions.rows + 1, r⟩]
  link : Records t t' (reconciliationActionCorrelationLink w r)

/-! ## Small checks -/

theorem readReconciliation_ok {w : Wire} {row : ReconciliationRow} {e : ReconciliationEpisode} :
    readReconciliation w row = .ok e ↔ row.payload.validate w = .ok () ∧ e = row.payload := by
  unfold readReconciliation
  rw [ensure_bind_ok, isOk_iff]
  simp [eq_comm]

theorem reconciliationEpisode_ok {w : Wire} {t : ControlTables} {id : String} {e : ReconciliationEpisode} :
    reconciliationEpisodeInTransaction w t id = .ok e ↔
      ∃ row, t.reconciliations.get id = some row ∧ row.payload.validate w = .ok () ∧ e = row.payload := by
  unfold reconciliationEpisodeInTransaction
  cases hg : t.reconciliations.get id with
  | none => simp [okOr]
  | some row => simp [okOr, readReconciliation_ok]

theorem insertAction_ok {t t' : ControlTables} {r : ReconciliationActionReceipt} {n : Nat}
    (h : insertAction t r = .ok (n, t')) :
    n = Table.maxOf ActionRow.id t.actions.rows + 1 ∧ findAction t r = none ∧
      ∃ actions, t' = { t with actions := actions } ∧
        actions.rows = t.actions.rows ++ [⟨Table.maxOf ActionRow.id t.actions.rows + 1, r⟩] := by
  unfold insertAction at h
  obtain ⟨hnone, h⟩ := bind_unit_ok.1 h
  obtain ⟨actions, hi, h⟩ := bind_ok h
  cases h
  exact ⟨rfl, by simpa using require_ok hnone, actions, rfl, (insertRow_ok_iff.1 hi).2⟩

theorem advance_ok {w : Wire} {t t' : ControlTables} {id : String} {v : Nat} {occurredAtMs : Int}
    {c : ReconciliationCounter} {e : ReconciliationEpisode}
    (h : advanceReconciliationEpisode w t id v occurredAtMs c = .ok (e, t')) :
    ∃ row reconciliations, Advanced w t t' row id occurredAtMs c ∧ row.payload.version = v ∧
      t' = { t with reconciliations := reconciliations } := by
  unfold advanceReconciliationEpisode at h
  obtain ⟨e₀, he, h⟩ := bind_ok h
  obtain ⟨row, hget, hvalid, rfl⟩ := reconciliationEpisode_ok.1 he
  obtain ⟨hv, h⟩ := ensure_bind_ok.1 h
  obtain ⟨hactive, h⟩ := ensure_bind_ok.1 h
  obtain ⟨hstart, h⟩ := ensure_bind_ok.1 h
  obtain ⟨hcount, h⟩ := ensure_bind_ok.1 h
  obtain ⟨-, h⟩ := ensure_bind_ok.1 h
  obtain ⟨hnext, h⟩ := bind_unit_ok.1 h
  obtain ⟨_, -, h⟩ := bind_ok h
  obtain ⟨expected, hexp, h⟩ := bind_ok h
  obtain ⟨-, rfl⟩ := toI64_ok.1 hexp
  obtain ⟨hany, h⟩ := ensure_bind_ok.1 h
  cases h
  simp only [beq_iff_eq, decide_eq_true_eq] at hv hstart hcount
  rw [hget] at hany
  simp only [Option.any_some, beq_iff_eq] at hany
  exact ⟨row, _, ⟨hget, hvalid, by rw [hany, hv], hactive, hstart, hcount, hnext, rfl⟩, hv, rfl⟩

/-! ## What each body does -/

theorem openReconciliationBody_ok {w : Wire} {e e' : ReconciliationEpisode} {t t' : ControlTables}
    (h : openReconciliationBody w e t = .ok (e', t')) :
    t' = t ∨ (Convened w t t' e ∧ Quiet t t' ∧ Records t t' (reconciliationEpisodeCorrelationLink w e)) := by
  unfold openReconciliationBody at h
  obtain ⟨hv, h⟩ := bind_unit_ok.1 h
  obtain ⟨link, hlink, h⟩ := bind_ok h
  obtain ⟨hnew, h⟩ := ensure_bind_ok.1 h
  simp only [Bool.and_eq_true, beq_iff_eq, decide_eq_true_eq] at hnew
  cases hg : t.reconciliations.get e.episodeId with
  | some row =>
    simp only [hg] at h
    obtain ⟨existing, -, h⟩ := bind_ok h
    obtain ⟨-, h⟩ := ensure_bind_ok.1 h
    obtain ⟨_, -, h⟩ := bind_ok h
    cases h
    exact Or.inl rfl
  | none =>
    simp only [hg] at h
    cases ha : activeReconciliation t e.runId e.triggerKind with
    | some row =>
      simp only [ha] at h
      cases h
    | none =>
      simp only [ha] at h
      obtain ⟨reconciliations, hi, h⟩ := bind_ok h
      obtain ⟨links, hl, h⟩ := bind_ok h
      cases h
      exact Or.inr ⟨⟨hv, hnew.1.1.1, hnew.1.1.2, hnew.1.2, hnew.2, hg, ha, (insertRow_ok_iff.1 hi).2, rfl, rfl⟩,
        ⟨rfl, rfl, rfl⟩, link, hlink, hl⟩

theorem findingBody_ok {w : Wire} {f : ReconciliationFinding} {v : Nat} {e : ReconciliationEpisode}
    {t t' : ControlTables} (h : findingBody w f v t = .ok (e, t')) :
    (t' = t ∧ t.findings.get f.key = some f) ∨ ∃ row, Found w t t' row f ∧ Quiet t t' := by
  unfold findingBody at h
  obtain ⟨hv, h⟩ := bind_unit_ok.1 h
  obtain ⟨link, hlink, h⟩ := bind_ok h
  cases hg : t.findings.get f.key with
  | some row =>
    simp only [hg] at h
    obtain ⟨existing, hread, h⟩ := bind_ok h
    obtain ⟨hsame, h⟩ := ensure_bind_ok.1 h
    obtain ⟨e', -, h⟩ := bind_ok h
    obtain ⟨_, -, h⟩ := bind_ok h
    cases h
    unfold checkedFinding at hread
    obtain ⟨-, hread⟩ := ensure_bind_ok.1 hread
    cases hread
    exact Or.inl ⟨rfl, by rw [show row = f by simpa using hsame]⟩
  | none =>
    simp only [hg] at h
    obtain ⟨⟨e', t₁⟩, ha, h⟩ := bind_ok h
    obtain ⟨findings, hi, h⟩ := bind_ok h
    obtain ⟨links, hl, h⟩ := bind_ok h
    cases h
    obtain ⟨row, reconciliations, hadv, -, rfl⟩ := advance_ok ha
    exact Or.inr ⟨row, ⟨{ hadv with }, hv, (insertRow_ok_iff.1 hi).2, rfl, link, hlink, hl⟩, rfl, rfl, rfl⟩

theorem actionBody_ok {w : Wire} {r : ReconciliationActionReceipt} {v : Nat} {e : ReconciliationEpisode}
    {t t' : ControlTables} (h : actionBody w r v t = .ok (e, t')) :
    (t' = t ∧ (findAction t r).isSome = true) ∨ ∃ row, Acted w t t' row r ∧ Quiet t t' := by
  unfold actionBody at h
  obtain ⟨hv, h⟩ := bind_unit_ok.1 h
  obtain ⟨-, h⟩ := ensure_bind_ok.1 h
  obtain ⟨link, hlink, h⟩ := bind_ok h
  cases hf : findAction t r with
  | some row =>
    simp only [hf] at h
    obtain ⟨existing, -, h⟩ := bind_ok h
    obtain ⟨-, h⟩ := ensure_bind_ok.1 h
    obtain ⟨e', -, h⟩ := bind_ok h
    obtain ⟨_, -, h⟩ := bind_ok h
    cases h
    exact Or.inl ⟨rfl, rfl⟩
  | none =>
    simp only [hf] at h
    obtain ⟨⟨e', t₁⟩, ha, h⟩ := bind_ok h
    obtain ⟨⟨n, t₂⟩, hi, h⟩ := bind_ok h
    obtain ⟨links, hl, h⟩ := bind_ok h
    cases h
    obtain ⟨row, reconciliations, hadv, -, rfl⟩ := advance_ok ha
    obtain ⟨-, -, actions, rfl, hrows⟩ := insertAction_ok hi
    exact Or.inr ⟨row, ⟨{ hadv with }, hv, rfl, hrows, link, hlink, hl⟩, rfl, rfl, rfl⟩

theorem proofBody_ok {w : Wire} {p p' : OwnershipProof} {t t' : ControlTables} (h : proofBody w p t = .ok (p', t')) :
    t' = t ∨ ∃ proofs links, t' = { t with proofs := proofs, links := links } ∧ p.validate w = .ok () ∧
      t.proofs.get p.proofId = none ∧ proofs.rows = t.proofs.rows ++ [p] ∧
      Records t t' (ownershipProofCorrelationLink w p) := by
  unfold proofBody at h
  obtain ⟨hv, h⟩ := bind_unit_ok.1 h
  obtain ⟨link, hlink, h⟩ := bind_ok h
  cases hf : t.proofs.rows.find? (fun q => q.sourceEventId == p.sourceEventId) with
  | some row =>
    simp only [hf] at h
    obtain ⟨existing, -, h⟩ := bind_ok h
    obtain ⟨-, h⟩ := ensure_bind_ok.1 h
    obtain ⟨_, -, h⟩ := bind_ok h
    cases h
    exact Or.inl rfl
  | none =>
    simp only [hf] at h
    obtain ⟨proofs, hi, h⟩ := bind_ok h
    obtain ⟨links, hl, h⟩ := bind_ok h
    cases h
    obtain ⟨hnone, hrows⟩ := Table.insert_some (insertRow_ok hi)
    exact Or.inr ⟨proofs, links, rfl, hv, hnone, hrows, link, hlink, hl⟩

/-! ## The consumption of a proof -/

def consumptionOf (q : FreshAttemptRequest) (p : OwnershipProof) (now : Int) (t : ControlTables) : Consumption :=
  ⟨p.proofId, q.receipt.episodeId, Table.maxOf ActionRow.id t.actions.rows + 1, q.replacement.taskId, p.priorAttemptId,
    q.replacement.id, now⟩

/-- **What the consumption of a proof found and left.** -/
structure Consumed (w : CustodyWire) (t t' : ControlTables) (q : FreshAttemptRequest) (p : OwnershipProof) (now : Int)
    (link : CorrelationLink) : Prop where
  request : checkRequest w q = .ok link
  proof : t.proofs.get q.proofId = some p
  checks : checkConsumption w q p now t = .ok ()
  proofs : t'.proofs = t.proofs
  links : recordCorrelationLinkInTransaction t.links link = .ok t'.links
  attempts : t'.custody.attempts.rows = t.custody.attempts.rows ++ [attemptOf w q.replacement]
  free : ∀ a ∈ t.custody.attempts.rows, ¬ (a.taskId = q.replacement.taskId ∧
    a.attemptNumber = (q.replacement.attemptNumber : Int))
  consumptions : t'.consumptions.rows = t.consumptions.rows ++ [consumptionOf q p now t]
  unshared : ∀ c ∈ t.consumptions.rows, c.replacementAttemptId ≠ q.replacement.id

theorem checkRequest_link {w : CustodyWire} {q : FreshAttemptRequest} {link : CorrelationLink}
    (h : checkRequest w q = .ok link) : reconciliationActionCorrelationLink w.toWire q.receipt = .ok link := by
  unfold checkRequest at h
  obtain ⟨-, h⟩ := bind_unit_ok.1 h
  obtain ⟨l, hl, h⟩ := bind_ok h
  obtain ⟨-, h⟩ := ensure_bind_ok.1 h
  obtain ⟨-, h⟩ := ensure_bind_ok.1 h
  obtain ⟨-, h⟩ := bind_unit_ok.1 h
  obtain ⟨-, h⟩ := ensure_bind_ok.1 h
  cases h
  exact hl

theorem insertAttempt_ok {c c' : Custody} {a : AttemptRow} (h : insertAttempt c a = .ok c') :
    (∀ b ∈ c.attempts.rows, ¬ (b.taskId = a.taskId ∧ b.attemptNumber = a.attemptNumber)) ∧
      ∃ attempts, c' = { c with attempts := attempts } ∧ attempts.rows = c.attempts.rows ++ [a] := by
  unfold insertAttempt at h
  obtain ⟨hfree, h⟩ := bind_unit_ok.1 h
  obtain ⟨attempts, hi, h⟩ := bind_ok h
  cases h
  have hb := require_ok hfree
  simp only [Bool.not_eq_true', List.any_eq_false, Bool.and_eq_true, beq_iff_eq] at hb
  exact ⟨hb, attempts, rfl, (insertRow_ok_iff.1 hi).2⟩

theorem materialize_ok {w : CustodyWire} {q : FreshAttemptRequest} {c c' : Custody} (h : materialize w q c = .ok c') :
    (∀ b ∈ c.attempts.rows, ¬ (b.taskId = q.replacement.taskId ∧ b.attemptNumber = (q.replacement.attemptNumber : Int))) ∧
      c'.attempts.rows = c.attempts.rows ++ [attemptOf w q.replacement] := by
  unfold materialize at h
  obtain ⟨c₁, hi, h⟩ := bind_ok h
  obtain ⟨hfree, attempts, rfl, hrows⟩ := insertAttempt_ok hi
  obtain ⟨-, h⟩ := ensure_bind_ok.1 h
  obtain ⟨taskResults, -, h⟩ := bind_ok h
  cases h
  exact ⟨hfree, hrows⟩

theorem insertConsumption_ok {t t' : ControlTables} {c : Consumption} (h : insertConsumption t c = .ok t') :
    (∀ d ∈ t.consumptions.rows, d.replacementAttemptId ≠ c.replacementAttemptId) ∧
      ∃ consumptions, t' = { t with consumptions := consumptions } ∧ consumptions.rows = t.consumptions.rows ++ [c] := by
  unfold insertConsumption at h
  obtain ⟨hfree, h⟩ := bind_unit_ok.1 h
  obtain ⟨consumptions, hi, h⟩ := bind_ok h
  cases h
  have hb := require_ok hfree
  simp only [Bool.not_eq_true', List.any_eq_false, Bool.or_eq_true, beq_iff_eq, not_or] at hb
  exact ⟨fun d hd => (hb d hd).2, consumptions, rfl, (insertRow_ok_iff.1 hi).2⟩

theorem consumeBody_ok {w : CustodyWire} {q : FreshAttemptRequest} {now : Int} {t t' : ControlTables}
    (h : consumeBody w q now t = .ok t') :
    t' = t ∨ ∃ p row link, Consumed w t t' q p now link ∧ Acted w.toWire t t' row q.receipt ∧ Quiet t t' := by
  unfold consumeBody at h
  obtain ⟨link, hreq, h⟩ := bind_ok h
  obtain ⟨row, hrow, h⟩ := bind_ok h
  obtain ⟨p, hp, h⟩ := bind_ok h
  unfold checkedProof at hp
  obtain ⟨-, hp⟩ := ensure_bind_ok.1 hp
  cases hp
  cases he : existingConsumption t q.proofId with
  | some found =>
    obtain ⟨c, a, attempt⟩ := found
    simp only [he] at h
    obtain ⟨_, -, h⟩ := bind_ok h
    cases h
    exact Or.inl rfl
  | none =>
    simp only [he] at h
    obtain ⟨hcheck, h⟩ := bind_unit_ok.1 h
    unfold authorize at h
    obtain ⟨⟨e, t₁⟩, hadvance, h⟩ := bind_ok h
    obtain ⟨erow, reconciliations, hadv, -, rfl⟩ := advance_ok hadvance
    obtain ⟨⟨n, t₂⟩, hact, h⟩ := bind_ok h
    obtain ⟨rfl, -, actions, rfl, hactions⟩ := insertAction_ok hact
    obtain ⟨links, hlinks, h⟩ := bind_ok h
    obtain ⟨custody, hmat, h⟩ := bind_ok h
    obtain ⟨hfree, hattempts⟩ := materialize_ok hmat
    obtain ⟨hunshared, consumptions, rfl, hcons⟩ := insertConsumption_ok h
    have hvalid : q.receipt.validate w.toWire = .ok () := by
      unfold checkRequest at hreq
      exact (bind_unit_ok.1 hreq).1
    exact Or.inr ⟨row, erow, link, ⟨hreq, okOr_ok hrow, hcheck, rfl, hlinks, hattempts, hfree, hcons, hunshared⟩,
      ⟨{ hadv with }, hvalid, rfl, hactions, link, checkRequest_link hreq, hlinks⟩, rfl, rfl, rfl⟩

end Control
end Bildr
