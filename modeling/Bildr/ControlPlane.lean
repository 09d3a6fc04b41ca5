import Bildr.ReconciliationSteps
import Bildr.Trace
/-!
# ControlPlane — histories of calls

A history is a list of calls, each with the time the clock showed it; a refused call leaves the tables.  Every call
changes the liveness tables in one of four ways and the reconciliation tables in one of four (`perform_liveness`,
`perform_reconciliation`).  The locks of a wait that only read leave no trace, so the interleavings of waits are
histories of receipts.  The purge of a run (`delete_run`), which deletes rows of all these tables, is left out.
-/
namespace Bildr
namespace Control

inductive ControlCall
  | openLiveness (e : LivenessEpisode)
  | observe (episodeId : String) (expectedVersion : Nat) (o : LivenessObservation)
  | receipt (r : InterventionReceipt)
  | wait (q : Intervention) (now : Int)
  | pause (q : Intervention) (now : Int)
  | openReconciliation (e : ReconciliationEpisode)
  | finding (f : ReconciliationFinding) (expectedVersion : Nat)
  | action (r : ReconciliationActionReceipt) (expectedVersion : Nat)
  | proof (p : OwnershipProof)
  | consume (q : FreshAttemptRequest) (now : Int)
  | lease (taskId attemptId : String)
  | composeBase (attemptId : String) (packet : Plan.Packet) (baseSha : String)
  | link (l : CorrelationLink)

def perform (w : CustodyWire) (t : ControlTables) : ControlCall → ControlTables
  | .openLiveness e              => (openLivenessEpisode w.toWire e t).2
  | .observe id v o              => (recordLivenessObservation w.toWire id v o t).2
  | .receipt r                   => (recordInterventionReceipt w.toWire r t).2
  | .wait q now                  => (executeWaitIntervention w.toWire q now t).2
  | .pause q now                 => (executePauseForOperatorIntervention w.toWire q now t).2
  | .openReconciliation e        => (openReconciliationEpisode w.toWire e t).2
  | .finding f v                 => (recordReconciliationFinding w.toWire f v t).2
  | .action r v                  => (recordReconciliationActionReceipt w.toWire r v t).2
  | .proof p                     => (recordOwnershipProof w.toWire p t).2
  | .consume q now               => (consumeOwnershipProofForFreshAttempt w q now t).2
  | .lease taskId attemptId      => (leaseAuthorizedFreshAttempt taskId attemptId t).2
  | .composeBase id packet base  => (setAttemptComposedBase w id packet base t).2
  | .link l                      => { t with links := (recordCorrelationLink l t.links).2 }

/-! ## The calls one by one -/

def Receipts (w : Wire) (t t' : ControlTables) : Prop := (Quiet t t' ∨ ∃ row r, Counted w t t' row r) ∧ Calm t t'

theorem Receipts.refl (w : Wire) (t : ControlTables) : Receipts w t t := ⟨Or.inl (Quiet.refl t), Calm.refl t⟩

theorem receipt_receipts (w : Wire) (r : InterventionReceipt) (t : ControlTables) :
    Receipts w t (recordInterventionReceipt w r t).2 := by
  refine transaction_after (P := Receipts w t) (Receipts.refl w t) (fun e t' hb => ?_)
  obtain ⟨hq | ⟨row, hc, -⟩, hcalm, -⟩ := receipt_ok hb
  · exact ⟨Or.inl hq, hcalm⟩
  · exact ⟨Or.inr ⟨row, r, hc⟩, hcalm⟩

theorem wait_receipts (w : Wire) (q : Intervention) (now : Int) (t : ControlTables) :
    Receipts w t (executeWaitIntervention w q now t).2 := by
  unfold executeWaitIntervention
  cases waitLookup w q t with
  | error e => exact Receipts.refl w t
  | ok found =>
    cases found with
    | some r => exact receipt_receipts w r t
    | none =>
      cases waitReceipt w q now t with
      | error e => exact Receipts.refl w t
      | ok r => exact receipt_receipts w r t

theorem pause_receipts (w : Wire) (q : Intervention) (now : Int) (t : ControlTables) :
    Receipts w t (executePauseForOperatorIntervention w q now t).2 :=
  transaction_after (P := Receipts w t) (Receipts.refl w t) (fun _ _ hb =>
    ⟨(pauseBody_ok hb).1, (pauseBody_ok hb).2.1⟩)

theorem lease_quiet (taskId attemptId : String) (t : ControlTables) :
    Quiet t (leaseAuthorizedFreshAttempt taskId attemptId t).2 ∧
      Calm t (leaseAuthorizedFreshAttempt taskId attemptId t).2 ∧
      (leaseAuthorizedFreshAttempt taskId attemptId t).2.links = t.links := by
  refine commit_after (P := fun t' => Quiet t t' ∧ Calm t t' ∧ t'.links = t.links) ⟨Quiet.refl t, Calm.refl t, rfl⟩
    (fun t' hb => ?_)
  unfold leaseBody at hb
  obtain ⟨-, hb⟩ := ensure_bind_ok.1 hb
  obtain ⟨-, hb⟩ := ensure_bind_ok.1 hb
  cases hb
  exact ⟨⟨rfl, rfl, rfl⟩, ⟨rfl, rfl, rfl⟩, rfl⟩

theorem composeBase_quiet (w : CustodyWire) (id base : String) (packet : Plan.Packet) (t : ControlTables) :
    Quiet t (setAttemptComposedBase w id packet base t).2 ∧ Calm t (setAttemptComposedBase w id packet base t).2 ∧
      (setAttemptComposedBase w id packet base t).2.links = t.links := by
  refine commit_after (P := fun t' => Quiet t t' ∧ Calm t t' ∧ t'.links = t.links) ⟨Quiet.refl t, Calm.refl t, rfl⟩
    (fun t' hb => ?_)
  obtain ⟨-, hb⟩ := ensure_bind_ok.1 hb
  cases hb
  exact ⟨⟨rfl, rfl, rfl⟩, ⟨rfl, rfl, rfl⟩, rfl⟩

def Reconciles (w : Wire) (t t' : ControlTables) : Prop :=
  Calm t t' ∨ (∃ e, Convened w t t' e) ∨ (∃ row f, Found w t t' row f) ∨ ∃ row r, Acted w t t' row r

theorem openReconciliation_reconciles (w : Wire) (e : ReconciliationEpisode) (t : ControlTables) :
    Reconciles w t (openReconciliationEpisode w e t).2 ∧ Quiet t (openReconciliationEpisode w e t).2 := by
  refine transaction_after (P := fun t' => Reconciles w t t' ∧ Quiet t t') ⟨Or.inl (Calm.refl t), Quiet.refl t⟩
    (fun e' t' hb => ?_)
  rcases openReconciliationBody_ok hb with rfl | ⟨hc, hq, -⟩
  · exact ⟨Or.inl (Calm.refl t'), Quiet.refl t'⟩
  · exact ⟨Or.inr (Or.inl ⟨e, hc⟩), hq⟩

theorem finding_reconciles (w : Wire) (f : ReconciliationFinding) (v : Nat) (t : ControlTables) :
    Reconciles w t (recordReconciliationFinding w f v t).2 ∧ Quiet t (recordReconciliationFinding w f v t).2 := by
  refine transaction_after (P := fun t' => Reconciles w t t' ∧ Quiet t t') ⟨Or.inl (Calm.refl t), Quiet.refl t⟩
    (fun e' t' hb => ?_)
  rcases findingBody_ok hb with ⟨rfl, -⟩ | ⟨row, hf, hq⟩
  · exact ⟨Or.inl (Calm.refl t'), Quiet.refl t'⟩
  · exact ⟨Or.inr (Or.inr (Or.inl ⟨row, f, hf⟩)), hq⟩

theorem action_reconciles (w : Wire) (r : ReconciliationActionReceipt) (v : Nat) (t : ControlTables) :
    Reconciles w t (recordReconciliationActionReceipt w r v t).2 ∧
      Quiet t (recordReconciliationActionReceipt w r v t).2 := by
  refine transaction_after (P := fun t' => Reconciles w t t' ∧ Quiet t t') ⟨Or.inl (Calm.refl t), Quiet.refl t⟩
    (fun e' t' hb => ?_)
  rcases actionBody_ok hb with ⟨rfl, -⟩ | ⟨row, ha, hq⟩
  · exact ⟨Or.inl (Calm.refl t'), Quiet.refl t'⟩
  · exact ⟨Or.inr (Or.inr (Or.inr ⟨row, r, ha⟩)), hq⟩

theorem proof_reconciles (w : Wire) (p : OwnershipProof) (t : ControlTables) :
    Calm t (recordOwnershipProof w p t).2 ∧ Quiet t (recordOwnershipProof w p t).2 := by
  refine transaction_after (P := fun t' => Calm t t' ∧ Quiet t t') ⟨Calm.refl t, Quiet.refl t⟩ (fun p' t' hb => ?_)
  rcases proofBody_ok hb with rfl | ⟨proofs, links, rfl, -⟩
  · exact ⟨Calm.refl t', Quiet.refl t'⟩
  · exact ⟨⟨rfl, rfl, rfl⟩, rfl, rfl, rfl⟩

theorem consume_reconciles (w : CustodyWire) (q : FreshAttemptRequest) (now : Int) (t : ControlTables) :
    Reconciles w.toWire t (consumeOwnershipProofForFreshAttempt w q now t).2 ∧
      Quiet t (consumeOwnershipProofForFreshAttempt w q now t).2 := by
  refine commit_after (P := fun t' => Reconciles w.toWire t t' ∧ Quiet t t') ⟨Or.inl (Calm.refl t), Quiet.refl t⟩
    (fun t' hb => ?_)
  rcases consumeBody_ok hb with rfl | ⟨p, row, link, -, ha, hq⟩
  · exact ⟨Or.inl (Calm.refl t'), Quiet.refl t'⟩
  · exact ⟨Or.inr (Or.inr (Or.inr ⟨row, q.receipt, ha⟩)), hq⟩

/-! ## What a call can do -/

def Lives (w : Wire) (c : ControlCall) (t t' : ControlTables) : Prop :=
  Quiet t t' ∨ (∃ e, c = .openLiveness e ∧ Opened w t t' e) ∨
  (∃ id v o row, c = .observe id v o ∧ Observed w t t' row o ∧ row.payload.version = v) ∨ ∃ row r, Counted w t t' row r

theorem Lives.of_receipts {w : Wire} {c : ControlCall} {t t' : ControlTables} (h : Receipts w t t') : Lives w c t t' := by
  rcases h.1 with hq | hc
  · exact Or.inl hq
  · exact Or.inr (Or.inr (Or.inr hc))

theorem openLiveness_lives (w : Wire) (e : LivenessEpisode) (t : ControlTables) :
    Lives w (.openLiveness e) t (openLivenessEpisode w e t).2 ∧ Calm t (openLivenessEpisode w e t).2 := by
  refine transaction_after (P := fun t' => Lives w (.openLiveness e) t t' ∧ Calm t t')
    ⟨Or.inl (Quiet.refl t), Calm.refl t⟩ (fun e' t' hb => ?_)
  obtain ⟨rfl | ho, hcalm, -⟩ := openEpisodeBody_ok hb
  · exact ⟨Or.inl (Quiet.refl t'), hcalm⟩
  · exact ⟨Or.inr (Or.inl ⟨e, rfl, ho⟩), hcalm⟩

theorem observe_lives (w : Wire) (id : String) (v : Nat) (o : LivenessObservation) (t : ControlTables) :
    Lives w (.observe id v o) t (recordLivenessObservation w id v o t).2 ∧
      Calm t (recordLivenessObservation w id v o t).2 := by
  refine transaction_after (P := fun t' => Lives w (.observe id v o) t t' ∧ Calm t t')
    ⟨Or.inl (Quiet.refl t), Calm.refl t⟩ (fun e' t' hb => ?_)
  obtain ⟨hq | ⟨row, ho, hv⟩, hcalm, -⟩ := observationBody_ok hb
  · exact ⟨Or.inl hq, hcalm⟩
  · exact ⟨Or.inr (Or.inr (Or.inl ⟨id, v, o, row, rfl, ho, hv⟩)), hcalm⟩

theorem perform_liveness (w : CustodyWire) (t : ControlTables) (c : ControlCall) :
    Lives w.toWire c t (perform w t c) := by
  cases c with
  | openLiveness e => exact (openLiveness_lives w.toWire e t).1
  | observe id v o => exact (observe_lives w.toWire id v o t).1
  | receipt r => exact Lives.of_receipts (receipt_receipts w.toWire r t)
  | wait q now => exact Lives.of_receipts (wait_receipts w.toWire q now t)
  | pause q now => exact Lives.of_receipts (pause_receipts w.toWire q now t)
  | openReconciliation e => exact Or.inl (openReconciliation_reconciles w.toWire e t).2
  | finding f v => exact Or.inl (finding_reconciles w.toWire f v t).2
  | action r v => exact Or.inl (action_reconciles w.toWire r v t).2
  | proof p => exact Or.inl (proof_reconciles w.toWire p t).2
  | consume q now => exact Or.inl (consume_reconciles w q now t).2
  | lease taskId attemptId => exact Or.inl (lease_quiet taskId attemptId t).1
  | composeBase id packet base => exact Or.inl (composeBase_quiet w id base packet t).1
  | link l => exact Or.inl ⟨rfl, rfl, rfl⟩

theorem perform_reconciliation (w : CustodyWire) (t : ControlTables) (c : ControlCall) :
    Reconciles w.toWire t (perform w t c) := by
  cases c with
  | openLiveness e => exact Or.inl (openLiveness_lives w.toWire e t).2
  | observe id v o => exact Or.inl (observe_lives w.toWire id v o t).2
  | receipt r => exact Or.inl (receipt_receipts w.toWire r t).2
  | wait q now => exact Or.inl (wait_receipts w.toWire q now t).2
  | pause q now => exact Or.inl (pause_receipts w.toWire q now t).2
  | openReconciliation e => exact (openReconciliation_reconciles w.toWire e t).1
  | finding f v => exact (finding_reconciles w.toWire f v t).1
  | action r v => exact (action_reconciles w.toWire r v t).1
  | proof p => exact Or.inl (proof_reconciles w.toWire p t).1
  | consume q now => exact (consume_reconciles w q now t).1
  | lease taskId attemptId => exact Or.inl (lease_quiet taskId attemptId t).2.1
  | composeBase id packet base => exact Or.inl (composeBase_quiet w id base packet t).2.1
  | link l => exact Or.inl ⟨rfl, rfl, rfl⟩

end Control
end Bildr
