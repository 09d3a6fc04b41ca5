import Bildr.FactAdmission
/-!
# ReplacementLedger — one replacement for one prior attempt

A proof is consumed at most once and a prior attempt is replaced at most once, whatever other calls do to tasks and
attempts in between: the replacement takes the number after its prior's, and that number is unique in the task.  Only a
launch rewrites the packet and the base of a stored attempt (`setAttemptComposedBase`); until it does, the consumption
can be repeated.
-/
namespace Bildr
namespace Control

open Trace (run)

/-! ## What a call leaves of proofs, consumptions and custody -/

structure Apart (t t' : ControlTables) : Prop where
  proofs : t'.proofs = t.proofs
  consumptions : t'.consumptions = t.consumptions
  custody : t'.custody = t.custody

theorem Apart.refl (t : ControlTables) : Apart t t := ⟨rfl, rfl, rfl⟩

section Apart
variable {w : Wire} {t t' : ControlTables}

theorem openEpisodeBody_apart {e e' : LivenessEpisode} (h : openEpisodeBody w e t = .ok (e', t')) : Apart t t' := by
  unfold openEpisodeBody at h
  obtain ⟨-, h⟩ := bind_unit_ok.1 h
  obtain ⟨-, h⟩ := ensure_bind_ok.1 h
  obtain ⟨-, h⟩ := ensure_bind_ok.1 h
  split at h
  · obtain ⟨existing, -, h⟩ := bind_ok h
    obtain ⟨-, h⟩ := ensure_bind_ok.1 h
    cases h
    exact Apart.refl t
  · split at h
    · obtain ⟨existing, -, h⟩ := bind_ok h
      cases h
    · obtain ⟨episodes, -, h⟩ := bind_ok h
      cases h
      exact ⟨rfl, rfl, rfl⟩

theorem observeEpisode_apart {o : LivenessObservation} {expected : Int} {e : LivenessEpisode}
    (h : observeEpisode w o expected t = .ok (e, t')) : Apart t t' := by
  unfold observeEpisode at h
  obtain ⟨row, -, h⟩ := bind_ok h
  obtain ⟨e₀, -, h⟩ := bind_ok h
  obtain ⟨version, -, h⟩ := bind_ok h
  obtain ⟨-, h⟩ := ensure_bind_ok.1 h
  obtain ⟨-, h⟩ := ensure_bind_ok.1 h
  obtain ⟨-, h⟩ := ensure_bind_ok.1 h
  obtain ⟨-, h⟩ := ensure_bind_ok.1 h
  obtain ⟨-, h⟩ := bind_unit_ok.1 h
  obtain ⟨_, -, h⟩ := bind_ok h
  obtain ⟨t₁, hcas, h⟩ := bind_ok h
  obtain ⟨-, rfl⟩ := casEpisode_ok.1 hcas
  obtain ⟨_, -, h⟩ := bind_ok h
  obtain ⟨observations, -, h⟩ := bind_ok h
  cases h
  exact ⟨rfl, rfl, rfl⟩

theorem observationBody_apart {id : String} {v : Nat} {o : LivenessObservation} {e : LivenessEpisode}
    (h : observationBody w id v o t = .ok (e, t')) : Apart t t' := by
  unfold observationBody at h
  obtain ⟨-, h⟩ := bind_unit_ok.1 h
  obtain ⟨-, h⟩ := ensure_bind_ok.1 h
  obtain ⟨link, -, h⟩ := bind_ok h
  obtain ⟨expected, -, h⟩ := bind_ok h
  split at h
  · obtain ⟨existing, -, h⟩ := bind_ok h
    obtain ⟨-, h⟩ := ensure_bind_ok.1 h
    obtain ⟨found, -, h⟩ := bind_ok h
    obtain ⟨e', -, h⟩ := bind_ok h
    obtain ⟨links, -, h⟩ := bind_ok h
    cases h
    exact ⟨rfl, rfl, rfl⟩
  · obtain ⟨⟨e', t₁⟩, hobs, h⟩ := bind_ok h
    obtain ⟨links, -, h⟩ := bind_ok h
    cases h
    exact { observeEpisode_apart hobs with }

theorem interveneEpisode_apart {r : InterventionReceipt} {e : LivenessEpisode} (h : interveneEpisode w r t = .ok (e, t')) :
    Apart t t' := by
  unfold interveneEpisode at h
  obtain ⟨row, -, h⟩ := bind_ok h
  obtain ⟨e₀, -, h⟩ := bind_ok h
  obtain ⟨-, h⟩ := ensure_bind_ok.1 h
  obtain ⟨-, h⟩ := ensure_bind_ok.1 h
  obtain ⟨-, h⟩ := ensure_bind_ok.1 h
  obtain ⟨-, h⟩ := ensure_bind_ok.1 h
  obtain ⟨-, h⟩ := ensure_bind_ok.1 h
  obtain ⟨-, h⟩ := bind_unit_ok.1 h
  obtain ⟨_, -, h⟩ := bind_ok h
  obtain ⟨expected, -, h⟩ := bind_ok h
  obtain ⟨t₁, hcas, h⟩ := bind_ok h
  obtain ⟨-, rfl⟩ := casEpisode_ok.1 hcas
  obtain ⟨receipts, -, h⟩ := bind_ok h
  cases h
  exact ⟨rfl, rfl, rfl⟩

theorem receipt_apart {r : InterventionReceipt} {e : LivenessEpisode}
    (h : recordInterventionReceiptInTransaction w r t = .ok (e, t')) : Apart t t' := by
  unfold recordInterventionReceiptInTransaction at h
  obtain ⟨-, h⟩ := bind_unit_ok.1 h
  obtain ⟨link, -, h⟩ := bind_ok h
  split at h
  · obtain ⟨-, -, links, -, rfl⟩ := replayReceipt_ok h
    exact ⟨rfl, rfl, rfl⟩
  · obtain ⟨-, -, links, -, rfl⟩ := replayReceipt_ok h
    exact ⟨rfl, rfl, rfl⟩
  · obtain ⟨⟨e', t₁⟩, hi, h⟩ := bind_ok h
    obtain ⟨links, -, h⟩ := bind_ok h
    cases h
    exact { interveneEpisode_apart hi with }

theorem pauseBody_apart {q : Intervention} {now : Int} {e : LivenessEpisode} (h : pauseBody w q now t = .ok (e, t')) :
    Apart t t' := by
  unfold pauseBody at h
  split at h
  · obtain ⟨r', -, h⟩ := bind_ok h
    obtain ⟨-, h⟩ := ensure_bind_ok.1 h
    exact receipt_apart h
  · obtain ⟨row, -, h⟩ := bind_ok h
    obtain ⟨e₀, -, h⟩ := bind_ok h
    obtain ⟨-, h⟩ := ensure_bind_ok.1 h
    obtain ⟨-, h⟩ := ensure_bind_ok.1 h
    obtain ⟨runId, -, h⟩ := bind_ok h
    obtain ⟨run, -, h⟩ := bind_ok h
    obtain ⟨r, -, h⟩ := bind_ok h
    obtain ⟨humanActions, -, h⟩ := bind_ok h
    exact { receipt_apart h with }

theorem openReconciliationBody_apart {e e' : ReconciliationEpisode} (h : openReconciliationBody w e t = .ok (e', t')) :
    Apart t t' := by
  unfold openReconciliationBody at h
  obtain ⟨-, h⟩ := bind_unit_ok.1 h
  obtain ⟨link, -, h⟩ := bind_ok h
  obtain ⟨-, h⟩ := ensure_bind_ok.1 h
  split at h
  · obtain ⟨existing, -, h⟩ := bind_ok h
    obtain ⟨-, h⟩ := ensure_bind_ok.1 h
    obtain ⟨_, -, h⟩ := bind_ok h
    cases h
    exact Apart.refl t
  · split at h
    · cases h
    · obtain ⟨reconciliations, -, h⟩ := bind_ok h
      obtain ⟨links, -, h⟩ := bind_ok h
      cases h
      exact ⟨rfl, rfl, rfl⟩

theorem findingBody_apart {f : ReconciliationFinding} {v : Nat} {e : ReconciliationEpisode}
    (h : findingBody w f v t = .ok (e, t')) : Apart t t' := by
  unfold findingBody at h
  obtain ⟨-, h⟩ := bind_unit_ok.1 h
  obtain ⟨link, -, h⟩ := bind_ok h
  split at h
  · obtain ⟨existing, -, h⟩ := bind_ok h
    obtain ⟨-, h⟩ := ensure_bind_ok.1 h
    obtain ⟨e', -, h⟩ := bind_ok h
    obtain ⟨_, -, h⟩ := bind_ok h
    cases h
    exact Apart.refl t
  · obtain ⟨⟨e', t₁⟩, ha, h⟩ := bind_ok h
    obtain ⟨findings, -, h⟩ := bind_ok h
    obtain ⟨links, -, h⟩ := bind_ok h
    cases h
    obtain ⟨row, reconciliations, -, -, rfl⟩ := advance_ok ha
    exact ⟨rfl, rfl, rfl⟩

theorem actionBody_apart {r : ReconciliationActionReceipt} {v : Nat} {e : ReconciliationEpisode}
    (h : actionBody w r v t = .ok (e, t')) : Apart t t' := by
  unfold actionBody at h
  obtain ⟨-, h⟩ := bind_unit_ok.1 h
  obtain ⟨-, h⟩ := ensure_bind_ok.1 h
  obtain ⟨link, -, h⟩ := bind_ok h
  split at h
  · obtain ⟨existing, -, h⟩ := bind_ok h
    obtain ⟨-, h⟩ := ensure_bind_ok.1 h
    obtain ⟨e', -, h⟩ := bind_ok h
    obtain ⟨_, -, h⟩ := bind_ok h
    cases h
    exact Apart.refl t
  · obtain ⟨⟨e', t₁⟩, ha, h⟩ := bind_ok h
    obtain ⟨⟨n, t₂⟩, hi, h⟩ := bind_ok h
    obtain ⟨links, -, h⟩ := bind_ok h
    cases h
    obtain ⟨row, reconciliations, -, -, rfl⟩ := advance_ok ha
    obtain ⟨-, -, actions, rfl, -⟩ := insertAction_ok hi
    exact ⟨rfl, rfl, rfl⟩

end Apart

/-! ## Other work on tasks and attempts -/

/-- The numbers of attempts are `u32`s, and no task has a number twice. -/
structure Numbered (c : Custody) : Prop where
  bounded : ∀ a ∈ c.attempts.rows, 0 ≤ a.attemptNumber ∧ a.attemptNumber ≤ (u32Max : Int)
  unique : ∀ a ∈ c.attempts.rows, ∀ b ∈ c.attempts.rows, a.taskId = b.taskId → a.attemptNumber = b.attemptNumber → a = b

def Keeps (a b : AttemptRow) : Prop :=
  b = { a with
    state := b.state
    headSha := b.headSha }

/-- The attempt is the prior or the replacement of a consumption. -/
def Referenced (t : ControlTables) (id : String) : Prop :=
  ∃ c ∈ t.consumptions.rows, id = c.priorAttemptId ∨ id = c.replacementAttemptId

/-- What other calls of the store do to tasks, attempts, runs and human actions: anything, within the keys of the schema;
an attempt that a consumption references stays, with its packet, its base and its route. -/
structure OtherUpdate where
  custody : ControlTables → Custody
  runs : ControlTables → Table RunRow.id
  humanActions : ControlTables → Table HumanAction.id
  numbered : ∀ t, Numbered t.custody → Numbered (custody t)
  kept : ∀ t, ∀ a ∈ t.custody.attempts.rows, Referenced t a.id → ∃ b ∈ (custody t).attempts.rows, Keeps a b

inductive Event
  | call (c : ControlCall)
  | other (u : OtherUpdate)

def happen (w : CustodyWire) (t : ControlTables) : Event → ControlTables
  | .call c  => perform w t c
  | .other u => { t with
      custody := u.custody t
      runs := u.runs t
      humanActions := u.humanActions t }

def AttemptRow.compose (w : CustodyWire) (packet : Plan.Packet) (base : String) (a : AttemptRow) : AttemptRow :=
  { a with
    taskPacketJson := w.packetText packet
    taskPacketSha256 := (w.sha256 (w.packetText packet)).hex
    baseSha := base }

def Carried (w : CustodyWire) (e : Event) (a b : AttemptRow) : Prop :=
  Keeps a b ∨ ∃ packet base, e = .call (.composeBase a.id packet base) ∧ b = a.compose w packet base

theorem Carried.same {w : CustodyWire} {e : Event} {a b : AttemptRow} (h : Carried w e a b) :
    b.id = a.id ∧ b.taskId = a.taskId ∧ b.attemptNumber = a.attemptNumber ∧ b.requestedModelRoute = a.requestedModelRoute := by
  rcases h with h | ⟨packet, base, -, rfl⟩
  · rw [h]
    exact ⟨rfl, rfl, rfl, rfl⟩
  · exact ⟨rfl, rfl, rfl, rfl⟩

/-! ## What an event does to proofs, consumptions and attempts -/

structure Steady (w : CustodyWire) (e : Event) (t t' : ControlTables) : Prop where
  proofs : t.proofs.rows <+: t'.proofs.rows
  consumptions : t'.consumptions = t.consumptions
  numbered : Numbered t.custody → Numbered t'.custody
  carried : ∀ a ∈ t.custody.attempts.rows, Referenced t a.id → ∃ b ∈ t'.custody.attempts.rows, Carried w e a b

section Events
variable {w : CustodyWire} {t t' : ControlTables}

theorem Steady.of_apart {e : Event} (h : Apart t t') : Steady w e t t' where
  proofs := prefix_of_eq h.proofs
  consumptions := h.consumptions
  numbered := fun hn => h.custody ▸ hn
  carried := fun a ha _ => ⟨a, by rw [h.custody]; exact ha, Or.inl rfl⟩

theorem Steady.refl (w : CustodyWire) (e : Event) (t : ControlTables) : Steady w e t t := Steady.of_apart (Apart.refl t)

theorem Numbered.map {c c' : Custody} {f : AttemptRow → AttemptRow} (h : Numbered c)
    (hrows : c'.attempts.rows = c.attempts.rows.map f)
    (hf : ∀ a, (f a).taskId = a.taskId ∧ (f a).attemptNumber = a.attemptNumber) : Numbered c' := by
  constructor
  · intro b hb
    rw [hrows] at hb
    obtain ⟨a, ha, rfl⟩ := List.mem_map.1 hb
    rw [(hf a).2]
    exact h.bounded a ha
  · intro x hx y hy htask hnumber
    rw [hrows] at hx hy
    obtain ⟨a, ha, rfl⟩ := List.mem_map.1 hx
    obtain ⟨b, hb, rfl⟩ := List.mem_map.1 hy
    rw [(hf a).1, (hf b).1] at htask
    rw [(hf a).2, (hf b).2] at hnumber
    rw [h.unique a ha b hb htask hnumber]

theorem Steady.of_map {e : Event} {f : AttemptRow → AttemptRow} (hproofs : t'.proofs = t.proofs)
    (hconsumptions : t'.consumptions = t.consumptions)
    (hrows : t'.custody.attempts.rows = t.custody.attempts.rows.map f) (hf : ∀ a, Carried w e a (f a)) :
    Steady w e t t' where
  proofs := prefix_of_eq hproofs
  consumptions := hconsumptions
  numbered := fun hn => hn.map hrows (fun a => ⟨(hf a).same.2.1, (hf a).same.2.2.1⟩)
  carried := fun a ha _ => ⟨f a, by rw [hrows]; exact List.mem_map_of_mem ha, hf a⟩

theorem lease_steady (taskId attemptId : String) (t : ControlTables) :
    Steady w (.call (.lease taskId attemptId)) t (leaseAuthorizedFreshAttempt taskId attemptId t).2 := by
  refine commit_after (P := Steady w _ t) (Steady.refl w _ t) (fun t' hb => ?_)
  unfold leaseBody at hb
  obtain ⟨-, hb⟩ := ensure_bind_ok.1 hb
  obtain ⟨-, hb⟩ := ensure_bind_ok.1 hb
  cases hb
  refine Steady.of_map rfl rfl rfl (fun a => Or.inl ?_)
  split
  · rfl
  · rfl

theorem compose_steady (id base : String) (packet : Plan.Packet) (t : ControlTables) :
    Steady w (.call (.composeBase id packet base)) t (setAttemptComposedBase w id packet base t).2 := by
  refine commit_after (P := Steady w _ t) (Steady.refl w _ t) (fun t' hb => ?_)
  obtain ⟨-, hb⟩ := ensure_bind_ok.1 hb
  cases hb
  refine Steady.of_map rfl rfl rfl (fun a => ?_)
  split
  · rename_i hid
    exact Or.inr ⟨packet, base, by rw [show a.id = id by simpa using hid], rfl⟩
  · exact Or.inl rfl

theorem wait_apart (w : Wire) (q : Intervention) (now : Int) (t : ControlTables) :
    Apart t (executeWaitIntervention w q now t).2 := by
  have hrecord : ∀ r, Apart t (recordInterventionReceipt w r t).2 := fun r =>
    transaction_after (P := Apart t) (Apart.refl t) (fun _ _ hb => receipt_apart hb)
  unfold executeWaitIntervention
  cases waitLookup w q t with
  | error e => exact Apart.refl t
  | ok found =>
    cases found with
    | some r => exact hrecord r
    | none =>
      cases waitReceipt w q now t with
      | error e => exact Apart.refl t
      | ok r => exact hrecord r

theorem happen_cases (w : CustodyWire) (t : ControlTables) (e : Event) :
    Steady w e t (happen w t e) ∨
      ∃ q now p link, e = .call (.consume q now) ∧ Consumed w t (happen w t e) q p now link := by
  cases e with
  | other u => exact Or.inl ⟨List.prefix_rfl, rfl, u.numbered t, fun a ha href =>
      (u.kept t a ha href).imp (fun b hb => ⟨hb.1, Or.inl hb.2⟩)⟩
  | call c =>
    cases c with
    | openLiveness e =>
      exact Or.inl (Steady.of_apart (transaction_after (P := Apart t) (Apart.refl t) (fun _ _ hb =>
        openEpisodeBody_apart hb)))
    | observe id v o =>
      exact Or.inl (Steady.of_apart (transaction_after (P := Apart t) (Apart.refl t) (fun _ _ hb =>
        observationBody_apart hb)))
    | receipt r =>
      exact Or.inl (Steady.of_apart (transaction_after (P := Apart t) (Apart.refl t) (fun _ _ hb => receipt_apart hb)))
    | wait q now => exact Or.inl (Steady.of_apart (wait_apart w.toWire q now t))
    | pause q now =>
      exact Or.inl (Steady.of_apart (transaction_after (P := Apart t) (Apart.refl t) (fun _ _ hb => pauseBody_apart hb)))
    | openReconciliation e =>
      exact Or.inl (Steady.of_apart (transaction_after (P := Apart t) (Apart.refl t) (fun _ _ hb =>
        openReconciliationBody_apart hb)))
    | finding f v =>
      exact Or.inl (Steady.of_apart (transaction_after (P := Apart t) (Apart.refl t) (fun _ _ hb => findingBody_apart hb)))
    | action r v =>
      exact Or.inl (Steady.of_apart (transaction_after (P := Apart t) (Apart.refl t) (fun _ _ hb => actionBody_apart hb)))
    | proof p =>
      refine Or.inl (transaction_after (P := Steady w _ t) (Steady.refl w _ t) (fun p' t' hb => ?_))
      rcases proofBody_ok hb with rfl | ⟨proofs, links, rfl, -, -, hrows, -⟩
      · exact Steady.refl w _ t'
      · exact ⟨⟨[p], hrows.symm⟩, rfl, fun hn => hn, fun a ha _ => ⟨a, ha, Or.inl rfl⟩⟩
    | consume q now =>
      refine commit_after (P := fun t' => Steady w _ t t' ∨ ∃ q' now' p link, Event.call (.consume q now) =
        .call (.consume q' now') ∧ Consumed w t t' q' p now' link) (Or.inl (Steady.refl w _ t)) (fun t' hb => ?_)
      rcases consumeBody_ok hb with rfl | ⟨p, row, link, hc, -, -⟩
      · exact Or.inl (Steady.refl w _ t')
      · exact Or.inr ⟨q, now, p, link, rfl, hc⟩
    | lease taskId attemptId => exact Or.inl (lease_steady taskId attemptId t)
    | composeBase id packet base => exact Or.inl (compose_steady id base packet t)
    | link l => exact Or.inl (Steady.of_apart ⟨rfl, rfl, rfl⟩)

theorem happen_links (w : CustodyWire) {t : ControlTables} (e : Event) (hs : Sound t.links) :
    Sound (happen w t e).links ∧ t.links.rows <+: (happen w t e).links.rows := by
  cases e with
  | other u => exact ⟨hs, List.prefix_rfl⟩
  | call c =>
    rcases perform_links w t c with heq | ⟨l, hrec, -⟩
    · rw [show (happen w t (.call c)).links = t.links from heq]
      exact ⟨hs, List.prefix_rfl⟩
    · exact record_sound hs hrec

theorem happen_actions (w : CustodyWire) (t : ControlTables) (e : Event) :
    t.actions.rows <+: (happen w t e).actions.rows := by
  cases e with
  | other u => exact List.prefix_rfl
  | call c => exact (perform_extends w t c).actions

end Events

/-! ## At the moment of consumption -/

/-- The prior attempt of a proof is terminal and preserved, and holds nothing. -/
structure AtRest (c : Custody) (p : OwnershipProof) (prior : AttemptRow) : Prop where
  found : c.attempts.get p.priorAttemptId = some prior
  task : prior.taskId = p.taskId
  terminal : terminalAttempt prior.state = true
  head : prior.headSha = some p.headSha
  preserved : ∃ worktree, c.worktrees.get p.worktreeId = some worktree ∧
    worktree.taskAttemptId = some p.priorAttemptId ∧ worktree.runId = p.runId ∧ worktree.headSha = some p.headSha ∧
    worktree.state = "PRESERVED"
  leases : ∀ l ∈ c.pathLeases, l.taskAttemptId = p.priorAttemptId → l.releasedAt.isSome = true
  agents : ∀ a ∈ c.agentSessions, a.taskAttemptId = some p.priorAttemptId → terminalAgent a.state = true
  commands : some p.priorAttemptId ∉ c.commandRuns

theorem checkTask_ok {q : FreshAttemptRequest} {p : OwnershipProof} {task : TaskRow} (h : checkTask q p task = .ok ()) :
    p.taskId = q.replacement.taskId ∧ q.replacement.baseSha = p.headSha ∧
      (q.replacement.attemptNumber : Int) = clampU32 (task.currentAttemptNumber + 1) := by
  unfold checkTask at h
  obtain ⟨-, h⟩ := ensure_bind_ok.1 h
  obtain ⟨-, h⟩ := ensure_bind_ok.1 h
  obtain ⟨hid, h⟩ := ensure_bind_ok.1 h
  obtain ⟨hbase, h⟩ := ensure_bind_ok.1 h
  obtain ⟨-, h⟩ := ensure_bind_ok.1 h
  have hnumber := ensure_ok h
  simp only [Bool.and_eq_true, beq_iff_eq] at hid hbase hnumber
  exact ⟨hid.1.1.2, hbase.1, hnumber⟩

theorem checkPrior_ok {c : Custody} {p : OwnershipProof} {task : TaskRow} (h : checkPrior c p task = .ok ())
    (htask : task.id = p.taskId) : ∃ prior, AtRest c p prior ∧ prior.attemptNumber = task.currentAttemptNumber := by
  unfold checkPrior at h
  obtain ⟨prior, hprior, h⟩ := bind_ok h
  obtain ⟨hstate, h⟩ := ensure_bind_ok.1 h
  obtain ⟨worktree, hworktree, h⟩ := bind_ok h
  obtain ⟨hpreserved, h⟩ := ensure_bind_ok.1 h
  obtain ⟨hleases, h⟩ := ensure_bind_ok.1 h
  obtain ⟨hagents, h⟩ := ensure_bind_ok.1 h
  have hcommands := ensure_ok h
  have hfilter := Option.filter_eq_some_iff.1 (okOr_ok hprior)
  simp only [Bool.and_eq_true, beq_iff_eq, Bool.not_eq_true', List.any_eq_false, not_and, Bool.not_eq_false,
    Option.isNone_iff_eq_none] at hstate hpreserved hleases hagents hcommands hfilter
  refine ⟨prior, ⟨hfilter.1, hfilter.2.trans htask, hstate.1.2, hstate.2, ⟨worktree, okOr_ok hworktree, hpreserved.1.1.1,
    hpreserved.1.1.2, hpreserved.1.2, hpreserved.2⟩, ?_, ?_, ?_⟩, hstate.1.1⟩
  · intro l hl hid
    exact Option.ne_none_iff_isSome.1 (hleases l hl hid)
  · exact hagents
  · intro hmem
    exact hcommands _ hmem rfl

theorem checkConsumption_ok {w : CustodyWire} {q : FreshAttemptRequest} {p : OwnershipProof} {now : Int}
    {t : ControlTables} (h : checkConsumption w q p now t = .ok ()) :
    ∃ prior, AtRest t.custody p prior ∧ now < p.expiresAtMs ∧ p.taskId = q.replacement.taskId ∧
      q.replacement.baseSha = p.headSha ∧
      (q.replacement.attemptNumber : Int) = clampU32 (prior.attemptNumber + 1) := by
  unfold checkConsumption at h
  obtain ⟨hexpiry, h⟩ := ensure_bind_ok.1 h
  obtain ⟨task, htask, h⟩ := bind_ok h
  obtain ⟨hchecked, h⟩ := bind_unit_ok.1 h
  obtain ⟨hprior, -⟩ := bind_unit_ok.1 h
  obtain ⟨hid, hbase, hnumber⟩ := checkTask_ok hchecked
  obtain ⟨prior, hrest, hcurrent⟩ := checkPrior_ok hprior ((Table.key_of_get (okOr_ok htask)).trans hid.symm)
  exact ⟨prior, hrest, of_decide_eq_true hexpiry, hid, hbase, by rw [hcurrent]; exact hnumber⟩

theorem Consumed.number {w : CustodyWire} {t t' : ControlTables} {q : FreshAttemptRequest} {p : OwnershipProof} {now : Int}
    {link : CorrelationLink} (hn : Numbered t.custody) (h : Consumed w t t' q p now link) :
    ∃ prior, AtRest t.custody p prior ∧ p.taskId = q.replacement.taskId ∧ q.replacement.baseSha = p.headSha ∧
      (q.replacement.attemptNumber : Int) = prior.attemptNumber + 1 ∧ prior.attemptNumber + 1 ≤ (u32Max : Int) := by
  obtain ⟨prior, hrest, -, hid, hbase, hnumber⟩ := checkConsumption_ok h.checks
  have hmem := Table.mem_of_get hrest.found
  have hbound := hn.bounded prior hmem
  -- past the last number the clamped one would be the prior's own
  have hne := h.free prior hmem
  unfold clampU32 at hnumber
  by_cases hlast : prior.attemptNumber + 1 ≤ (u32Max : Int)
  · rw [if_pos ⟨by omega, hlast⟩] at hnumber
    exact ⟨prior, hrest, hid, hbase, hnumber, hlast⟩
  · rw [if_neg (by omega)] at hnumber
    exact absurd ⟨hrest.task.trans hid, by omega⟩ hne

/-! ## The ledger -/

/-- A consumption with its proof, its prior attempt and its replacement.  The base of the replacement is the proof's head
until a launch composes another. -/
structure Replaced (es : List Event) (t : ControlTables) (c : Consumption) (p : OwnershipProof) (prior next : AttemptRow) :
    Prop where
  proof : t.proofs.get c.proofId = some p
  names : p.priorAttemptId = c.priorAttemptId ∧ p.taskId = c.taskId
  foundPrior : t.custody.attempts.get c.priorAttemptId = some prior
  foundNext : t.custody.attempts.get c.replacementAttemptId = some next
  tasks : prior.taskId = c.taskId ∧ next.taskId = c.taskId
  number : next.attemptNumber = prior.attemptNumber + 1
  base : next.baseSha = p.headSha ∨
    ∃ packet base, .call (.composeBase c.replacementAttemptId packet base) ∈ es ∧ next.baseSha = base

structure ReplacementLedger (es : List Event) (t : ControlTables) : Prop where
  sound : Sound t.links
  numbered : Numbered t.custody
  replaced : ∀ c ∈ t.consumptions.rows, ∃ p prior next, Replaced es t c p prior next
  priors : ∀ c ∈ t.consumptions.rows, ∀ d ∈ t.consumptions.rows, c.priorAttemptId = d.priorAttemptId → c = d
  replacements : ∀ c ∈ t.consumptions.rows, ∀ d ∈ t.consumptions.rows,
    c.replacementAttemptId = d.replacementAttemptId → c = d

theorem replacementLedger_empty (es : List Event) : ReplacementLedger es ControlTables.empty := by
  refine ⟨sound_empty, ⟨?_, ?_⟩, ?_, ?_, ?_⟩ <;> intro r hr <;> cases hr

section Ledger
variable {w : CustodyWire} {es : List Event} {e : Event} {t t' : ControlTables}

theorem Steady.get (h : Steady w e t t') {id : String} {a : AttemptRow} (ha : t.custody.attempts.get id = some a)
    (href : Referenced t id) : ∃ b, t'.custody.attempts.get id = some b ∧ Carried w e a b := by
  have hid : a.id = id := Table.key_of_get ha
  obtain ⟨b, hb, hcarried⟩ := h.carried a (Table.mem_of_get ha) (hid.symm ▸ href)
  refine ⟨b, ?_, hcarried⟩
  rw [← hid, ← hcarried.same.1]
  exact Table.get_of_mem hb

theorem Replaced.steady {c : Consumption} {p : OwnershipProof} {prior next : AttemptRow} (h : Replaced es t c p prior next)
    (hs : Steady w e t t') (he : e ∈ es) (hc : c ∈ t.consumptions.rows) :
    ∃ prior' next', Replaced es t' c p prior' next' := by
  obtain ⟨prior', hprior, hpc⟩ := hs.get h.foundPrior ⟨c, hc, Or.inl rfl⟩
  obtain ⟨next', hnext, hnc⟩ := hs.get h.foundNext ⟨c, hc, Or.inr rfl⟩
  refine ⟨prior', next', Table.get_extends hs.proofs h.proof, h.names, hprior, hnext,
    ⟨hpc.same.2.1.trans h.tasks.1, hnc.same.2.1.trans h.tasks.2⟩, ?_, ?_⟩
  · rw [hnc.same.2.2.1, hpc.same.2.2.1]
    exact h.number
  · rcases hnc with hkeep | ⟨packet, base, rfl, rfl⟩
    · rw [show next'.baseSha = next.baseSha by rw [hkeep]]
      exact h.base
    · have hid : next.id = c.replacementAttemptId := Table.key_of_get h.foundNext
      exact Or.inr ⟨packet, base, hid ▸ he, rfl⟩

theorem Consumed.get_old {q : FreshAttemptRequest} {p : OwnershipProof} {now : Int} {link : CorrelationLink}
    (h : Consumed w t t' q p now link) {id : String} {a : AttemptRow} (ha : t.custody.attempts.get id = some a) :
    t'.custody.attempts.get id = some a := Table.get_extends ⟨[attemptOf w q.replacement], h.attempts.symm⟩ ha

/-- **A new consumption** has the next number, on the proof's head. -/
theorem Consumed.replaced {q : FreshAttemptRequest} {p : OwnershipProof} {now : Int} {link : CorrelationLink}
    (hn : Numbered t.custody) (h : Consumed w t t' q p now link) :
    ∃ prior, AtRest t.custody p prior ∧
      Replaced es t' (consumptionOf q p now t) p prior (attemptOf w q.replacement) := by
  obtain ⟨prior, hrest, hid, hbase, hnumber, -⟩ := h.number hn
  refine ⟨prior, hrest, ?_, ⟨rfl, hid⟩, h.get_old hrest.found, ?_, ⟨hrest.task.trans hid, rfl⟩, hnumber, Or.inl hbase⟩
  · rw [h.proofs]
    show t.proofs.get p.proofId = some p
    rw [Table.key_of_get h.proof]
    exact h.proof
  · exact Table.get_of_mem (show attemptOf w q.replacement ∈ t'.custody.attempts.rows by rw [h.attempts]; simp)

theorem Consumed.numbered {q : FreshAttemptRequest} {p : OwnershipProof} {now : Int} {link : CorrelationLink}
    (hn : Numbered t.custody) (h : Consumed w t t' q p now link) : Numbered t'.custody := by
  obtain ⟨prior, hrest, -, -, hnumber, hlast⟩ := h.number hn
  have hbound := hn.bounded prior (Table.mem_of_get hrest.found)
  have hmem : ∀ {a}, a ∈ t'.custody.attempts.rows → a ∈ t.custody.attempts.rows ∨ a = attemptOf w q.replacement :=
    fun {a} ha => by
      rw [h.attempts] at ha
      simpa using ha
  constructor
  · intro a ha
    rcases hmem ha with ha | rfl
    · exact hn.bounded a ha
    · show 0 ≤ (q.replacement.attemptNumber : Int) ∧ (q.replacement.attemptNumber : Int) ≤ (u32Max : Int)
      omega
  · intro a ha b hb htask hnum
    rcases hmem ha with ha | rfl
    · rcases hmem hb with hb | rfl
      · exact hn.unique a ha b hb htask hnum
      · exact absurd ⟨htask, hnum⟩ (h.free a ha)
    · rcases hmem hb with hb | rfl
      · exact absurd ⟨htask.symm, hnum.symm⟩ (h.free b hb)
      · rfl

theorem Consumed.prior_new {q : FreshAttemptRequest} {p : OwnershipProof} {now : Int} {link : CorrelationLink}
    (hl : ReplacementLedger es t) (h : Consumed w t t' q p now link) {d : Consumption} (hd : d ∈ t.consumptions.rows) :
    d.priorAttemptId ≠ p.priorAttemptId := by
  intro hsame
  obtain ⟨prior, hrest, hid, -, hnumber, -⟩ := h.number hl.numbered
  obtain ⟨p', prior', next, hr⟩ := hl.replaced d hd
  obtain rfl : prior' = prior := Option.some.inj (hr.foundPrior.symm.trans (hsame ▸ hrest.found))
  refine h.free next (Table.mem_of_get hr.foundNext) ⟨?_, ?_⟩
  · rw [hr.tasks.2, ← hr.tasks.1, hrest.task, hid]
  · rw [hr.number, hnumber]

theorem ReplacementLedger.happen (h : ReplacementLedger es t) (he : e ∈ es) :
    ReplacementLedger es (Control.happen w t e) := by
  have hsound := (happen_links w e h.sound).1
  rcases happen_cases w t e with hs | ⟨q, now, p, link, -, hc⟩
  · refine ⟨hsound, hs.numbered h.numbered, fun c hc => ?_, ?_, ?_⟩
    · rw [hs.consumptions] at hc
      obtain ⟨p, prior, next, hr⟩ := h.replaced c hc
      obtain ⟨prior', next', hr'⟩ := hr.steady hs he hc
      exact ⟨p, prior', next', hr'⟩
    · rw [hs.consumptions]
      exact h.priors
    · rw [hs.consumptions]
      exact h.replacements
  · have hmem : ∀ {c}, c ∈ (Control.happen w t e).consumptions.rows → c ∈ t.consumptions.rows ∨ c = consumptionOf q p now t :=
      fun {c} hc' => by
        rw [hc.consumptions] at hc'
        simpa using hc'
    refine ⟨hsound, hc.numbered h.numbered, fun c hc' => ?_, fun c hc' d hd hsame => ?_, fun c hc' d hd hsame => ?_⟩
    · rcases hmem hc' with hc' | rfl
      · obtain ⟨p', prior, next, hr⟩ := h.replaced c hc'
        refine ⟨p', prior, next, ?_, hr.names, hc.get_old hr.foundPrior, hc.get_old hr.foundNext, hr.tasks, hr.number, hr.base⟩
        rw [hc.proofs]
        exact hr.proof
      · obtain ⟨prior, -, hr⟩ : ∃ prior, AtRest t.custody p prior ∧ Replaced es (Control.happen w t e)
            (consumptionOf q p now t) p prior (attemptOf w q.replacement) := hc.replaced h.numbered
        exact ⟨p, prior, _, hr⟩
    · rcases hmem hc' with hc' | rfl
      · rcases hmem hd with hd | rfl
        · exact h.priors c hc' d hd hsame
        · exact absurd hsame (hc.prior_new h hc')
      · rcases hmem hd with hd | rfl
        · exact absurd hsame.symm (hc.prior_new h hd)
        · rfl
    · rcases hmem hc' with hc' | rfl
      · rcases hmem hd with hd | rfl
        · exact h.replacements c hc' d hd hsame
        · exact absurd hsame (hc.unshared c hc')
      · rcases hmem hd with hd | rfl
        · exact absurd hsame.symm (hc.unshared d hd)
        · rfl

theorem replacementLedger_run : ∀ (ks : List Event) {t : ControlTables}, ReplacementLedger es t → (∀ e ∈ ks, e ∈ es) →
    ReplacementLedger es (run (Control.happen w) t ks)
  | [], _, h, _ => h
  | e :: ks, _, h, hsub =>
    replacementLedger_run ks (h.happen (hsub e List.mem_cons_self)) (fun k hk => hsub k (List.mem_cons_of_mem e hk))

end Ledger

/-! ## Repeating a consumption -/

theorem require_stored {t : Links} {l : CorrelationLink} (hs : Sound t) (hl : l ∈ t.rows) :
    requireCorrelationLinkInTransaction t l = .ok () := by
  have hv := sound_valid hs hl
  unfold requireCorrelationLinkInTransaction readLinks
  rw [hv, ok_bind, Table.get_of_mem hl]
  simp [okOr, hv, Except.isOk, Except.toBool]

theorem require_mem {t : Links} {l : CorrelationLink} (h : requireCorrelationLinkInTransaction t l = .ok ()) : l ∈ t.rows := by
  unfold requireCorrelationLinkInTransaction at h
  obtain ⟨-, h⟩ := bind_unit_ok.1 h
  obtain ⟨existing, hg, h⟩ := bind_ok h
  obtain ⟨-, h⟩ := bind_unit_ok.1 h
  obtain rfl : existing = l := by simpa using ensure_ok h
  exact Table.mem_of_get (okOr_ok hg)

/-- What a repeated request finds: its proof, its consumption, its action, its link, and the attempt it asks for. -/
structure Standing (w : CustodyWire) (q : FreshAttemptRequest) (t : ControlTables) (link : CorrelationLink)
    (p : OwnershipProof) (c : Consumption) (a : ActionRow) (attempt : AttemptRow) : Prop where
  request : checkRequest w q = .ok link
  proof : t.proofs.get q.proofId = some p
  validProof : p.validate w.toWire = .ok ()
  consumed : t.consumptions.get q.proofId = some c
  action : t.actions.get c.actionId = some a
  receipt : a.receipt = q.receipt
  found : t.custody.attempts.get c.replacementAttemptId = some attempt
  task : attempt.taskId = c.taskId
  same : sameReplacement w q.replacement c attempt = true
  linked : link ∈ t.links.rows

def Repeatable (w : CustodyWire) (q : FreshAttemptRequest) (t : ControlTables) : Prop :=
  ∃ link p c a attempt, Standing w q t link p c a attempt

section Repeat
variable {w : CustodyWire} {q : FreshAttemptRequest} {t t' : ControlTables} {now : Int}

theorem checkRequest_receipt {link : CorrelationLink} (h : checkRequest w q = .ok link) :
    q.receipt.validate w.toWire = .ok () := by
  unfold checkRequest at h
  exact (bind_unit_ok.1 h).1

theorem existing_ok {id : String} {c : Consumption} {a : ActionRow} {attempt : AttemptRow} :
    existingConsumption t id = some (c, a, attempt) ↔ t.consumptions.get id = some c ∧ t.actions.get c.actionId = some a ∧
      t.custody.attempts.get c.replacementAttemptId = some attempt ∧ attempt.taskId = c.taskId := by
  unfold existingConsumption
  cases hc : t.consumptions.get id with
  | none => simp
  | some c' =>
    cases ha : t.actions.get c'.actionId with
    | none =>
      simp only [Option.bind_eq_bind, Option.bind_some, Option.some.injEq, ha, Option.bind_none, reduceCtorEq, false_iff,
        not_and]
      rintro rfl hn
      rw [ha] at hn
      cases hn
    | some a' =>
      cases hr : t.custody.attempts.get c'.replacementAttemptId with
      | none =>
        simp only [Option.bind_eq_bind, Option.bind_some, Option.some.injEq, ha, hr, Option.bind_none, reduceCtorEq,
          false_iff, not_and]
        rintro rfl - hn
        rw [hr] at hn
        cases hn
      | some r' =>
        simp only [Option.bind_eq_bind, Option.bind_some, Option.some.injEq, ha, hr]
        by_cases ht : r'.taskId = c'.taskId
        · rw [if_pos (by simpa using ht)]
          simp only [Option.some.injEq, Prod.mk.injEq]
          constructor
          · rintro ⟨rfl, rfl, rfl⟩
            exact ⟨rfl, ha, hr, ht⟩
          · rintro ⟨rfl, ha', hr', -⟩
            exact ⟨rfl, Option.some.inj (ha.symm.trans ha'), Option.some.inj (hr.symm.trans hr')⟩
        · rw [if_neg (by simpa using ht)]
          simp only [reduceCtorEq, false_iff, not_and]
          rintro rfl - hr' ht'
          rw [hr] at hr'
          cases hr'
          exact ht ht'

theorem Repeatable.consume (hs : Sound t.links) (h : Repeatable w q t) (now : Int) :
    consumeOwnershipProofForFreshAttempt w q now t = (.ok (), t) := by
  obtain ⟨link, p, c, a, attempt, h⟩ := h
  refine commit_ok ?_
  unfold consumeBody
  rw [h.request, ok_bind, h.proof]
  simp only [okOr, ok_bind, checkedProof, isOk_iff.2 h.validProof, ensure_true, pure_ok,
    existing_ok.2 ⟨h.consumed, h.action, h.found, h.task⟩]
  unfold replayConsumption checkedActionReceipt
  simp only [h.same, ensure_true, h.receipt, isOk_iff.2 (checkRequest_receipt h.request), ok_bind, beq_self_eq_true,
    require_stored hs h.linked, pure_ok]

theorem Consumed.repeatable {p : OwnershipProof} {row : ReconciliationRow} {link : CorrelationLink}
    (hc : Consumed w t t' q p now link) (hacted : Acted w.toWire t t' row q.receipt)
    (hvalid : p.validate w.toWire = .ok ()) : Repeatable w q t' := by
  have hid : p.proofId = q.proofId := Table.key_of_get hc.proof
  have hconsumption : consumptionOf q p now t ∈ t'.consumptions.rows := by
    rw [hc.consumptions]
    simp
  have haction : (⟨Table.maxOf ActionRow.id t.actions.rows + 1, q.receipt⟩ : ActionRow) ∈ t'.actions.rows := by
    rw [hacted.actions]
    simp
  have hattempt : attemptOf w q.replacement ∈ t'.custody.attempts.rows := by
    rw [hc.attempts]
    simp
  refine ⟨link, p, consumptionOf q p now t, ⟨Table.maxOf ActionRow.id t.actions.rows + 1, q.receipt⟩,
    attemptOf w q.replacement, hc.request, by rw [hc.proofs]; exact hc.proof, hvalid, ?_, Table.get_of_mem haction, rfl,
    Table.get_of_mem hattempt, rfl, ?_, (mem_of_records hc.links).1⟩
  · rw [← hid]
    exact Table.get_of_mem hconsumption
  · simp [sameReplacement, attemptOf, consumptionOf]

theorem repeatable_of_ok (hs : Sound t.links) (h : consumeBody w q now t = .ok t') : Repeatable w q t' := by
  have h₀ := h
  unfold consumeBody at h
  obtain ⟨link, hreq, h⟩ := bind_ok h
  obtain ⟨p, hp, h⟩ := bind_ok h
  obtain ⟨p', hcheck, h⟩ := bind_ok h
  unfold checkedProof at hcheck
  obtain ⟨hvalid, hcheck⟩ := ensure_bind_ok.1 hcheck
  cases hcheck
  cases he : existingConsumption t q.proofId with
  | some found =>
    obtain ⟨c, a, attempt⟩ := found
    simp only [he] at h
    obtain ⟨hreplay, h⟩ := bind_unit_ok.1 h
    cases h
    unfold replayConsumption at hreplay
    obtain ⟨hsame, hreplay⟩ := ensure_bind_ok.1 hreplay
    obtain ⟨receipt, hr, hreplay⟩ := bind_ok hreplay
    unfold checkedActionReceipt at hr
    obtain ⟨-, hr⟩ := ensure_bind_ok.1 hr
    cases hr
    obtain ⟨hreceipt, hlink⟩ := ensure_bind_ok.1 hreplay
    obtain ⟨hc, ha, hattempt, htask⟩ := existing_ok.1 he
    exact ⟨link, p, c, a, attempt, hreq, okOr_ok hp, isOk_iff.1 hvalid, hc, ha, by simpa using hreceipt, hattempt, htask,
      hsame, require_mem hlink⟩
  | none =>
    rcases consumeBody_ok h₀ with rfl | ⟨p', row, link', hc, hacted, -⟩
    · -- nothing was written, although the consumption is written
      simp only [he] at h
      obtain ⟨-, h⟩ := bind_unit_ok.1 h
      unfold authorize at h
      obtain ⟨⟨e, t₁⟩, hadvance, h⟩ := bind_ok h
      obtain ⟨erow, reconciliations, -, -, rfl⟩ := advance_ok hadvance
      obtain ⟨⟨n, t₂⟩, hact, h⟩ := bind_ok h
      obtain ⟨-, -, actions, rfl, -⟩ := insertAction_ok hact
      obtain ⟨links, -, h⟩ := bind_ok h
      obtain ⟨custody, -, h⟩ := bind_ok h
      obtain ⟨-, consumptions, heq, hrows⟩ := insertConsumption_ok h
      exact absurd hrows (by rw [show consumptions = t'.consumptions from (congrArg ControlTables.consumptions heq).symm]; simp)
    · obtain rfl : p' = p := Option.some.inj (hc.proof.symm.trans (okOr_ok hp))
      obtain rfl : link' = link := Except.ok.inj (hc.request.symm.trans hreq)
      exact hc.repeatable hacted (isOk_iff.1 hvalid)

/-- A launch that composes what the request asked for. -/
def Recomposes (w : CustodyWire) (q : FreshAttemptRequest) (e : Event) : Prop :=
  ∀ packet base, e = .call (.composeBase q.replacement.id packet base) →
    w.packetText packet = w.packetText q.replacement.packet ∧ base = q.replacement.baseSha

theorem sameReplacement_compose {c : Consumption} {a : AttemptRow} {packet : Plan.Packet} {base : String}
    {link : CorrelationLink} (hrequest : checkRequest w q = .ok link) (h : sameReplacement w q.replacement c a = true)
    (hpacket : w.packetText packet = w.packetText q.replacement.packet) (hbase : base = q.replacement.baseSha) :
    sameReplacement w q.replacement c (a.compose w packet base) = true := by
  have hsha : (w.sha256 (w.packetText q.replacement.packet)).hex = q.replacement.packetSha256 := by
    unfold checkRequest at hrequest
    obtain ⟨-, hrequest⟩ := bind_unit_ok.1 hrequest
    obtain ⟨_, -, hrequest⟩ := bind_ok hrequest
    obtain ⟨-, hrequest⟩ := ensure_bind_ok.1 hrequest
    obtain ⟨-, hrequest⟩ := ensure_bind_ok.1 hrequest
    obtain ⟨-, hrequest⟩ := bind_unit_ok.1 hrequest
    exact beq_iff_eq.1 (ensure_bind_ok.1 hrequest).1
  unfold sameReplacement at h ⊢
  simp only [AttemptRow.compose, Bool.and_eq_true, beq_iff_eq] at h ⊢
  rw [hpacket]
  exact ⟨⟨⟨⟨h.1.1.1.1, rfl⟩, hsha⟩, hbase⟩, h.2⟩

/-- **Only a launch of the replacement on something else** takes the repetition away. -/
theorem Repeatable.happen {e : Event} (hs : Sound t.links) (h : Repeatable w q t) (hlaunch : Recomposes w q e) :
    Repeatable w q (Control.happen w t e) := by
  obtain ⟨link, p, c, a, attempt, h⟩ := h
  have hmem : c ∈ t.consumptions.rows := Table.mem_of_get h.consumed
  have hreplacement : c.replacementAttemptId = q.replacement.id := by
    have hsame := h.same
    unfold sameReplacement at hsame
    simp only [Bool.and_eq_true, beq_iff_eq] at hsame
    exact hsame.1.1.1.1.1.1
  have hlinks := (happen_links w e hs).2
  have hactions := happen_actions w t e
  rcases happen_cases w t e with hsteady | ⟨q', now', p', link', -, hc⟩
  · obtain ⟨b, hb, hcarried⟩ := hsteady.get h.found ⟨c, hmem, Or.inr rfl⟩
    have hsame : sameReplacement w q.replacement c b = true := by
      rcases hcarried with hkeep | ⟨packet, base, rfl, rfl⟩
      · rw [hkeep]
        exact h.same
      · have hid : attempt.id = q.replacement.id := (Table.key_of_get h.found).trans hreplacement
        obtain ⟨hpacket, hbase⟩ := hlaunch packet base (by rw [hid])
        exact sameReplacement_compose h.request h.same hpacket hbase
    refine ⟨link, p, c, a, b, h.request, Table.get_extends hsteady.proofs h.proof, h.validProof, ?_,
      Table.get_extends hactions h.action, h.receipt, hb, ?_, ?_, hlinks.subset h.linked⟩
    · rw [hsteady.consumptions]
      exact h.consumed
    · exact hcarried.same.2.1.trans h.task
    · exact hsame
  · refine ⟨link, p, c, a, attempt, h.request, ?_, h.validProof, ?_, Table.get_extends hactions h.action, h.receipt,
      hc.get_old h.found, h.task, h.same, hlinks.subset h.linked⟩
    · rw [hc.proofs]
      exact h.proof
    · exact Table.get_extends ⟨_, hc.consumptions.symm⟩ h.consumed

theorem repeatable_run : ∀ (ks : List Event) {t : ControlTables}, Sound t.links → Repeatable w q t →
    (∀ e ∈ ks, Recomposes w q e) →
    Sound (run (Control.happen w) t ks).links ∧ Repeatable w q (run (Control.happen w) t ks)
  | [], _, hs, h, _ => ⟨hs, h⟩
  | e :: ks, t, hs, h, hlaunch => by
    rw [Trace.run_cons]
    exact repeatable_run ks (happen_links w e hs).1 (h.happen hs (hlaunch e List.mem_cons_self))
      (fun e' he' => hlaunch e' (List.mem_cons_of_mem e he'))

end Repeat

/-! ## Exclusive and atomic -/

def afterEvents (w : CustodyWire) (es : List Event) : ControlTables := run (happen w) ControlTables.empty es

theorem ledger_after (w : CustodyWire) (es : List Event) : ReplacementLedger es (afterEvents w es) :=
  replacementLedger_run es (replacementLedger_empty es) (fun _ he => he)

/-- **What a request that succeeds does**: nothing, or it consumes a proof whose prior attempt is at rest. -/
theorem consume_ok {w : CustodyWire} {es : List Event} {t : ControlTables} (hl : ReplacementLedger es t)
    {q : FreshAttemptRequest} {now : Int} (h : (consumeOwnershipProofForFreshAttempt w q now t).1 = .ok ()) :
    ((consumeOwnershipProofForFreshAttempt w q now t).2 = t ∨ ∃ p prior, t.proofs.get q.proofId = some p ∧
      AtRest t.custody p prior ∧ now < p.expiresAtMs ∧ q.replacement.baseSha = p.headSha ∧
      (consumeOwnershipProofForFreshAttempt w q now t).2.consumptions.rows =
        t.consumptions.rows ++ [consumptionOf q p now t] ∧
      Replaced es (consumeOwnershipProofForFreshAttempt w q now t).2 (consumptionOf q p now t) p prior
        (attemptOf w q.replacement)) ∧
    Repeatable w q (consumeOwnershipProofForFreshAttempt w q now t).2 := by
  rcases commit_cases (consumeBody w q now) t with ⟨e, -, hcall⟩ | ⟨t', hb, hcall⟩
  · unfold consumeOwnershipProofForFreshAttempt at h
    rw [hcall] at h
    cases h
  · rw [show consumeOwnershipProofForFreshAttempt w q now t = (.ok (), t') from hcall]
    refine ⟨?_, repeatable_of_ok hl.sound hb⟩
    rcases consumeBody_ok hb with rfl | ⟨p, row, link, hc, -, -⟩
    · exact Or.inl rfl
    · obtain ⟨prior, hrest, hr⟩ : ∃ prior, AtRest t.custody p prior ∧
          Replaced es t' (consumptionOf q p now t) p prior (attemptOf w q.replacement) := hc.replaced hl.numbered
      obtain ⟨-, -, hexpiry, -, hbase, -⟩ := checkConsumption_ok hc.checks
      exact Or.inr ⟨p, prior, hc.proof, hrest, hexpiry, hbase, hc.consumptions, hr⟩

/-- **Fresh attempts are exclusive and atomic.**  In every state that calls and other work on tasks and attempts lead to:
a proof, a prior attempt and a replacement each stand in one consumption at most; the replacement has the number after
its prior's, and the base it was authorized with unless a launch composed another; a consumption finds the prior attempt
at rest; it can be repeated until a launch composes another packet or base; a refused call changes nothing. -/
theorem fresh_attempts_exclusive (w : CustodyWire) (es : List Event) :
    (∀ c ∈ (afterEvents w es).consumptions.rows, ∀ d ∈ (afterEvents w es).consumptions.rows,
      c.proofId = d.proofId ∨ c.priorAttemptId = d.priorAttemptId ∨ c.replacementAttemptId = d.replacementAttemptId →
      c = d) ∧
    (∀ c ∈ (afterEvents w es).consumptions.rows, ∃ p prior next, Replaced es (afterEvents w es) c p prior next) ∧
    (∀ q now, (consumeOwnershipProofForFreshAttempt w q now (afterEvents w es)).1 = .ok () →
      ((consumeOwnershipProofForFreshAttempt w q now (afterEvents w es)).2 = afterEvents w es ∨
        ∃ p prior, (afterEvents w es).proofs.get q.proofId = some p ∧ AtRest (afterEvents w es).custody p prior ∧
          now < p.expiresAtMs ∧ q.replacement.baseSha = p.headSha ∧
          (consumeOwnershipProofForFreshAttempt w q now (afterEvents w es)).2.consumptions.rows =
            (afterEvents w es).consumptions.rows ++ [consumptionOf q p now (afterEvents w es)] ∧
          Replaced es (consumeOwnershipProofForFreshAttempt w q now (afterEvents w es)).2
            (consumptionOf q p now (afterEvents w es)) p prior (attemptOf w q.replacement)) ∧
      ∀ ks, (∀ packet base, .call (.composeBase q.replacement.id packet base) ∈ ks →
          w.packetText packet = w.packetText q.replacement.packet ∧ base = q.replacement.baseSha) → ∀ now',
        consumeOwnershipProofForFreshAttempt w q now'
            (run (happen w) (consumeOwnershipProofForFreshAttempt w q now (afterEvents w es)).2 ks) =
          (.ok (), run (happen w) (consumeOwnershipProofForFreshAttempt w q now (afterEvents w es)).2 ks)) ∧
    (∀ p e, (recordOwnershipProof w.toWire p (afterEvents w es)).1 = .error e →
      (recordOwnershipProof w.toWire p (afterEvents w es)).2 = afterEvents w es) ∧
    (∀ q now e, (consumeOwnershipProofForFreshAttempt w q now (afterEvents w es)).1 = .error e →
      (consumeOwnershipProofForFreshAttempt w q now (afterEvents w es)).2 = afterEvents w es) ∧
    (∀ taskId attemptId e, (leaseAuthorizedFreshAttempt taskId attemptId (afterEvents w es)).1 = .error e →
      (leaseAuthorizedFreshAttempt taskId attemptId (afterEvents w es)).2 = afterEvents w es) := by
  have hl := ledger_after w es
  refine ⟨fun c hc d hd h => ?_, hl.replaced, fun q now h => ?_, fun p e => transaction_error,
    fun q now e => transaction_error, fun taskId attemptId e => transaction_error⟩
  · rcases h with h | h | h
    · have hsame := Table.get_of_mem hc
      rw [h, Table.get_of_mem hd] at hsame
      exact (Option.some.inj hsame).symm
    · exact hl.priors c hc d hd h
    · exact hl.replacements c hc d hd h
  · obtain ⟨hwhat, hrepeat⟩ := consume_ok hl h
    refine ⟨hwhat, fun ks hlaunch now' => ?_⟩
    have hsound : Sound (consumeOwnershipProofForFreshAttempt w q now (afterEvents w es)).2.links :=
      (happen_links w (.call (.consume q now)) hl.sound).1
    obtain ⟨hs, hr⟩ := repeatable_run ks hsound hrepeat (fun e he packet base hcall => hlaunch packet base (hcall ▸ he))
    exact hr.consume hs now'

/-! ## A launch composes the base of a replacement -/

def provenHead : String := "1111111111111111111111111111111111111111"

def composedBase : String := "2222222222222222222222222222222222222222"

/-- A packet of the task `T` on a base. -/
def packetOn (base : String) : Plan.Packet where
  taskId := "T"
  title := ""
  priority := ""
  ownerProfile := ""
  reviewerProfile := ""
  dependencyShas := []
  dependsOn := []
  objective := ""
  details := .obj []
  schema := "harness.orchestration.task.v1"
  executionMode := "agent"
  executionKind := .implementation
  investigationScope := none
  authorityRefs := []
  baseSha := base
  ownedPaths := []
  forbiddenPaths := []
  reservedSerialPaths := []
  milestones := []
  successCriteria := []
  requiredEvidence := []
  proofLimits := []
  diffBudget := ⟨0, 0⟩
  tokenBudget := 0
  riskFlags := []

def packetTextOn (base : String) : String :=
  "\x7b\"schema\":\"harness.orchestration.task.v1\",\"program_id\":\"\",\"task_id\":\"T\",\"title\":\"\",\"state\":\"\"," ++
  "\"priority\":\"\",\"execution_mode\":\"agent\",\"execution_kind\":\"implementation\",\"investigation_scope\":null," ++
  "\"owner_profile\":\"\",\"reviewer_profile\":\"\",\"checklist_rows\":[],\"authority_refs\":[],\"base_sha\":\"" ++ base ++
  "\",\"dependency_shas\":\x7b\x7d,\"depends_on\":[],\"owned_paths\":[],\"forbidden_paths\":[]," ++
  "\"reserved_serial_paths\":[],\"objective\":\"\",\"milestones\":[],\"non_goals\":[],\"success_criteria\":[]," ++
  "\"required_positive_tests\":[],\"required_negative_tests\":[],\"required_metrics\":[],\"required_evidence\":[]," ++
  "\"proof_limits\":[],\"diff_budget\":\x7b\"files\":0,\"lines\":0\x7d,\"token_budget\":0,\"tool_budget\":null," ++
  "\"lease_expires_at\":\"\",\"stop_conditions\":[],\"handoff_path\":\"\",\"risk_flags\":[]\x7d"

def fingerprint : String := "3333333333333333333333333333333333333333333333333333333333333333"

/-- The proof that the attempt `a` of the task `t` left the head behind. -/
def exclusiveProof : OwnershipProof :=
  ⟨"harness.exclusive-ownership-proof.v1", "p", "r", "t", "a", "k", "s", provenHead, fingerprint, 1, "proven_absent",
    "proven_closed", "terminal_or_none", "none_or_reconciled", "preserved", ["authorize_fresh_attempt"], 0, 1000,
    "2181d7bd01e7f38bfeabc91c81dc7af8e405f1412894364115392084163f1fa5"⟩

def freshReceipt : ReconciliationActionReceipt :=
  ⟨"harness.reconciliation-action-receipt.v1", "e", .authorizeFreshAttempt, "s", some "s", 0,
    .obj [("head_sha", .str provenHead), ("human_action_id", ofNat 1), ("lease_generation", ofNat 1),
      ("prior_attempt_id", .str "a"), ("proof_id", .str "p"), ("replacement_attempt_id", .str "b"), ("run_id", .str "r"),
      ("task_id", .str "t"), ("worktree_fingerprint", .str fingerprint), ("worktree_id", .str "k")],
    "d4c4dfc0207226e6de7f654b8ac3029d59c4f3c4024cd87b7e755f3b9459a1fd"⟩

/-- The digests of an episode, the proof and the receipt of a fresh attempt. -/
def freshWire : CustodyWire :=
  { tableWire
      [("harness.reconciliation.trace.v1:e", traceDigest),
        ("harness.reconciliation.episode.span.v1:e", spanDigest),
        ("harness.reconciliation.episode.link.v1:e", linkDigest),
        ("harness.ownership-proof.trace.v1:p",
          ⟨"632f6530052e571e1bd6d707c366658ee0ebd2acf96e836f52c03836647a7dc0", isLowerHex_ofList (by decide)⟩),
        ("harness.ownership-proof.span.v1:p",
          ⟨"36612ec30238bc9a34db0bd6890a6df3f01702b7c5c8f5a554879414c370688a", isLowerHex_ofList (by decide)⟩),
        ("harness.ownership-proof.link.v1:p",
          ⟨"609dbff558b69094ac760c1fcfd3f2c80a22dca7667e99bfbf1d005c042a2597", isLowerHex_ofList (by decide)⟩),
        ("harness.reconciliation.action.span.v1:e:authorize_fresh_attempt:s",
          ⟨"0b5c4f0056b2df4ead641fd5abdc961f35ebe3abef4f1ac491704f3ec58ea78a", isLowerHex_ofList (by decide)⟩),
        ("harness.reconciliation.action.link.v1:e:authorize_fresh_attempt:s",
          ⟨"55180ca76feeef9a1f2ca81f224747037aa02977a70ffdd4639499092eb5f0f7", isLowerHex_ofList (by decide)⟩),
        (packetTextOn provenHead,
          ⟨"a25f0fdf027995354e0b21db2844db58964243a15d3c7b32f01088ad51dded4c", isLowerHex_ofList (by decide)⟩),
        (packetTextOn composedBase,
          ⟨"1af39ebbecec808dde60c9e1ca1d0ceeb516279a352f0981346c63103c7ee470", isLowerHex_ofList (by decide)⟩)]
      ["kind", "proof_id", "action_count"]
      [([some (.str "authorize_fresh_attempt"), none, none],
          ⟨"d4c4dfc0207226e6de7f654b8ac3029d59c4f3c4024cd87b7e755f3b9459a1fd", isLowerHex_ofList (by decide)⟩),
        ([none, some (.str "p"), none],
          ⟨"2181d7bd01e7f38bfeabc91c81dc7af8e405f1412894364115392084163f1fa5", isLowerHex_ofList (by decide)⟩),
        ([none, none, some (ofNat 0)], openedDigest),
        ([none, none, some (ofNat 1)], actedDigest)] with
    packetText := fun p => packetTextOn p.baseSha }

/-- The task `t` failed in its first attempt, which left its worktree behind. -/
def failedWork : Custody where
  tasks := ⟨[⟨"t", "r", "T", .failed, 1, 1⟩], by decide⟩
  attempts := ⟨[⟨"a", "t", 1, "FAILED", "", "", "", some provenHead, "m"⟩], by decide⟩
  worktrees := ⟨[⟨"k", some "a", "r", some provenHead, "PRESERVED"⟩], by decide⟩
  pathLeases := []
  agentSessions := []
  commandRuns := []
  taskResults := ⟨[], by decide⟩

def workFails : OtherUpdate where
  custody := fun t => if t.consumptions.rows = [] then failedWork else t.custody
  runs := fun t => t.runs
  humanActions := fun _ => ⟨[⟨1, some "r", some "a", "o", "retry_task", "task", "t", 0, .obj []⟩], by decide⟩
  numbered := fun t hn => by
    split
    · constructor
      · decide
      · decide
    · exact hn
  kept := fun t a ha href => by
    obtain ⟨c, hc, -⟩ := href
    rw [if_neg (List.ne_nil_of_mem hc)]
    exact ⟨a, ha, rfl⟩

def freshRequest : FreshAttemptRequest :=
  ⟨"p", freshReceipt, 1, ⟨"b", "t", 2, "AUTHORIZED", packetOn provenHead,
    "a25f0fdf027995354e0b21db2844db58964243a15d3c7b32f01088ad51dded4c", provenHead, "m"⟩, 1⟩

/-- The second attempt is authorized, leased and launched on a composed base. -/
def launched : List Event :=
  [.other workFails, .call (.openReconciliation newReconciliation), .call (.proof exclusiveProof),
    .call (.consume freshRequest 1), .call (.lease "t" "b"), .call (.composeBase "b" (packetOn composedBase) composedBase)]

/-- The proofs with their heads, the consumptions with their replacements, the attempts with their numbers and bases. -/
def ControlTables.consumptionView (t : ControlTables) :
    List (String × String) × List (String × String) × List (String × Int × String) :=
  match t with
  | ⟨_, _, _, _, _, _, _, proofs, consumptions, _, _, custody⟩ =>
    (proofs.rows.map (fun p => (p.proofId, p.headSha)),
      consumptions.rows.map (fun c => (c.proofId, c.replacementAttemptId)),
      custody.attempts.rows.map (fun a => (a.id, a.attemptNumber, a.baseSha)))

/-- After the launch the replacement is not based on the proven head, and the request cannot be repeated. -/
theorem launch_moves_base :
    (afterEvents freshWire launched).consumptionView =
      ([("p", provenHead)], [("p", "b")], [("a", 1, ""), ("b", 2, composedBase)]) ∧ composedBase ≠ provenHead ∧
    (consumeOwnershipProofForFreshAttempt freshWire freshRequest 1 (afterEvents freshWire launched)).1 =
      .error (.conflict "ownership proof p was already consumed by replacement attempt b") := by
  decide +kernel

end Control
end Bildr
