import Bildr.ControlPlane
import Bildr.CorrelationGraph
/-!
# LinkLedger — where the stored links come from

Every link that a call records names a record: an observation, a receipt, an episode, a finding, an action or a proof
(`Grounded`); only `recordCorrelationLink` takes a link as it is.  The kinds of records are ordered, so links of records
never close a cycle, and such a link is refused only if its digests are zero, its trace is full or its causality is there
already (`record_fresh_iff`).
-/
namespace Bildr
namespace Control

open Improvement (isLowerHex isSafeOperatorControlIdentifier)
open Relation (TransGen)
open Trace (run)

/-! ## Derived links -/

theorem alphanum_of_hex {c : Char} (h : (c.isDigit || (decide ('a' ≤ c) && decide (c ≤ 'f'))) = true) :
    c.isAlphanum = true := by
  simp only [Bool.or_eq_true, Bool.and_eq_true, decide_eq_true_eq] at h
  unfold Char.isAlphanum Char.isAlpha
  rcases h with h | ⟨h1, h2⟩
  · simp [h]
  · have hlow : c.isLower = true :=
      Bool.and_eq_true_iff.2 ⟨decide_eq_true h1, decide_eq_true (le_trans h2 (by decide))⟩
    simp [hlow]

theorem safe_iff {value : String} : isSafeOperatorControlIdentifier value = true ↔
    value ≠ "" ∧ value.toList.length ≤ 160 ∧
      ∀ c ∈ value.toList, (c.isAlphanum || ['_', '-', '.', ':'].contains c) = true := by
  simp only [isSafeOperatorControlIdentifier, Improvement.token, Bool.and_eq_true, decide_eq_true_eq, bne_iff_ne, ne_eq,
    List.all_eq_true, and_assoc]

/-- **An identifier followed by letters and digits** is one exactly if it is not too long. -/
theorem safe_append_iff {head tail : String} (hhead : isSafeOperatorControlIdentifier head = true)
    (htail : ∀ c ∈ tail.toList, (c.isAlphanum || ['_', '-', '.', ':'].contains c) = true) :
    isSafeOperatorControlIdentifier (head ++ tail) = true ↔ head.toList.length + tail.toList.length ≤ 160 := by
  have htext : (head ++ tail).toList = head.toList ++ tail.toList := String.toList_append
  rw [safe_iff] at hhead
  rw [safe_iff, htext, List.length_append]
  constructor
  · exact fun h => h.2.1
  · refine fun h => ⟨fun hempty => hhead.1 ?_, h, fun c hc => ?_⟩
    · rw [hempty] at htext
      exact String.toList_inj.1 (List.append_eq_nil_iff.1 htext.symm).1
    · rcases List.mem_append.1 hc with hc | hc
      · exact hhead.2.2 c hc
      · exact htail c hc

theorem safe_append_take {head : String} (d : Digest) {n : Nat} (hn : n ≤ 64)
    (hhead : isSafeOperatorControlIdentifier head = true) (hlen : head.toList.length + n ≤ 160) :
    isSafeOperatorControlIdentifier (head ++ d.take n) = true := by
  have hhex := isLowerHex_take d hn
  simp only [isLowerHex, Bool.and_eq_true, decide_eq_true_eq, List.all_eq_true] at hhex
  refine (safe_append_iff hhead (fun c hc => ?_)).2 (by rw [hhex.1]; exact hlen)
  rw [alphanum_of_hex (hhex.2 c hc), Bool.true_or]

theorem linkIdOf_eq (w : Wire) (text : String) : linkIdOf w text = .ok ("correlation-" ++ (w.sha256 text).take 48) := by
  have hsafe : isSafeOperatorControlIdentifier ("correlation-" ++ (w.sha256 text).take 48) = true :=
    safe_append_take (w.sha256 text) (by omega) (by decide) (by decide)
  unfold linkIdOf
  simp only [validateIdentifier_ok.2 hsafe, ok_bind, pure_ok]

theorem derivedLink_eq (w : Wire) (traceText spanText linkText fromKind fromId toKind toId relation : String)
    (createdAtMs : Int) :
    derivedLink w traceText spanText linkText fromKind fromId toKind toId relation createdAtMs =
      .ok ⟨"harness.correlation-link.v1", "correlation-" ++ (w.sha256 linkText).take 48,
        ⟨(w.sha256 traceText).take 32, (w.sha256 spanText).take 16, none⟩, fromKind, fromId, toKind, toId, relation,
        createdAtMs⟩ := by
  unfold derivedLink
  rw [linkIdOf_eq]
  rfl

theorem relation_derived {l : CorrelationLink} {w : Wire} {traceText spanText linkText fromKind fromId toKind toId
    relation : String} {createdAtMs : Int}
    (h : derivedLink w traceText spanText linkText fromKind fromId toKind toId relation createdAtMs = .ok l) :
    l.relation = relation := by
  rw [derivedLink_eq] at h
  cases h
  rfl

theorem validate_derived {l : CorrelationLink} {w : Wire} {traceText spanText linkText fromKind fromId toKind toId
    relation : String} {createdAtMs : Int}
    (h : derivedLink w traceText spanText linkText fromKind fromId toKind toId relation createdAtMs = .ok l)
    (hkinds : isSafeOperatorControlIdentifier fromKind = true ∧ isSafeOperatorControlIdentifier toKind = true ∧
      isSafeOperatorControlIdentifier relation = true ∧ fromKind ≠ toKind)
    (hids : isSafeOperatorControlIdentifier fromId = true ∧ isSafeOperatorControlIdentifier toId = true) :
    l.validate = .ok () ↔
      allZero ((w.sha256 traceText).take 32) = false ∧ allZero ((w.sha256 spanText).take 16) = false := by
  rw [derivedLink_eq] at h
  cases h
  obtain ⟨hfrom, hto, hrel, hne⟩ := hkinds
  unfold CorrelationLink.validate TraceContext.validate
  simp only [beq_self_eq_true, ensure_true, ok_bind, validateLowerHex_ok.2 (isLowerHex_take _ (by omega : 32 ≤ 64)),
    validateLowerHex_ok.2 (isLowerHex_take _ (by omega : 16 ≤ 64)), validateIdentifier_ok.2 hfrom,
    validateIdentifier_ok.2 hids.1, validateIdentifier_ok.2 hto, validateIdentifier_ok.2 hids.2,
    validateIdentifier_ok.2 hrel]
  have hdistinct : (!(fromKind == toKind && fromId == toId)) = true := by simp [hne]
  rw [hdistinct]
  cases allZero ((w.sha256 traceText).take 32) with
  | true => simp
  | false =>
    cases allZero ((w.sha256 spanText).take 16) with
    | true => simp
    | false => simp

/-! ## Links of records -/

/-- The link is that of a record.  Observations, receipts, findings and actions are records of the tables. -/
inductive Grounded (w : Wire) (t : ControlTables) (l : CorrelationLink) : Prop
  | observation (o : LivenessObservation) (stored : o ∈ t.observations.rows)
      (link : livenessObservationCorrelationLink w o = .ok l)
  | receipt (r : InterventionReceipt) (stored : r ∈ t.receipts.rows) (link : interventionCorrelationLink w r = .ok l)
  | opening (e : ReconciliationEpisode) (link : reconciliationEpisodeCorrelationLink w e = .ok l)
  | finding (f : ReconciliationFinding) (stored : f ∈ t.findings.rows)
      (link : reconciliationFindingCorrelationLink w f = .ok l)
  | action (a : ActionRow) (stored : a ∈ t.actions.rows) (link : reconciliationActionCorrelationLink w a.receipt = .ok l)
  | proof (p : OwnershipProof) (link : ownershipProofCorrelationLink w p = .ok l)

structure Extends (t t' : ControlTables) : Prop where
  observations : t.observations.rows <+: t'.observations.rows
  receipts : t.receipts.rows <+: t'.receipts.rows
  findings : t.findings.rows <+: t'.findings.rows
  actions : t.actions.rows <+: t'.actions.rows

theorem Grounded.extend {w : Wire} {t t' : ControlTables} {l : CorrelationLink} (h : Grounded w t l)
    (he : Extends t t') : Grounded w t' l := by
  cases h with
  | observation o ho h => exact .observation o (he.observations.subset ho) h
  | receipt r hr h => exact .receipt r (he.receipts.subset hr) h
  | opening e h => exact .opening e h
  | finding f hf h => exact .finding f (he.findings.subset hf) h
  | action a ha h => exact .action a (he.actions.subset ha) h
  | proof p h => exact .proof p h

theorem prefix_of_eq {α κ : Type} {key : α → κ} {t u : Table key} (h : u = t) : t.rows <+: u.rows := h ▸ List.prefix_rfl

theorem perform_extends (w : CustodyWire) (t : ControlTables) (c : ControlCall) : Extends t (perform w t c) := by
  have hlive : t.observations.rows <+: (perform w t c).observations.rows ∧
      t.receipts.rows <+: (perform w t c).receipts.rows := by
    rcases perform_liveness w t c with hq | ⟨e, -, ho⟩ | ⟨id, v, o, row, -, ho, -⟩ | ⟨row, r, hc⟩
    · exact ⟨prefix_of_eq hq.observations, prefix_of_eq hq.receipts⟩
    · exact ⟨prefix_of_eq ho.observations, prefix_of_eq ho.receipts⟩
    · exact ⟨⟨[o], ho.observations.symm⟩, prefix_of_eq ho.receipts⟩
    · exact ⟨prefix_of_eq hc.observations, ⟨[r], hc.receipts.symm⟩⟩
  rcases perform_reconciliation w t c with hc | ⟨e, hc⟩ | ⟨row, f, hf⟩ | ⟨row, r, ha⟩
  · exact ⟨hlive.1, hlive.2, prefix_of_eq hc.findings, prefix_of_eq hc.actions⟩
  · exact ⟨hlive.1, hlive.2, prefix_of_eq hc.findings, prefix_of_eq hc.actions⟩
  · exact ⟨hlive.1, hlive.2, ⟨[f], hf.findings.symm⟩, prefix_of_eq hf.actions⟩
  · exact ⟨hlive.1, hlive.2, prefix_of_eq ha.findings, ⟨_, ha.actions.symm⟩⟩

/-! ## What a call records -/

/-- The links are as before, or the link of a record was recorded, or the link the call was about. -/
def Linked (w : Wire) (c : ControlCall) (t t' : ControlTables) : Prop :=
  t'.links = t.links ∨
    ∃ l, recordCorrelationLinkInTransaction t.links l = .ok t'.links ∧ (Grounded w t' l ∨ c = .link l)

theorem Linked.of_records {w : Wire} {c : ControlCall} {t t' : ControlTables}
    {link : Except StoreError CorrelationLink} (h : Records t t' link) (hg : ∀ l, link = .ok l → Grounded w t' l) :
    Linked w c t t' := by
  obtain ⟨l, hl, hr⟩ := h
  exact Or.inr ⟨l, hr, Or.inl (hg l hl)⟩

theorem receipt_linked (w : Wire) (c : ControlCall) (r : InterventionReceipt) (t : ControlTables) :
    Linked w c t (recordInterventionReceipt w r t).2 := by
  refine transaction_after (P := Linked w c t) (Or.inl rfl) (fun e t' hb => ?_)
  obtain ⟨-, -, hrec, hstored, -⟩ := receipt_ok hb
  exact Linked.of_records hrec (fun l hl => .receipt r hstored hl)

theorem wait_linked (w : Wire) (c : ControlCall) (q : Intervention) (now : Int) (t : ControlTables) :
    Linked w c t (executeWaitIntervention w q now t).2 := by
  unfold executeWaitIntervention
  cases waitLookup w q t with
  | error e => exact Or.inl rfl
  | ok found =>
    cases found with
    | some r => exact receipt_linked w c r t
    | none =>
      cases waitReceipt w q now t with
      | error e => exact Or.inl rfl
      | ok r => exact receipt_linked w c r t

theorem perform_links (w : CustodyWire) (t : ControlTables) (c : ControlCall) :
    Linked w.toWire c t (perform w t c) := by
  cases c with
  | openLiveness e =>
    refine transaction_after (P := Linked w.toWire _ t) (Or.inl rfl) (fun e' t' hb => ?_)
    exact Or.inl (openEpisodeBody_ok hb).2.2
  | observe id v o =>
    refine transaction_after (P := Linked w.toWire _ t) (Or.inl rfl) (fun e' t' hb => ?_)
    obtain ⟨-, -, hrec, hstored⟩ := observationBody_ok hb
    exact Linked.of_records hrec (fun l hl => .observation o hstored hl)
  | receipt r => exact receipt_linked w.toWire _ r t
  | wait q now => exact wait_linked w.toWire _ q now t
  | pause q now =>
    refine transaction_after (P := Linked w.toWire _ t) (Or.inl rfl) (fun e' t' hb => ?_)
    obtain ⟨-, -, r, hrec, hstored⟩ := pauseBody_ok hb
    exact Linked.of_records hrec (fun l hl => .receipt r hstored hl)
  | openReconciliation e =>
    refine transaction_after (P := Linked w.toWire _ t) (Or.inl rfl) (fun e' t' hb => ?_)
    rcases openReconciliationBody_ok hb with rfl | ⟨-, -, hrec⟩
    · exact Or.inl rfl
    · exact Linked.of_records hrec (fun l hl => .opening e hl)
  | finding f v =>
    refine transaction_after (P := Linked w.toWire _ t) (Or.inl rfl) (fun e' t' hb => ?_)
    rcases findingBody_ok hb with ⟨rfl, -⟩ | ⟨row, hf, -⟩
    · exact Or.inl rfl
    · exact Linked.of_records hf.link (fun l hl => .finding f (by rw [hf.findings]; simp) hl)
  | action r v =>
    refine transaction_after (P := Linked w.toWire _ t) (Or.inl rfl) (fun e' t' hb => ?_)
    rcases actionBody_ok hb with ⟨rfl, -⟩ | ⟨row, ha, -⟩
    · exact Or.inl rfl
    · exact Linked.of_records ha.link (fun l hl =>
        .action ⟨Table.maxOf ActionRow.id t.actions.rows + 1, r⟩ (by rw [ha.actions]; simp) hl)
  | proof p =>
    refine transaction_after (P := Linked w.toWire _ t) (Or.inl rfl) (fun p' t' hb => ?_)
    rcases proofBody_ok hb with rfl | ⟨proofs, links, -, -, -, -, hrec⟩
    · exact Or.inl rfl
    · exact Linked.of_records hrec (fun l hl => .proof p hl)
  | consume q now =>
    refine commit_after (P := Linked w.toWire _ t) (Or.inl rfl) (fun t' hb => ?_)
    rcases consumeBody_ok hb with rfl | ⟨p, row, link, -, ha, -⟩
    · exact Or.inl rfl
    · exact Linked.of_records ha.link (fun l hl =>
        .action ⟨Table.maxOf ActionRow.id t.actions.rows + 1, q.receipt⟩ (by rw [ha.actions]; simp) hl)
  | lease taskId attemptId => exact Or.inl (lease_quiet taskId attemptId t).2.2
  | composeBase id packet base => exact Or.inl (composeBase_quiet w id base packet t).2.2
  | link l =>
    show Linked w.toWire (.link l) t { t with links := (recordCorrelationLink l t.links).2 }
    unfold recordCorrelationLink
    cases l.validate with
    | error e => exact Or.inl rfl
    | ok u =>
      refine transaction_after (P := fun links => Linked w.toWire (.link l) t { t with links := links }) (Or.inl rfl)
        (fun l' links hb => ?_)
      obtain ⟨links', hrec, hb⟩ := bind_ok hb
      cases hb
      exact Or.inr ⟨l, hrec, Or.inr rfl⟩

theorem observe_records (w : Wire) (id : String) (v : Nat) (o : LivenessObservation) (t : ControlTables) :
    (recordLivenessObservation w id v o t).2 = t ∨
      Records t (recordLivenessObservation w id v o t).2 (livenessObservationCorrelationLink w o) := by
  refine transaction_after (P := fun t' => t' = t ∨ Records t t' (livenessObservationCorrelationLink w o)) (Or.inl rfl)
    (fun e t' hb => ?_)
  exact Or.inr (observationBody_ok hb).2.2.1

/-! ## What the links keep -/

/-- The links are sound, each comes from a record or from elsewhere, and each observation, finding and action has its
link. -/
structure LinkLedger (w : Wire) (elsewhere : CorrelationLink → Prop) (t : ControlTables) : Prop where
  sound : Sound t.links
  grounded : ∀ l ∈ t.links.rows, elsewhere l ∨ Grounded w t l
  observed : ∀ o ∈ t.observations.rows, ∃ l ∈ t.links.rows, livenessObservationCorrelationLink w o = .ok l
  found : ∀ f ∈ t.findings.rows, ∃ l ∈ t.links.rows, reconciliationFindingCorrelationLink w f = .ok l
  acted : ∀ a ∈ t.actions.rows, ∃ l ∈ t.links.rows, reconciliationActionCorrelationLink w a.receipt = .ok l

theorem linkLedger_empty (w : Wire) (elsewhere : CorrelationLink → Prop) :
    LinkLedger w elsewhere ControlTables.empty := by
  refine ⟨sound_empty, ?_, ?_, ?_, ?_⟩ <;> intro r hr <;> cases hr

theorem mem_of_records {t t' : Links} {l : CorrelationLink} (h : recordCorrelationLinkInTransaction t l = .ok t') :
    l ∈ t'.rows ∧ ∀ k ∈ t'.rows, k ∈ t.rows ∨ k = l := by
  rcases record_cases h with ⟨hg, rfl⟩ | ⟨-, -, hrows⟩
  · exact ⟨Table.mem_of_get hg, fun k hk => Or.inl hk⟩
  · rw [hrows]
    exact ⟨by simp, fun k hk => by simpa using hk⟩

theorem LinkLedger.perform {w : CustodyWire} {elsewhere : CorrelationLink → Prop} {t : ControlTables} {c : ControlCall}
    (h : LinkLedger w.toWire elsewhere t) (hc : ∀ l, c = .link l → elsewhere l) :
    LinkLedger w.toWire elsewhere (perform w t c) := by
  have hext := perform_extends w t c
  have hlinks := perform_links w t c
  have hsound : Sound (Control.perform w t c).links ∧ t.links.rows <+: (Control.perform w t c).links.rows := by
    rcases hlinks with heq | ⟨l, hrec, -⟩
    · rw [heq]
      exact ⟨h.sound, List.prefix_rfl⟩
    · exact record_sound h.sound hrec
  have hkeep : ∀ {link : Except StoreError CorrelationLink}, (∃ l ∈ t.links.rows, link = .ok l) →
      ∃ l ∈ (Control.perform w t c).links.rows, link = .ok l := by
    rintro link ⟨l, hl, hlink⟩
    exact ⟨l, hsound.2.subset hl, hlink⟩
  have hrecorded : ∀ {link : Except StoreError CorrelationLink}, Records t (Control.perform w t c) link →
      ∃ l ∈ (Control.perform w t c).links.rows, link = .ok l := by
    rintro link ⟨l, hl, hrec⟩
    exact ⟨l, (mem_of_records hrec).1, hl⟩
  refine ⟨hsound.1, fun k hk => ?_, fun o ho => ?_, fun f hf => ?_, fun a ha => ?_⟩
  · rcases hlinks with heq | ⟨l, hrec, hl⟩
    · rw [heq] at hk
      exact (h.grounded k hk).imp_right (fun hg => hg.extend hext)
    · rcases (mem_of_records hrec).2 k hk with hk | rfl
      · exact (h.grounded k hk).imp_right (fun hg => hg.extend hext)
      · exact hl.elim Or.inr (fun he => Or.inl (hc k he))
  · -- an observation that is new was recorded with its link
    rcases perform_liveness w t c with hq | ⟨e, -, he⟩ | ⟨id, v, o', row, rfl, hobs, -⟩ | ⟨row, r, hr⟩
    · exact hkeep (h.observed o (hq.observations ▸ ho))
    · exact hkeep (h.observed o (he.observations ▸ ho))
    · rw [hobs.observations] at ho
      rcases List.mem_append.1 ho with ho | ho
      · exact hkeep (h.observed o ho)
      · obtain rfl := List.mem_singleton.1 ho
        rcases observe_records w.toWire id v o t with hsame | hrec
        · have hrows := hobs.observations
          rw [show Control.perform w t (.observe id v o) = t from hsame] at hrows
          exact absurd hrows (by simp)
        · exact hrecorded hrec
    · exact hkeep (h.observed o (hr.observations ▸ ho))
  · rcases perform_reconciliation w t c with hq | ⟨e, he⟩ | ⟨row, g, hg⟩ | ⟨row, r, hr⟩
    · exact hkeep (h.found f (hq.findings ▸ hf))
    · exact hkeep (h.found f (he.findings ▸ hf))
    · rw [hg.findings] at hf
      rcases List.mem_append.1 hf with hf | hf
      · exact hkeep (h.found f hf)
      · obtain rfl := List.mem_singleton.1 hf
        exact hrecorded hg.link
    · exact hkeep (h.found f (hr.findings ▸ hf))
  · rcases perform_reconciliation w t c with hq | ⟨e, he⟩ | ⟨row, g, hg⟩ | ⟨row, r, hr⟩
    · exact hkeep (h.acted a (hq.actions ▸ ha))
    · exact hkeep (h.acted a (he.actions ▸ ha))
    · exact hkeep (h.acted a (hg.actions ▸ ha))
    · rw [hr.actions] at ha
      rcases List.mem_append.1 ha with ha | ha
      · exact hkeep (h.acted a ha)
      · obtain rfl := List.mem_singleton.1 ha
        exact hrecorded hr.link

theorem linkLedger_run {w : CustodyWire} {elsewhere : CorrelationLink → Prop} : ∀ (calls : List ControlCall)
    {t : ControlTables}, LinkLedger w.toWire elsewhere t → (∀ l, .link l ∈ calls → elsewhere l) →
    LinkLedger w.toWire elsewhere (run (Control.perform w) t calls)
  | [], _, h, _ => h
  | c :: calls, _, h, hc =>
    linkLedger_run calls (h.perform (fun l hl => hc l (hl ▸ List.mem_cons_self)))
      (fun l hl => hc l (List.mem_cons_of_mem c hl))

/-! ## The order of kinds -/

def kindRank (kind : String) : Nat :=
  if kind = "source_event" ∨ kind = "liveness_episode" then 0 else if kind = "reconciliation_episode" then 1 else 2

/-- The kind in the text of a node: what stands between the trace id and the next colon. -/
def nodeKind (n : String) : String := String.ofList ((n.toList.drop 33).takeWhile (fun c => c != ':'))

theorem nodeKind_node {trace kind id : String} (ht : trace.toList.length = 32) (hk : ':' ∉ kind.toList) :
    nodeKind (node trace kind id) = kind := by
  have htext : (node trace kind id).toList = trace.toList ++ (':' :: (kind.toList ++ ':' :: id.toList)) := by
    simp [node, String.toList_append]
  have hdrop : (trace.toList ++ (':' :: (kind.toList ++ ':' :: id.toList))).drop 33 = kind.toList ++ ':' :: id.toList := by
    rw [show (33 : Nat) = trace.toList.length + 1 by rw [ht], List.drop_append]
    simp
  unfold nodeKind
  rw [htext, hdrop, List.takeWhile_append_of_pos, List.takeWhile_cons_of_neg (by decide), List.append_nil,
    String.ofList_toList]
  intro c hc
  simp only [bne_iff_ne, ne_eq]
  exact fun he => hk (he ▸ hc)

structure Ranked (l : CorrelationLink) : Prop where
  from_plain : ':' ∉ l.fromKind.toList
  to_plain : ':' ∉ l.toKind.toList
  later : kindRank l.fromKind < kindRank l.toKind

theorem ranked_derived {l : CorrelationLink} {w : Wire} {traceText spanText linkText fromKind fromId toKind toId
    relation : String} {createdAtMs : Int}
    (h : derivedLink w traceText spanText linkText fromKind fromId toKind toId relation createdAtMs = .ok l)
    (hfrom : ':' ∉ fromKind.toList) (hto : ':' ∉ toKind.toList) (hlt : kindRank fromKind < kindRank toKind) :
    Ranked l := by
  rw [derivedLink_eq] at h
  cases h
  exact ⟨hfrom, hto, hlt⟩

theorem Grounded.ranked {w : Wire} {t : ControlTables} {l : CorrelationLink} (h : Grounded w t l) : Ranked l := by
  cases h with
  | observation o _ h => exact ranked_derived h (by decide) (by decide) (by decide)
  | receipt r _ h => exact ranked_derived h (by decide) (by decide) (by decide)
  | opening e h => exact ranked_derived h (by decide) (by decide) (by decide)
  | finding f _ h => exact ranked_derived h (by decide) (by decide) (by decide)
  | action a _ h => exact ranked_derived h (by decide) (by decide) (by decide)
  | proof p h => exact ranked_derived h (by decide) (by decide) (by decide)

theorem length_trace {l : CorrelationLink} (h : l.validate = .ok ()) : l.trace.traceId.toList.length = 32 := by
  unfold CorrelationLink.validate at h
  obtain ⟨-, h⟩ := ensure_bind_ok.1 h
  obtain ⟨ht, -⟩ := bind_unit_ok.1 h
  unfold TraceContext.validate at ht
  obtain ⟨hhex, -⟩ := bind_unit_ok.1 ht
  have hlen := validateLowerHex_ok.1 hhex
  simp only [isLowerHex, Bool.and_eq_true, decide_eq_true_eq] at hlen
  exact hlen.1

theorem acyclic_of_ranked {links : List CorrelationLink} (hv : ∀ l ∈ links, l.validate = .ok ())
    (hr : ∀ l ∈ links, Ranked l) (n : String) : ¬ TransGen (Leads links) n n := by
  intro hc
  have hup : TransGen (fun a b : Nat => a < b) (kindRank (nodeKind n)) (kindRank (nodeKind n)) := by
    refine hc.lift (fun m => kindRank (nodeKind m)) ?_
    rintro a b ⟨l, hl, rfl, rfl⟩
    have hlen := length_trace (hv l hl)
    show kindRank (nodeKind l.source) < kindRank (nodeKind l.target)
    rw [CorrelationLink.source, CorrelationLink.target, nodeKind_node hlen (hr l hl).from_plain,
      nodeKind_node hlen (hr l hl).to_plain]
    exact (hr l hl).later
  rw [Relation.transGen_eq_self] at hup
  exact lt_irrefl _ hup

/-! ## Which links are taken -/

theorem record_of_pass {t : Links} {l : CorrelationLink} (hs : Sound t) (hnone : t.get l.linkId = none)
    (hpass : validateCausalLinks (linksOf t l.trace.traceId ++ [l]) = .ok ()) :
    ∃ t', recordCorrelationLinkInTransaction t l = .ok t' := by
  obtain ⟨-, hall, hnodup, -⟩ := validateCausalLinks_iff.1 hpass
  have hpage := (validateCausalLinks_perm ((linkPage_perm hs l.trace.traceId).append_right [l])).2 hpass
  have hcolumns : (!t.rows.any (fun r => r.columns == l.columns)) = true := by
    simp only [Bool.not_eq_true', List.any_eq_false, beq_iff_eq]
    intro r hr he
    simp only [CorrelationLink.columns, List.cons.injEq, and_true] at he
    obtain ⟨htrace, hfk, hfi, htk, hti, hrel⟩ := he
    rw [List.map_append] at hnodup
    refine (List.nodup_append.1 hnodup).2.2 r.causality (List.mem_map.2 ⟨r, List.mem_filter.2 ⟨hr, by simpa using htrace⟩,
      rfl⟩) l.causality (by simp) ?_
    simp only [CorrelationLink.causality, CorrelationLink.source, CorrelationLink.target, htrace, hfk, hfi, htk, hti, hrel]
  obtain ⟨t', ht'⟩ := insertRow_isOk (t := t) (r := l) (by
    rw [← Table.get_isSome, hnone]
    exact Bool.false_ne_true)
  refine ⟨t', ?_⟩
  unfold recordCorrelationLinkInTransaction
  rw [hall l (by simp), ok_bind, hnone]
  simp only [readLinks_page hs, hpage, ok_bind, require, hcolumns, ensure_true]
  exact ht'

theorem acyclic_single {l : CorrelationLink} (hne : l.source ≠ l.target) (n : String) :
    ¬ Relation.TransGen (Leads [l]) n n := by
  have hstep : ∀ {a b}, Leads [l] a b → a = l.source ∧ b = l.target := by
    rintro a b ⟨r, hr, rfl, rfl⟩
    rw [List.mem_singleton.1 hr]
    exact ⟨rfl, rfl⟩
  have hends : ∀ {a b}, Relation.TransGen (Leads [l]) a b → a = l.source ∧ b = l.target := by
    intro a b h
    induction h with
    | single h => exact hstep h
    | tail _ h ih => exact ⟨ih.1, (hstep h).2⟩
  intro h
  exact hne ((hends h).1.symm.trans (hends h).2)

/-- **A link that clashes with no other is taken**: its trace and its id are its own. -/
theorem record_alone {t : Links} {l : CorrelationLink} (hs : Sound t) (hvalid : l.validate = .ok ())
    (hkinds : ':' ∉ l.fromKind.toList ∧ ':' ∉ l.toKind.toList ∧ l.fromKind ≠ l.toKind)
    (halone : ∀ r ∈ t.rows, r.trace.traceId ≠ l.trace.traceId ∧ r.linkId ≠ l.linkId) :
    ∃ t', recordCorrelationLinkInTransaction t l = .ok t' ∧ t'.rows = t.rows ++ [l] ∧ Sound t' := by
  have hnone : t.get l.linkId = none := Table.get_none.2 (fun r hr => (halone r hr).2)
  have hempty : linksOf t l.trace.traceId = [] := by
    refine List.filter_eq_nil_iff.2 (fun r hr => ?_)
    simpa using (halone r hr).1
  have hne : l.source ≠ l.target := by
    intro he
    have hlen := length_trace hvalid
    have hfrom : nodeKind l.source = l.fromKind := nodeKind_node hlen hkinds.1
    have hto : nodeKind l.target = l.toKind := nodeKind_node hlen hkinds.2.1
    rw [he, hto] at hfrom
    exact hkinds.2.2 hfrom.symm
  obtain ⟨t', ht'⟩ := record_of_pass hs hnone (by
    rw [hempty, List.nil_append]
    exact validateCausalLinks_iff.2 ⟨by simp, fun r hr => List.mem_singleton.1 hr ▸ hvalid, by simp, acyclic_single hne⟩)
  refine ⟨t', ht', ?_, (record_sound hs ht').1⟩
  rcases record_cases ht' with ⟨hg, -⟩ | ⟨-, -, hrows⟩
  · rw [hnone] at hg
    cases hg
  · exact hrows

/-- **A link of a record under an id that is not used** is taken exactly if it passes its checks and its causality is
new. -/
theorem record_fresh_iff {t : Links} {l : CorrelationLink} (hs : Sound t) (hnone : t.get l.linkId = none)
    (hroom : (linksOf t l.trace.traceId).length < 8192) (hrank : ∀ r ∈ linksOf t l.trace.traceId, Ranked r)
    (hl : Ranked l) :
    (∃ t', recordCorrelationLinkInTransaction t l = .ok t') ↔
      l.validate = .ok () ∧ ∀ r ∈ linksOf t l.trace.traceId, r.causality ≠ l.causality := by
  obtain ⟨-, hvalid, hnodup, -⟩ := validateCausalLinks_iff.1 (hs l.trace.traceId)
  constructor
  · rintro ⟨t', h⟩
    rcases record_cases h with ⟨hg, -⟩ | ⟨-, hv, -⟩
    · rw [hnone] at hg
      cases hg
    · have hpass := (validateCausalLinks_perm ((linkPage_perm hs l.trace.traceId).append_right [l])).1 hv
      obtain ⟨-, hall, hn, -⟩ := validateCausalLinks_iff.1 hpass
      refine ⟨hall l (by simp), fun r hr he => ?_⟩
      rw [List.map_append] at hn
      exact (List.nodup_append.1 hn).2.2 _ (List.mem_map.2 ⟨r, hr, rfl⟩) _ (List.mem_singleton.2 rfl) he
  · rintro ⟨hv, hnew⟩
    have hall : ∀ r ∈ linksOf t l.trace.traceId ++ [l], r.validate = .ok () ∧ Ranked r := by
      intro r hr
      rcases List.mem_append.1 hr with hr | hr
      · exact ⟨hvalid r hr, hrank r hr⟩
      · exact List.mem_singleton.1 hr ▸ ⟨hv, hl⟩
    refine record_of_pass hs hnone (validateCausalLinks_iff.2 ⟨?_, fun r hr => (hall r hr).1, ?_,
      acyclic_of_ranked (fun r hr => (hall r hr).1) (fun r hr => (hall r hr).2)⟩)
    · rw [List.length_append, List.length_singleton]
      omega
    · rw [List.map_append]
      refine List.nodup_append.2 ⟨hnodup, by simp, fun a ha b hb => ?_⟩
      obtain ⟨r, hr, rfl⟩ := List.mem_map.1 ha
      simp only [List.map_cons, List.map_nil, List.mem_singleton] at hb
      exact hb ▸ hnew r hr

theorem record_retimed {t t' : Links} {l : CorrelationLink} (hs : Sound t) (hnone : t.get l.linkId = none)
    (h : recordCorrelationLinkInTransaction t l = .ok t') (createdAtMs : Int) :
    ∃ u, recordCorrelationLinkInTransaction t { l with createdAtMs := createdAtMs } = .ok u := by
  rcases record_cases h with ⟨hg, -⟩ | ⟨-, hv, -⟩
  · rw [hnone] at hg
    cases hg
  · have hpass := (validateCausalLinks_perm ((linkPage_perm hs l.trace.traceId).append_right [l])).1 hv
    obtain ⟨hlen, hall, hn, hacyclic⟩ := validateCausalLinks_iff.1 hpass
    have hleads : ∀ n m, Leads (linksOf t l.trace.traceId ++ [{ l with createdAtMs := createdAtMs }]) n m →
        Leads (linksOf t l.trace.traceId ++ [l]) n m := by
      rintro n m ⟨r, hr, hs, ht⟩
      rcases List.mem_append.1 hr with hr | hr
      · exact ⟨r, List.mem_append_left _ hr, hs, ht⟩
      · rw [List.mem_singleton.1 hr] at hs ht
        exact ⟨l, by simp, hs, ht⟩
    refine record_of_pass (l := { l with createdAtMs := createdAtMs }) hs hnone
      (validateCausalLinks_iff.2 ⟨?_, fun r hr => ?_, ?_, fun n hc => ?_⟩)
    · rw [List.length_append] at hlen ⊢
      exact hlen
    · rcases List.mem_append.1 hr with hr | hr
      · exact hall r (List.mem_append_left _ hr)
      · rw [List.mem_singleton.1 hr]
        exact hall l (by simp)
    · rw [List.map_append] at hn ⊢
      exact hn
    · exact hacyclic n (hc.lift id hleads)

/-- **A link of a record** is taken exactly if it passes its checks and is stored already, or is new in its id and in its
causality. -/
theorem record_iff {t : Links} {l : CorrelationLink} (hs : Sound t) (hroom : (linksOf t l.trace.traceId).length < 8192)
    (hrank : ∀ r ∈ linksOf t l.trace.traceId, Ranked r) (hl : Ranked l) :
    (∃ t', recordCorrelationLinkInTransaction t l = .ok t') ↔
      l.validate = .ok () ∧ (t.get l.linkId = some l ∨
        (t.get l.linkId = none ∧ ∀ r ∈ linksOf t l.trace.traceId, r.causality ≠ l.causality)) := by
  cases hg : t.get l.linkId with
  | none =>
    rw [record_fresh_iff hs hg hroom hrank hl]
    simp
  | some existing =>
    simp only [Option.some.injEq, reduceCtorEq, false_and, or_false]
    constructor
    · rintro ⟨t', h⟩
      rcases record_cases h with ⟨hsame, -⟩ | ⟨hnone, -⟩
      · rw [hg] at hsame
        cases hsame
        exact ⟨sound_valid hs (Table.mem_of_get hg), rfl⟩
      · rw [hg] at hnone
        cases hnone
    · rintro ⟨-, rfl⟩
      exact ⟨t, record_again hs (Table.mem_of_get hg)⟩

end Control
end Bildr
