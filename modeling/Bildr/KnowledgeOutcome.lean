import Bildr.ImprovementLedger
import Bildr.KnowledgeReview
import Bildr.Texts
import Mathlib
/-!
# KnowledgeOutcome — a candidate gets one outcome

A review that is recorded takes the item out of the candidates, and no later review finds a candidate again.  A review
under a key that exists is checked against five records: the revision, the item in it, the receipt of its review, the
action the receipt names, and the event; only the review that was recorded passes, and only if the item carries the id of
its aggregate.
-/
namespace Bildr
namespace Knowledge

open Trace
open Json (Value)
open Improvement (Revision Event Payload Wrote Extends LedgerInv aggregate readImprovementRevision
  readImprovementRevision_ok currentRevision maxRevision eventByKey ofAggregate)

/-! ## What a call does -/

/-- A new review was recorded over the candidate `k` in the revision `c`. -/
structure Records (w : Wire) (t t' : Tables) (i : ReviewKnowledgeCandidate) (now : Int) (c : Revision)
    (k : KnowledgeItemV1) (a : ReviewAction) (r : Revision) : Prop where
  valid : validateKnowledgeReviewInput i = .ok ()
  current : currentRevision t.ledger .knowledge i.knowledgeId = some c
  item : itemOf c.payload = some k
  candidate : isExactCandidate i c k = true
  accepted : i.decision = .accept → fresh k now = true ∧ evidenceClean w t k.evidence = .ok true
  action : a = i.action w c k (t.ledger.actionSequence + 1) now
  verified : (reviewedItem w i k a now).verify w.ledger = .ok ()
  row : r = i.row w c (reviewedItem w i k a now) (maxRevision t.ledger .knowledge i.knowledgeId + 1) now
  new : t.ledger.revisions.get r.id = none
  wrote : Wrote w.ledger t.ledger t'.ledger r (i.event w r.revision now)
  reviews : t'.reviews.rows = t.reviews.rows ++ [a]
  kept : t'.ledger.actions = t.ledger.actions ∧ t'.evidence = t.evidence

theorem checkAcceptance_ok {w : Wire} {t : Tables} {i : ReviewKnowledgeCandidate} {k : KnowledgeItemV1} {now : Int}
    {u : Unit} (h : checkAcceptance w t i k now = .ok u) (hd : i.decision = .accept) :
    fresh k now = true ∧ evidenceClean w t k.evidence = .ok true := by
  unfold checkAcceptance at h
  rw [if_pos hd] at h
  obtain ⟨_, hfresh, h⟩ := bind_ok h
  obtain ⟨clean, hclean, h⟩ := bind_ok h
  rw [ensure_ok h] at hclean
  exact ⟨ensure_ok hfresh, hclean⟩

theorem admitReview_ok {w : Wire} {t : Tables} {i : ReviewKnowledgeCandidate} {now : Int} {c : Revision}
    {k : KnowledgeItemV1} (h : admitReview w t i now = .ok (c, k)) :
    currentRevision t.ledger .knowledge i.knowledgeId = some c ∧ itemOf c.payload = some k ∧
      isExactCandidate i c k = true ∧
      (i.decision = .accept → fresh k now = true ∧ evidenceClean w t k.evidence = .ok true) := by
  unfold admitReview at h
  obtain ⟨current, hcurrent, h⟩ := bind_ok h
  obtain ⟨item, hitem, h⟩ := bind_ok h
  obtain ⟨_, -, h⟩ := bind_ok h
  obtain ⟨_, hexact, h⟩ := bind_ok h
  obtain ⟨_, -, h⟩ := bind_ok h
  obtain ⟨_, haccept, h⟩ := bind_ok h
  cases h
  exact ⟨okOr_ok hcurrent, okOr_ok hitem, ensure_ok hexact, checkAcceptance_ok haccept⟩

/-- **What a new review writes**: one row in each of the three tables. -/
theorem recordReview_ok {w : Wire} {i : ReviewKnowledgeCandidate} {now : Int} {t t' : Tables} {r : Revision}
    (hvalid : validateKnowledgeReviewInput i = .ok ()) (hkey : eventByKey t.ledger (reviewKey w i) = none)
    (h : recordReview w i now t = .ok (r, t')) :
    ∃ c k a, Records w t t' i now c k a r := by
  unfold recordReview at h
  obtain ⟨⟨c, k⟩, hadmit, h⟩ := bind_ok h
  obtain ⟨hcurrent, hitem, hexact, haccept⟩ := admitReview_ok hadmit
  obtain ⟨reviews, hreviews, h⟩ := bind_ok h
  obtain ⟨_, hverify, h⟩ := bind_ok h
  obtain ⟨ledger, hrevision, h⟩ := bind_ok h
  obtain ⟨ledger', hevent, h⟩ := bind_ok h
  obtain ⟨record, hread, h⟩ := bind_ok h
  cases h
  have hnew : t.ledger.revisions.get (reviewRevisionId w i) = none := by
    unfold Improvement.insertRevision at hrevision
    obtain ⟨_, -, hrevision⟩ := bind_ok hrevision
    obtain ⟨u, hu, -⟩ := bind_ok hrevision
    exact (Table.insert_some (insertRow_ok hu)).1
  obtain ⟨u, rfl, hu⟩ := Improvement.insertRevision_ok hrevision
  obtain ⟨v, rfl, hv⟩ := Improvement.insertEvent_ok hevent
  obtain ⟨hget, hreadable⟩ := readImprovementRevision_ok hread
  -- the row read back is the one written
  have hrow : u.get (reviewRevisionId w i) = some (i.row w c (reviewedItem w i k
      (i.action w c k (t.ledger.actionSequence + 1) now) now) (maxRevision t.ledger .knowledge i.knowledgeId + 1) now) :=
    Table.get_of_mem (t := u) (r := i.row w c _ _ now) (by rw [hu]; exact List.mem_append_right _ List.mem_cons_self)
  have hr : r = i.row w c (reviewedItem w i k (i.action w c k (t.ledger.actionSequence + 1) now) now)
      (maxRevision t.ledger .knowledge i.knowledgeId + 1) now := Option.some.inj (hget.symm.trans hrow)
  refine ⟨c, k, i.action w c k (t.ledger.actionSequence + 1) now, ?_⟩
  subst hr
  exact ⟨hvalid, hcurrent, hitem, hexact, haccept, rfl, mapError_ok.1 hverify, rfl, hnew,
    ⟨hkey, hu, hv, rfl, ⟨rfl, rfl, rfl, rfl⟩, hreadable, rfl, List.prefix_refl _⟩,
    (Table.insert_some (insertRow_ok hreviews)).2, rfl, rfl⟩

/-- **What a review does**: it fails, or it finds itself, or it is recorded. -/
theorem review_cases (w : Wire) (i : ReviewKnowledgeCandidate) (now : Int) (t : Tables) :
    (∃ e, reviewKnowledgeCandidate w i now t = (.error e, t)) ∨
    (∃ e r, eventByKey t.ledger (reviewKey w i) = some e ∧ replayReview w t i e = .ok r ∧
      reviewKnowledgeCandidate w i now t = (.ok r, t)) ∨
    ∃ c k a r t', Records w t t' i now c k a r ∧ reviewKnowledgeCandidate w i now t = (.ok r, t') := by
  unfold reviewKnowledgeCandidate
  rcases transaction_cases _ t with ⟨e, -, ht⟩ | ⟨r, t', hb, ht⟩
  · exact Or.inl ⟨e, ht⟩
  · rw [ht]
    obtain ⟨_, hvalid, hb⟩ := bind_ok hb
    cases hk : eventByKey t.ledger (reviewKey w i) with
    | some e =>
      rw [hk] at hb
      obtain ⟨existing, hreplay, hb⟩ := bind_ok hb
      cases hb
      exact Or.inr (Or.inl ⟨e, r, rfl, hreplay, rfl⟩)
    | none =>
      rw [hk] at hb
      obtain ⟨c, k, a, hrecords⟩ := recordReview_ok hvalid hk hb
      exact Or.inr (Or.inr ⟨c, k, a, r, t', hrecords, rfl⟩)

/-! ## A review that is found again -/

/-- The second store has the rows of the first one, and more after them. -/
structure Grows (t t' : Tables) : Prop where
  ledger : Extends t.ledger t'.ledger
  reviews : t.reviews.rows <+: t'.reviews.rows

theorem replayReview_ok {w : Wire} {t : Tables} {i : ReviewKnowledgeCandidate} {e : Event} {r : Revision}
    (h : replayReview w t i e = .ok r) : ∃ k receipt, t.ledger.revisions.get e.revisionId = some r ∧
      itemOf r.payload = some k ∧ k.review.receipt = some receipt ∧ sameReview w i r k = true ∧
      ∃ a ∈ t.reviews.rows, a.isOf i receipt = true := by
  unfold replayReview at h
  obtain ⟨existing, hread, h⟩ := bind_ok h
  obtain ⟨k, hitem, h⟩ := bind_ok h
  obtain ⟨_, -, h⟩ := bind_ok h
  obtain ⟨receipt, hreceipt, h⟩ := bind_ok h
  obtain ⟨_, hsame, h⟩ := bind_ok h
  cases h
  have hboth := ensure_ok hsame
  rw [Bool.and_eq_true] at hboth
  exact ⟨k, receipt, (readImprovementRevision_ok hread).1, okOr_ok hitem, okOr_ok hreceipt, hboth.1,
    List.any_eq_true.1 hboth.2⟩

theorem replayReview_grows {w : Wire} {t t' : Tables} (hg : Grows t t') {i : ReviewKnowledgeCandidate} {e : Event}
    {r : Revision} (h : replayReview w t i e = .ok r) : replayReview w t' i e = .ok r := by
  unfold replayReview at h ⊢
  obtain ⟨existing, hread, h⟩ := bind_ok h
  obtain ⟨k, hitem, h⟩ := bind_ok h
  obtain ⟨_, hverify, h⟩ := bind_ok h
  obtain ⟨receipt, hreceipt, h⟩ := bind_ok h
  obtain ⟨_, hsame, h⟩ := bind_ok h
  have hboth := ensure_ok hsame
  rw [Bool.and_eq_true, List.any_eq_true] at hboth
  obtain ⟨hsame, a, ha, hof⟩ := hboth
  have hany : t'.reviews.rows.any (fun a => a.isOf i receipt) = true :=
    List.any_eq_true.2 ⟨a, hg.reviews.subset ha, hof⟩
  rw [Improvement.readImprovementRevision_extends hg.ledger hread, ok_bind, hitem, ok_bind, hverify, ok_bind, hreceipt,
    ok_bind, hsame, hany]
  exact h

theorem isExactCandidate_iff {i : ReviewKnowledgeCandidate} {r : Revision} {k : KnowledgeItemV1} :
    isExactCandidate i r k = true ↔ r.state = .candidate ∧ k.state = .candidate ∧ k.review.state = .unreviewed ∧
      k.review.reviewerId = none ∧ k.review.reviewedAt = none ∧ k.review.receipt = none ∧
      k.sha256 = i.expectedKnowledgeSha256 := by
  simp only [isExactCandidate, Bool.and_eq_true, decide_eq_true_eq, Option.isNone_iff_eq_none, beq_iff_eq, and_assoc]

theorem Records.isOf_iff {w : Wire} {t t' : Tables} {i j : ReviewKnowledgeCandidate} {now : Int} {c r : Revision}
    {k : KnowledgeItemV1} {a : ReviewAction} (h : Records w t t' i now c k a r) {receipt : SourceReceipt}
    (hof : a.isOf j receipt = true) : j = i := by
  rw [h.action] at hof
  simp only [ReviewAction.isOf, ReviewKnowledgeCandidate.action, Bool.and_eq_true, beq_iff_eq] at hof
  obtain ⟨⟨⟨⟨⟨⟨⟨-, hactor⟩, htype⟩, htarget⟩, -⟩, -⟩, hsha⟩, -⟩ := hof
  have hexpected : k.sha256 = j.expectedKnowledgeSha256 := Option.some.inj (of_decide_eq_true hsha)
  have hown := (isExactCandidate_iff.1 h.candidate).2.2.2.2.2.2
  have hdecision : j.decision = i.decision := by
    cases hj : j.decision <;> cases hi : i.decision <;> rw [hj, hi] at htype <;>
      first
        | rfl
        | exact absurd htype (by decide)
  cases i
  cases j
  simp only [ReviewKnowledgeCandidate.mk.injEq]
  exact ⟨htarget.symm, hexpected.symm.trans hown, hdecision, hactor.symm⟩

theorem digest_nonempty (w : Wire) (s : String) : (w.ledger.sha256 s).isEmpty = false := by
  have hlength := w.hex s
  simp only [Improvement.isLowerHex, Bool.and_eq_true, decide_eq_true_eq] at hlength
  cases hempty : (w.ledger.sha256 s).isEmpty with
  | false => rfl
  | true =>
    rw [String.isEmpty_iff.1 hempty] at hlength
    cases hlength.1

def reviewReceipt (a : ReviewAction) : SourceReceipt := ⟨.humanReview, toString a.id, a.payloadSha256, none, some .clean⟩

theorem Records.itemOf_row {w : Wire} {t t' : Tables} {i : ReviewKnowledgeCandidate} {now : Int} {c r : Revision}
    {k : KnowledgeItemV1} {a : ReviewAction} (h : Records w t t' i now c k a r) :
    itemOf r.payload = some (reviewedItem w i k a now) := by
  have hfits := verify_ok h.verified
  rw [h.row]
  exact parse_json (Nat.le_trans hfits (by decide))

/-- **A review that was recorded finds itself**, where the item carries the id of its aggregate. -/
theorem Records.replay {w : Wire} {t t' : Tables} {i : ReviewKnowledgeCandidate} {now : Int} {c r : Revision}
    {k : KnowledgeItemV1} {a : ReviewAction} (h : Records w t t' i now c k a r) (hn : k.knowledgeId = i.knowledgeId) :
    replayReview w t' i (i.event w r.revision now) = .ok r := by
  have hread : readImprovementRevision w.ledger t'.ledger (i.event w r.revision now).revisionId = .ok r :=
    Improvement.readImprovementRevision_eq (h.wrote.paired.2.2.2 ▸ h.wrote.get_revision) h.wrote.readable
  have hitem := h.itemOf_row
  have hreceipt : (reviewedItem w i k a now).review.receipt = some (reviewReceipt a) := rfl
  have hany : t'.reviews.rows.any (fun a' => a'.isOf i (reviewReceipt a)) = true := by
    refine List.any_eq_true.2 ⟨a, by rw [h.reviews]; exact List.mem_append_right _ List.mem_cons_self, ?_⟩
    have hown := (isExactCandidate_iff.1 h.candidate).2.2.2.2.2.2
    rw [h.action]
    simp [ReviewAction.isOf, ReviewKnowledgeCandidate.action, reviewReceipt, actionPayload, Value.findText, Value.find,
      Value.get, Value.asStr, List.lookup, hown]
  have hsha : (reviewedItem w i k a now).sha256.isEmpty = false := digest_nonempty w _
  have hsame : sameReview w i r (reviewedItem w i k a now) = true := by
    rw [h.row]
    simp [sameReview, ReviewKnowledgeCandidate.row, hsha]
    simp [reviewedItem, hn]
  have hverified : ((reviewedItem w i k a now).verify w.ledger).mapError StoreError.conflict = .ok () := by
    rw [h.verified]
    rfl
  unfold replayReview
  simp only [hread, hitem, hreceipt, hverified, hsame, hany, okOr, ok_bind, Bool.and_self, ensure_true, pure_ok]

/-! ## Runs -/

inductive Op
  | ledger (o : Improvement.Op)
  | review (i : ReviewKnowledgeCandidate) (now : Int)

def step (w : Wire) (t : Tables) : Op → Tables
  | .ledger o     => { t with ledger := Improvement.step w.ledger t.ledger o }
  | .review i now => (reviewKnowledgeCandidate w i now t).2

def emptyStore (referenced : Improvement.Referenced) (evidence : Evidence) : Tables :=
  ⟨Improvement.emptyLedger referenced, ∅, evidence⟩

def Op.reviewsOnly (id : String) : Op → Bool
  | .ledger (.appendRevision i _) => !(decide (i.aggregateKind = .knowledge) && i.aggregateId == id)
  | _                             => true

/-- The review of the item that a call recorded, with the revision it returned. -/
def recorded (w : Wire) (id : String) (t : Tables) : Op → Option (ReviewKnowledgeCandidate × Revision)
  | .ledger _     => none
  | .review i now =>
    match (reviewKnowledgeCandidate w i now t).1 with
    | .ok r    => if i.knowledgeId = id ∧ t.ledger.revisions.get r.id = none then some (i, r) else none
    | .error _ => none

def outcomes (w : Wire) (id : String) : Tables → List Op → List (ReviewKnowledgeCandidate × Revision)
  | _, []      => []
  | t, o :: os => (recorded w id t o).toList ++ outcomes w id (step w t o) os

def onCandidate (t : Tables) (id : String) : Bool :=
  (currentRevision t.ledger .knowledge id).any (fun c => decide (c.state = .candidate))

def candidateNamed (t : Tables) (id : String) : Bool :=
  (currentRevision t.ledger .knowledge id).all (fun c => (itemOf c.payload).all (fun k => k.knowledgeId == id))

/-! ## Other calls -/

structure Beside (id : String) (t t' : Tables) : Prop where
  grows : Grows t t'
  aggregate : aggregate t'.ledger .knowledge id = aggregate t.ledger .knowledge id

theorem beside_refl (id : String) (t : Tables) : Beside id t t :=
  ⟨⟨Improvement.extends_refl t.ledger, List.prefix_refl _⟩, rfl⟩

theorem currentRevision_aggregate (t : Improvement.Tables) (id : String) : currentRevision t .knowledge id =
    (aggregate t .knowledge id).find? (fun r => r.revision == Table.maxOf Revision.revision (aggregate t .knowledge id)) := by
  unfold currentRevision aggregate
  rw [List.find?_filter]
  congr 1
  funext r
  rw [Bool.decide_and, Bool.decide_eq_true, Bool.decide_eq_true]
  rfl

theorem Beside.current {id : String} {t t' : Tables} (h : Beside id t t') :
    currentRevision t'.ledger .knowledge id = currentRevision t.ledger .knowledge id := by
  rw [currentRevision_aggregate, currentRevision_aggregate, h.aggregate]

theorem beside_wrote {w : Wire} {id : String} {t t' : Tables} {r : Revision} {e : Event}
    (h : Wrote w.ledger t.ledger t'.ledger r e) (hreviews : t.reviews.rows <+: t'.reviews.rows)
    (hr : ofAggregate .knowledge id r = false) : Beside id t t' := by
  refine ⟨⟨h.extends, hreviews⟩, ?_⟩
  rw [h.aggregate_eq, hr]
  exact List.append_nil _

theorem ofAggregate_false {id : String} {r : Revision} (h : r.aggregateKind = .knowledge → r.aggregateId ≠ id) :
    ofAggregate .knowledge id r = false := by
  cases hr : ofAggregate .knowledge id r with
  | false => rfl
  | true =>
    obtain ⟨hkind, hid⟩ := Improvement.ofAggregate_iff.1 hr
    exact absurd hid (h hkind)

theorem step_ledger_same {w : Wire} {t : Tables} {o : Improvement.Op}
    (h : Improvement.step w.ledger t.ledger o = t.ledger) : step w t (.ledger o) = t := by
  show { t with ledger := Improvement.step w.ledger t.ledger o } = t
  rw [h]

theorem ledger_cases (w : Wire) (t : Tables) (o : Improvement.Op) : step w t (.ledger o) = t ∨
    ∃ r e, Wrote w.ledger t.ledger (step w t (.ledger o)).ledger r e ∧ (r.aggregateKind = .knowledge →
      Op.reviewsOnly r.aggregateId (.ledger o) = false ∧
        ∀ prior, currentRevision t.ledger r.aggregateKind r.aggregateId = some prior →
          Improvement.Keeps r.aggregateKind prior r) := by
  cases o with
  | appendRevision i now =>
    rcases Improvement.append_cases w.ledger i now t.ledger with h | ⟨-, hw, hkeeps⟩
    · exact Or.inl (step_ledger_same h)
    · refine Or.inr ⟨_, _, hw, fun hkind => ?_⟩
      have hkind' : i.aggregateKind = .knowledge := hkind
      refine ⟨?_, hkeeps⟩
      show (!(decide (i.aggregateKind = .knowledge) && i.aggregateId == i.aggregateId)) = false
      rw [hkind', beq_self_eq_true]
      rfl
  | recordOutcome i now =>
    rcases Improvement.record_cases w.ledger i now t.ledger with h | ⟨-, -, hw⟩
    · exact Or.inl (step_ledger_same h)
    · exact Or.inr ⟨_, _, hw, fun hkind => by cases hkind⟩

theorem ledger_beside (w : Wire) {id : String} (t : Tables) {o : Improvement.Op}
    (ho : Op.reviewsOnly id (.ledger o) = true) : Beside id t (step w t (.ledger o)) := by
  rcases ledger_cases w t o with h | ⟨r, e, hw, hknowledge⟩
  · rw [h]
    exact beside_refl id t
  · refine beside_wrote (w := w) hw (List.prefix_refl _) (ofAggregate_false (fun hkind hid => ?_))
    rw [← hid, (hknowledge hkind).1] at ho
    cases ho

theorem Records.ofAggregate {w : Wire} {t t' : Tables} {i : ReviewKnowledgeCandidate} {now : Int} {c r : Revision}
    {k : KnowledgeItemV1} {a : ReviewAction} (h : Records w t t' i now c k a r) :
    Improvement.ofAggregate .knowledge i.knowledgeId r = true := by
  rw [h.row]
  exact Improvement.ofAggregate_iff.2 ⟨rfl, rfl⟩

theorem Records.beside {w : Wire} {t t' : Tables} {i : ReviewKnowledgeCandidate} {now : Int} {c r : Revision}
    {k : KnowledgeItemV1} {a : ReviewAction} (h : Records w t t' i now c k a r) {id : String} (hid : i.knowledgeId ≠ id) :
    Beside id t t' := by
  refine beside_wrote (w := w) h.wrote (h.reviews ▸ List.prefix_append _ _) (ofAggregate_false (fun _ hr => hid ?_))
  exact (Improvement.ofAggregate_iff.1 h.ofAggregate).2.symm.trans hr

/-! ## Candidates come first -/

/-- What every reachable store has: a numbered ledger, in which a knowledge item that left the candidates never returns
to them. -/
structure CandidatesFirst (w : Wire) (t : Tables) : Prop where
  ledger : LedgerInv w.ledger t.ledger
  chain : ∀ id, (aggregate t.ledger .knowledge id).IsChain (fun r r' => r'.state = .candidate → r.state = .candidate)

theorem wrote_candidatesFirst {w : Wire} {t t' : Tables} {r : Revision} {e : Event}
    (h : Wrote w.ledger t.ledger t'.ledger r e) (hi : CandidatesFirst w t)
    (hr : r.aggregateKind = .knowledge → r.state = .candidate → ∀ prior,
      currentRevision t.ledger .knowledge r.aggregateId = some prior → prior.state = .candidate) :
    CandidatesFirst w t' := by
  refine ⟨h.keeps_inv hi.ledger, fun id => ?_⟩
  rw [h.aggregate_eq]
  split
  · rename_i hof
    obtain ⟨hkind, rfl⟩ := Improvement.ofAggregate_iff.1 hof
    refine List.isChain_append.2 ⟨hi.chain _, List.isChain_singleton _, fun q hq p hp hstate => ?_⟩
    obtain rfl : r = p := by simpa using hp
    refine hr hkind hstate q ?_
    rw [hi.ledger.currentRevision_eq]
    exact hq
  · rw [List.append_nil]
    exact hi.chain id

theorem candidate_follows : ∀ s : Improvement.ImprovementState,
    Improvement.improvementTransitionAllowed .knowledge s .candidate = true → s = .candidate := by
  intro s
  cases s <;> decide

theorem step_candidatesFirst (w : Wire) (t : Tables) (o : Op) (h : CandidatesFirst w t) :
    CandidatesFirst w (step w t o) := by
  cases o with
  | ledger o =>
    rcases ledger_cases w t o with ht | ⟨r, e, hw, hknowledge⟩
    · rw [ht]
      exact h
    · refine wrote_candidatesFirst hw h (fun hkind hstate prior hprior => candidate_follows prior.state ?_)
      have hkeeps := (hknowledge hkind).2 prior
      rw [hkind] at hkeeps
      rw [← hstate]
      exact (hkeeps hprior).transition
  | review i now =>
    show CandidatesFirst w (reviewKnowledgeCandidate w i now t).2
    rcases review_cases w i now t with ⟨e, ht⟩ | ⟨e, r, -, -, ht⟩ | ⟨c, k, a, r, t', hrecords, ht⟩
    · rw [ht]
      exact h
    · rw [ht]
      exact h
    · rw [ht]
      refine wrote_candidatesFirst hrecords.wrote h (fun _ hstate => ?_)
      rw [hrecords.row] at hstate
      have hstate' : i.decision.expectedState = .candidate := hstate
      cases hd : i.decision <;> rw [hd] at hstate' <;> cases hstate'

theorem emptyStore_candidatesFirst (w : Wire) (referenced : Improvement.Referenced) (evidence : Evidence) :
    CandidatesFirst w (emptyStore referenced evidence) :=
  ⟨Improvement.emptyLedger_inv w.ledger referenced, fun _ => List.isChain_nil⟩

theorem run_candidatesFirst (w : Wire) : ∀ (os : List Op) {t : Tables}, CandidatesFirst w t →
    CandidatesFirst w (run (step w) t os)
  | [], _, h => h
  | o :: os, t, h => run_candidatesFirst w os (step_candidatesFirst w t o h)

theorem chain_last {α : Type} {P : α → Prop} : ∀ {l : List α}, l.IsChain (fun a b => P b → P a) →
    ∀ {c : α}, l.getLast? = some c → P c → ∀ a ∈ l, P a
  | [], _, _, hc, _, a, ha => absurd ha List.not_mem_nil
  | [b], _, c, hc, hp, a, ha => by
    obtain rfl : b = c := by simpa using hc
    rw [List.mem_singleton.1 ha]
    exact hp
  | b :: d :: l, h, c, hc, hp, a, ha => by
    obtain ⟨hbd, htail⟩ := List.isChain_cons_cons.1 h
    rw [List.getLast?_cons_cons] at hc
    have hall := chain_last htail hc hp
    rcases List.mem_cons.1 ha with rfl | ha
    · exact hbd (hall d List.mem_cons_self)
    · exact hall a ha

/-! ## Before the outcome -/

/-- The item has only candidates, the last of which is `c`. -/
structure Waiting (w : Wire) (id : String) (c : Revision) (t : Tables) : Prop where
  ledger : LedgerInv w.ledger t.ledger
  current : currentRevision t.ledger .knowledge id = some c
  candidate : c.state = .candidate
  candidates : ∀ r ∈ aggregate t.ledger .knowledge id, r.state = .candidate

theorem CandidatesFirst.waiting {w : Wire} {t : Tables} (h : CandidatesFirst w t) {id : String}
    (hc : onCandidate t id = true) : ∃ c, Waiting w id c t := by
  unfold onCandidate at hc
  cases hcurrent : currentRevision t.ledger .knowledge id with
  | none =>
    rw [hcurrent] at hc
    cases hc
  | some c =>
    rw [hcurrent] at hc
    have hstate : c.state = .candidate := of_decide_eq_true hc
    have hlast := hcurrent
    rw [h.ledger.currentRevision_eq] at hlast
    exact ⟨c, h.ledger, hcurrent, hstate, chain_last (P := fun r : Revision => r.state = .candidate) (h.chain id) hlast hstate⟩

theorem Waiting.beside {w : Wire} {id : String} {c : Revision} {t t' : Tables} (h : Waiting w id c t) (hb : Beside id t t')
    (hl : LedgerInv w.ledger t'.ledger) : Waiting w id c t' :=
  ⟨hl, hb.current.trans h.current, h.candidate, by rw [hb.aggregate]; exact h.candidates⟩

theorem sameReview_iff {w : Wire} {i : ReviewKnowledgeCandidate} {r : Revision} {k : KnowledgeItemV1}
    (h : sameReview w i r k = true) : r.aggregateKind = .knowledge ∧ r.aggregateId = i.knowledgeId ∧
      r.state = i.decision.expectedState ∧ k.knowledgeId = i.knowledgeId := by
  simp only [sameReview, Bool.and_eq_true, decide_eq_true_eq, beq_iff_eq] at h
  exact ⟨h.1.1.1.1.1.1.1.2, h.1.1.1.1.1.1.2, h.1.1.1.1.1.2, h.1.1.1.1.2⟩

theorem expectedState_ne (d : KnowledgeReviewDecision) : d.expectedState ≠ .candidate := by
  cases d <;> decide

theorem replay_settled {w : Wire} {t : Tables} {i : ReviewKnowledgeCandidate} {e : Event} {r : Revision}
    (h : replayReview w t i e = .ok r) : r ∈ aggregate t.ledger .knowledge i.knowledgeId ∧ r.state ≠ .candidate := by
  obtain ⟨k, receipt, hget, -, -, hsame, -⟩ := replayReview_ok h
  obtain ⟨hkind, hid, hstate, -⟩ := sameReview_iff hsame
  refine ⟨List.mem_filter.2 ⟨Table.mem_of_get hget, Improvement.ofAggregate_iff.2 ⟨hkind, hid⟩⟩, ?_⟩
  rw [hstate]
  exact expectedState_ne i.decision

theorem Waiting.review {w : Wire} {t : Tables} {i : ReviewKnowledgeCandidate} {c : Revision}
    (h : Waiting w i.knowledgeId c t) (now : Int) : (∃ e, reviewKnowledgeCandidate w i now t = (.error e, t)) ∨
      ∃ k a r t', Records w t t' i now c k a r ∧ reviewKnowledgeCandidate w i now t = (.ok r, t') := by
  rcases review_cases w i now t with he | ⟨e, r, -, hreplay, -⟩ | ⟨c', k, a, r, t', hrecords, ht⟩
  · exact Or.inl he
  · obtain ⟨hr, hstate⟩ := replay_settled hreplay
    exact absurd (h.candidates r hr) hstate
  · obtain rfl : c' = c := Option.some.inj (hrecords.current.symm.trans h.current)
    exact Or.inr ⟨k, a, r, t', hrecords, ht⟩

/-! ## After the outcome -/

def namesItem (id : String) (c : Revision) : Bool := (itemOf c.payload).all (fun k => k.knowledgeId == id)

/-- The review `i` of the candidate `c` led to the revision `r`, which is the only one of the item that is no candidate;
the action its receipt names is the action of `i` alone. -/
structure Decided (w : Wire) (id : String) (c : Revision) (i : ReviewKnowledgeCandidate) (r : Revision) (t : Tables) :
    Prop where
  current : currentRevision t.ledger .knowledge id = some r
  settled : r.state ≠ .candidate
  others : ∀ q ∈ aggregate t.ledger .knowledge id, q ≠ r → q.state = .candidate
  own : ∃ k receipt a, itemOf r.payload = some k ∧ k.review.receipt = some receipt ∧ a ∈ t.reviews.rows ∧
    receipt.revisionId = toString a.id ∧ ∀ j q, a.isOf j q = true → j = i
  named : ∀ k, itemOf r.payload = some k → k.knowledgeId = id → namesItem id c = true
  valid : validateKnowledgeReviewInput i = .ok ()
  again : namesItem id c = true → ∃ e, eventByKey t.ledger (reviewKey w i) = some e ∧ replayReview w t i e = .ok r

theorem Decided.beside {w : Wire} {id : String} {c r : Revision} {i : ReviewKnowledgeCandidate} {t t' : Tables}
    (h : Decided w id c i r t) (hb : Beside id t t') : Decided w id c i r t' := by
  refine ⟨hb.current.trans h.current, h.settled, by rw [hb.aggregate]; exact h.others, ?_, h.named, h.valid, fun hn => ?_⟩
  · obtain ⟨k, receipt, a, hk, hreceipt, ha, hid, hown⟩ := h.own
    exact ⟨k, receipt, a, hk, hreceipt, hb.grows.reviews.subset ha, hid, hown⟩
  · obtain ⟨e, he, hreplay⟩ := h.again hn
    exact ⟨e, Improvement.eventByKey_extends hb.grows.ledger he, replayReview_grows hb.grows hreplay⟩

theorem Waiting.records {w : Wire} {t t' : Tables} {i : ReviewKnowledgeCandidate} {now : Int} {c r : Revision}
    {k : KnowledgeItemV1} {a : ReviewAction} (h : Waiting w i.knowledgeId c t) (hr : Records w t t' i now c k a r) :
    Decided w i.knowledgeId c i r t' := by
  have haggregate : aggregate t'.ledger .knowledge i.knowledgeId = aggregate t.ledger .knowledge i.knowledgeId ++ [r] := by
    rw [hr.wrote.aggregate_eq, hr.ofAggregate]
    rfl
  have hnames : namesItem i.knowledgeId c = (k.knowledgeId == i.knowledgeId) := by
    unfold namesItem
    rw [hr.item]
    rfl
  refine ⟨?_, ?_, fun q hq hne => ?_, ?_, fun k' hk' hid => ?_, hr.valid, fun hn => ?_⟩
  · rw [(hr.wrote.keeps_inv h.ledger).currentRevision_eq, haggregate, List.getLast?_concat]
  · rw [hr.row]
    exact expectedState_ne i.decision
  · rw [haggregate] at hq
    rcases List.mem_append.1 hq with hq | hq
    · exact h.candidates q hq
    · exact absurd (List.mem_singleton.1 hq) hne
  · exact ⟨reviewedItem w i k a now, reviewReceipt a, a, hr.itemOf_row, rfl,
      by rw [hr.reviews]; exact List.mem_append_right _ List.mem_cons_self, rfl, fun j q => hr.isOf_iff⟩
  · have hown : k'.knowledgeId = k.knowledgeId := by
      rw [hr.itemOf_row] at hk'
      cases hk'
      rfl
    rw [hnames, ← hown, hid]
    exact beq_self_eq_true _
  · rw [hnames] at hn
    exact ⟨_, hr.wrote.eventByKey_eq, hr.replay (eq_of_beq hn)⟩

theorem Decided.replay_eq {w : Wire} {t : Tables} {c r q : Revision} {i j : ReviewKnowledgeCandidate} {e : Event}
    (h : Decided w j.knowledgeId c i r t) (hreplay : replayReview w t j e = .ok q) : q = r := by
  obtain ⟨hmem, hstate⟩ := replay_settled hreplay
  by_contra hne
  exact hstate (h.others q hmem hne)

theorem Decided.not_records {w : Wire} {t t' : Tables} {c c' r q : Revision} {i j : ReviewKnowledgeCandidate} {now : Int}
    {k : KnowledgeItemV1} {a : ReviewAction} (h : Decided w j.knowledgeId c i r t) : ¬ Records w t t' j now c' k a q := by
  intro hrecords
  have hc : c' = r := Option.some.inj (hrecords.current.symm.trans h.current)
  exact h.settled (hc ▸ (isExactCandidate_iff.1 hrecords.candidate).1)

/-- **A review of a decided item fails or is the one that was recorded.** -/
theorem Decided.review {w : Wire} {t : Tables} {c r : Revision} {i j : ReviewKnowledgeCandidate}
    (h : Decided w j.knowledgeId c i r t) (now : Int) : (∃ e, reviewKnowledgeCandidate w j now t = (.error e, t)) ∨
      j = i ∧ reviewKnowledgeCandidate w j now t = (.ok r, t) := by
  rcases review_cases w j now t with he | ⟨e, r', -, hreplay, ht⟩ | ⟨c', k, a, r', t', hrecords, -⟩
  · exact Or.inl he
  · have hr := h.replay_eq hreplay
    obtain ⟨k, receipt, -, hk, hreceipt, -, a', ha', hof⟩ := replayReview_ok hreplay
    obtain ⟨k₀, receipt₀, a, hk₀, hreceipt₀, ha, hid, hown⟩ := h.own
    rw [hr, hk₀] at hk
    cases hk
    rw [hreceipt₀] at hreceipt
    cases hreceipt
    -- the receipt names one action by its id
    have hnumber : toString a'.id = toString a.id := by
      simp only [ReviewAction.isOf, Bool.and_eq_true, beq_iff_eq] at hof
      exact hof.1.1.1.1.1.1.1.trans hid
    have hsame : a' = a := by
      have hget := Table.get_of_mem ha'
      rw [Texts.toString_number_inj hnumber, Table.get_of_mem ha] at hget
      exact (Option.some.inj hget).symm
    rw [hsame] at hof
    rw [hr] at ht
    exact Or.inr ⟨hown j _ hof, ht⟩
  · exact absurd hrecords h.not_records

theorem Decided.repeated {w : Wire} {id : String} {t : Tables} {c r : Revision} {i : ReviewKnowledgeCandidate}
    (h : Decided w id c i r t) (hn : namesItem id c = true) (now : Int) :
    reviewKnowledgeCandidate w i now t = (.ok r, t) := by
  obtain ⟨e, he, hreplay⟩ := h.again hn
  simp only [reviewKnowledgeCandidate, transaction, h.valid, he, hreplay, ok_bind, pure_ok]

theorem Decided.found {w : Wire} {t : Tables} {c r q : Revision} {i j : ReviewKnowledgeCandidate}
    (h : Decided w j.knowledgeId c i r t) {now : Int} (hok : (reviewKnowledgeCandidate w j now t).1 = .ok q) :
    namesItem j.knowledgeId c = true := by
  rcases review_cases w j now t with ⟨e, he⟩ | ⟨e, r', -, hreplay, -⟩ | ⟨c', k, a, r', t', hrecords, -⟩
  · rw [he] at hok
    cases hok
  · have hr := h.replay_eq hreplay
    obtain ⟨k, -, -, hk, -, hsame, -⟩ := replayReview_ok hreplay
    exact h.named k (hr ▸ hk) (sameReview_iff hsame).2.2.2
  · exact absurd hrecords h.not_records

/-! ## Along a run -/

inductive Phase (w : Wire) (id : String) (c : Revision) (t : Tables) :
    List (ReviewKnowledgeCandidate × Revision) → Prop
  | waiting (h : Waiting w id c t) : Phase w id c t []
  | decided {i : ReviewKnowledgeCandidate} {r : Revision} (hi : i.knowledgeId = id) (h : Decided w id c i r t) :
    Phase w id c t [(i, r)]

theorem Phase.once {w : Wire} {id : String} {c : Revision} {t : Tables}
    {l : List (ReviewKnowledgeCandidate × Revision)} (h : Phase w id c t l) : l.length ≤ 1 := by
  cases h with
  | waiting _ => exact Nat.zero_le 1
  | decided _ _ => exact Nat.le_refl 1

theorem Phase.beside {w : Wire} {id : String} {c : Revision} {t t' : Tables}
    {l : List (ReviewKnowledgeCandidate × Revision)} (h : Phase w id c t l) (hb : Beside id t t')
    (hl : LedgerInv w.ledger t'.ledger) : Phase w id c t' l := by
  cases h with
  | waiting h => exact .waiting (h.beside hb hl)
  | decided hi h => exact .decided hi (h.beside hb)

theorem recorded_error {w : Wire} {id : String} {t : Tables} {i : ReviewKnowledgeCandidate} {now : Int} {e : StoreError}
    (h : reviewKnowledgeCandidate w i now t = (.error e, t)) : recorded w id t (.review i now) = none := by
  simp only [recorded, h]

theorem recorded_stored {w : Wire} {id : String} {t t' : Tables} {i : ReviewKnowledgeCandidate} {now : Int} {r q : Revision}
    (h : reviewKnowledgeCandidate w i now t = (.ok r, t')) (hget : t.ledger.revisions.get r.id = some q) :
    recorded w id t (.review i now) = none := by
  simp only [recorded, h]
  rw [if_neg]
  rintro ⟨-, hnone⟩
  rw [hget] at hnone
  cases hnone

theorem recorded_other {w : Wire} {id : String} {t : Tables} {i : ReviewKnowledgeCandidate} {now : Int}
    (hid : i.knowledgeId ≠ id) : recorded w id t (.review i now) = none := by
  simp only [recorded]
  cases (reviewKnowledgeCandidate w i now t).1 with
  | error e => rfl
  | ok r => exact if_neg (fun h => hid h.1)

theorem recorded_records {w : Wire} {t t' : Tables} {i : ReviewKnowledgeCandidate} {now : Int} {c r : Revision}
    {k : KnowledgeItemV1} {a : ReviewAction} (hr : Records w t t' i now c k a r)
    (h : reviewKnowledgeCandidate w i now t = (.ok r, t')) :
    recorded w i.knowledgeId t (.review i now) = some (i, r) := by
  simp only [recorded, h]
  exact if_pos ⟨trivial, hr.new⟩

theorem review_beside (w : Wire) {id : String} (t : Tables) {i : ReviewKnowledgeCandidate} (now : Int)
    (hid : i.knowledgeId ≠ id) : Beside id t (step w t (.review i now)) := by
  show Beside id t (reviewKnowledgeCandidate w i now t).2
  rcases review_cases w i now t with ⟨e, h⟩ | ⟨e, r, -, -, h⟩ | ⟨c, k, a, r, t', hrecords, h⟩ <;> rw [h]
  · exact beside_refl id t
  · exact beside_refl id t
  · exact hrecords.beside hid

theorem phase_step {w : Wire} {id : String} {c : Revision} {t : Tables}
    {l : List (ReviewKnowledgeCandidate × Revision)} (h : Phase w id c t l) (ht : CandidatesFirst w t) {o : Op}
    (ho : o.reviewsOnly id = true) : Phase w id c (step w t o) (l ++ (recorded w id t o).toList) := by
  have hnext := step_candidatesFirst w t o ht
  cases o with
  | ledger o =>
    show Phase w id c (step w t (.ledger o)) (l ++ [])
    rw [List.append_nil]
    exact h.beside (ledger_beside w t ho) hnext.ledger
  | review i now =>
    by_cases hid : i.knowledgeId = id
    · subst hid
      cases h with
      | waiting h =>
        rcases h.review now with ⟨e, he⟩ | ⟨k, a, r, t', hrecords, hok⟩
        · rw [recorded_error he]
          show Phase w i.knowledgeId c (reviewKnowledgeCandidate w i now t).2 []
          rw [he]
          exact .waiting h
        · rw [recorded_records hrecords hok]
          show Phase w i.knowledgeId c (reviewKnowledgeCandidate w i now t).2 [(i, r)]
          rw [hok]
          exact .decided rfl (h.records hrecords)
      | @decided j r hj h =>
        have hkept : (reviewKnowledgeCandidate w i now t).2 = t ∧ recorded w i.knowledgeId t (.review i now) = none := by
          rcases h.review now with ⟨e, he⟩ | ⟨-, hok⟩
          · exact ⟨by rw [he], recorded_error he⟩
          · have hmem : r ∈ t.ledger.revisions.rows := List.mem_of_find?_eq_some h.current
            exact ⟨by rw [hok], recorded_stored hok (Table.get_of_mem hmem)⟩
        rw [hkept.2]
        show Phase w i.knowledgeId c (reviewKnowledgeCandidate w i now t).2 [(j, r)]
        rw [hkept.1]
        exact .decided hj h
    · rw [recorded_other hid]
      show Phase w id c _ (l ++ [])
      rw [List.append_nil]
      exact h.beside (review_beside w t now hid) hnext.ledger

theorem phase_run {w : Wire} {id : String} {c : Revision} : ∀ {os : List Op} {t : Tables}
    {l : List (ReviewKnowledgeCandidate × Revision)}, Phase w id c t l → CandidatesFirst w t →
    (∀ o ∈ os, o.reviewsOnly id = true) → Phase w id c (run (step w) t os) (l ++ outcomes w id t os)
  | [], t, l, h, _, _ => by
    show Phase w id c t (l ++ [])
    rw [List.append_nil]
    exact h
  | o :: os, t, l, h, ht, hos => by
    have hstep := phase_step h ht (hos o List.mem_cons_self)
    have hrun := phase_run hstep (step_candidatesFirst w t o ht) (fun p hp => hos p (List.mem_cons_of_mem o hp))
    rw [List.append_assoc] at hrun
    exact hrun

/-! ## One outcome -/

def FailsUnchanged (w : Wire) (s : Tables) (i : ReviewKnowledgeCandidate) (now : Int) : Prop :=
  ∃ e, reviewKnowledgeCandidate w i now s = (.error e, s)

/-- The call records the outcome `r` of the candidate it names, with one new row in each of the three tables.  The outcome
is active only if the decision was to accept, over fresh and clean evidence. -/
structure RecordsOutcome (w : Wire) (s : Tables) (i : ReviewKnowledgeCandidate) (now : Int) (r : Revision) : Prop where
  answer : (reviewKnowledgeCandidate w i now s).1 = .ok r
  outcome : r.aggregateKind = .knowledge ∧ r.aggregateId = i.knowledgeId ∧ r.state = i.decision.expectedState
  candidate : ∃ c k, currentRevision s.ledger .knowledge i.knowledgeId = some c ∧ c.state = .candidate ∧
    itemOf c.payload = some k ∧ k.sha256 = i.expectedKnowledgeSha256 ∧ r.revision = c.revision + 1 ∧
    (r.state = .active → i.decision = .accept ∧ fresh k now = true ∧ evidenceClean w s k.evidence = .ok true)
  revisions : (reviewKnowledgeCandidate w i now s).2.ledger.revisions.rows = s.ledger.revisions.rows ++ [r]
  events : (reviewKnowledgeCandidate w i now s).2.ledger.events.rows = s.ledger.events.rows ++ [i.event w r.revision now]
  actions : (∃ a, (reviewKnowledgeCandidate w i now s).2.reviews.rows = s.reviews.rows ++ [a]) ∧
    (reviewKnowledgeCandidate w i now s).2.ledger.actions = s.ledger.actions

/-- What a review of an item returns and leaves, given the outcome that was recorded before it. -/
def Answers (w : Wire) (s : Tables) (i : ReviewKnowledgeCandidate) (now : Int) :
    Option (ReviewKnowledgeCandidate × Revision) → Prop
  | none   => FailsUnchanged w s i now ∨ ∃ r, RecordsOutcome w s i now r
  | some q => if i = q.1 then reviewKnowledgeCandidate w i now s = (.ok q.2, s) else FailsUnchanged w s i now

/-- Of the reviews of the item in the run at most one is recorded; the same review returns its revision again, and every
other one fails and changes nothing. -/
structure ReviewedOnce (w : Wire) (id : String) (t : Tables) (calls : List Op) : Prop where
  once : (outcomes w id t calls).length ≤ 1
  answers : ∀ past i now future, calls = past ++ .review i now :: future → i.knowledgeId = id →
    Answers w (run (step w) t past) i now (outcomes w id t past).head?

theorem Records.outcome {w : Wire} {t t' : Tables} {i : ReviewKnowledgeCandidate} {now : Int} {c r : Revision}
    {k : KnowledgeItemV1} {a : ReviewAction} (hr : Records w t t' i now c k a r)
    (h : reviewKnowledgeCandidate w i now t = (.ok r, t')) : RecordsOutcome w t i now r := by
  obtain ⟨hkind, hid⟩ := Improvement.ofAggregate_iff.1 hr.ofAggregate
  obtain ⟨hstate, -, -, -, -, -, hsha⟩ := isExactCandidate_iff.1 hr.candidate
  have hdecided : r.state = i.decision.expectedState := by
    rw [hr.row]
    rfl
  have hnumber : r.revision = c.revision + 1 := by
    have hmax : Improvement.ofAggregate .knowledge i.knowledgeId c = true ∧
        c.revision = maxRevision t.ledger .knowledge i.knowledgeId := by
      have hfound := List.find?_some hr.current
      simp only [Bool.and_eq_true, beq_iff_eq] at hfound
      exact hfound
    rw [hr.row, hmax.2]
    rfl
  refine ⟨by rw [h], ⟨hkind, hid, hdecided⟩, ⟨c, k, hr.current, hstate, hr.item, hsha, hnumber, fun hactive => ?_⟩, ?_, ?_, ?_⟩
  · have haccept : i.decision = .accept := by
      rw [hdecided] at hactive
      cases hd : i.decision with
      | accept => rfl
      | reject => rw [hd] at hactive; cases hactive
    exact ⟨haccept, hr.accepted haccept⟩
  · rw [h]
    exact hr.wrote.revisions
  · rw [h]
    exact hr.wrote.events
  · rw [h]
    exact ⟨⟨a, hr.reviews⟩, hr.kept.1⟩

theorem Phase.answers {w : Wire} {id : String} {c : Revision} {s : Tables}
    {l : List (ReviewKnowledgeCandidate × Revision)} (h : Phase w id c s l) (hn : namesItem id c = true)
    {i : ReviewKnowledgeCandidate} (hid : i.knowledgeId = id) (now : Int) : Answers w s i now l.head? := by
  subst hid
  cases h with
  | waiting h =>
    rcases h.review now with he | ⟨k, a, r, t', hrecords, hok⟩
    · exact Or.inl he
    · exact Or.inr ⟨r, hrecords.outcome hok⟩
  | @decided j r hj h =>
    show if i = j then reviewKnowledgeCandidate w i now s = (.ok r, s) else FailsUnchanged w s i now
    by_cases hij : i = j
    · rw [if_pos hij, hij]
      exact h.repeated hn now
    · rw [if_neg hij]
      rcases h.review now with he | ⟨hsame, -⟩
      · exact he
      · exact absurd hsame hij

def RepeatsOutcome (w : Wire) (id : String) (t : Tables) (calls : List Op) : Prop :=
  ∃ past i now future, calls = past ++ .review i now :: future ∧ i.knowledgeId = id ∧
    (outcomes w id t past).head?.map Prod.fst = some i

theorem ReviewedOnce.repeats {w : Wire} {id : String} {t : Tables} {calls past future : List Op}
    {i : ReviewKnowledgeCandidate} {now : Int} (h : ReviewedOnce w id t calls)
    (hsplit : calls = past ++ .review i now :: future) (hid : i.knowledgeId = id)
    (hfirst : (outcomes w id t past).head?.map Prod.fst = some i) :
    ∃ r, (reviewKnowledgeCandidate w i now (run (step w) t past)).1 = .ok r := by
  have hanswer := h.answers past i now future hsplit hid
  obtain ⟨q, hq, hown⟩ := Option.map_eq_some_iff.1 hfirst
  rw [hq] at hanswer
  simp only [Answers, if_pos hown.symm] at hanswer
  exact ⟨q.2, by rw [hanswer]⟩

/-- **A candidate gets at most one outcome**, where it carries the id of its aggregate: in every reachable store, and for
reviews in any order between any other calls that do not write to the item.  Where it does not, the review that was
recorded is refused when it is repeated. -/
theorem candidate_reviewed_once (w : Wire) (referenced : Improvement.Referenced) (evidence : Evidence)
    (before calls : List Op) (id : String)
    (hcandidate : onCandidate (run (step w) (emptyStore referenced evidence) before) id = true)
    (hcalls : ∀ o ∈ calls, o.reviewsOnly id = true) :
    let t := run (step w) (emptyStore referenced evidence) before
    (candidateNamed t id = true → ReviewedOnce w id t calls) ∧
    (RepeatsOutcome w id t calls → (ReviewedOnce w id t calls ↔ candidateNamed t id = true)) := by
  intro t
  have ht := run_candidatesFirst w before (emptyStore_candidatesFirst w referenced evidence)
  obtain ⟨c, hc⟩ := ht.waiting hcandidate
  have hnames : candidateNamed t id = namesItem id c := by
    unfold candidateNamed
    rw [hc.current]
    rfl
  have hphase : ∀ past i now future, calls = past ++ .review i now :: future →
      Phase w id c (run (step w) t past) (outcomes w id t past) := by
    intro past i now future hsplit
    exact phase_run (.waiting hc) ht (fun o ho => hcalls o (by rw [hsplit]; exact List.mem_append_left _ ho))
  have hnamed : candidateNamed t id = true → ReviewedOnce w id t calls := by
    intro hn
    rw [hnames] at hn
    refine ⟨(phase_run (.waiting hc) ht hcalls).once, fun past i now future hsplit hid => ?_⟩
    exact (hphase past i now future hsplit).answers hn hid now
  refine ⟨hnamed, ?_⟩
  rintro ⟨past, i, now, future, hsplit, rfl, hfirst⟩
  refine ⟨fun hreviewed => ?_, hnamed⟩
  obtain ⟨r, hr⟩ := hreviewed.repeats hsplit rfl hfirst
  rw [hnames]
  have hpast := hphase past i now future hsplit
  -- an outcome was recorded, so the item is decided
  cases hout : outcomes w i.knowledgeId t past with
  | nil =>
    rw [hout] at hfirst
    cases hfirst
  | cons q l =>
    rw [hout] at hpast
    cases hpast with
    | decided _ hdecided => exact hdecided.found hr

/-! ## A lesson -/

def lesson : KnowledgeItemV1 where
  schema := "harness.knowledge-item.v1"
  knowledgeId := "lesson-1"
  kind := .procedure
  statement := "Run the checks twice."
  scope := ⟨"repository-1", "tasks", none, none⟩
  evidence :=
    [⟨.runtime, "run-1", "4f571eb0fcdd4cf9189665232a8e85fecf18d3a33cfa46248b4f0507c9ddf12b", none, some .clean⟩]
  confidenceMilli := 900
  review := ⟨.unreviewed, none, none, none⟩
  freshness := ⟨1, 100, 200⟩
  contradicts := []
  supersedes := []
  state := .candidate
  sha256 := "edb4d9a88a12e9b4fa4307b4201cdb2986f69ab4e9c15f67fa58859c698a4d4a"

def acceptedLesson : KnowledgeItemV1 :=
  { lesson with
    review := ⟨.accepted, some "reviewer-1", some 50,
      some ⟨.humanReview, "1", "130a6dbc842d0e5a616f306b1eb5a990893372c53f58891cff1f6034fab92260", none, some .clean⟩⟩
    state := .active
    sha256 := "a93a02a0b10da0a47d3e97757dfa3bac94eaece20e963cec946ac3d1f99ede3b" }

def lessonReview (id : String) (decision : KnowledgeReviewDecision) (reviewer : String) : ReviewKnowledgeCandidate :=
  ⟨id, lesson.sha256, decision, reviewer⟩

def lessonIdentity (id decision reviewer : String) : String :=
  "harness.operator-control.knowledge-review.v1\x00" ++ id ++ "\x00" ++ lesson.sha256 ++ "\x00" ++ decision ++ "\x00" ++
    reviewer

def lessonEventText (state : String) : String :=
  (Value.obj [("schema", .str "harness.knowledge-item.v1"), ("state", .str state)]).text

def lessonDigests : List (String × Control.Digest) :=
  [(lesson.unsigned.text, .ofNat 0xedb4d9a88a12e9b4fa4307b4201cdb2986f69ab4e9c15f67fa58859c698a4d4a),
   (lesson.json.text, .ofNat 0x371d118d69c2b32d5afe228b96e4210e45967e90297462810f38f3020ba80c67),
   (lessonEventText "candidate", .ofNat 0x340c0de13d2289ad53688334f88fd601fea4a5d7d477a4ec7183667b17870469),
   (lessonIdentity "lesson-1" "accept" "reviewer-1", .ofNat 0x692ac079d8dcecddd782e786aea424504068c2a97bf066509deebee0a051bde2),
   (lessonIdentity "lesson-2" "accept" "reviewer-1", .ofNat 0x24a29c54c27137c8199d8bd3f4be398b7296b52363f8b80523b16302876c32bc),
   (lessonIdentity "lesson-1" "reject" "reviewer-2", .ofNat 0x7d458e79ccc30b27703d473cab0d7bf1fcea63d060101d90d8801f6bfdfb8e38),
   (lessonIdentity "lesson-2" "reject" "reviewer-2", .ofNat 0xca6e1fc4c83af8568736ad7553d3bbf22f73a3effd6dd4d7a6611611f757874d),
   ((actionPayload (lessonReview "lesson-1" .accept "reviewer-1") "knowledge-revision-1" lesson).text,
     .ofNat 0x130a6dbc842d0e5a616f306b1eb5a990893372c53f58891cff1f6034fab92260),
   (acceptedLesson.unsigned.text, .ofNat 0xa93a02a0b10da0a47d3e97757dfa3bac94eaece20e963cec946ac3d1f99ede3b),
   (acceptedLesson.json.text, .ofNat 0x74b2b2fbfa23a3f89e3d50963c8e3286bbdb6e2fc7e515bfa7690cf4d3d5e087),
   (lessonEventText "active", .ofNat 0x44554514e9221899a43ddb599b98f4a619fc8ef8387fd7f414145968081fac95)]

def lessonWire : Improvement.Wire where
  sha256 s := ((lessonDigests.lookup s).getD (.ofNat 0)).hex
  text
    | .outcome _ => ""
    | .other v   => v.text
  actionText _ := ""
  eventText
    | _, .candidate => lessonEventText "candidate"
    | _, .active    => lessonEventText "active"
    | _, _          => ""
  contract _ _ := .ok ()
  canonicalId _ _ := none
  wireRevision _ _ := none
  references _ _ := .ok ()

/-- The lesson's texts and digests; a payload is what its contract accepts. -/
def sampleWire : Wire where
  ledger := { lessonWire with
    contract := fun _ v => (okOr (KnowledgeItemV1.parse v) StoreError.json).bind (fun k =>
      (k.verify lessonWire).mapError StoreError.validation) }
  control := ⟨fun _ => Control.Digest.ofNat 0, fun _ => Control.Digest.ofNat 0, fun _ => 0⟩
  hex _ := Control.Digest.isHex _

def sampleEvidence : Evidence :=
  ⟨[], [("run-1", "4f571eb0fcdd4cf9189665232a8e85fecf18d3a33cfa46248b4f0507c9ddf12b")], [], [], []⟩

def sampleReferenced : Improvement.Referenced := ⟨["run-1"], [], [], [], [], []⟩

def proposeLesson (id : String) : Op :=
  .ledger (.appendRevision ⟨"knowledge-revision-1", .knowledge, id, .knowledgeItemV1, .candidate, .other lesson.json,
    "371d118d69c2b32d5afe228b96e4210e45967e90297462810f38f3020ba80c67", .internal, .governance, false, "k1", "event-1",
    none, none⟩ 5)

def lessonStore (id : String) : Tables := run (step sampleWire) (emptyStore sampleReferenced sampleEvidence) [proposeLesson id]

def lessonReviews (id : String) : List Op :=
  [.review (lessonReview id .accept "reviewer-1") 50, .review (lessonReview id .reject "reviewer-2") 60]

def lessonCalls (id : String) : List Op := lessonReviews id ++ [.review (lessonReview id .accept "reviewer-1") 70]

theorem candidate_reviewed_once_lesson :
    (outcomes sampleWire "lesson-1" (lessonStore "lesson-1") (lessonCalls "lesson-1")).map
      (fun q => (q.1.reviewerId, q.2.revision, q.2.state)) = [("reviewer-1", 2, .active)] ∧
    ReviewedOnce sampleWire "lesson-1" (lessonStore "lesson-1") (lessonCalls "lesson-1") := by
  have hrun : onCandidate (lessonStore "lesson-1") "lesson-1" = true ∧
      candidateNamed (lessonStore "lesson-1") "lesson-1" = true ∧
      (outcomes sampleWire "lesson-1" (lessonStore "lesson-1") (lessonCalls "lesson-1")).map
        (fun q => (q.1.reviewerId, q.2.revision, q.2.state)) = [("reviewer-1", 2, .active)] := by decide +kernel
  exact ⟨hrun.2.2, (candidate_reviewed_once sampleWire sampleReferenced sampleEvidence [proposeLesson "lesson-1"]
    (lessonCalls "lesson-1") "lesson-1" hrun.1 (by decide +kernel)).1 hrun.2.1⟩

/-- **A candidate stored under another id than its own is reviewed once and refused to the same review after.** -/
theorem misnamed_candidate_refused : ¬ ∀ (w : Wire) (referenced : Improvement.Referenced) (evidence : Evidence)
    (before calls : List Op) (id : String),
    onCandidate (run (step w) (emptyStore referenced evidence) before) id = true →
    (∀ o ∈ calls, o.reviewsOnly id = true) →
    ReviewedOnce w id (run (step w) (emptyStore referenced evidence) before) calls := by
  intro h
  have hrun : onCandidate (lessonStore "lesson-2") "lesson-2" = true ∧
      (outcomes sampleWire "lesson-2" (lessonStore "lesson-2") (lessonReviews "lesson-2")).head?.map Prod.fst =
        some (lessonReview "lesson-2" .accept "reviewer-1") ∧
      (reviewKnowledgeCandidate sampleWire (lessonReview "lesson-2" .accept "reviewer-1") 70
        (run (step sampleWire) (lessonStore "lesson-2") (lessonReviews "lesson-2"))).1.isOk = false := by decide +kernel
  have hreviewed := h sampleWire sampleReferenced sampleEvidence [proposeLesson "lesson-2"] (lessonCalls "lesson-2")
    "lesson-2" hrun.1 (by decide +kernel)
  obtain ⟨r, hr⟩ := hreviewed.repeats rfl rfl hrun.2.1
  have hretry := hrun.2.2
  unfold lessonStore at hretry
  rw [hr] at hretry
  cases hretry

end Knowledge
end Bildr
