import Bildr.Investigations
import Bildr.Knowledge
import Bildr.Reconciliation
/-!
# KnowledgeReview — one human decision over a knowledge candidate

A review stores three rows in one transaction: what the reviewer did, the revision of the item it leads to, and the
event of that revision.  The event's key is a digest of the item, its digest, the decision and the reviewer, so only the
same review finds it again; any other review meets the current revision.  An acceptance resolves every receipt of the
evidence in the controller's own tables.
-/
namespace Bildr
namespace Knowledge

open Json (Value)
open Improvement (Revision Event Payload ImprovementRecordKind ImprovementState isLowerHex readImprovementRevision
  currentRevision maxRevision eventByKey insertRevision insertEvent)

/-- Digests and serialized texts; a digest is 64 lowercase hexadecimal characters. -/
structure Wire where
  ledger : Improvement.Wire
  control : Control.Wire
  hex : ∀ s, isLowerHex (ledger.sha256 s) 64 = true

/-! ## Evidence -/

/-- A stored record: its text with the digest kept beside it, and what is read from the text. -/
structure Stored (α : Type) where
  id : String
  raw : String
  payloadSha256 : String
  payload : Option α

/-- The controller's tables that receipts refer to, beside the ledger: `failure_occurrences` with their fingerprints,
`runs` with the digests of their authority, and the records with a digest of their own. -/
structure Evidence where
  failures : List (String × String)
  authorities : List (String × String)
  artifacts : List (Stored Control.InvestigationArtifact)
  observations : List (Stored Control.LivenessObservation)
  episodes : List (Stored Control.ReconciliationEpisode)

/-- A row of `human_actions` about a knowledge item. -/
structure ReviewAction where
  id : Nat
  actor : String
  actionType : String
  targetId : String
  occurredAt : Int
  payload : Value
  payloadSha256 : String
deriving DecidableEq

/-- The rows of `human_actions` are in two tables, those about outcomes in the ledger and those about knowledge items in
`reviews`; their ids come from one sequence. -/
structure Tables where
  ledger : Improvement.Tables
  reviews : Table ReviewAction.id
  evidence : Evidence

def findStored {α : Type} (rows : List (Stored α)) (id : String) : Except StoreError (Stored α) :=
  okOr (rows.find? (fun row => row.id == id)) (.notFound id)

def asConflict : StoreError → StoreError
  | .validation why => .conflict why
  | e               => e

def resolvedInvestigationArtifact (w : Wire) (e : Evidence) (r : SourceReceipt) :
    Except StoreError Control.InvestigationArtifact := do
  let row ← findStored e.artifacts r.revisionId
  ensure (w.ledger.sha256 row.raw == row.payloadSha256)
    (.conflict "investigation artifact payload integrity check failed")
  let artifact ← okOr row.payload .json
  (artifact.validate w.control).mapError asConflict
  ensure (artifact.artifactId == r.revisionId && artifact.sha256 == r.digest)
    (.conflict "investigation artifact receipt does not resolve exactly")
  return artifact

/-- `checked_observation_row` and `checked_reconciliation_row`. -/
def checkedRow {α : Type} (w : Wire) (validate : Control.Wire → α → Except StoreError Unit) (row : Stored α) :
    Except StoreError α := do
  ensure (w.ledger.sha256 row.raw == row.payloadSha256) (.sqlite .fromSqlConversionFailure)
  let a ← okOr row.payload (.sqlite .fromSqlConversionFailure)
  ensure (validate w.control a).isOk (.sqlite .fromSqlConversionFailure)
  return a

def resolvedLivenessObservation (w : Wire) (e : Evidence) (r : SourceReceipt) : Except StoreError Unit := do
  let row ← findStored e.observations r.revisionId
  let observation ← checkedRow w (fun c o => o.validate c) row
  ensure (observation.sha256 == r.digest) (.conflict "liveness observation receipt does not resolve exactly")

def resolvedReconciliationEpisode (w : Wire) (e : Evidence) (r : SourceReceipt) : Except StoreError Unit := do
  let row ← findStored e.episodes r.revisionId
  let episode ← checkedRow w (fun c o => o.validate c) row
  ensure (episode.episodeId == r.revisionId && episode.sha256 == r.digest)
    (.conflict "reconciliation episode receipt does not resolve exactly")

/-- `payload.get("sha256").and_then(Value::as_str)`; an outcome has no such field. -/
def wireDigest : Payload → Option String
  | .outcome _ => none
  | .other v   => (v.get "sha256").bind Value.asStr

def resolvedRevision (w : Wire) (t : Tables) (r : SourceReceipt) (kind : ImprovementRecordKind) :
    Except StoreError Bool := do
  let record ← readImprovementRevision w.ledger t.ledger r.revisionId
  return decide (record.aggregateKind = kind) && decide (wireDigest record.payload = some r.digest) &&
    !decide (record.sensitivity = .restricted)

/-- `learning_receipt_clean_tx`: the custody of a receipt is a claim, which is checked in the controller's tables. -/
def learningReceiptClean (w : Wire) (t : Tables) (r : SourceReceipt) : Except StoreError Bool :=
  if r.custody ≠ some .clean then .ok false
  else
    match r.kind with
    | .failure               => .ok (t.evidence.failures.contains (r.revisionId, r.digest))
    | .runtime               => .ok (t.evidence.authorities.contains (r.revisionId, r.digest))
    | .investigationArtifact => do
      let artifact ← resolvedInvestigationArtifact w t.evidence r
      return !decide (artifact.sensitivity = .restricted)
    | .livenessObservation   => do
      resolvedLivenessObservation w t.evidence r
      return true
    | .reconciliationEpisode => do
      resolvedReconciliationEpisode w t.evidence r
      return true
    | .humanReview           => .ok false
    | .trace                 => resolvedRevision w t r .trace
    | .outcome               => resolvedRevision w t r .outcome
    | .evalCase              => resolvedRevision w t r .evalCase
    | .taskset               => resolvedRevision w t r .taskset
    | .graderBundle          => resolvedRevision w t r .graderBundle
    | .policyBundle          => resolvedRevision w t r .policyBundle

/-- Every receipt is resolved; the first one that cannot be fails the fold. -/
def evidenceClean (w : Wire) (t : Tables) (evidence : List SourceReceipt) : Except StoreError Bool :=
  evidence.foldlM (fun clean r => (learningReceiptClean w t r).map (fun value => clean && value)) true

/-! ## The input -/

inductive KnowledgeReviewDecision
  | accept | reject
deriving DecidableEq, Repr

structure ReviewKnowledgeCandidate where
  knowledgeId : String
  expectedKnowledgeSha256 : String
  decision : KnowledgeReviewDecision
  reviewerId : String
deriving DecidableEq

def validateKnowledgeReviewInput (i : ReviewKnowledgeCandidate) : Except StoreError Unit := do
  ensure ([i.knowledgeId, i.reviewerId].all knowledgeToken)
    (.validation "knowledge review identifiers must be closed bounded tokens")
  ensure (isLowerHex i.expectedKnowledgeSha256 64)
    (.validation "knowledge review requires an exact lowercase candidate digest")

def KnowledgeReviewDecision.name : KnowledgeReviewDecision → String
  | .accept => "accept"
  | .reject => "reject"

def KnowledgeReviewDecision.actionType : KnowledgeReviewDecision → String
  | .accept => "knowledge_review_accepted"
  | .reject => "knowledge_review_rejected"

/-- The state of the revision a decision leads to, of its item, and of the item's review. -/
def KnowledgeReviewDecision.expectedState : KnowledgeReviewDecision → ImprovementState
  | .accept => .active
  | .reject => .rejected

def KnowledgeReviewDecision.expectedKnowledgeState : KnowledgeReviewDecision → KnowledgeState
  | .accept => .active
  | .reject => .rejected

def KnowledgeReviewDecision.expectedReviewState : KnowledgeReviewDecision → ReviewState
  | .accept => .accepted
  | .reject => .rejected

def reviewIdentity (w : Wire) (i : ReviewKnowledgeCandidate) : String :=
  w.ledger.sha256 ("harness.operator-control.knowledge-review.v1\x00" ++ i.knowledgeId ++ "\x00" ++
    i.expectedKnowledgeSha256 ++ "\x00" ++ i.decision.name ++ "\x00" ++ i.reviewerId)

def reviewRevisionId (w : Wire) (i : ReviewKnowledgeCandidate) : String := "knowledge-review-" ++ reviewIdentity w i

def reviewEventId (w : Wire) (i : ReviewKnowledgeCandidate) : String := "knowledge-review-event-" ++ reviewIdentity w i

def reviewKey (w : Wire) (i : ReviewKnowledgeCandidate) : String := "knowledge:review:" ++ reviewIdentity w i

/-! ## A review that was recorded before -/

/-- `serde_json::from_value::<KnowledgeItemV1>` of a stored payload. -/
def itemOf : Payload → Option KnowledgeItemV1
  | .outcome _ => none
  | .other v   => KnowledgeItemV1.parse v

def ReviewAction.isOf (a : ReviewAction) (i : ReviewKnowledgeCandidate) (receipt : SourceReceipt) : Bool :=
  toString a.id == receipt.revisionId && a.actor == i.reviewerId && a.actionType == i.decision.actionType &&
    a.targetId == i.knowledgeId && a.payloadSha256 == receipt.digest &&
    decide (a.payload.findText ["schema"] = some "harness.operator-control.knowledge-review.v1") &&
    decide (a.payload.findText ["candidate_wire_sha256"] = some i.expectedKnowledgeSha256) &&
    decide (a.payload.findText ["decision"] = some i.decision.name)

def sameReview (w : Wire) (i : ReviewKnowledgeCandidate) (r : Revision) (k : KnowledgeItemV1) : Bool :=
  r.id == reviewRevisionId w i && decide (r.aggregateKind = .knowledge) && r.aggregateId == i.knowledgeId &&
    decide (r.state = i.decision.expectedState) && k.knowledgeId == i.knowledgeId && !k.sha256.isEmpty &&
    decide (k.state = i.decision.expectedKnowledgeState) && decide (k.review.state = i.decision.expectedReviewState) &&
    decide (k.review.reviewerId = some i.reviewerId)

def replayReview (w : Wire) (t : Tables) (i : ReviewKnowledgeCandidate) (e : Event) : Except StoreError Revision := do
  let existing ← readImprovementRevision w.ledger t.ledger e.revisionId
  let item ← okOr (itemOf existing.payload) .json
  (item.verify w.ledger).mapError .conflict
  let receipt ← okOr item.review.receipt (.conflict "knowledge review replay lacks an immutable action receipt")
  ensure (sameReview w i existing item && t.reviews.rows.any (fun a => a.isOf i receipt))
    (.conflict "knowledge review idempotency key was reused with different content")
  return existing

/-! ## A new review -/

def isExactCandidate (i : ReviewKnowledgeCandidate) (r : Revision) (k : KnowledgeItemV1) : Bool :=
  decide (r.state = .candidate) && decide (k.state = .candidate) && decide (k.review.state = .unreviewed) &&
    k.review.reviewerId.isNone && k.review.reviewedAt.isNone && k.review.receipt.isNone &&
    k.sha256 == i.expectedKnowledgeSha256

def fresh (k : KnowledgeItemV1) (now : Int) : Bool :=
  decide (now.toNat < k.freshness.revalidateAfter) && decide (now.toNat < k.freshness.expiresAt)

def checkAcceptance (w : Wire) (t : Tables) (i : ReviewKnowledgeCandidate) (k : KnowledgeItemV1) (now : Int) :
    Except StoreError Unit :=
  if i.decision = .accept then do
    ensure (fresh k now) (.conflict "knowledge acceptance requires fresh controller-clean evidence")
    let clean ← evidenceClean w t k.evidence
    ensure clean (.conflict "knowledge acceptance requires fresh controller-clean evidence")
  else .ok ()

def admitReview (w : Wire) (t : Tables) (i : ReviewKnowledgeCandidate) (now : Int) :
    Except StoreError (Revision × KnowledgeItemV1) := do
  let current ← okOr (currentRevision t.ledger .knowledge i.knowledgeId) (.notFound ("knowledge item " ++ i.knowledgeId))
  let candidate ← okOr (itemOf current.payload) .json
  (candidate.verify w.ledger).mapError .validation
  ensure (isExactCandidate i current candidate)
    (.conflict "knowledge review requires the exact current unreviewed candidate")
  ensure (decide (0 ≤ now)) (.validation "knowledge review clock must be non-negative")
  checkAcceptance w t i candidate now
  return (current, candidate)

def actionPayload (i : ReviewKnowledgeCandidate) (candidateRevisionId : String) (k : KnowledgeItemV1) : Value :=
  .obj [("candidate_revision_id", .str candidateRevisionId), ("candidate_wire_sha256", .str k.sha256),
    ("decision", .str i.decision.name), ("schema", .str "harness.operator-control.knowledge-review.v1")]

def ReviewKnowledgeCandidate.action (w : Wire) (i : ReviewKnowledgeCandidate) (current : Revision) (k : KnowledgeItemV1)
    (id : Nat) (now : Int) : ReviewAction :=
  ⟨id, i.reviewerId, i.decision.actionType, i.knowledgeId, now, actionPayload i current.id k,
    w.ledger.sha256 (w.ledger.text (.other (actionPayload i current.id k)))⟩

def reviewedItem (w : Wire) (i : ReviewKnowledgeCandidate) (k : KnowledgeItemV1) (a : ReviewAction) (now : Int) :
    KnowledgeItemV1 :=
  let reviewed := { k with
    state := i.decision.expectedKnowledgeState
    review := ⟨i.decision.expectedReviewState, some i.reviewerId, some now.toNat,
      some ⟨.humanReview, toString a.id, a.payloadSha256, none, some .clean⟩⟩ }
  { reviewed with sha256 := reviewed.digest w.ledger }

def ReviewKnowledgeCandidate.row (w : Wire) (i : ReviewKnowledgeCandidate) (current : Revision) (k : KnowledgeItemV1)
    (next : Nat) (now : Int) : Revision :=
  ⟨reviewRevisionId w i, .knowledge, i.knowledgeId, next, .knowledgeItemV1, i.decision.expectedState, .other k.json,
    w.ledger.sha256 (w.ledger.text (.other k.json)), current.sensitivity, current.retentionClass, current.exportAllowed,
    none, now⟩

def ReviewKnowledgeCandidate.event (w : Wire) (i : ReviewKnowledgeCandidate) (next : Nat) (now : Int) : Event :=
  ⟨reviewEventId w i, .knowledge, i.knowledgeId, reviewRevisionId w i, next,
    w.ledger.sha256 (w.ledger.eventText .knowledgeItemV1 i.decision.expectedState), reviewKey w i, none, now⟩

def recordReview (w : Wire) (i : ReviewKnowledgeCandidate) (now : Int) (t : Tables) :
    Except StoreError (Revision × Tables) := do
  let (current, candidate) ← admitReview w t i now
  let action := i.action w current candidate (t.ledger.actionSequence + 1) now
  let reviews ← insertRow t.reviews action
  let reviewed := reviewedItem w i candidate action now
  (reviewed.verify w.ledger).mapError .validation
  let next := maxRevision t.ledger .knowledge i.knowledgeId + 1
  let ledger ← insertRevision { t.ledger with actionSequence := action.id } (i.row w current reviewed next now)
  let ledger ← insertEvent ledger (i.event w next now)
  let record ← readImprovementRevision w.ledger ledger (reviewRevisionId w i)
  return (record, { t with ledger := ledger, reviews := reviews })

def reviewKnowledgeCandidate (w : Wire) (i : ReviewKnowledgeCandidate) (now : Int) : Call Tables Revision :=
  transaction (fun t => do
    validateKnowledgeReviewInput i
    match eventByKey t.ledger (reviewKey w i) with
    | some e => do
      let existing ← replayReview w t i e
      return (existing, t)
    | none => recordReview w i now t)

end Knowledge
end Bildr
