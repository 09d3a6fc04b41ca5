import Bildr.LivenessCalls
/-!
# ReconciliationCalls — the store's calls on reconciliation episodes

Opening an episode, recording a finding or an action receipt, and the consumption of an ownership proof: one transaction
that checks the proof against the tables, advances the episode, stores the receipt and creates the one attempt it
authorizes.
-/
namespace Bildr

def TaskState.isTerminal (s : TaskState) : Bool :=
  decide (s = .closed) || decide (s = .failed) || decide (s = .superseded) || decide (s = .canceled)

def TaskState.interrupts (s : TaskState) : Bool :=
  [.waitingDependency, .waitingResource, .waitingApproval, .blocked, .needsHelp, .stalled, .interrupted, .failed,
    .canceled].contains s

def TaskState.successors : TaskState → List TaskState
  | .proposed          => [.ready]
  | .ready             => [.leased]
  | .waitingDependency => [.leased]
  | .waitingResource   => [.leased]
  | .leased            => [.starting]
  | .starting          => [.implementing]
  | .implementing      => [.reviewReady, .closed]
  | .reviewReady       => [.verifying]
  | .verifying         => [.changesRequested, .verified]
  | .changesRequested  => [.ready, .superseded]
  | .verified          => [.integrationQueued]
  | .integrationQueued => [.integrating]
  | .integrating       => [.integrated]
  | .integrated        => [.changesRequested, .verified, .ciProven, .closed]
  | .ciProven          => [.liveProven, .closed]
  | .liveProven        => [.closed]
  | .blocked           => [.ready, .superseded]
  | .needsHelp         => [.ready, .superseded]
  | .interrupted       => [.ready, .superseded]
  | .stalled           => [.ready, .superseded]
  | .failed            => [.ready, .superseded]
  | _                  => []

def TaskState.canTransitionTo (s next : TaskState) : Bool :=
  decide (s = next) || (if next.interrupts then !s.isTerminal else s.successors.contains next)

def TaskState.text : TaskState → String
  | .proposed          => "PROPOSED"
  | .ready             => "READY"
  | .waitingDependency => "WAITING_DEPENDENCY"
  | .waitingResource   => "WAITING_RESOURCE"
  | .waitingApproval   => "WAITING_APPROVAL"
  | .leased            => "LEASED"
  | .starting          => "STARTING"
  | .implementing      => "IMPLEMENTING"
  | .reviewReady       => "REVIEW_READY"
  | .verifying         => "VERIFYING"
  | .changesRequested  => "CHANGES_REQUESTED"
  | .verified          => "VERIFIED"
  | .integrationQueued => "INTEGRATION_QUEUED"
  | .integrating       => "INTEGRATING"
  | .integrated        => "INTEGRATED"
  | .ciProven          => "CI_PROVEN"
  | .liveProven        => "LIVE_PROVEN"
  | .closed            => "CLOSED"
  | .blocked           => "BLOCKED"
  | .needsHelp         => "NEEDS_HELP"
  | .stalled           => "STALLED"
  | .interrupted       => "INTERRUPTED"
  | .failed            => "FAILED"
  | .superseded        => "SUPERSEDED"
  | .canceled          => "CANCELED"

namespace Control

open Json (Value)

/-! ## Rows -/

def rowOfReconciliation (e : ReconciliationEpisode) : ReconciliationRow :=
  ⟨e.episodeId, e.runId, e.triggerKind, e.state, e.version, e.updatedAtMs, e⟩

def readReconciliation (w : Wire) (row : ReconciliationRow) : Except StoreError ReconciliationEpisode := do
  ensure (row.payload.validate w).isOk (.sqlite .fromSqlConversionFailure)
  return row.payload

def checkedFinding (w : Wire) (f : ReconciliationFinding) : Except StoreError ReconciliationFinding := do
  ensure (f.validate w).isOk (.sqlite .fromSqlConversionFailure)
  return f

def checkedActionReceipt (w : Wire) (r : ReconciliationActionReceipt) : Except StoreError ReconciliationActionReceipt := do
  ensure (r.validate w).isOk (.sqlite .fromSqlConversionFailure)
  return r

def checkedProof (w : Wire) (p : OwnershipProof) : Except StoreError OwnershipProof := do
  ensure (p.validate w).isOk (.sqlite .fromSqlConversionFailure)
  return p

def reconciliationEpisodeInTransaction (w : Wire) (t : ControlTables) (id : String) :
    Except StoreError ReconciliationEpisode := do
  let row ← okOr (t.reconciliations.get id) (.notFound ("reconciliation episode " ++ id))
  readReconciliation w row

/-! ## Opening -/

def activeReconciliation (t : ControlTables) (runId : Option String) (trigger : ReconciliationTrigger) :
    Option ReconciliationRow :=
  t.reconciliations.rows.find? (fun r => r.runId == runId && decide (r.triggerKind = trigger) && r.state.active)

def openReconciliationBody (w : Wire) (e : ReconciliationEpisode) (t : ControlTables) :
    Except StoreError (ReconciliationEpisode × ControlTables) := do
  e.validate w
  let link ← reconciliationEpisodeCorrelationLink w e
  ensure (decide (e.state = .open) && e.version == 1 && e.findingCount == 0 && e.actionCount == 0) (.validation
    "a new reconciliation episode must be open at version one with no findings or actions")
  match t.reconciliations.get e.episodeId with
  | some row => do
    let existing ← readReconciliation w row
    ensure (existing == e) (.conflict ("reconciliation episode " ++ e.episodeId ++ " already has different content"))
    requireCorrelationLinkInTransaction t.links link
    return (existing, t)
  | none =>
    match activeReconciliation t e.runId e.triggerKind with
    | some row => .error (.conflict ("an active reconciliation episode already owns this trigger: " ++ row.id))
    | none => do
      let reconciliations ← insertRow t.reconciliations (rowOfReconciliation e)
      let links ← recordCorrelationLinkInTransaction t.links link
      return (e, { t with reconciliations := reconciliations, links := links })

def openReconciliationEpisode (w : Wire) (e : ReconciliationEpisode) : Call ControlTables ReconciliationEpisode :=
  transaction (openReconciliationBody w e)

/-! ## Advancing -/

inductive ReconciliationCounter
  | finding | action
deriving DecidableEq, Repr

def ReconciliationCounter.of (c : ReconciliationCounter) (e : ReconciliationEpisode) : Nat :=
  match c with
  | .finding => e.findingCount
  | .action  => e.actionCount

def ReconciliationCounter.name : ReconciliationCounter → String
  | .finding => "finding"
  | .action  => "action"

def advanced (w : Wire) (e : ReconciliationEpisode) (occurredAtMs : Int) (c : ReconciliationCounter) :
    ReconciliationEpisode :=
  ReconciliationEpisode.signed w { e with
    findingCount := if c = .finding then e.findingCount + 1 else e.findingCount
    actionCount := if c = .action then e.actionCount + 1 else e.actionCount
    version := e.version + 1
    updatedAtMs := max e.updatedAtMs occurredAtMs }

def ReconciliationRow.revise (e : ReconciliationEpisode) (r : ReconciliationRow) : ReconciliationRow :=
  { r with state := e.state, version := e.version, updatedAt := e.updatedAtMs, payload := e }

def advanceReconciliationEpisode (w : Wire) (t : ControlTables) (id : String) (expectedVersion : Nat)
    (occurredAtMs : Int) (c : ReconciliationCounter) : Except StoreError (ReconciliationEpisode × ControlTables) := do
  let e ← reconciliationEpisodeInTransaction w t id
  ensure (e.version == expectedVersion) (.conflict ("reconciliation episode " ++ id ++ " has version " ++
    toString e.version ++ ", expected " ++ toString expectedVersion))
  ensure e.state.active
    (.conflict "a terminal reconciliation episode cannot accept another finding or action receipt")
  ensure (decide (e.openedAtMs ≤ occurredAtMs)) (.validation "reconciliation evidence predates the episode")
  ensure (decide (c.of e < u32Max)) (.validation ("reconciliation " ++ c.name ++ " count overflow"))
  ensure (decide (e.version < Usage.u64Max)) (.validation "reconciliation version overflow")
  let next := advanced w e occurredAtMs c
  next.validate w
  let _ ← toI64 next.version "reconciliation version"
  let expected ← toI64 expectedVersion "reconciliation expected version"
  ensure ((t.reconciliations.get id).any (fun r => r.version == expected))
    (.conflict ("reconciliation episode " ++ id ++ " changed during evidence recording"))
  return (next, { t with
    reconciliations := t.reconciliations.update (fun r => r.id == id) (ReconciliationRow.revise next) (fun _ => rfl) })

/-! ## Findings -/

def findingBody (w : Wire) (f : ReconciliationFinding) (expectedVersion : Nat) (t : ControlTables) :
    Except StoreError (ReconciliationEpisode × ControlTables) := do
  f.validate w
  let link ← reconciliationFindingCorrelationLink w f
  match t.findings.get f.key with
  | some row => do
    let existing ← checkedFinding w row
    ensure (existing == f) (.conflict "reconciliation finding source event already has different content")
    let e ← reconciliationEpisodeInTransaction w t f.episodeId
    requireCorrelationLinkInTransaction t.links link
    return (e, t)
  | none => do
    let (e, t) ← advanceReconciliationEpisode w t f.episodeId expectedVersion f.observedAtMs .finding
    let findings ← insertRow t.findings f
    let links ← recordCorrelationLinkInTransaction t.links link
    return (e, { t with findings := findings, links := links })

def recordReconciliationFinding (w : Wire) (f : ReconciliationFinding) (expectedVersion : Nat) :
    Call ControlTables ReconciliationEpisode :=
  transaction (findingBody w f expectedVersion)

/-! ## Action receipts -/

/-- `WHERE episode_id=… AND kind=… AND source_event_id=…`. -/
def findAction (t : ControlTables) (r : ReconciliationActionReceipt) : Option ActionRow :=
  t.actions.rows.find? (fun a => a.receipt.episodeId == r.episodeId && decide (a.receipt.kind = r.kind) &&
    a.receipt.sourceEventId == r.sourceEventId)

/-- `INSERT INTO reconciliation_actions`, with the id the row gets. -/
def insertAction (t : ControlTables) (r : ReconciliationActionReceipt) : Except StoreError (Nat × ControlTables) := do
  require (findAction t r).isNone
  let actions ← insertRow t.actions ⟨Table.maxOf ActionRow.id t.actions.rows + 1, r⟩
  return (Table.maxOf ActionRow.id t.actions.rows + 1, { t with actions := actions })

def actionBody (w : Wire) (r : ReconciliationActionReceipt) (expectedVersion : Nat) (t : ControlTables) :
    Except StoreError (ReconciliationEpisode × ControlTables) := do
  r.validate w
  ensure (!decide (r.kind = .authorizeFreshAttempt)) (.validation
    "fresh-attempt reconciliation receipts require the unavailable transactional attempt-creation consumer")
  let link ← reconciliationActionCorrelationLink w r
  match findAction t r with
  | some row => do
    let existing ← checkedActionReceipt w row.receipt
    ensure (existing == r) (.conflict "reconciliation action source event already has different content")
    let e ← reconciliationEpisodeInTransaction w t r.episodeId
    requireCorrelationLinkInTransaction t.links link
    return (e, t)
  | none => do
    let (e, t) ← advanceReconciliationEpisode w t r.episodeId expectedVersion r.createdAtMs .action
    let (_, t) ← insertAction t r
    let links ← recordCorrelationLinkInTransaction t.links link
    return (e, { t with links := links })

def recordReconciliationActionReceipt (w : Wire) (r : ReconciliationActionReceipt) (expectedVersion : Nat) :
    Call ControlTables ReconciliationEpisode :=
  transaction (actionBody w r expectedVersion)

/-! ## Ownership proofs -/

def proofBody (w : Wire) (p : OwnershipProof) (t : ControlTables) : Except StoreError (OwnershipProof × ControlTables) := do
  p.validate w
  let link ← ownershipProofCorrelationLink w p
  match t.proofs.rows.find? (fun q => q.sourceEventId == p.sourceEventId) with
  | some row => do
    let existing ← checkedProof w row
    ensure (existing == p) (.conflict "ownership proof source event already has different content")
    requireCorrelationLinkInTransaction t.links link
    return (existing, t)
  | none => do
    let proofs ← insertRow t.proofs p
    let links ← recordCorrelationLinkInTransaction t.links link
    return (p, { t with proofs := proofs, links := links })

def recordOwnershipProof (w : Wire) (p : OwnershipProof) : Call ControlTables OwnershipProof :=
  transaction (proofBody w p)

end Control
end Bildr
