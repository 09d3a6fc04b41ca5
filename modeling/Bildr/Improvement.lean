import Bildr.Outcome
import Bildr.SortedSet
import Mathlib.Data.String.Basic
/-!
# Improvement — the improvement ledger

Aggregates are append-only lists of revisions, each with one event.  `appendImprovementRevision` checks the lifecycle
and the classification of a revision against the current one; `recordOperatorOutcome` writes revisions of outcome
aggregates without these checks.  Digests, serialized texts and the contracts of the payloads other than outcomes are
parameters (`Wire`).
-/
namespace Bildr
namespace Improvement

inductive Payload
  | outcome (o : OutcomeWireV1)
  | other (v : Json.Value)
deriving DecidableEq

/-- `payload.get("schema").and_then(Value::as_str)`. -/
def Payload.schema : Payload → Option String
  | .outcome o => some o.schema
  | .other v   => (v.get "schema").bind Json.Value.asStr

structure NewImprovementRevision where
  id : String
  aggregateKind : ImprovementRecordKind
  aggregateId : String
  schema : ImprovementSchema
  state : ImprovementState
  payload : Payload
  payloadSha256 : String
  sensitivity : SensitivityClass
  retentionClass : RetentionClass
  exportAllowed : Bool
  idempotencyKey : String
  eventId : String
  sourceRawEventId : Option Int
  sourceDomainEventId : Option Int

/-- A row of `improvement_revisions`, which is also the record the calls return. -/
structure Revision where
  id : String
  aggregateKind : ImprovementRecordKind
  aggregateId : String
  revision : Nat
  schema : ImprovementSchema
  state : ImprovementState
  payload : Payload
  payloadSha256 : String
  sensitivity : SensitivityClass
  retentionClass : RetentionClass
  exportAllowed : Bool
  sourceDomainEventId : Option Int
  createdAt : Int
deriving DecidableEq

/-- A row of `improvement_events`; its type is always `revision_recorded`. -/
structure Event where
  id : String
  aggregateKind : ImprovementRecordKind
  aggregateId : String
  revisionId : String
  sequence : Nat
  payloadSha256 : String
  idempotencyKey : String
  sourceRawEventId : Option Int
  occurredAt : Int
deriving DecidableEq

/-- What `record_operator_outcome` writes to `human_actions` about an outcome. -/
structure ActionPayload where
  dimension : OutcomeDimension
  classification : OutcomeClassification
  code : String
  reasonCode : Option String
  noteRedacted : Bool
deriving DecidableEq

structure HumanAction where
  id : Nat
  runId : String
  actor : String
  targetId : String
  occurredAt : Int
  payload : String
  payloadSha256 : String
deriving DecidableEq

structure Referenced where
  runs : List String
  attempts : List (String × String)
  publications : List (String × String)
  artifacts : List (String × String)
  domainEvents : List Int
  rawEvents : List Int

structure Tables where
  referenced : Referenced
  revisions : Table Revision.id
  events : Table Event.id
  actions : Table HumanAction.id
  actionSequence : Nat

/-- What the calls use of other code: digests, serialized texts, the contracts of payloads that are no outcomes, the id
such a payload gives its aggregate, the revision it carries, and whether the receipts it cites resolve. -/
structure Wire where
  sha256 : String → String
  text : Payload → String
  actionText : ActionPayload → String
  eventText : ImprovementSchema → ImprovementState → String
  contract : ImprovementSchema → Json.Value → Except StoreError Unit
  canonicalId : ImprovementSchema → Json.Value → Option String
  wireRevision : ImprovementSchema → Json.Value → Option Nat
  references : Tables → NewImprovementRevision → Except StoreError Unit

/-! ## Reading -/

/-- `map_improvement_revision` accepts the stored row. -/
def readable (w : Wire) (r : Revision) : Bool :=
  decide (r.schema.kind = r.aggregateKind) && r.state.allowedFor r.aggregateKind &&
    !(decide (r.sensitivity = .restricted) && r.exportAllowed) && decide (r.payload.schema = some r.schema.asStr) &&
    decide (r.payloadSha256.toList.length = 64) && w.sha256 (w.text r.payload) == r.payloadSha256 &&
    (match r.schema, r.payload with
      | .outcomeV1, .outcome o => o.validate.isOk
      | .outcomeV1, .other _   => false
      | s, .other v            => (w.contract s v).isOk
      | _, .outcome _          => false)

def readImprovementRevision (w : Wire) (t : Tables) (id : String) : Except StoreError Revision := do
  let r ← queryRow (t.revisions.get id)
  ensure (readable w r) (.sqlite .fromSqlConversionFailure)
  return r

def readImprovementEvent (t : Tables) (id : String) : Except StoreError Event := queryRow (t.events.get id)

def ofAggregate (kind : ImprovementRecordKind) (id : String) (r : Revision) : Bool :=
  decide (r.aggregateKind = kind) && r.aggregateId == id

def maxRevision (t : Tables) (kind : ImprovementRecordKind) (id : String) : Nat :=
  Table.maxOf Revision.revision (t.revisions.rows.filter (ofAggregate kind id))

def currentRevision (t : Tables) (kind : ImprovementRecordKind) (id : String) : Option Revision :=
  t.revisions.rows.find? (fun r => ofAggregate kind id r && r.revision == maxRevision t kind id)

def eventByKey (t : Tables) (key : String) : Option Event :=
  t.events.rows.find? (fun e => e.idempotencyKey == key)

/-! ## Appending a revision -/

/-- What a payload whose identity is not the aggregate's is refused with. -/
def identityError : ImprovementSchema → String
  | .avoEpisodeV1   => "AVO episode aggregate identity must equal the canonical episode_id"
  | .tasksetV1      => "taskset aggregate identity must equal the canonical taskset_id"
  | .evalCaseV1     => "eval-case aggregate identity must equal the canonical case_id"
  | .graderBundleV1 => "grader aggregate identity must equal the canonical grader_bundle_id"
  | _               => "outcome aggregate identity must equal the canonical outcome_id"

def validatePayload (w : Wire) (i : NewImprovementRevision) : Except StoreError Unit :=
  match i.schema, i.payload with
  | .outcomeV1, .outcome o => do
    o.validate.mapError StoreError.validation
    safeEvalId i.id 128
    ensure (i.aggregateId == o.outcomeId) (.validation (identityError i.schema))
  | .outcomeV1, .other _ => .error .json
  | s, .other v => do
    w.contract s v
    ensure ((w.canonicalId s v).all (fun k => i.aggregateId == k)) (.validation (identityError s))
  | _, .outcome _ => .error .json

def validateImprovementInput (w : Wire) (i : NewImprovementRevision) : Except StoreError Unit := do
  ensure (i.id != "" && i.aggregateId != "" && i.idempotencyKey != "")
    (.validation "improvement IDs and idempotency key must be nonempty")
  ensure (decide (i.schema.kind = i.aggregateKind) && i.state.allowedFor i.aggregateKind)
    (.validation "improvement schema, kind, or state is not allowed")
  ensure (!(decide (i.sensitivity = .restricted) && i.exportAllowed))
    (.validation "restricted improvement records cannot be exportable")
  ensure (decide (i.payload.schema = some i.schema.asStr))
    (.validation "improvement payload schema discriminator mismatch")
  if [.tasksetV1, .evalCaseV1, .graderBundleV1].contains i.schema then do
    safeEvalId i.id 128
    safeEvalId i.aggregateId 128
  validatePayload w i
  ensure (isLowerHex i.payloadSha256 64 && w.sha256 (w.text i.payload) == i.payloadSha256)
    (.validation "improvement payload SHA-256 is invalid or mismatched")

def validateImprovementWireRevision (w : Wire) (i : NewImprovementRevision) (sequence : Nat) :
    Except StoreError Unit :=
  match i.payload with
  | .outcome _ => .ok ()
  | .other v   => ensure ((w.wireRevision i.schema v).all (fun n => n == sequence))
      (.conflict "canonical evaluation wire revision does not match the immutable aggregate sequence")

/-- The revision keeps the lifecycle and the classification of the current one. -/
def follows (kind : ImprovementRecordKind) (prior : Revision) (state : ImprovementState)
    (sensitivity : SensitivityClass) (retention : RetentionClass) (exportAllowed : Bool) : Bool :=
  improvementTransitionAllowed kind prior.state state &&
    decide (sensitivityRank prior.sensitivity ≤ sensitivityRank sensitivity) &&
    decide (retentionRank prior.retentionClass ≤ retentionRank retention) && (prior.exportAllowed || !exportAllowed)

/-- An event with the key exists: the stored revision and event, if they say what the input says. -/
def replayRevision (w : Wire) (t : Tables) (i : NewImprovementRevision) (e : Event) :
    Except StoreError (Revision × Event) := do
  let r ← readImprovementRevision w t e.revisionId
  ensure (r.id == i.id && decide (r.aggregateKind = i.aggregateKind) && r.aggregateId == i.aggregateId &&
    r.payloadSha256 == i.payloadSha256 && decide (r.schema = i.schema) && decide (r.state = i.state) &&
    decide (r.sensitivity = i.sensitivity) && decide (r.retentionClass = i.retentionClass) &&
    r.exportAllowed == i.exportAllowed && decide (r.sourceDomainEventId = i.sourceDomainEventId))
    (.conflict "improvement idempotency key was reused with different content")
  let event ← readImprovementEvent t e.id
  ensure (event.id == i.eventId && decide (event.sourceRawEventId = i.sourceRawEventId))
    (.conflict "improvement idempotency key was reused with different event provenance")
  return (r, event)

/-- `UNIQUE(aggregate_kind, aggregate_id, revision)` and the foreign key. -/
def insertRevision (t : Tables) (r : Revision) : Except StoreError Tables := do
  require (!t.revisions.rows.any (fun q => ofAggregate r.aggregateKind r.aggregateId q && q.revision == r.revision) &&
    r.sourceDomainEventId.all t.referenced.domainEvents.contains)
  let revisions ← insertRow t.revisions r
  return { t with revisions := revisions }

/-- `UNIQUE(idempotency_key)`, `UNIQUE(aggregate_kind, aggregate_id, sequence)` and the foreign keys. -/
def insertEvent (t : Tables) (e : Event) : Except StoreError Tables := do
  require (!t.events.rows.any (fun q => q.idempotencyKey == e.idempotencyKey ||
    (decide (q.aggregateKind = e.aggregateKind) && q.aggregateId == e.aggregateId && q.sequence == e.sequence)) &&
    (t.revisions.get e.revisionId).isSome && e.sourceRawEventId.all t.referenced.rawEvents.contains)
  let events ← insertRow t.events e
  return { t with events := events }

def NewImprovementRevision.row (i : NewImprovementRevision) (next : Nat) (now : Int) : Revision :=
  ⟨i.id, i.aggregateKind, i.aggregateId, next, i.schema, i.state, i.payload, i.payloadSha256, i.sensitivity,
    i.retentionClass, i.exportAllowed, i.sourceDomainEventId, now⟩

def NewImprovementRevision.event (w : Wire) (i : NewImprovementRevision) (next : Nat) (now : Int) : Event :=
  ⟨i.eventId, i.aggregateKind, i.aggregateId, i.id, next, w.sha256 (w.eventText i.schema i.state), i.idempotencyKey,
    i.sourceRawEventId, now⟩

def appendNew (w : Wire) (i : NewImprovementRevision) (now : Int) (t : Tables) :
    Except StoreError ((Revision × Event) × Tables) := do
  ensure ((currentRevision t i.aggregateKind i.aggregateId).all (fun prior =>
    follows i.aggregateKind prior i.state i.sensitivity i.retentionClass i.exportAllowed))
    (.conflict "illegal improvement revision transition or classification downgrade")
  w.references t i
  let next := maxRevision t i.aggregateKind i.aggregateId + 1
  validateImprovementWireRevision w i next
  let t ← insertRevision t (i.row next now)
  let t ← insertEvent t (i.event w next now)
  let r ← readImprovementRevision w t i.id
  let e ← readImprovementEvent t i.eventId
  return ((r, e), t)

def appendImprovementRevision (w : Wire) (i : NewImprovementRevision) (now : Int) : Call Tables (Revision × Event) :=
  transaction (fun t => do
    validateImprovementInput w i
    match eventByKey t i.idempotencyKey with
    | some e => do
      let answer ← replayRevision w t i e
      return (answer, t)
    | none => appendNew w i now t)

/-! ## Recording an operator's outcome -/

structure NewOperatorOutcome where
  runId : String
  subject : OutcomeSubject
  dimension : OutcomeDimension
  classification : OutcomeClassification
  code : String
  reasonCode : Option String
  note : Option String
  correctionArtifactId : Option String
  supersedes : List String
  actor : String
  idempotencyKey : String

def validateOperatorOutcomeInput (i : NewOperatorOutcome) : Except StoreError Unit := do
  ensure (isSafeOperatorControlIdentifier i.runId && isSafeOperatorControlIdentifier i.subject.id &&
    isSafeOutcomeIdentifier i.code 80 && isSafeOutcomeIdentifier i.actor 128 &&
    isSafeOutcomeIdentifier i.idempotencyKey 200 && i.reasonCode.all isSafeOutcomeReasonCode &&
    i.correctionArtifactId.all (fun v => isSafeOutcomeIdentifier v 128) &&
    i.note.all (fun v => decide (v.toList.length ≤ 1000)) && i.supersedes.all (fun v => isSafeOutcomeIdentifier v 128))
    (.validation "invalid bounded operator outcome input")
  ensure (decide i.supersedes.Nodup) (.validation "duplicate outcome supersedes target")

def stableOutcomeId (w : Wire) (i : NewOperatorOutcome) : String :=
  w.sha256 ("harness.outcome.id.v1\x00" ++ i.runId ++ "\x00" ++ i.subject.kind.json ++ "\x00" ++ i.subject.id ++ "\x00" ++
    i.dimension.json)

def NewOperatorOutcome.action (i : NewOperatorOutcome) : ActionPayload :=
  ⟨i.dimension, i.classification, i.code, i.reasonCode, i.note.isSome⟩

/-- The digest the ids of the revision and the event are made of. -/
def replayIdentity (w : Wire) (i : NewOperatorOutcome) : String :=
  w.sha256 ("harness.outcome.replay.v1\x00" ++ i.idempotencyKey ++ "\x00" ++ stableOutcomeId w i ++ "\x00" ++
    w.actionText i.action)

def outcomeRevisionId (w : Wire) (i : NewOperatorOutcome) : String := "outcome-revision-" ++ replayIdentity w i

def outcomeEventId (w : Wire) (i : NewOperatorOutcome) : String := "outcome-event-" ++ replayIdentity w i

def subjectOwned (r : Referenced) (i : NewOperatorOutcome) : Bool :=
  match i.subject.kind with
  | .run         => i.subject.id == i.runId
  | .taskAttempt => r.attempts.contains (i.subject.id, i.runId)
  | .publication => r.publications.contains (i.subject.id, i.runId)

def outcomeMatchesInput (o : OutcomeWireV1) (i : NewOperatorOutcome) (outcomeId : String) : Bool :=
  o.schema == "harness.outcome.v1" && o.outcomeId == outcomeId && o.runId == i.runId &&
    decide (o.subject = i.subject) && decide (o.dimension = i.dimension) &&
    decide (o.classification = i.classification) && o.code == i.code &&
    decide (o.confidence = .operatorAsserted) && decide (o.source.kind = .humanAction) &&
    decide (o.supersedes = i.supersedes) && decide (o.reasonCode = i.reasonCode) &&
    decide (o.correctionArtifactId = i.correctionArtifactId) && o.redactorVersion == "outcome-redactor.v1" &&
    o.freeTextRedacted == i.note.isSome

/-- `serde_json::from_str` of a stored outcome payload. -/
def parseOutcome : Payload → Except StoreError OutcomeWireV1
  | .outcome o => .ok o
  | .other _   => .error .json

/-- The revisions of the outcome, and the ones that no revision of it supersedes. -/
def validateOutcomeSupersedes (t : Tables) (outcomeId : String) (supersedes : List String) : Except StoreError Unit := do
  if supersedes.isEmpty then return
  let rows := t.revisions.rows.filter (ofAggregate .outcome outcomeId)
  let outcomes ← rows.mapM (fun r => parseOutcome r.payload)
  let all := rows.map Revision.id
  let superseded := outcomes.flatMap OutcomeWireV1.supersedes
  supersedes.forM (fun target => do
    ensure (all.contains target) (.conflict "outcome supersedes target is cross-outcome or unknown")
    ensure (!superseded.contains target) (.conflict "outcome supersedes target is not a current head"))

structure OutcomeRevisionView where
  revisionId : String
  revision : Nat
  outcome : OutcomeWireV1
  isHead : Bool

structure OutcomeVectorItem where
  outcomeId : String
  subject : OutcomeSubject
  dimension : OutcomeDimension
  revisions : List OutcomeRevisionView
  conflicted : Bool

/-- The stored outcomes of a run, in the order of aggregate and revision. -/
def outcomeRows (t : Tables) (run : String) : List Revision :=
  let rows := t.revisions.rows.filter (fun r => decide (r.aggregateKind = .outcome) &&
    match r.payload with
    | .outcome o => o.runId == run
    | .other _   => false)
  (SortedSet.ofList (rows.map Revision.aggregateId)).flatMap (fun id => rows.filter (fun r => r.aggregateId == id))

def vectorItem (rows : List (Revision × OutcomeWireV1)) (id : String) : Option OutcomeVectorItem :=
  let own := rows.filter (fun q => q.2.outcomeId == id)
  let superseded := own.flatMap (fun q => q.2.supersedes)
  let views := own.map (fun q => ⟨q.1.id, q.1.revision, q.2, !superseded.contains q.1.id⟩)
  own.head?.map (fun q => ⟨id, q.2.subject, q.2.dimension, views, decide (1 < views.countP OutcomeRevisionView.isHead)⟩)

def outcomeVector (w : Wire) (t : Tables) (run : String) : Except StoreError (List OutcomeVectorItem) := do
  let rows ← (outcomeRows t run).mapM (fun r => do
    ensure (readable w r) (.sqlite .fromSqlConversionFailure)
    let o ← parseOutcome r.payload
    return (r, o))
  return (SortedSet.ofList (rows.map (fun q => q.2.outcomeId))).filterMap (vectorItem rows)

structure OutcomeRevisionReceipt where
  outcomeId : String
  revisionId : String
  revision : Nat
  vector : List OutcomeVectorItem

def checkOperatorOutcome (r : Referenced) (i : NewOperatorOutcome) : Except StoreError Unit := do
  validateOperatorOutcomeInput i
  (validateOperatorOutcomeLabel i.dimension i.classification i.code).mapError StoreError.validation
  ensure (r.runs.contains i.runId) (.notFound ("run " ++ i.runId))
  ensure (subjectOwned r i) (.validation "outcome subject is not owned by run")
  match i.correctionArtifactId with
  | some artifact => ensure (r.artifacts.contains (artifact, i.runId)) (.notFound ("artifact " ++ artifact))
  | none => .ok ()

/-- An event with the key exists: the receipt of the stored revision, if it is the one this input makes. -/
def replayOutcome (w : Wire) (t : Tables) (i : NewOperatorOutcome) (e : Event) :
    Except StoreError OutcomeRevisionReceipt := do
  let r ← queryRow ((t.revisions.get e.revisionId).filter (fun r => decide (r.aggregateKind = .outcome)))
  let stored ← parseOutcome r.payload
  let eventMatches := e.id == outcomeEventId w i && e.revisionId == outcomeRevisionId w i &&
    decide (e.aggregateKind = .outcome) && e.aggregateId == stableOutcomeId w i
  let actionMatches := t.actions.rows.any (fun a => toString a.id == stored.source.recordId && a.runId == i.runId &&
    a.actor == i.actor && a.targetId == stableOutcomeId w i && a.payload == w.actionText i.action &&
    a.payloadSha256 == w.sha256 (w.actionText i.action))
  ensure (r.id == outcomeRevisionId w i && eventMatches && actionMatches &&
    outcomeMatchesInput stored i (stableOutcomeId w i))
    (.conflict "operator outcome idempotency key was reused with different content")
  let vector ← outcomeVector w t i.runId
  return ⟨stableOutcomeId w i, e.revisionId, r.revision, vector⟩

def NewOperatorOutcome.payload (w : Wire) (i : NewOperatorOutcome) (actionId : Nat) (now : Int) : OutcomeWireV1 :=
  ⟨"harness.outcome.v1", stableOutcomeId w i, i.runId, i.subject, i.dimension, i.classification, i.code, now,
    .operatorAsserted, ⟨.humanAction, toString actionId, w.sha256 (w.actionText i.action), none, none⟩, i.supersedes,
    i.reasonCode, i.correctionArtifactId, "outcome-redactor.v1", i.note.isSome⟩

def NewOperatorOutcome.row (w : Wire) (i : NewOperatorOutcome) (o : OutcomeWireV1) (next : Nat) (now : Int) : Revision :=
  ⟨outcomeRevisionId w i, .outcome, stableOutcomeId w i, next, .outcomeV1, .observed, .outcome o,
    w.sha256 (w.text (.outcome o)), .internal, .governance, false, none, now⟩

def NewOperatorOutcome.event (w : Wire) (i : NewOperatorOutcome) (next : Nat) (now : Int) : Event :=
  ⟨outcomeEventId w i, .outcome, stableOutcomeId w i, outcomeRevisionId w i, next, w.sha256 "\x7b\x7d",
    i.idempotencyKey, none, now⟩

def recordNew (w : Wire) (i : NewOperatorOutcome) (now : Int) (t : Tables) :
    Except StoreError (OutcomeRevisionReceipt × Tables) := do
  validateOutcomeSupersedes t (stableOutcomeId w i) i.supersedes
  let actionId := t.actionSequence + 1
  let actions ← insertRow t.actions ⟨actionId, i.runId, i.actor, stableOutcomeId w i, now, w.actionText i.action,
    w.sha256 (w.actionText i.action)⟩
  let t := { t with actions := actions, actionSequence := actionId }
  let o := i.payload w actionId now
  o.validate.mapError (fun m => .validation ("invalid operator outcome: " ++ m))
  let next := maxRevision t .outcome (stableOutcomeId w i) + 1
  let t ← insertRevision t (i.row w o next now)
  let t ← insertEvent t (i.event w next now)
  let vector ← outcomeVector w t i.runId
  return (⟨stableOutcomeId w i, outcomeRevisionId w i, next, vector⟩, t)

def recordOperatorOutcome (w : Wire) (i : NewOperatorOutcome) (now : Int) : Call Tables OutcomeRevisionReceipt :=
  transaction (fun t => do
    checkOperatorOutcome t.referenced i
    match eventByKey t i.idempotencyKey with
    | some e => do
      let receipt ← replayOutcome w t i e
      return (receipt, t)
    | none => recordNew w i now t)

end Improvement
end Bildr
