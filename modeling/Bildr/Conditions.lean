import Bildr.ControlTables
import Bildr.Progress
/-!
# Conditions — external conditions and what was observed of them

A condition is registered once for its source and moves only by observations, each the next of its sequence.  An
observation may come with an event of the run that owns the condition; both are stored or neither is.  As with
attention, the columns of a condition are fields of its payload and a row is the condition.
-/
namespace Bildr
namespace Control

open Json (Value)

inductive ExternalConditionAdapter
  | ciCheck | reviewState | credentialAvailability | timeGate | hardwareCapacity | serviceAvailability
deriving DecidableEq, Repr

def ExternalConditionAdapter.name : ExternalConditionAdapter → String
  | .ciCheck                => "ci_check"
  | .reviewState            => "review_state"
  | .credentialAvailability => "credential_availability"
  | .timeGate               => "time_gate"
  | .hardwareCapacity       => "hardware_capacity"
  | .serviceAvailability    => "service_availability"

inductive ExternalConditionOwnerType
  | run | task | attempt
deriving DecidableEq, Repr

def ExternalConditionOwnerType.name : ExternalConditionOwnerType → String
  | .run     => "run"
  | .task    => "task"
  | .attempt => "attempt"

inductive ExternalConditionState
  | open | satisfied | unsatisfied | unknown | cancelled
deriving DecidableEq, Repr

def ExternalConditionState.name : ExternalConditionState → String
  | .open        => "open"
  | .satisfied   => "satisfied"
  | .unsatisfied => "unsatisfied"
  | .unknown     => "unknown"
  | .cancelled   => "cancelled"

def ExternalConditionState.isTerminal (s : ExternalConditionState) : Bool :=
  [ExternalConditionState.satisfied, .unsatisfied, .cancelled].contains s

/-- `state IN ('open','unknown')`. -/
def ExternalConditionState.isActive (s : ExternalConditionState) : Bool := [ExternalConditionState.open, .unknown].contains s

structure ExternalConditionPollPolicy where
  initialMs : Nat
  maximumMs : Nat
  deadlineMs : Option Int
deriving DecidableEq

def ExternalConditionPollPolicy.json (p : ExternalConditionPollPolicy) : Value :=
  .obj [("initial_ms", ofNat p.initialMs), ("maximum_ms", ofNat p.maximumMs), ("deadline_ms", ofOption ofInt p.deadlineMs)]

def ExternalConditionPollPolicy.validate (p : ExternalConditionPollPolicy) : Except StoreError Unit := do
  ensure (!(p.initialMs == 0) && decide (p.initialMs ≤ p.maximumMs)) (invalidField "external condition poll policy"
    "must have a positive initial interval no larger than its maximum")
  ensure (p.deadlineMs.all (fun v => decide (0 ≤ v)))
    (invalidField "external condition deadline" "must be a UTC epoch millisecond timestamp")

/-! ## The specification of local capacity -/

structure LocalCapacitySpec where
  schema : String
  resource : String
  minimumAvailableBytes : Nat
deriving DecidableEq

/-- `serde_json::from_value` of a closed struct: an object with exactly its fields, or an array of its values. -/
def LocalCapacitySpec.read (spec : Value) : Option LocalCapacitySpec :=
  match spec with
  | .obj fields =>
    if fields.all (fun f => ["schema", "resource", "minimum_available_bytes"].contains f.1) then do
      let schema ← (spec.get "schema").bind Value.asStr
      let resource ← (spec.get "resource").bind Value.asStr
      let bytes ← (spec.get "minimum_available_bytes").bind Value.asU64
      return ⟨schema, resource, bytes⟩
    else none
  | .arr [.str schema, .str resource, bytes] => bytes.asU64.map (fun n => ⟨schema, resource, n⟩)
  | _ => none

def LocalCapacitySpec.validate (s : LocalCapacitySpec) : Except StoreError Unit := do
  ensure (s.schema == "harness.local-capacity-spec.v1")
    (invalidField "local capacity specification schema" "must be harness.local-capacity-spec.v1")
  ensure (s.resource == "repository_root_filesystem") (invalidField "local capacity specification resource"
    "must be the controller-owned repository_root_filesystem")
  ensure (!(s.minimumAvailableBytes == 0) && decide (s.minimumAvailableBytes ≤ 1152921504606846976))
    (invalidField "local capacity minimum available bytes" "must be between one byte and one exbibyte")

/-! ## Observations -/

structure ConditionObservation where
  schema : String
  observationId : String
  conditionId : String
  sourceEventId : String
  sequence : Nat
  observedAtMs : Int
  state : ExternalConditionState
  payload : Value
  sha256 : String
deriving DecidableEq

def ConditionObservation.json (o : ConditionObservation) : Value :=
  .obj [("schema", .str o.schema), ("observation_id", .str o.observationId), ("condition_id", .str o.conditionId),
    ("source_event_id", .str o.sourceEventId), ("sequence", ofNat o.sequence), ("observed_at_ms", ofInt o.observedAtMs),
    ("state", .str o.state.name), ("payload", o.payload), ("sha256", .str o.sha256)]

def ConditionObservation.digest (w : Wire) (o : ConditionObservation) : Digest :=
  w.digestJson { o with sha256 := "" }.json

def ConditionObservation.validate (w : Wire) (o : ConditionObservation) : Except StoreError Unit := do
  ensure (o.schema == "harness.condition-observation.v1")
    (invalidField "condition observation schema" "must be harness.condition-observation.v1")
  validateIdentifier o.observationId "condition observation id"
  validateIdentifier o.conditionId "condition observation condition id"
  validateIdentifier o.sourceEventId "condition observation source event id"
  ensure (decide (0 ≤ o.observedAtMs))
    (invalidField "condition observation time" "must be a UTC epoch millisecond timestamp")
  ensure (decide (w.byteLength o.json ≤ maxConditionPayloadBytes))
    (invalidField "condition observation payload" "exceeds the bounded payload limit")
  validateLowerHex o.sha256 "condition observation sha256" 64
  ensure ((o.digest w).hex == o.sha256)
    (invalidField "condition observation sha256" "does not match the canonical observation payload")

/-! ## Conditions -/

structure ExternalCondition where
  schema : String
  conditionId : String
  ownerType : ExternalConditionOwnerType
  ownerId : String
  adapter : ExternalConditionAdapter
  sourceId : String
  spec : Value
  state : ExternalConditionState
  sequence : Nat
  pollPolicy : ExternalConditionPollPolicy
  sourceIdentityDigest : String
  lastObservation : Option ConditionObservation
  version : Nat
  openedAtMs : Int
  updatedAtMs : Int
  sha256 : String
deriving DecidableEq

def ExternalCondition.json (c : ExternalCondition) : Value :=
  .obj [("schema", .str c.schema), ("condition_id", .str c.conditionId), ("owner_type", .str c.ownerType.name),
    ("owner_id", .str c.ownerId), ("adapter", .str c.adapter.name), ("source_id", .str c.sourceId), ("spec", c.spec),
    ("state", .str c.state.name), ("sequence", ofNat c.sequence), ("poll_policy", c.pollPolicy.json),
    ("source_identity_digest", .str c.sourceIdentityDigest),
    ("last_observation", ofOption ConditionObservation.json c.lastObservation), ("version", ofNat c.version),
    ("opened_at_ms", ofInt c.openedAtMs), ("updated_at_ms", ofInt c.updatedAtMs), ("sha256", .str c.sha256)]

def ExternalCondition.digest (w : Wire) (c : ExternalCondition) : Digest := w.digestJson { c with sha256 := "" }.json

def ExternalCondition.validateSpec (w : Wire) (c : ExternalCondition) : Except StoreError Unit := do
  if c.adapter = .hardwareCapacity then
    let spec ← okOr (LocalCapacitySpec.read c.spec) (invalidField "local capacity specification"
      "must be the closed harness.local-capacity-spec.v1 shape")
    spec.validate
  ensure (decide (w.byteLength c.spec ≤ 65536))
    (invalidField "external condition spec" "exceeds the bounded specification limit")

def ExternalCondition.validateObservation (w : Wire) (c : ExternalCondition) : Except StoreError Unit :=
  match c.lastObservation with
  | some o => do
    o.validate w
    ensure (o.conditionId == c.conditionId && o.sequence == c.sequence && decide (o.state = c.state))
      (invalidField "external condition last observation"
        "must bind the exact condition, current sequence, and current state")
  | none => ensure (c.sequence == 0)
    (invalidField "external condition sequence" "cannot advance without an observation")

def ExternalCondition.validate (w : Wire) (c : ExternalCondition) : Except StoreError Unit := do
  ensure (c.schema == "harness.external-condition.v1")
    (invalidField "external condition schema" "must be harness.external-condition.v1")
  validateIdentifier c.conditionId "external condition id"
  validateIdentifier c.ownerId "external condition owner id"
  validateIdentifier c.sourceId "external condition source id"
  validateLowerHex c.sourceIdentityDigest "external condition source identity digest" 64
  ensure (!(c.version == 0) && decide (0 ≤ c.openedAtMs) && decide (c.openedAtMs ≤ c.updatedAtMs))
    (invalidField "external condition version or timestamps" "must be monotonic and use UTC epoch milliseconds")
  c.pollPolicy.validate
  c.validateSpec w
  c.validateObservation w
  ensure (decide (w.byteLength c.json ≤ maxConditionPayloadBytes))
    (invalidField "external condition payload" "exceeds the bounded payload limit")
  validateLowerHex c.sha256 "external condition sha256" 64
  ensure ((c.digest w).hex == c.sha256)
    (invalidField "external condition sha256" "does not match the canonical condition payload")

/-- `ExternalConditionSummary`, as it is serialized. -/
def ExternalCondition.summary (c : ExternalCondition) : Value :=
  .obj [("schema", .str "harness.external-condition-summary.v1"), ("condition_id", .str c.conditionId),
    ("owner_type", .str c.ownerType.name), ("owner_id", .str c.ownerId), ("adapter", .str c.adapter.name),
    ("source_id", .str c.sourceId), ("state", .str c.state.name), ("sequence", ofNat c.sequence),
    ("poll_policy", c.pollPolicy.json), ("last_observation_state", ofOption (fun o => .str o.state.name) c.lastObservation),
    ("last_observed_at_ms", ofOption (fun o => ofInt o.observedAtMs) c.lastObservation), ("version", ofNat c.version),
    ("opened_at_ms", ofInt c.openedAtMs), ("updated_at_ms", ofInt c.updatedAtMs), ("condition_sha256", .str c.sha256)]

def checkedCondition (w : Wire) (c : ExternalCondition) : Except StoreError ExternalCondition := do
  ensure (c.validate w).isOk (.sqlite .fromSqlConversionFailure)
  return c

/-! ## Registration -/

/-- `control` holds the links and the owners of conditions, `events` the domain events. -/
structure ConditionTables where
  control : ControlTables
  events : List SourceEvent
  conditions : Table ExternalCondition.conditionId
  observations : Table ConditionObservation.observationId

def ExternalCondition.isNew (c : ExternalCondition) : Bool :=
  decide (c.state = .open) && c.sequence == 0 && c.version == 1 && c.lastObservation.isNone

/-- A source that is already registered is answered when `same` recognises the request. -/
def registerBody (w : Wire) (same : ExternalCondition → ExternalCondition → Bool) (why : String) (c : ExternalCondition)
    (t : ConditionTables) : Except StoreError (ExternalCondition × ConditionTables) := do
  c.validate w
  ensure c.isNew (.validation
    "a new external condition must be open at sequence zero, version one, without an observation")
  match t.conditions.rows.find? (fun r => decide (r.adapter = c.adapter) && r.sourceId == c.sourceId) with
  | some row => do
    let existing ← checkedCondition w row
    ensure (same existing c)
      (.conflict ("external condition source " ++ c.adapter.name ++ ":" ++ c.sourceId ++ " already has " ++ why))
    return (existing, t)
  | none => do
    let conditions ← insertRow t.conditions c
    return (c, { t with conditions := conditions })

def registerExternalCondition (w : Wire) (c : ExternalCondition) : Call ConditionTables ExternalCondition :=
  transaction (registerBody w (fun existing c => existing == c) "different current content" c)

def sameRegisteredSourceIdentity (existing requested : ExternalCondition) : Bool :=
  decide (existing.ownerType = requested.ownerType) && existing.ownerId == requested.ownerId &&
  decide (existing.adapter = requested.adapter) && existing.sourceId == requested.sourceId &&
  existing.sourceIdentityDigest == requested.sourceIdentityDigest && decide (existing.spec = requested.spec) &&
  decide (existing.pollPolicy = requested.pollPolicy)

def registerOrReadExternalConditionBySourceIdentity (w : Wire) (c : ExternalCondition) :
    Call ConditionTables ExternalCondition :=
  transaction (registerBody w sameRegisteredSourceIdentity "a different immutable identity" c)

/-! ## Observing -/

def conditionObservationCorrelationLink (w : Wire) (o : ConditionObservation) : Except StoreError CorrelationLink :=
  derivedLink w ("harness.condition-observation.trace.v1:" ++ o.observationId)
    ("harness.condition-observation.span.v1:" ++ o.observationId)
    ("harness.condition-observation.link.v1:" ++ o.observationId)
    "external_condition" o.conditionId "condition_observation" o.observationId "observed_as" o.observedAtMs

structure ConditionMaterialEvent where
  runId : String
  eventType : String
  payload : Value

def validateDomainEventType (value : String) : Except StoreError Unit :=
  ensure (Improvement.token ['.', '_', '-'] 160 value)
    (.validation "external condition event type must be a bounded controller identifier")

def conditionOwnerRunId (t : ControlTables) (c : ExternalCondition) : Except StoreError String :=
  let run := match c.ownerType with
    | .run     => (t.runs.get c.ownerId).map RunRow.id
    | .task    => (t.custody.tasks.get c.ownerId).map TaskRow.runId
    | .attempt => (t.custody.attempts.get c.ownerId).bind (fun a => (t.custody.tasks.get a.taskId).map TaskRow.runId)
  okOr run (.notFound ("external condition owner " ++ c.ownerId ++ " is not present"))

def ensureMaterialEventBinding (t : ControlTables) (c : ExternalCondition) (o : ConditionObservation)
    (event : Option ConditionMaterialEvent) : Except StoreError Unit :=
  match event with
  | none => .ok ()
  | some event => do
    ensure (o.conditionId == c.conditionId)
      (.validation "external condition event observation must bind the current condition")
    let run ← conditionOwnerRunId t c
    ensure (run == event.runId) (.conflict "external condition event run does not match the condition owner")

def materialEventPresent (events : List SourceEvent) (o : ConditionObservation) (event : Option ConditionMaterialEvent) :
    Bool :=
  event.all (fun event => (events.countP (fun e => e.runId == some event.runId &&
    e.aggregateType == "external_condition" && e.aggregateId == o.conditionId && e.eventType == event.eventType &&
    decide (e.payload.get "source_event_id" = some (.str o.sourceEventId)))) == 1)

/-- An observation seen before is answered with the condition as it is now. -/
def replayObservation (w : Wire) (o existing : ConditionObservation) (link : CorrelationLink)
    (event : Option ConditionMaterialEvent) (t : ConditionTables) : Except StoreError (ExternalCondition × ConditionTables) := do
  ensure (existing.validate w).isOk (.sqlite .fromSqlConversionFailure)
  ensure (existing == o)
    (.conflict "external condition observation source event already has different content")
  let row ← okOr (t.conditions.get o.conditionId) (.sqlite .queryReturnedNoRows)
  let current ← checkedCondition w row
  ensureMaterialEventBinding t.control current o event
  ensure (materialEventPresent t.events o event)
    (.conflict "an existing external-condition observation is missing its material event")
  requireCorrelationLinkInTransaction t.control.links link
  return (current, t)

def ExternalCondition.after (w : Wire) (c : ExternalCondition) (o : ConditionObservation) : ExternalCondition :=
  let c := { c with
    sequence := o.sequence, state := o.state, lastObservation := some o, version := c.version + 1,
    updatedAtMs := o.observedAtMs }
  { c with sha256 := (c.digest w).hex }

def nextEventId (events : List SourceEvent) : Nat := Table.maxOf SourceEvent.id events + 1

def boundPayload (payload : Value) (c : ExternalCondition) (o : ConditionObservation) : Value :=
  ((((payload.put "source_event_id" (.str o.sourceEventId)).put "condition_id" (.str c.conditionId)).put
    "condition_version" (ofNat c.version)).put "condition_sha256" (.str c.sha256)).put
    "observation_id" (.str o.observationId)

def emitMaterialEvent (events : List SourceEvent) (c : ExternalCondition) (o : ConditionObservation) (now : Int)
    (event : Option ConditionMaterialEvent) : List SourceEvent :=
  match event with
  | none => events
  | some event => events ++ [⟨nextEventId events, some event.runId, "external_condition", c.conditionId, event.eventType,
      now, boundPayload event.payload c o⟩]

def observeCondition (w : Wire) (o : ConditionObservation) (expectedVersion : Nat) (link : CorrelationLink)
    (event : Option ConditionMaterialEvent) (now : Int) (t : ConditionTables) :
    Except StoreError (ExternalCondition × ConditionTables) := do
  let c ← okOr (t.conditions.get o.conditionId) (.notFound ("external condition " ++ o.conditionId))
  c.validate w
  ensureMaterialEventBinding t.control c o event
  let _ ← toI64 c.version "external condition version"
  ensure (c.version == expectedVersion) (.conflict ("external condition " ++ o.conditionId ++ " has version " ++
    toString c.version ++ ", expected " ++ toString expectedVersion))
  ensure (!c.state.isTerminal) (.conflict "a terminal external condition cannot accept another observation")
  ensure (o.sequence == c.sequence + 1) (.conflict ("external condition observation sequence " ++ toString o.sequence ++
    " does not follow current sequence " ++ toString c.sequence))
  let next := c.after w o
  next.validate w
  let _ ← toI64 next.version "external condition version"
  let observations ← insertRow t.observations o
  let links ← recordCorrelationLinkInTransaction t.control.links link
  let conditions := t.conditions.update (fun r => r.conditionId == o.conditionId)
    (fun r => { next with conditionId := r.conditionId }) (fun _ => rfl)
  return (next, ⟨{ t.control with links := links }, emitMaterialEvent t.events next o now event, conditions, observations⟩)

def observationInnerBody (w : Wire) (conditionId : String) (expectedVersion : Nat) (o : ConditionObservation)
    (event : Option ConditionMaterialEvent) (now : Int) (t : ConditionTables) :
    Except StoreError (ExternalCondition × ConditionTables) := do
  o.validate w
  ensure (o.conditionId == conditionId) (.validation "condition observation must bind the requested condition")
  let link ← conditionObservationCorrelationLink w o
  let _ ← toI64 expectedVersion "external condition expected version"
  match t.observations.rows.find? (fun r => r.conditionId == conditionId && r.sourceEventId == o.sourceEventId) with
  | some existing => replayObservation w o existing link event t
  | none          => observeCondition w o expectedVersion link event now t

def recordExternalConditionObservation (w : Wire) (conditionId : String) (expectedVersion : Nat)
    (o : ConditionObservation) (now : Int) : Call ConditionTables ExternalCondition :=
  transaction (observationInnerBody w conditionId expectedVersion o none now)

def recordExternalConditionObservationAndEmit (w : Wire) (conditionId : String) (expectedVersion : Nat)
    (o : ConditionObservation) (event : ConditionMaterialEvent) (now : Int) : Call ConditionTables ExternalCondition :=
  transaction (fun t => do
    validateDomainEventType event.eventType
    ensure (isObject event.payload) (.validation "external condition event payload must be an object")
    observationInnerBody w conditionId expectedVersion o (some event) now t)

end Control
end Bildr
