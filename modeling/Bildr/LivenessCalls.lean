import Bildr.ControlTables
/-!
# LivenessCalls — the store's calls on liveness episodes

Opening an episode, recording an observation, recording a receipt.  An identical repetition of an observation or a
receipt is answered with the current episode.  Waiting looks for its receipt, reads the episode and records a receipt
under three locks; pausing does the same under one.
-/
namespace Bildr
namespace Control

open Json (Value)

/-! ## Rows -/

def rowOfEpisode (e : LivenessEpisode) : LivenessRow :=
  ⟨e.episodeId, e.attemptId, e.state, e.version, e.updatedAtMs, e⟩

def readEpisode (w : Wire) (row : LivenessRow) : Except StoreError LivenessEpisode := do
  ensure (row.payload.validate w).isOk (.sqlite .fromSqlConversionFailure)
  return row.payload

def checkedObservation (w : Wire) (o : LivenessObservation) : Except StoreError LivenessObservation := do
  ensure (o.validate w).isOk (.sqlite .fromSqlConversionFailure)
  return o

def checkedReceipt (w : Wire) (r : InterventionReceipt) : Except StoreError InterventionReceipt := do
  ensure (r.validate w).isOk (.sqlite .fromSqlConversionFailure)
  return r

def noEpisode (id : String) : StoreError := .notFound ("liveness episode " ++ id)

/-- `UPDATE liveness_episodes SET … WHERE id=… AND version=…`, which has to change one row. -/
def casEpisode (t : ControlTables) (id : String) (expected : Int) (f : LivenessRow → LivenessRow)
    (hf : ∀ r, (f r).id = r.id) (why : String) : Except StoreError ControlTables := do
  ensure ((t.episodes.get id).any (fun r => r.version == expected)) (.conflict why)
  return { t with episodes := t.episodes.update (fun r => r.id == id) f hf }

/-! ## Opening -/

def activeEpisode (t : ControlTables) (attempt : Option String) : Option LivenessRow :=
  t.episodes.rows.find? (fun r => r.attemptId == attempt && !decide (r.state = .terminal))

def openEpisodeBody (w : Wire) (e : LivenessEpisode) (t : ControlTables) :
    Except StoreError (LivenessEpisode × ControlTables) := do
  e.validate w
  ensure (e.runId.isSome && e.taskId.isSome && e.attemptId.isSome)
    (.validation "a liveness episode requires exact run, task, and attempt identity")
  ensure (e.version == 1 && !decide (e.state = .terminal))
    (.validation "a new liveness episode must start at version one in a nonterminal state")
  match t.episodes.get e.episodeId with
  | some row => do
    let existing ← readEpisode w row
    ensure (existing == e) (.conflict ("liveness episode " ++ e.episodeId ++ " already has different content"))
    return (existing, t)
  | none =>
    match activeEpisode t e.attemptId with
    | some row => do
      let existing ← readEpisode w row
      .error (.conflict ("attempt " ++ e.attemptId.getD "" ++ " already has active liveness episode " ++
        existing.episodeId))
    | none => do
      let episodes ← insertRow t.episodes (rowOfEpisode e)
      return (e, { t with episodes := episodes })

def openLivenessEpisode (w : Wire) (e : LivenessEpisode) : Call ControlTables LivenessEpisode :=
  transaction (openEpisodeBody w e)

/-! ## Observations -/

/-- `WHERE episode_id=… AND observation_kind=… AND source_event_id=…`. -/
def findObservation (t : ControlTables) (o : LivenessObservation) : Option LivenessObservation :=
  t.observations.rows.find? (fun r => r.episodeId == o.episodeId && decide (r.observationKind = o.observationKind) &&
    r.sourceEventId == o.sourceEventId)

def observed (w : Wire) (e : LivenessEpisode) (o : LivenessObservation) : LivenessEpisode :=
  LivenessEpisode.signed w { reduceEpisode e o with
    version := e.version + 1, updatedAtMs := max o.observedAtMs e.updatedAtMs }

def LivenessRow.revise (e : LivenessEpisode) (r : LivenessRow) : LivenessRow :=
  { r with state := e.state, version := e.version, updatedAt := e.updatedAtMs, payload := e }

def observeEpisode (w : Wire) (o : LivenessObservation) (expected : Int) (t : ControlTables) :
    Except StoreError (LivenessEpisode × ControlTables) := do
  let row ← okOr (t.episodes.get o.episodeId) (noEpisode o.episodeId)
  let e ← readEpisode w row
  let version ← toI64 e.version "liveness episode version"
  ensure (version == expected) (.conflict ("liveness episode " ++ o.episodeId ++ " has version " ++ toString e.version ++
    ", expected " ++ toString expected))
  ensure (!decide (e.state = .terminal))
    (.conflict "a terminal liveness episode cannot accept another observation")
  ensure (decide (e.openedAtMs ≤ o.observedAtMs)) (.validation "liveness observation predates the episode")
  ensure (decide (e.version < Usage.u64Max)) (.validation "liveness episode version overflow")
  let next := observed w e o
  next.validate w
  let _ ← toI64 next.version "liveness episode version"
  let t ← casEpisode t o.episodeId expected (LivenessRow.revise next) (fun _ => rfl)
    ("liveness episode " ++ o.episodeId ++ " changed during observation reduction")
  require (findObservation t o).isNone
  let observations ← insertRow t.observations o
  return (next, { t with observations := observations })

def observationBody (w : Wire) (episodeId : String) (expectedVersion : Nat) (o : LivenessObservation)
    (t : ControlTables) : Except StoreError (LivenessEpisode × ControlTables) := do
  o.validate w
  ensure (o.episodeId == episodeId) (.validation "liveness observation must bind the requested episode")
  let link ← livenessObservationCorrelationLink w o
  let expected ← toI64 expectedVersion "liveness expected version"
  match findObservation t o with
  | some row => do
    let existing ← checkedObservation w row
    ensure (existing == o) (.conflict "liveness observation source event already has different content")
    let found ← queryRow (t.episodes.get episodeId)
    let e ← readEpisode w found
    let links ← recordCorrelationLinkInTransaction t.links link
    return (e, { t with links := links })
  | none => do
    let (e, t) ← observeEpisode w o expected t
    let links ← recordCorrelationLinkInTransaction t.links link
    return (e, { t with links := links })

def recordLivenessObservation (w : Wire) (episodeId : String) (expectedVersion : Nat) (o : LivenessObservation) :
    Call ControlTables LivenessEpisode :=
  transaction (observationBody w episodeId expectedVersion o)

def livenessEpisode (w : Wire) (id : String) (t : ControlTables) : Except StoreError (Option LivenessEpisode) :=
  match t.episodes.get id with
  | none     => .ok none
  | some row => (readEpisode w row).map some

/-! ## Receipts -/

/-- `WHERE episode_id=… AND kind=… AND source_event_id=…`. -/
def findReceipt (t : ControlTables) (r : InterventionReceipt) : Option InterventionReceipt :=
  t.receipts.rows.find? (fun q => q.episodeId == r.episodeId && decide (q.kind = r.kind) &&
    q.sourceEventId == r.sourceEventId)

def intervened (w : Wire) (e : LivenessEpisode) (r : InterventionReceipt) : LivenessEpisode :=
  let updated := max e.updatedAtMs r.createdAtMs
  LivenessEpisode.signed w { e with
    interventionCount := e.interventionCount + 1, version := e.version + 1, updatedAtMs := updated
    nextReviewAtMs := e.nextReviewAtMs.map (fun v => if v < updated then updated else v) }

/-- As `revise`, without the state. -/
def LivenessRow.count (e : LivenessEpisode) (r : LivenessRow) : LivenessRow :=
  { r with version := e.version, updatedAt := e.updatedAtMs, payload := e }

def u32Max : Nat := 4294967295

def replayReceipt (w : Wire) (r existing : InterventionReceipt) (link : CorrelationLink) (why : String)
    (t : ControlTables) : Except StoreError (LivenessEpisode × ControlTables) := do
  let existing ← checkedReceipt w existing
  ensure (existing == r) (.conflict why)
  let row ← okOr (t.episodes.get r.episodeId) (noEpisode r.episodeId)
  let e ← readEpisode w row
  let links ← recordCorrelationLinkInTransaction t.links link
  return (e, { t with links := links })

def interveneEpisode (w : Wire) (r : InterventionReceipt) (t : ControlTables) :
    Except StoreError (LivenessEpisode × ControlTables) := do
  let row ← okOr (t.episodes.get r.episodeId) (noEpisode r.episodeId)
  let e ← readEpisode w row
  ensure (e.version == r.targetVersion) (.conflict ("liveness episode " ++ r.episodeId ++ " has version " ++
    toString e.version ++ ", intervention requires " ++ toString r.targetVersion))
  ensure (!decide (e.state = .terminal))
    (.conflict "a terminal liveness episode cannot accept an intervention receipt")
  ensure (decide (e.openedAtMs ≤ r.createdAtMs)) (.validation "intervention receipt predates the liveness episode")
  ensure (decide (e.interventionCount < u32Max)) (.validation "liveness intervention count overflow")
  ensure (decide (e.version < Usage.u64Max)) (.validation "liveness episode version overflow")
  let next := intervened w e r
  next.validate w
  let _ ← toI64 next.version "liveness episode version"
  let expected ← toI64 r.targetVersion "intervention target version"
  let t ← casEpisode t r.episodeId expected (LivenessRow.count next) (fun _ => rfl)
    ("liveness episode " ++ r.episodeId ++ " changed during intervention recording")
  let receipts ← insertRow t.receipts r
  return (next, { t with receipts := receipts })

def recordInterventionReceiptInTransaction (w : Wire) (r : InterventionReceipt) (t : ControlTables) :
    Except StoreError (LivenessEpisode × ControlTables) := do
  r.validate w
  let link ← interventionCorrelationLink w r
  match t.receipts.get r.interventionId, findReceipt t r with
  | some existing, _ =>
    replayReceipt w r existing link "intervention receipt id already has different content" t
  | none, some existing =>
    replayReceipt w r existing link "intervention source event already has different content" t
  | none, none => do
    let (e, t) ← interveneEpisode w r t
    let links ← recordCorrelationLinkInTransaction t.links link
    return (e, { t with links := links })

def recordInterventionReceipt (w : Wire) (r : InterventionReceipt) : Call ControlTables LivenessEpisode :=
  transaction (recordInterventionReceiptInTransaction w r)

/-! ## Waiting and pausing -/

structure Intervention where
  episodeId : String
  expectedVersion : Nat
  requestedBy : String
deriving DecidableEq

/-- What distinguishes the two interventions: the kind, the policy, the texts. -/
structure InterventionPolicy where
  kind : InterventionKind
  policyVersion : String
  domain : String
  stem : String

def waitPolicy : InterventionPolicy := ⟨.wait, "operator_control_wait_v1", "harness.liveness-wait.v1", "wait"⟩

def pausePolicy : InterventionPolicy :=
  ⟨.pauseForOperator, "operator_control_pause_for_operator_v1", "harness.liveness-pause-for-operator.v1", "pause"⟩

def interventionIdentity (w : Wire) (p : InterventionPolicy) (q : Intervention) : String :=
  (w.sha256 (p.domain ++ "\x00" ++ q.episodeId ++ "\x00" ++ toString q.expectedVersion ++ "\x00" ++ q.requestedBy)).take 32

def interventionIdOf (w : Wire) (p : InterventionPolicy) (q : Intervention) : String :=
  "intervention-" ++ p.stem ++ "-" ++ interventionIdentity w p q

def interventionSourceOf (w : Wire) (p : InterventionPolicy) (q : Intervention) : String :=
  "liveness-" ++ p.stem ++ "-" ++ interventionIdentity w p q

def matchesRequest (w : Wire) (p : InterventionPolicy) (q : Intervention) (r : InterventionReceipt) : Bool :=
  r.episodeId == q.episodeId && decide (r.kind = p.kind) && r.sourceEventId == interventionSourceOf w p q &&
    r.targetVersion == q.expectedVersion && r.policyVersion == p.policyVersion && r.requestedBy == q.requestedBy

def newReceipt (w : Wire) (p : InterventionPolicy) (q : Intervention) (e : LivenessEpisode) (now : Int) :
    Except StoreError InterventionReceipt := do
  validateIdentifier (interventionIdOf w p q) "InterventionId"
  return InterventionReceipt.signed w ⟨"harness.intervention-receipt.v1", interventionIdOf w p q, q.episodeId, p.kind,
    interventionSourceOf w p q, q.expectedVersion, p.policyVersion, q.requestedBy, max now e.updatedAtMs, ""⟩

/-- First lock of a wait: the receipt the request stored before, if it did. -/
def waitLookup (w : Wire) (q : Intervention) (t : ControlTables) : Except StoreError (Option InterventionReceipt) :=
  match t.receipts.get (interventionIdOf w waitPolicy q) with
  | none => .ok none
  | some r => do
    let r ← checkedReceipt w r
    ensure (matchesRequest w waitPolicy q r)
      (.conflict "wait intervention identity already has different content")
    return some r

/-- Second lock of a wait: the episode, at the expected version; then the receipt is made. -/
def waitReceipt (w : Wire) (q : Intervention) (now : Int) (t : ControlTables) :
    Except StoreError InterventionReceipt := do
  let found ← livenessEpisode w q.episodeId t
  let e ← okOr found (noEpisode q.episodeId)
  ensure (e.version == q.expectedVersion) (.conflict ("liveness episode " ++ q.episodeId ++ " has version " ++
    toString e.version ++ ", wait requires " ++ toString q.expectedVersion))
  newReceipt w waitPolicy q e now

/-- `execute_wait_intervention` with nothing in between: each lock sees what the one before left. -/
def executeWaitIntervention (w : Wire) (q : Intervention) (now : Int) : Call ControlTables LivenessEpisode := fun t =>
  match waitLookup w q t with
  | .error e       => (.error e, t)
  | .ok (some r)   => recordInterventionReceipt w r t
  | .ok none =>
    match waitReceipt w q now t with
    | .error e => (.error e, t)
    | .ok r    => recordInterventionReceipt w r t

/-- `json!` sorts the keys of the action's payload. -/
def pauseActionPayload (q : Intervention) (e : LivenessEpisode) (r : InterventionReceipt) (wasPaused : Bool) : Value :=
  .obj [("episode_id", .str q.episodeId), ("episode_sha256", .str e.sha256), ("intervention_id", .str r.interventionId),
    ("intervention_sha256", .str r.sha256), ("scheduler_was_paused", .bool wasPaused),
    ("schema", .str "harness.liveness-pause-intervention.v1"), ("target_version", ofNat q.expectedVersion)]

/-- `max(id)+1` of an `INTEGER PRIMARY KEY`. -/
def nextActionId (t : ControlTables) : Int := t.humanActions.rows.foldl (fun m a => max m a.id) 0 + 1

def pauseBody (w : Wire) (q : Intervention) (now : Int) (t : ControlTables) :
    Except StoreError (LivenessEpisode × ControlTables) := do
  match t.receipts.get (interventionIdOf w pausePolicy q) with
  | some r => do
    let r ← checkedReceipt w r
    ensure (matchesRequest w pausePolicy q r)
      (.conflict "pause-for-operator intervention identity already has different content")
    recordInterventionReceiptInTransaction w r t
  | none => do
    let row ← okOr (t.episodes.get q.episodeId) (noEpisode q.episodeId)
    let e ← readEpisode w row
    ensure (e.version == q.expectedVersion) (.conflict ("liveness episode " ++ q.episodeId ++ " has version " ++
      toString e.version ++ ", pause requires " ++ toString q.expectedVersion))
    ensure (decide (e.state = .confirmedStall) || decide (e.state = .recoveryRequired))
      (.conflict "pause-for-operator requires a confirmed-stall or recovery-required liveness episode")
    let runId ← okOr e.runId
      (.validation "pause-for-operator requires a liveness episode with an exact run identity")
    let run ← okOr (t.runs.get runId) (.notFound ("run " ++ runId))
    let r ← newReceipt w pausePolicy q e now
    let humanActions ← insertRow t.humanActions ⟨nextActionId t, some runId, none, q.requestedBy,
      "pause_scheduler_from_liveness", "liveness_episode", q.episodeId, r.createdAtMs,
      pauseActionPayload q e r run.schedulerPaused⟩
    let runs := if run.schedulerPaused then t.runs else t.runs.update (fun x => x.id == runId)
      (fun x => { x with schedulerPaused := true, updatedAt := r.createdAtMs, version := x.version + 1 }) (fun _ => rfl)
    recordInterventionReceiptInTransaction w r { t with humanActions := humanActions, runs := runs }

def executePauseForOperatorIntervention (w : Wire) (q : Intervention) (now : Int) : Call ControlTables LivenessEpisode :=
  transaction (pauseBody w q now)

end Control
end Bildr
