import Bildr.Json
import Bildr.Store
/-!
# RunLifecycle — runs and their transitions

`transitionRun` is the only call that moves a run between states; it is optimistic on the row's version and writes one
`run.lifecycle.transitioned` event in the same transaction.  The other calls set columns of the row in statements of
their own.  Titles, objectives, branches and digests that `create_run` only passes on are left out.
-/
namespace Bildr
namespace Run

open Json (Value)

inductive RunState
  | created | preparing | interviewing | readyForArchitecture | architecting | planAdversarialReview
  | planRevisionRequired | planReviewRequired | readyToExecute | executing | taskVerification | integrationReady
  | integrating | integrationVerification | finalAudit | humanReview | publicationReady | draftPrCreated | completed
  | paused | blocked | stopping | canceled | failed | archived
deriving DecidableEq, Repr

def RunState.name : RunState → String
  | .created                 => "CREATED"
  | .preparing               => "PREPARING"
  | .interviewing            => "INTERVIEWING"
  | .readyForArchitecture    => "READY_FOR_ARCHITECTURE"
  | .architecting            => "ARCHITECTING"
  | .planAdversarialReview   => "PLAN_ADVERSARIAL_REVIEW"
  | .planRevisionRequired    => "PLAN_REVISION_REQUIRED"
  | .planReviewRequired      => "PLAN_REVIEW_REQUIRED"
  | .readyToExecute          => "READY_TO_EXECUTE"
  | .executing               => "EXECUTING"
  | .taskVerification        => "TASK_VERIFICATION"
  | .integrationReady        => "INTEGRATION_READY"
  | .integrating             => "INTEGRATING"
  | .integrationVerification => "INTEGRATION_VERIFICATION"
  | .finalAudit              => "FINAL_AUDIT"
  | .humanReview             => "HUMAN_REVIEW"
  | .publicationReady        => "PUBLICATION_READY"
  | .draftPrCreated          => "DRAFT_PR_CREATED"
  | .completed               => "COMPLETED"
  | .paused                  => "PAUSED"
  | .blocked                 => "BLOCKED"
  | .stopping                => "STOPPING"
  | .canceled                => "CANCELED"
  | .failed                  => "FAILED"
  | .archived                => "ARCHIVED"

def RunState.all : List RunState :=
  [.created, .preparing, .interviewing, .readyForArchitecture, .architecting, .planAdversarialReview,
    .planRevisionRequired, .planReviewRequired, .readyToExecute, .executing, .taskVerification, .integrationReady,
    .integrating, .integrationVerification, .finalAudit, .humanReview, .publicationReady, .draftPrCreated, .completed,
    .paused, .blocked, .stopping, .canceled, .failed, .archived]

def RunState.parse (text : String) : Option RunState := RunState.all.find? (fun s => s.name == text)

def RunState.isTerminal (s : RunState) : Bool := [.completed, .canceled, .failed, .archived].contains s

def RunState.moves : RunState → List RunState
  | .created                 => [.preparing]
  | .preparing               => [.interviewing, .readyForArchitecture]
  | .interviewing            => [.readyForArchitecture]
  | .readyForArchitecture    => [.architecting]
  | .architecting            => [.readyForArchitecture, .planRevisionRequired, .planAdversarialReview]
  | .planAdversarialReview   => [.planRevisionRequired, .planReviewRequired]
  | .planRevisionRequired    => [.architecting]
  | .planReviewRequired      => [.planAdversarialReview, .planRevisionRequired, .completed, .readyToExecute]
  | .readyToExecute          => [.executing]
  | .executing               => [.taskVerification]
  | .taskVerification        => [.integrationReady]
  | .integrationReady        => [.integrating]
  | .integrating             => [.integrationVerification]
  | .integrationVerification => [.finalAudit]
  | .finalAudit              => [.executing, .humanReview]
  | .humanReview             => [.executing, .publicationReady]
  | .publicationReady        => [.draftPrCreated, .completed]
  | .draftPrCreated          => [.completed]
  | .paused                  => [.readyToExecute, .executing, .taskVerification]
  | .blocked                 => [.interviewing, .readyForArchitecture, .planAdversarialReview, .planRevisionRequired,
      .planReviewRequired, .readyToExecute, .executing]
  | .stopping                => [.canceled]
  | .completed               => [.archived]
  | .canceled                => [.archived]
  | .failed                  => [.archived]
  | .archived                => []

def RunState.canTransitionTo (s next : RunState) : Bool :=
  if s = next then true
  else if [.paused, .blocked, .stopping, .canceled, .failed].contains next then !s.isTerminal
  else s.moves.contains next

/-! ## Tables -/

structure NewRun where
  id : String
  repositoryId : String
  state : String
  phase : String
  tokenBudget : Option Nat

/-- A row of `runs`.  A version that leaves the 64-bit integers is stored as a float, which no read accepts. -/
structure RunRow where
  id : String
  repositoryId : String
  state : String
  phase : String
  integrationBranch : Option String
  integrationSha : Option String
  schedulerPaused : Bool
  runTokenBudget : Option Int
  updatedAt : Int
  startedAt : Option Int
  completedAt : Option Int
  failureClass : Option String
  failureReason : Option String
  pinned : Bool
  version : Nat
deriving DecidableEq

structure DomainEvent where
  id : Nat
  runId : Option String
  aggregateType : String
  aggregateId : String
  eventType : String
  occurredAt : Int
  payload : Value
deriving DecidableEq

structure Tables where
  repositories : List String
  runs : Table RunRow.id
  events : List DomainEvent
  sequence : Nat

structure RunSummary where
  id : String
  repositoryId : String
  state : RunState
  phase : String
  integrationBranch : Option String
  integrationSha : Option String
  startedAt : Option Int
  completedAt : Option Int
  failureReason : Option String
  schedulerPaused : Bool
  runTokenBudget : Option Nat
  pinned : Bool
  version : Nat
deriving DecidableEq

/-- `value as u64`, for an `i64`. -/
def asU64 (n : Int) : Nat := (n % 18446744073709551616).toNat

def mapRun (r : RunRow) : Except StoreError RunSummary := do
  let state ← okOr (RunState.parse r.state) (.sqlite .fromSqlConversionFailure)
  ensure (fitsI64 r.version) (.sqlite .fromSqlConversionFailure)
  return ⟨r.id, r.repositoryId, state, r.phase, r.integrationBranch, r.integrationSha, r.startedAt, r.completedAt,
    r.failureReason, r.schedulerPaused, r.runTokenBudget.map asU64, r.pinned, r.version⟩

def readRun (t : Tables) (id : String) : Except StoreError RunSummary := do
  let r ← okOr (t.runs.get id) (.notFound ("run " ++ id))
  mapRun r

def thenRead (id : String) : Call Tables RunSummary := fun t => (readRun t id, t)

/-! ## Calls -/

def NewRun.row (i : NewRun) (now : Int) : RunRow :=
  ⟨i.id, i.repositoryId, i.state, i.phase, none, none, false, i.tokenBudget.map asI64, now, some now, none, none, none,
    false, 1⟩

def insertRun (i : NewRun) (now : Int) (t : Tables) : Except StoreError Tables := do
  require (t.repositories.contains i.repositoryId)
  let runs ← insertRow t.runs (i.row now)
  return { t with runs := runs }

def createRun (i : NewRun) (now : Int) : Call Tables RunSummary :=
  (commit (insertRun i now)).andThen (fun _ => thenRead i.id)

/-- The columns a transition sets; the time of completion is `coalesce(?5,completed_at)`. -/
def RunRow.transitioned (r : RunRow) (next : RunState) (phase : String) (failure : Option (String × String)) (now : Int) :
    RunRow :=
  { r with
    state := next.name, phase := phase, updatedAt := now,
    completedAt := (if next.isTerminal then some now else none).or r.completedAt,
    failureClass := failure.map Prod.fst, failureReason := failure.map Prod.snd, version := r.version + 1 }

def lifecyclePayload (prior next : RunState) (phase : String) (version : Nat) (failureClass : Option String) : Value :=
  .obj [("failure_class", (failureClass.map Value.str).getD .null), ("next_state", .str next.name),
    ("phase", .str phase), ("prior_state", .str prior.name), ("run_version", .num (.pos version))]

/-- `INSERT INTO domain_events`. -/
def Tables.appendEvent (t : Tables) (run aggregateType aggregateId eventType : String) (now : Int) (payload : Value) :
    Tables :=
  { t with
    events := t.events ++ [⟨t.sequence + 1, some run, aggregateType, aggregateId, eventType, now, payload⟩],
    sequence := t.sequence + 1 }

def transitionRun (id : String) (next : RunState) (phase : String) (expected : Option Nat)
    (failure : Option (String × String)) (now : Int) : Call Tables RunSummary :=
  transaction (fun t => do
    let current ← readRun t id
    ensure (expected.all (fun v => v == current.version))
      (.conflict ("run " ++ id ++ " is version " ++ toString current.version ++ ", not " ++ toString (expected.getD 0)))
    ensure (current.state.canTransitionTo next)
      (.conflict ("illegal run transition " ++ current.state.name ++ " -> " ++ next.name))
    ensure (fitsI64 current.version) (.validation "resource version exceeds SQLite range")
    let matched : RunRow → Bool := fun r => r.id == id && r.version == current.version
    ensure (t.runs.rows.any matched) (.conflict ("run " ++ id ++ " changed concurrently"))
    let t := { t with runs := t.runs.update matched (fun r => r.transitioned next phase failure now) (fun _ => rfl) }
    let t := t.appendEvent id "run" id "run.lifecycle.transitioned" now
      (lifecyclePayload current.state next phase (current.version + 1) (failure.map Prod.fst))
    let updated ← readRun t id
    return (updated, t))

/-- `UPDATE runs SET … WHERE id=?1`. -/
def updateRun (t : Tables) (id : String) (f : RunRow → RunRow) (hf : ∀ r, (f r).id = r.id) : Tables :=
  { t with runs := t.runs.update (fun r => r.id == id) f hf }

def changeRun (id : String) (f : RunRow → RunRow) (hf : ∀ r, (f r).id = r.id) : Call Tables Unit :=
  commit (fun t => do
    ensure (t.runs.get id).isSome (.notFound ("run " ++ id))
    return updateRun t id f hf)

def RunRow.paused (r : RunRow) (paused : Bool) (now : Int) : RunRow :=
  { r with schedulerPaused := paused, updatedAt := now, version := r.version + 1 }

def setSchedulerPaused (id : String) (paused : Bool) (now : Int) : Call Tables RunSummary :=
  (changeRun id (fun r => r.paused paused now) (fun _ => rfl)).andThen (fun _ => thenRead id)

def RunRow.budgeted (r : RunRow) (tokenBudget : Nat) (now : Int) : RunRow :=
  { r with
    runTokenBudget := some (asI64 tokenBudget), schedulerPaused := false, updatedAt := now, version := r.version + 1 }

def setRunTokenBudgetAndResume (id : String) (tokenBudget : Nat) (now : Int) : Call Tables RunSummary :=
  (changeRun id (fun r => r.budgeted tokenBudget now) (fun _ => rfl)).andThen (fun _ => thenRead id)

def RunRow.pin (r : RunRow) (pinned : Bool) (now : Int) : RunRow := { r with pinned := pinned, updatedAt := now }

def setRunPinned (id : String) (pinned : Bool) (now : Int) : Call Tables RunSummary :=
  (changeRun id (fun r => r.pin pinned now) (fun _ => rfl)).andThen (fun _ => thenRead id)

def RunRow.integrated (r : RunRow) (branch sha : Option String) (now : Int) : RunRow :=
  { r with integrationBranch := branch, integrationSha := sha, updatedAt := now, version := r.version + 1 }

def setRunIntegration (id branch sha : String) (now : Int) : Call Tables Unit := fun t =>
  (.ok (), updateRun t id (fun r => r.integrated (some branch) (some sha) now) (fun _ => rfl))

def clearRunIntegration (id : String) (now : Int) : Call Tables Unit :=
  changeRun id (fun r => r.integrated none none now) (fun _ => rfl)

end Run
end Bildr
