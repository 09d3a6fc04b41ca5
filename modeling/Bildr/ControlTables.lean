import Bildr.PlanContract
import Bildr.Reconciliation
/-!
# ControlTables — the tables of the control plane

Observations, receipts, findings, proofs and links are never changed once they are stored, and their columns are fields
of their payloads: a row is the record.  The rows of episodes change and keep the columns apart from the payload.  Of the
controller's own tables only the columns are kept that a call of the control plane reads or writes.
-/
namespace Bildr
namespace Control

open Json (Value)

structure LivenessRow where
  id : String
  attemptId : Option String
  state : LivenessState
  version : Int
  updatedAt : Int
  payload : LivenessEpisode
deriving DecidableEq

structure ReconciliationRow where
  id : String
  runId : Option String
  triggerKind : ReconciliationTrigger
  state : ReconciliationState
  version : Int
  updatedAt : Int
  payload : ReconciliationEpisode
deriving DecidableEq

/-- `UNIQUE(episode_id,kind,source_event_id)`. -/
def ReconciliationFinding.key (f : ReconciliationFinding) : String × ReconciliationFindingKind × String :=
  (f.episodeId, f.kind, f.sourceEventId)

structure ActionRow where
  id : Nat
  receipt : ReconciliationActionReceipt

structure Consumption where
  proofId : String
  episodeId : String
  actionId : Nat
  taskId : String
  priorAttemptId : String
  replacementAttemptId : String
  consumedAt : Int
deriving DecidableEq

structure RunRow where
  id : String
  schedulerPaused : Bool
  updatedAt : Int
  version : Int
deriving DecidableEq

structure HumanAction where
  id : Int
  runId : Option String
  taskAttemptId : Option String
  actor : String
  actionType : String
  targetType : String
  targetId : String
  occurredAt : Int
  payload : Value
deriving DecidableEq

structure TaskRow where
  id : String
  runId : String
  externalTaskId : String
  state : TaskState
  currentAttemptNumber : Int
  version : Int
deriving DecidableEq

structure AttemptRow where
  id : String
  taskId : String
  attemptNumber : Int
  state : String
  taskPacketJson : String
  taskPacketSha256 : String
  baseSha : String
  headSha : Option String
  requestedModelRoute : String
deriving DecidableEq

structure WorktreeRow where
  id : String
  taskAttemptId : Option String
  runId : String
  headSha : Option String
  state : String
deriving DecidableEq

structure PathLeaseRow where
  taskAttemptId : String
  releasedAt : Option Int
deriving DecidableEq

structure AgentSessionRow where
  taskAttemptId : Option String
  state : String
deriving DecidableEq

/-- What the controller keeps about work: its tasks, their attempts, and what an attempt holds. -/
structure Custody where
  tasks : Table TaskRow.id
  attempts : Table AttemptRow.id
  worktrees : Table WorktreeRow.id
  pathLeases : List PathLeaseRow
  agentSessions : List AgentSessionRow
  commandRuns : List (Option String)
  taskResults : Table (id : String → String)

structure ControlTables where
  links : Links
  episodes : Table LivenessRow.id
  observations : Table LivenessObservation.observationId
  receipts : Table InterventionReceipt.interventionId
  reconciliations : Table ReconciliationRow.id
  findings : Table ReconciliationFinding.key
  actions : Table ActionRow.id
  proofs : Table OwnershipProof.proofId
  consumptions : Table Consumption.proofId
  runs : Table RunRow.id
  humanActions : Table HumanAction.id
  custody : Custody

def Custody.empty : Custody := ⟨∅, ∅, ∅, [], [], [], ∅⟩

def ControlTables.empty : ControlTables := ⟨∅, ∅, ∅, ∅, ∅, ∅, ∅, ∅, ∅, ∅, ∅, Custody.empty⟩

/-! ## What a call leaves alone -/

structure Quiet (t t' : ControlTables) : Prop where
  episodes : t'.episodes = t.episodes
  observations : t'.observations = t.observations
  receipts : t'.receipts = t.receipts

structure Calm (t t' : ControlTables) : Prop where
  reconciliations : t'.reconciliations = t.reconciliations
  findings : t'.findings = t.findings
  actions : t'.actions = t.actions

theorem Quiet.refl (t : ControlTables) : Quiet t t := ⟨rfl, rfl, rfl⟩

theorem Calm.refl (t : ControlTables) : Calm t t := ⟨rfl, rfl, rfl⟩

end Control
end Bildr
