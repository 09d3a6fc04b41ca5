import Bildr.SortedSet
import Bildr.Store
import Mathlib.Data.String.Basic
/-!
# FailureLedger — failure clusters in memory

The ledger of `harness-learning`: occurrences with their reclassifications, clusters with a revision, and one log of
memberships for all clusters, of which the last entry of an occurrence counts.  Every operation checks first and then
changes the ledger without failing.
-/
namespace Bildr
namespace Failure

inductive FailureClass
  | unknown | policyBlocked | budgetExhausted | infrastructureUnavailable | protocolError | integrationConflict
  | sourceFailure | inconclusive | cancelledSuperseded
deriving DecidableEq, Repr

inductive MembershipAction
  | assigned | merged | split
deriving DecidableEq, Repr

inductive EditReason
  | operatorCorrection | duplicateCluster | distinctFailureMode | sourceCorrection
deriving DecidableEq, Repr

structure ClassificationRevision where
  revision : Nat
  failureClass : FailureClass
  actor : String
  reasonCode : EditReason
deriving DecidableEq, Repr

structure FailureOccurrence where
  occurrenceId : String
  classificationRevisions : List ClassificationRevision
deriving DecidableEq, Repr

def FailureOccurrence.revision (o : FailureOccurrence) : Nat := o.classificationRevisions.length

structure FailureCluster where
  clusterId : String
  revision : Nat
deriving DecidableEq, Repr

structure MembershipRevision where
  occurrenceId : String
  clusterId : String
  revision : Nat
  action : MembershipAction
  actor : String
  reasonCode : EditReason
deriving DecidableEq, Repr

inductive ClusterEdit
  | merged (source target actor : String) (reason : EditReason)
  | split (source : String) (targets : List String) (actor : String) (reason : EditReason)
deriving DecidableEq, Repr

inductive LearningError
  | invalidOccurrence (id : String)
  | invalidCost
  | invalidWire (what : String)
  | duplicateOccurrence (id : String)
  | duplicateCluster (id : String)
  | unknownOccurrence (id : String)
  | unknownCluster (id : String)
  | staleOccurrence (id : String) (expected actual : Nat)
  | staleCluster (id : String) (expected actual : Nat)
  | alreadyClustered (id : String)
  | notClusterMember (occurrence cluster : String)
  | invalidMerge
  | invalidSplit
deriving DecidableEq, Repr

structure FailureLedger where
  occurrences : Table FailureOccurrence.occurrenceId
  clusters : Table FailureCluster.clusterId
  memberships : List MembershipRevision
  clusterEdits : List ClusterEdit

/-- A move of a split: the occurrence, its new cluster and that cluster's expected revision. -/
structure SplitMove where
  occurrenceId : String
  targetClusterId : String
  expectedTargetVersion : Nat
deriving DecidableEq, Repr

namespace FailureLedger

/-- The cluster of an occurrence after the log, as the map built by `current_members` holds it. -/
def currentCluster (log : List MembershipRevision) (occurrence : String) : Option String :=
  log.foldl (fun c m => if m.occurrenceId == occurrence then some m.clusterId else c) none

def currentMembers (l : FailureLedger) (cluster : String) : List String :=
  SortedSet.ofList ((l.memberships.map MembershipRevision.occurrenceId).filter
    (fun o => decide (currentCluster l.memberships o = some cluster)))

def requireOccurrence (l : FailureLedger) (id : String) : Except LearningError Unit :=
  ensure (l.occurrences.get id).isSome (.unknownOccurrence id)

def requireClusterRevision (l : FailureLedger) (id : String) (expected : Nat) : Except LearningError Unit := do
  let c ← okOr (l.clusters.get id) (.unknownCluster id)
  ensure (c.revision == expected) (.staleCluster id expected c.revision)

def appendMembership (l : FailureLedger) (occurrence cluster : String) (action : MembershipAction) (actor : String)
    (reason : EditReason) : FailureLedger :=
  { l with memberships := l.memberships ++ [⟨occurrence, cluster, l.memberships.length + 1, action, actor, reason⟩] }

def bumped (c : FailureCluster) : FailureCluster := { c with revision := c.revision + 1 }

theorem bumped_id (c : FailureCluster) : (bumped c).clusterId = c.clusterId := rfl

def bumpCluster (l : FailureLedger) (id : String) : FailureLedger :=
  { l with clusters := l.clusters.update (fun c => c.clusterId == id) bumped bumped_id }

/-! ## The operations -/

def createCluster (l : FailureLedger) (id : String) : Except LearningError FailureLedger := do
  ensure (id != "") (.duplicateCluster id)
  let clusters ← okOr (l.clusters.insert ⟨id, 0⟩) (.duplicateCluster id)
  return { l with clusters := clusters }

def reclassified (failureClass : FailureClass) (actor : String) (reason : EditReason) (o : FailureOccurrence) :
    FailureOccurrence :=
  { o with classificationRevisions := o.classificationRevisions ++ [⟨o.revision + 1, failureClass, actor, reason⟩] }

theorem reclassified_id (failureClass : FailureClass) (actor : String) (reason : EditReason) (o : FailureOccurrence) :
    (reclassified failureClass actor reason o).occurrenceId = o.occurrenceId := rfl

def reclassify (l : FailureLedger) (occurrence : String) (expected : Nat) (failureClass : FailureClass)
    (actor : String) (reason : EditReason) : Except LearningError FailureLedger := do
  let o ← okOr (l.occurrences.get occurrence) (.unknownOccurrence occurrence)
  ensure (o.revision == expected) (.staleOccurrence occurrence expected o.revision)
  return { l with
    occurrences := l.occurrences.update (fun o => o.occurrenceId == occurrence) (reclassified failureClass actor reason)
      (reclassified_id failureClass actor reason) }

def assign (l : FailureLedger) (occurrence cluster : String) (expected : Nat) (actor : String) (reason : EditReason) :
    Except LearningError FailureLedger := do
  l.requireOccurrence occurrence
  ensure (!l.memberships.any (fun m => m.occurrenceId == occurrence)) (.alreadyClustered occurrence)
  l.requireClusterRevision cluster expected
  return (l.appendMembership occurrence cluster .assigned actor reason).bumpCluster cluster

def mergeChecks (l : FailureLedger) (source : String) (expectedSource : Nat) (target : String) (expectedTarget : Nat) :
    Except LearningError Unit := do
  ensure (source != target) .invalidMerge
  l.requireClusterRevision source expectedSource
  l.requireClusterRevision target expectedTarget

def merge (l : FailureLedger) (source : String) (expectedSource : Nat) (target : String) (expectedTarget : Nat)
    (actor : String) (reason : EditReason) : Except LearningError FailureLedger := do
  l.mergeChecks source expectedSource target expectedTarget
  let moved := (l.currentMembers source).foldl (fun l o => l.appendMembership o target .merged actor reason) l
  let edited := { moved with clusterEdits := moved.clusterEdits ++ [ClusterEdit.merged source target actor reason] }
  return (edited.bumpCluster source).bumpCluster target

/-- One move of a split, with the occurrences and targets before it. -/
def checkMove (l : FailureLedger) (source : String) (members : List String) (acc : List String × List String)
    (m : SplitMove) : Except LearningError (List String × List String) := do
  ensure (m.targetClusterId != source && !acc.1.contains m.occurrenceId) .invalidSplit
  ensure (members.contains m.occurrenceId) (.notClusterMember m.occurrenceId source)
  l.requireClusterRevision m.targetClusterId m.expectedTargetVersion
  return (m.occurrenceId :: acc.1, m.targetClusterId :: acc.2)

def splitChecks (l : FailureLedger) (source : String) (expectedSource : Nat) (moves : List SplitMove) :
    Except LearningError (List String) := do
  l.requireClusterRevision source expectedSource
  ensure (!moves.isEmpty) .invalidSplit
  let acc ← moves.foldlM (l.checkMove source (l.currentMembers source)) ([], [])
  return SortedSet.ofList acc.2

def split (l : FailureLedger) (source : String) (expectedSource : Nat) (moves : List SplitMove) (actor : String)
    (reason : EditReason) : Except LearningError FailureLedger := do
  let targets ← l.splitChecks source expectedSource moves
  let moved := moves.foldl (fun l m => l.appendMembership m.occurrenceId m.targetClusterId .split actor reason) l
  let bumped := targets.foldl bumpCluster (moved.bumpCluster source)
  return { bumped with clusterEdits := bumped.clusterEdits ++ [.split source targets actor reason] }

end FailureLedger
end Failure
end Bildr
