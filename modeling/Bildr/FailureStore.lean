import Bildr.FailureLedger
/-!
# FailureStore — failure clusters in the store

The same operations over SQLite tables.  A membership revision is the rowid, so the current membership of an occurrence
is its row with the largest revision; a merge or a split leaves a row in `failure_cluster_edits` whose key is a digest
of what the edit says.
-/
namespace Bildr
namespace Failure

structure OccurrenceRow where
  id : String
  repositoryId : String
deriving DecidableEq, Repr

structure ClusterRow where
  id : String
  repositoryId : String
  version : Nat
  createdAt : Int
deriving DecidableEq, Repr

structure ClassificationRow where
  occurrenceId : String
  revision : Nat
  failureClass : FailureClass
  actor : String
  reasonCode : EditReason
  createdAt : Int
deriving DecidableEq, Repr

def ClassificationRow.key (c : ClassificationRow) : String × Nat := (c.occurrenceId, c.revision)

structure MembershipRow where
  revision : Nat
  occurrenceId : String
  clusterId : String
  action : MembershipAction
  actor : String
  reasonCode : EditReason
  createdAt : Int
deriving DecidableEq, Repr

inductive EditAction
  | merged | split
deriving DecidableEq, Repr

def EditAction.text : EditAction → String
  | .merged => "merged"
  | .split  => "split"

def EditReason.text : EditReason → String
  | .operatorCorrection  => "operator_correction"
  | .duplicateCluster    => "duplicate_cluster"
  | .distinctFailureMode => "distinct_failure_mode"
  | .sourceCorrection    => "source_correction"

structure EditRow where
  id : String
  sourceClusterId : String
  targetClusterId : Option String
  action : EditAction
  actor : String
  reasonCode : EditReason
  targetClusterIds : List String
  createdAt : Int
deriving DecidableEq, Repr

structure Tables where
  repositories : List String
  occurrences : Table OccurrenceRow.id
  clusters : Table ClusterRow.id
  classifications : Table ClassificationRow.key
  memberships : Table MembershipRow.revision
  edits : Table EditRow.id

/-! ## Checks and queries -/

def identifierChar (c : Char) : Bool :=
  c.isAlphanum || c == '_' || c == '-' || c == '.' || c == ':'

/-- `validate_failure_identifier`; the characters it admits are one byte each. -/
def validIdentifier (value : String) : Bool :=
  value != "" && decide (value.toList.length ≤ 128) && value.toList.all identifierChar

def validateFailureIdentifier (value : String) : Except StoreError Unit :=
  ensure (validIdentifier value) (.validation "failure identifier must be an opaque bounded token")

def validateFailureActor (value : String) : Except StoreError Unit := validateFailureIdentifier value

def failureClusterRepository (t : Tables) (cluster : String) : Except StoreError String := do
  let c ← okOr (t.clusters.get cluster) (.notFound ("failure cluster " ++ cluster))
  return c.repositoryId

def requireFailureClusterVersion (t : Tables) (cluster : String) (expected : Nat) : Except StoreError Unit := do
  let c ← okOr (t.clusters.get cluster) (.notFound ("failure cluster " ++ cluster))
  ensure (c.version == expected) (.conflict ("stale failure cluster " ++ cluster))

/-- `max(revision)` over the rows of an occurrence. -/
def lastRevision (rows : List MembershipRow) (occurrence : String) : Nat :=
  Table.maxOf MembershipRow.revision (rows.filter (fun m => m.occurrenceId == occurrence))

def currentFailureMembers (t : Tables) (cluster : String) : List String :=
  SortedSet.ofList ((t.memberships.rows.filter (fun m => m.clusterId == cluster &&
    m.revision == lastRevision t.memberships.rows m.occurrenceId)).map MembershipRow.occurrenceId)

def nextRevision (rows : List MembershipRow) : Nat := Table.maxOf MembershipRow.revision rows + 1

def appendFailureMembershipTx (occurrence cluster : String) (action : MembershipAction) (actor : String)
    (reason : EditReason) (now : Int) (t : Tables) : Except StoreError Tables := do
  require ((t.occurrences.get occurrence).isSome && (t.clusters.get cluster).isSome)
  let memberships ← insertRow t.memberships
    ⟨nextRevision t.memberships.rows, occurrence, cluster, action, actor, reason, now⟩
  return { t with memberships := memberships }

def bumpedRow (c : ClusterRow) : ClusterRow := { c with version := c.version + 1 }

theorem bumpedRow_id (c : ClusterRow) : (bumpedRow c).id = c.id := rfl

def bumpFailureCluster (t : Tables) (cluster : String) : Except StoreError Tables := do
  ensure (t.clusters.rows.countP (fun c => c.id == cluster) == 1) (.notFound ("failure cluster " ++ cluster))
  return { t with clusters := t.clusters.update (fun c => c.id == cluster) bumpedRow bumpedRow_id }

/-- `serde_json::to_string` of identifiers, which hold nothing to escape. -/
def targetsJson (targets : List String) : String :=
  "[" ++ String.intercalate "," (targets.map (fun id => "\"" ++ id ++ "\"")) ++ "]"

/-- The key of an edit: a digest of its source, target, action, actor, reason and targets. -/
def editId (sha256 : String → String) (source : String) (target : Option String) (action : EditAction) (actor : String)
    (reason : EditReason) (targets : List String) : String :=
  "failure-edit-" ++ sha256 ("failure.cluster.edit.v1\x00" ++ source ++ "\x00" ++ target.getD "" ++ "\x00" ++
    action.text ++ "\x00" ++ actor ++ "\x00" ++ reason.text ++ "\x00" ++ targetsJson targets)

def appendFailureClusterEdit (sha256 : String → String) (source : String) (target : Option String) (action : EditAction)
    (actor : String) (reason : EditReason) (targets : List String) (now : Int) (t : Tables) :
    Except StoreError Tables := do
  let targets := SortedSet.ofList targets
  ensure (!targets.isEmpty && targets.all validIdentifier) (.validation "invalid failure cluster edit target")
  require ((t.clusters.get source).isSome && target.all (fun k => (t.clusters.get k).isSome))
  let edits ← insertRow t.edits
    ⟨editId sha256 source target action actor reason targets, source, target, action, actor, reason, targets, now⟩
  return { t with edits := edits }

/-! ## The operations -/

def createFailureCluster (repository cluster : String) (now : Int) (t : Tables) : Except StoreError Tables := do
  validateFailureIdentifier cluster
  require (t.repositories.contains repository)
  let clusters ← insertRow t.clusters ⟨cluster, repository, 0, now⟩
  return { t with clusters := clusters }

def reclassifyFailure (occurrence : String) (expected : Nat) (failureClass : FailureClass) (actor : String)
    (reason : EditReason) (now : Int) (t : Tables) : Except StoreError Tables := do
  validateFailureActor actor
  let actual := t.classifications.rows.countP (fun c => c.occurrenceId == occurrence)
  ensure (actual == expected) (.conflict ("stale failure occurrence " ++ occurrence))
  ensure (t.occurrences.get occurrence).isSome (.notFound ("failure occurrence " ++ occurrence))
  let classifications ← insertRow t.classifications ⟨occurrence, actual + 1, failureClass, actor, reason, now⟩
  return { t with classifications := classifications }

def appendFailureMembership (occurrence cluster : String) (expected : Nat) (action : MembershipAction) (actor : String)
    (reason : EditReason) (now : Int) (t : Tables) : Except StoreError Tables := do
  validateFailureActor actor
  let o ← okOr (t.occurrences.get occurrence) (.notFound ("failure occurrence " ++ occurrence))
  let repository ← failureClusterRepository t cluster
  ensure (o.repositoryId == repository) (.conflict "failure membership crosses repositories")
  requireFailureClusterVersion t cluster expected
  ensure (!t.memberships.rows.any (fun m => m.occurrenceId == occurrence))
    (.conflict "failure occurrence already has cluster lineage")
  let t ← appendFailureMembershipTx occurrence cluster action actor reason now t
  bumpFailureCluster t cluster

def assignFailureToCluster (occurrence cluster : String) (expected : Nat) (actor : String) (reason : EditReason)
    (now : Int) (t : Tables) : Except StoreError Tables :=
  appendFailureMembership occurrence cluster expected .assigned actor reason now t

def mergeFailureClusters (sha256 : String → String) (source : String) (expectedSource : Nat) (target : String)
    (expectedTarget : Nat) (actor : String) (reason : EditReason) (now : Int) (t : Tables) :
    Except StoreError Tables := do
  ensure (source != target) (.conflict "cannot merge a cluster into itself")
  validateFailureActor actor
  let sourceRepo ← failureClusterRepository t source
  let targetRepo ← failureClusterRepository t target
  ensure (sourceRepo == targetRepo) (.conflict "failure merge crosses repositories")
  requireFailureClusterVersion t source expectedSource
  requireFailureClusterVersion t target expectedTarget
  let t ← (currentFailureMembers t source).foldlM
    (fun t o => appendFailureMembershipTx o target .merged actor reason now t) t
  let t ← appendFailureClusterEdit sha256 source (some target) .merged actor reason [target] now t
  let t ← bumpFailureCluster t source
  bumpFailureCluster t target

def checkMove (t : Tables) (source repository : String) (members : List String) (acc : List String × List String)
    (m : SplitMove) : Except StoreError (List String × List String) := do
  ensure (m.targetClusterId != source && !acc.1.contains m.occurrenceId && members.contains m.occurrenceId)
    (.conflict "invalid failure split membership")
  let targetRepo ← failureClusterRepository t m.targetClusterId
  ensure (repository == targetRepo) (.conflict "failure split crosses repositories")
  requireFailureClusterVersion t m.targetClusterId m.expectedTargetVersion
  return (m.occurrenceId :: acc.1, m.targetClusterId :: acc.2)

def splitFailureCluster (sha256 : String → String) (source : String) (expectedSource : Nat) (moves : List SplitMove)
    (actor : String) (reason : EditReason) (now : Int) (t : Tables) : Except StoreError Tables := do
  ensure (!moves.isEmpty) (.validation "failure split needs at least one move")
  validateFailureActor actor
  requireFailureClusterVersion t source expectedSource
  let repository ← failureClusterRepository t source
  let acc ← moves.foldlM (checkMove t source repository (currentFailureMembers t source)) ([], [])
  let t ← moves.foldlM (fun t m => appendFailureMembershipTx m.occurrenceId m.targetClusterId .split actor reason now t) t
  let targets := SortedSet.ofList acc.2
  let t ← appendFailureClusterEdit sha256 source none .split actor reason targets now t
  let t ← bumpFailureCluster t source
  targets.foldlM bumpFailureCluster t

end Failure
end Bildr
