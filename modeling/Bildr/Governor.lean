import Bildr.PlanContract
import Bildr.Usage
/-!
# Governor — the progress ledger of a governor

A governor reports its progress as a checkpoint: a list of milestones with a status each.  The controller reconciles the
report with the checkpoint it has stored (`reconcileGovernorCheckpoint`) and stores the result if it passes
`validateGovernorCheckpoint`.  Statuses are texts the model supplies, so any text can arrive.  The fields that neither
function reads (the schema, the update for the operator, the durable artifacts) are left out.
-/
namespace Bildr
namespace Governor

open Plan (OrchestratorError Packet check)
open Usage (satAdd)

structure MilestoneCheckpoint where
  id : String
  title : String
  status : String
  outcome : String
  acceptance : List String
deriving DecidableEq, Repr

structure GovernorCheckpoint where
  revision : Nat
  status : String
  milestones : List MilestoneCheckpoint
  currentMilestoneId : Option String
  nextAction : Option String
  blockedOn : Option String
  workspaceState : String
deriving DecidableEq, Repr

def MilestoneCheckpoint.completed (m : MilestoneCheckpoint) : Bool := m.status == "completed"

/-! ## Reconciliation -/

/-- A completed milestone takes the place of the first one with its id, or is appended while there is room. -/
def restore (ms : List MilestoneCheckpoint) (completed : MilestoneCheckpoint) :
    Except OrchestratorError (List MilestoneCheckpoint) :=
  match ms.findIdx? (fun m => m.id == completed.id) with
  | some position => .ok (ms.set position completed)
  | none =>
    if ms.length < 50 then .ok (ms ++ [completed])
    else .error (.validation ("governor checkpoint omitted completed milestone " ++ completed.id ++
      " and the ledger is full"))

def named (c : GovernorCheckpoint) : Option MilestoneCheckpoint :=
  c.currentMilestoneId.bind (fun id => c.milestones.find? (fun m => m.id == id && !m.completed))

def withStatus (c : GovernorCheckpoint) (status : String) : Option MilestoneCheckpoint :=
  c.milestones.find? (fun m => m.status == status)

/-- Every milestone that is not completed gets `label` if it has the id, and is pending otherwise. -/
def relabel (id label : String) (ms : List MilestoneCheckpoint) : List MilestoneCheckpoint :=
  ms.map (fun m => if m.completed then m else { m with status := if m.id == id then label else "pending" })

def reconcileProgressing (next : GovernorCheckpoint) : Except OrchestratorError GovernorCheckpoint := do
  let active ← okOr (((named next).or (withStatus next "in_progress")).or (withStatus next "pending"))
    (.validation "progressing governor checkpoint has no remaining milestone")
  let keepsAction := next.currentMilestoneId == some active.id && next.nextAction.any (fun action => !action.isEmpty)
  return { next with
    milestones := relabel active.id "in_progress" next.milestones
    currentMilestoneId := some active.id
    nextAction := if keepsAction then next.nextAction else some active.title
    blockedOn := none }

def reconcileBlocked (next : GovernorCheckpoint) : Except OrchestratorError GovernorCheckpoint := do
  let blocked ← okOr ((named next).or (withStatus next "blocked"))
    (.validation "blocked governor checkpoint has no remaining milestone")
  return { next with
    milestones := relabel blocked.id "blocked" next.milestones
    currentMilestoneId := some blocked.id }

/-- What the status of the report asks for, once the completed milestones are back. -/
def settle (next : GovernorCheckpoint) : Except OrchestratorError GovernorCheckpoint :=
  if next.milestones.all MilestoneCheckpoint.completed then
    .ok { next with status := "complete", currentMilestoneId := none, nextAction := none, blockedOn := none }
  else if next.status = "progressing" then reconcileProgressing next
  else if next.status = "blocked" then reconcileBlocked next
  else .ok next

def reconcileGovernorCheckpoint (prior next : GovernorCheckpoint) : Except OrchestratorError GovernorCheckpoint := do
  let milestones ← (prior.milestones.filter MilestoneCheckpoint.completed).foldlM restore next.milestones
  settle { next with revision := satAdd prior.revision 1, milestones := milestones }

/-! ## Validation -/

def validateLedger : List String → List MilestoneCheckpoint → Except OrchestratorError Unit
  | _, [] => .ok ()
  | ids, m :: ms => do
    check (!((Session.trim m.id).isEmpty || (Session.trim m.title).isEmpty || (Session.trim m.outcome).isEmpty ||
      m.acceptance.isEmpty || ids.contains m.id)) ("governor milestone " ++ m.id ++ " is empty or duplicated")
    check (["pending", "completed", "in_progress", "blocked"].contains m.status)
      ("governor milestone " ++ m.id ++ " has invalid status " ++ m.status)
    validateLedger (m.id :: ids) ms

def countStatus (c : GovernorCheckpoint) (status : String) : Nat := c.milestones.countP (fun m => m.status == status)

def validateStatus (c : GovernorCheckpoint) : Except OrchestratorError Unit :=
  if c.status = "progressing" then
    check (countStatus c "in_progress" == 1 && c.currentMilestoneId.isSome && c.nextAction.isSome && c.blockedOn.isNone)
      "progressing checkpoint requires exactly one active milestone and a next action"
  else if c.status = "blocked" then
    check (countStatus c "blocked" == 1 && c.currentMilestoneId.isSome && c.blockedOn.isSome)
      "blocked checkpoint requires exactly one blocked milestone and a concrete blocker"
  else
    check (c.milestones.all MilestoneCheckpoint.completed && c.currentMilestoneId.isNone && c.nextAction.isNone &&
      c.blockedOn.isNone) "complete checkpoint requires every milestone to be completed"

/-- The current milestone is one of the ledger, with the status the checkpoint has. -/
def validateCurrent (c : GovernorCheckpoint) : Except OrchestratorError Unit :=
  match c.currentMilestoneId with
  | none => .ok ()
  | some current => do
    check (c.milestones.any (fun m => m.id == current))
      ("current milestone " ++ current ++ " is not present in the ledger")
    let expected := if c.status = "blocked" then "blocked" else "in_progress"
    check ((c.milestones.find? (fun m => m.id == current)).any (fun m => m.status == expected))
      ("current milestone " ++ current ++ " is not " ++ expected)

def validateGovernorCheckpoint (packet : Packet) (c : GovernorCheckpoint) : Except OrchestratorError Unit := do
  check (decide (3 ≤ c.milestones.length) && decide (c.milestones.length ≤ 50))
    "governor checkpoint must contain 3-50 bounded milestones"
  check (["progressing", "blocked", "complete"].contains c.status) "governor checkpoint status is invalid"
  check (["clean", "uncommitted", "controller_committed", "external_only"].contains c.workspaceState)
    "governor checkpoint workspace state is invalid"
  validateLedger [] c.milestones
  packet.milestones.forM (fun planned => check (c.milestones.any (fun m => m.id == planned.id))
    ("governor checkpoint omitted planned milestone " ++ planned.id))
  validateStatus c
  validateCurrent c

/-! ## A report -/

/-- `reconcile_governor_checkpoint`, then `validate_governor_checkpoint`. -/
def acceptCheckpoint (packet : Packet) (stored next : GovernorCheckpoint) :
    Except OrchestratorError GovernorCheckpoint := do
  let checkpoint ← reconcileGovernorCheckpoint stored next
  validateGovernorCheckpoint packet checkpoint
  return checkpoint

def report (stored : GovernorCheckpoint) (q : Packet × GovernorCheckpoint) : GovernorCheckpoint :=
  match acceptCheckpoint q.1 stored q.2 with
  | .ok checkpoint => checkpoint
  | .error _       => stored

end Governor
end Bildr
