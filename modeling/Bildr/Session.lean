import Bildr.Json
import Bildr.Store
/-!
# Session — agent sessions, their threads, turns and journals

The tables the runtime protocol writes to.  `agent_sessions` and `agent_runtime_details` are one row here, since a
session is created with its details.  Display times and row versions are left out.
-/
namespace Bildr
namespace Session

open Json (Value)

/-- The states the modelled calls write or ask for; the column is a text, so there are others. -/
inductive AgentState
  | starting | running | turnComplete | completed | failed | interrupted | canceled | stalled
  | other (name : String)
deriving DecidableEq, Repr

structure AgentSession where
  id : String
  runId : String
  state : AgentState
  requestedModel : String
  effectiveModel : Option String
  effectiveReasoningEffort : Option String
  currentGoal : Option String
  goalStatus : Option String
  tokenBudget : Option Int
  goalTokensUsed : Option Int
  goalTimeUsedSeconds : Option Int
  failureClass : Option String
  failureReason : Option String
  activeTurnId : Option String
  currentAction : Option String
  lastActivityKind : Option String
deriving DecidableEq

structure CodexThread where
  threadId : String
  agentSessionId : String
  parentThreadId : Option String
  gitBranch : Option String
  gitSha : Option String
deriving DecidableEq

structure CodexTurn where
  turnId : String
  threadId : String
  status : String
  requestedModel : Option String
  effectiveModel : Option String
  requestedReasoningEffort : Option String
  error : Option Value
deriving DecidableEq

structure RawEventInput where
  runId : Option String
  agentSessionId : Option String
  threadId : Option String
  turnId : Option String
  method : String
  payload : Value
  sourceSequence : Option String
  redactionClass : String
deriving DecidableEq

structure RawEvent extends RawEventInput where
  id : Nat
  receivedAt : Int
deriving DecidableEq

/-- `raw_events`: the ids grow, and no id is given out twice. -/
structure Journal where
  events : List RawEvent
  sequence : Nat
  increasing : (events.map RawEvent.id).Pairwise (· < ·)
  bounded : ∀ e ∈ events, e.id ≤ sequence

structure DomainEvent where
  runId : Option String
  aggregateType : String
  aggregateId : String
  eventType : String
  payload : Value
  sourceRawEventId : Option Nat
deriving DecidableEq

structure ProjectedItem where
  itemId : String
  threadId : String
  turnId : Option String
  itemType : String
  state : String
  summary : Option String
  payload : Value
  sourceRawEventId : Option Nat
deriving DecidableEq

/-- The bounds of a `cost_entries` row. -/
structure CostEntry where
  pricingSnapshotId : String
  lowerMicrousd : Int
  upperMicrousd : Int
deriving DecidableEq

/-- A `turn_total` sample with its cost. -/
structure TokenSample where
  turnId : String
  threadId : String
  effectiveModel : String
  inputTokens : Int
  cachedInputTokens : Int
  cacheWriteInputTokens : Option Int
  outputTokens : Int
  reasoningOutputTokens : Int
  totalTokens : Int
  modelContextWindow : Option Int
  sourceEventId : Option Nat
  cost : Option CostEntry
deriving DecidableEq

structure Metadata where
  key : String
  value : Value
deriving DecidableEq

structure Tables where
  runs : List String
  agents : Table AgentSession.id
  threads : Table CodexThread.threadId
  turns : Table CodexTurn.turnId
  journal : Journal
  domainEvents : List DomainEvent
  items : Table ProjectedItem.itemId
  samples : Table TokenSample.turnId
  metadata : Table Metadata.key
  checkpoint : Option Nat

/-! ## The journal -/

def Journal.empty : Journal := ⟨[], 0, List.Pairwise.nil, fun _ he => absurd he List.not_mem_nil⟩

def Journal.append (j : Journal) (input : RawEventInput) (now : Int) : Journal where
  events := j.events ++ [⟨input, j.sequence + 1, now⟩]
  sequence := j.sequence + 1
  increasing := by
    rw [List.map_append, List.pairwise_append]
    refine ⟨j.increasing, List.pairwise_singleton _ _, fun n hn m hm => ?_⟩
    obtain ⟨e, he, rfl⟩ := List.mem_map.1 hn
    obtain rfl : m = j.sequence + 1 := by simpa using hm
    exact Nat.lt_succ_of_le (j.bounded e he)
  bounded := by
    intro e he
    rcases List.mem_append.1 he with he | he
    · exact Nat.le_succ_of_le (j.bounded e he)
    · obtain rfl := List.mem_singleton.1 he
      exact Nat.le_refl _

/-- `DELETE FROM raw_events` of the events that are not kept. -/
def Journal.keep (j : Journal) (p : RawEvent → Bool) : Journal where
  events := j.events.filter p
  sequence := j.sequence
  increasing := j.increasing.sublist (List.filter_sublist.map RawEvent.id)
  bounded := fun e he => j.bounded e (List.mem_filter.1 he).1

/-! ## Statements more than one call makes -/

/-- `UPDATE agent_sessions … WHERE id=?1`. -/
def updateAgent (t : Tables) (id : String) (f : AgentSession → AgentSession) (hf : ∀ a, (f a).id = a.id) : Tables :=
  { t with agents := t.agents.update (fun a => a.id == id) f hf }

def coalesce {α : Type} (a b : Option α) : Option α := a.or b

/-- A turn put back in progress; a requested route that is there stays. -/
def CodexTurn.restarted (q : CodexTurn) (model effort : Option String) : CodexTurn :=
  { q with
    status := "inProgress", requestedModel := coalesce q.requestedModel model,
    requestedReasoningEffort := coalesce q.requestedReasoningEffort effort }

/-- The turn is inserted as in progress, or put back in progress. -/
def startTurn (t : Tables) (threadId turnId : String) (model effort : Option String) : Except StoreError Tables :=
  match t.turns.get turnId with
  | some _ =>
    let turns := t.turns.update (fun q => q.turnId == turnId) (fun q => q.restarted model effort) (fun _ => rfl)
    .ok { t with turns := turns }
  | none => do
    require (t.threads.get threadId).isSome
    let turns ← insertRow t.turns ⟨turnId, threadId, "inProgress", model, none, effort, none⟩
    return { t with turns := turns }

def singleAgent (a : AgentSession) : Tables :=
  ⟨[a.runId], ⟨[a], List.nodup_singleton _⟩, ⟨[⟨"thread", a.id, none, none, none⟩], List.nodup_singleton _⟩, ∅, .empty, [],
    ∅, ∅, ∅, none⟩

end Session
end Bildr
