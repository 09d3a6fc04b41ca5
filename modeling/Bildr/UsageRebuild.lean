import Bildr.Projection
/-!
# UsageRebuild — rebuilding the usage ledger from the journal

Once per projection version the samples and the counted tokens are deleted and computed again, turn by turn, from the
usage updates the journal still has.  The retention sweep deletes old journal events.
-/
namespace Bildr
namespace Session

open Json (Value)

def projectionKey : String := "usage-projection-version"

def projectionCurrent (t : Tables) : Bool :=
  ((t.metadata.get projectionKey).bind (fun m => m.value.asU64)) == some 3

/-- The thread, the turn and the id of a usage update that has both. -/
def usageKey (e : RawEvent) : Option (String × String × Nat) :=
  if e.method = usageMethod then e.threadId.bind (fun thread => e.turnId.map (fun turn => (thread, turn, e.id))) else none

def lastOfEach : List (String × String × Nat) → List (String × String × Nat)
  | [] => []
  | k :: ks => if ks.any (fun l => l.1 == k.1 && l.2.1 == k.2.1) then lastOfEach ks else k :: lastOfEach ks

/-- `GROUP BY thread_id,turn_id ORDER BY max(id)`; the ids of the journal grow. -/
def usageTurns (t : Tables) : List (String × String × Nat) := lastOfEach (t.journal.events.filterMap usageKey)

def clearUsage (t : Tables) : Tables :=
  let agents := t.agents.update (fun _ => true) (fun a => { a with goalTokensUsed := some 0 }) (fun _ => rfl)
  { t with samples := ∅, agents := agents }

def rebuildTurns (pj : ProtocolProjection) : List (String × String × Nat) → Call Tables Unit
  | [] => Call.ret ()
  | (thread, turn, source) :: rest =>
    Call.andThen (rebuildTurnUsage pj thread turn source none) (fun _ => rebuildTurns pj rest)

def putRuntimeMetadata (key : String) (value : Value) : Call Tables Unit := fun t =>
  match t.metadata.insert ⟨key, value⟩ with
  | some metadata => (.ok (), { t with metadata := metadata })
  | none =>
    let metadata := t.metadata.update (fun m => m.key == key) (fun m => { m with value := value }) (fun _ => rfl)
    (.ok (), { t with metadata := metadata })

def rebuildUsageProjectionIfNeeded (pj : ProtocolProjection) : Call Tables Unit := fun t =>
  if projectionCurrent t then (.ok (), t)
  else Call.andThen (rebuildTurns pj (usageTurns t)) (fun _ => putRuntimeMetadata projectionKey (.num (.pos 3)))
    (clearUsage t)

/-! ## Retention -/

def retentionCutoff (days : Nat) (now : Int) : Int := now - days * 86400000

def clearSource (deleted : List Nat) (source : Option Nat) : Option Nat := source.filter (fun id => !deleted.contains id)

/-- The events received before the cutoff are deleted and the references to them are cleared; the swept command runs are
another table. -/
def sweepRetention (rawEventDays : Nat) (now : Int) : Call Tables Nat := fun t =>
  if rawEventDays = 0 then (.ok 0, t)
  else
    let old (e : RawEvent) := decide (e.receivedAt < retentionCutoff rawEventDays now)
    let deleted := (t.journal.events.filter old).map RawEvent.id
    let items := t.items.update (fun _ => true)
      (fun i => { i with sourceRawEventId := clearSource deleted i.sourceRawEventId }) (fun _ => rfl)
    let samples := t.samples.update (fun _ => true)
      (fun s => { s with sourceEventId := clearSource deleted s.sourceEventId }) (fun _ => rfl)
    (.ok deleted.length, { t with
      journal := t.journal.keep (fun e => !old e)
      domainEvents := t.domainEvents.map (fun e => { e with sourceRawEventId := clearSource deleted e.sourceRawEventId })
      items := items
      samples := samples })

end Session
end Bildr
