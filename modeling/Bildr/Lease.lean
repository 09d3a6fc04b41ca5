import Bildr.Glob
import Bildr.Store
import Bildr.Trace
import Mathlib.Data.List.DropRight
/-!
# Lease — path leases

A task attempt leases the path globs it may write.  `acquirePathLeases` refuses a glob whose literal prefix is
comparable, by `LIKE`, with the prefix of an active lease of another attempt of the run; heartbeats move the expiry of
every unreleased lease of an attempt or of a run's current attempts, releases close them.  The model follows
`queries.rs` statement by statement; the clock and the generated lease ids are arguments.
-/
namespace Bildr
namespace Lease

open Glob (like matchesPath)

/-- A row of `path_leases`. -/
structure PathLease where
  id : String
  runId : String
  taskAttemptId : String
  pathGlob : List Char
  normalizedPrefix : List Char
  baseSha : String
  acquiredAt : Int
  heartbeatAt : Int
  expiresAt : Int
  releasedAt : Option Int
  releaseReason : Option String
deriving DecidableEq, Repr

/-- The columns of `tasks` and `task_attempts` the run heartbeat joins. -/
structure Task where
  id : String
  runId : String
  state : TaskState
  currentAttemptNumber : Nat
deriving DecidableEq, Repr

structure Attempt where
  id : String
  taskId : String
  attemptNumber : Nat
deriving DecidableEq, Repr

structure Tables where
  runs : List String
  tasks : List Task
  attempts : List Attempt
  leases : Table PathLease.id

/-! ## The prefix of a glob -/

/-- `trim_start_matches("./")`. -/
def trimDotSlash : List Char → List Char
  | '.' :: '/' :: cs => trimDotSlash cs
  | cs               => cs

/-- The characters `normalized_prefix` splits at. -/
def splits (c : Char) : Bool := c == '*' || c == '?' || c == '['

def lead (path : List Char) : List Char := (trimDotSlash path).takeWhile (fun c => !splits c)

def normalizedPrefix (path : List Char) : List Char := (lead path).rdropWhile (fun c => c == '/')

/-- `?3 LIKE normalized_prefix || '%' OR normalized_prefix LIKE ?3 || '%'`. -/
def overlaps (p q : List Char) : Bool := like (q ++ ['%']) p || like (p ++ ['%']) q

/-! ## The calls -/

/-- `released_at IS NULL AND expires_at > now`. -/
def PathLease.active (l : PathLease) (now : Int) : Bool := l.releasedAt.isNone && decide (now < l.expiresAt)

/-- The lease the acquisition of `pre` by `attempt` conflicts with. -/
def conflicting (leases : List PathLease) (run attempt : String) (now : Int) (pre : List Char) : Option PathLease :=
  leases.find? (fun l => l.runId == run && l.taskAttemptId != attempt && l.active now && overlaps pre l.normalizedPrefix)

/-- One path of an acquisition: the conflict query, then the insert under a generated id. -/
def acquirePath (run attempt base : String) (now expires : Int) (t : Tables) (q : String × List Char) :
    Except StoreError Tables :=
  match conflicting t.leases.rows run attempt now (normalizedPrefix q.2) with
  | some l => .error (.conflict
      ("path lease " ++ String.ofList q.2 ++ " overlaps active lease " ++ String.ofList l.pathGlob))
  | none => do
    require (t.runs.contains run && t.attempts.any (fun a => a.id == attempt))
    let leases ← insertRow t.leases ⟨q.1, run, attempt, q.2, normalizedPrefix q.2, base, now, now, expires, none, none⟩
    return { t with leases := leases }

def acquirePathLeases (run attempt base : String) (paths : List (String × List Char)) (ttl : Nat) (now : Int) :
    Call Tables Unit :=
  transaction (fun t => do
    let expires := satI64 (now + satI64 (asI64 ttl * 1000))
    let t' ← paths.foldlM (acquirePath run attempt base now expires) t
    return ((), t'))

/-- `UPDATE path_leases SET heartbeat_at, expires_at WHERE … AND released_at IS NULL`. -/
def heartbeat (touched : PathLease → Bool) (ttl : Nat) (now : Int) : Call Tables Nat := fun t =>
  let hit := fun l => touched l && l.releasedAt.isNone
  (.ok (t.leases.rows.countP hit), { t with
    leases := t.leases.update hit (fun l => { l with
      heartbeatAt := now, expiresAt := satI64 (now + satI64 (clampI64 ttl * 1000)) }) (fun _ => rfl) })

def heartbeatPathLeases (attempt : String) (ttl : Nat) (now : Int) : Call Tables Nat :=
  heartbeat (fun l => l.taskAttemptId == attempt) ttl now

def currentAttempt (t : Tables) (run attempt : String) : Bool :=
  t.attempts.any (fun a => a.id == attempt && t.tasks.any (fun k =>
    k.id == a.taskId && k.runId == run && a.attemptNumber == k.currentAttemptNumber &&
      [.leased, .starting, .implementing, .reviewReady, .verifying, .waitingApproval].contains k.state))

def heartbeatRunPathLeases (run : String) (ttl : Nat) (now : Int) : Call Tables Nat := fun t =>
  heartbeat (fun l => l.runId == run && currentAttempt t run l.taskAttemptId) ttl now t

/-- `UPDATE path_leases SET released_at, release_reason WHERE … AND released_at IS NULL`. -/
def release (touched : PathLease → Bool) (reason : String) (now : Int) : Call Tables Unit := fun t =>
  (.ok (), { t with
    leases := t.leases.update (fun l => touched l && l.releasedAt.isNone)
      (fun l => { l with releasedAt := some now, releaseReason := some reason }) (fun _ => rfl) })

def releasePathLeases (attempt reason : String) (now : Int) : Call Tables Unit :=
  release (fun l => l.taskAttemptId == attempt) reason now

def releaseRunPathLeases (run reason : String) (now : Int) : Call Tables Unit :=
  release (fun l => l.runId == run) reason now

/-! ## Runs -/

inductive Op
  | acquire (run attempt base : String) (paths : List (String × List Char)) (ttl : Nat)
  | heartbeat (attempt : String) (ttl : Nat)
  | heartbeatRun (run : String) (ttl : Nat)
  | release (attempt reason : String)
  | releaseRun (run reason : String)
  /-- Other calls rewrite the tables the leases refer to. -/
  | world (runs : List String) (tasks : List Task) (attempts : List Attempt)

structure State where
  now : Int
  tables : Tables

def effect (t : Tables) (now : Int) : Op → Tables
  | .acquire run attempt base paths ttl => (acquirePathLeases run attempt base paths ttl now t).2
  | .heartbeat attempt ttl => (heartbeatPathLeases attempt ttl now t).2
  | .heartbeatRun run ttl => (heartbeatRunPathLeases run ttl now t).2
  | .release attempt reason => (releasePathLeases attempt reason now t).2
  | .releaseRun run reason => (releaseRunPathLeases run reason now t).2
  | .world runs tasks attempts => { t with runs := runs, tasks := tasks, attempts := attempts }

def step (s : State) (i : Int × Op) : State := ⟨i.1, effect s.tables i.1 i.2⟩

end Lease
end Bildr
