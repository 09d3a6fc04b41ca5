import Bildr.FailureRefinement
import Bildr.FailureWire
import Bildr.ImprovementLedger
import Bildr.RunAudit
import Bildr.SortBy
import Mathlib.Data.Prod.Lex
/-!
# FailureProjection — the failures of a run, written down once

`project_failures_for_run` visits the terminal lifecycle events, the terminal attempts and the negative or unknown
outcomes of a run, and writes an occurrence for each of them.  An occurrence is never changed: a source that has one is
compared with it, column by column, and a difference ends the whole projection.  The call reads the clock once here.
-/
namespace Bildr

def Failure.TerminalCode.parse : String → Option Failure.TerminalCode
  | "policy_blocked"             => some .policyBlocked
  | "budget_exhausted"           => some .budgetExhausted
  | "infrastructure_unavailable" => some .infrastructureUnavailable
  | "protocol_error"             => some .protocolError
  | "integration_conflict"       => some .integrationConflict
  | "source_failure"             => some .sourceFailure
  | "inconclusive"               => some .inconclusive
  | "cancelled_superseded"       => some .cancelledSuperseded
  | _                            => none

namespace FailureProjection

open Failure (TerminalCode FailureScope FailureClass Severity ClusterRow MembershipRow expectedClass scopeCode
  fingerprintText nextRevision)
open Improvement (Revision parseOutcome readable isLowerHex isSafeOperatorControlIdentifier)
open SortBy (sortBy)

/-! ## The tables -/

structure TaskRow where
  id : String
  runId : String
deriving DecidableEq

structure AttemptRow where
  id : String
  taskId : String
  state : String
  headSha : Option String
  terminalClass : Option String
  failureReason : Option String
  startedAt : Option Int
  completedAt : Option Int
  updatedAt : Int
  version : Nat
deriving DecidableEq

/-- A row of `failure_occurrences`. -/
structure Occurrence where
  id : String
  repositoryId : String
  sourceKind : FailureScope
  sourceId : String
  terminalCode : Option TerminalCode
  automaticClass : FailureClass
  severity : Severity
  fingerprint : String
  costScopeId : Option String
  costLower : Option Int
  costUpper : Option Int
  sourceDomainEventId : Option Int
  createdAt : Int
deriving DecidableEq

structure Failures where
  occurrences : Table Occurrence.id
  clusters : Table ClusterRow.id
  memberships : Table MembershipRow.revision

structure World where
  runs : Run.Tables
  tasks : Table TaskRow.id
  attempts : Table AttemptRow.id
  ledger : Improvement.Tables
  failures : Failures

structure Wire extends Improvement.Wire where
  hex : ∀ text, isLowerHex (sha256 text) 64 = true

def Occurrence.row (o : Occurrence) : Failure.OccurrenceRow := ⟨o.id, o.repositoryId⟩

def Failures.tables (f : Failures) (repositories : List String) : Failure.Tables where
  repositories := repositories
  occurrences := ⟨f.occurrences.rows.map Occurrence.row, by rw [List.map_map]; exact f.occurrences.nodup⟩
  clusters := f.clusters
  classifications := ∅
  memberships := f.memberships
  edits := ∅

/-! ## Setting an attempt's result -/

def AttemptRow.settled (a : AttemptRow) (state : String) (headSha terminalClass failureReason : Option String)
    (now : Int) : AttemptRow :=
  { a with
    state := state, headSha := headSha.or a.headSha, terminalClass := terminalClass, failureReason := failureReason,
    startedAt := a.startedAt.or (some now),
    completedAt := if ["COMPLETED", "FAILED", "INTERRUPTED", "STALLED"].contains state then some now else a.completedAt,
    updatedAt := now, version := a.version + 1 }

def setAttemptResult (id state : String) (headSha terminalClass failureReason : Option String) (now : Int) (W : World) :
    World :=
  { W with
    attempts := W.attempts.update (fun a => a.id == id)
      (fun a => a.settled state headSha terminalClass failureReason now) (fun _ => rfl) }

/-! ## Sources -/

structure Source where
  kind : FailureScope
  id : String
  terminal : Option TerminalCode
  event : Option Int
deriving DecidableEq

def Source.key (s : Source) : FailureScope × String := (s.kind, s.id)

def Occurrence.key (o : Occurrence) : FailureScope × String := (o.sourceKind, o.sourceId)

def sourceText (key : FailureScope × String) : String := scopeCode key.1 ++ "\x00" ++ key.2

/-- The lifecycle events of the run that carry the failure class. -/
def terminalRunFailureEvents (t : Run.Tables) (run failureClass : String) : List Nat :=
  ((Run.lifecycle t run).filter (fun e => decide (e.payload.get "failure_class" = some (.str failureClass)))).map
    Run.DomainEvent.id

def eventSource (code : String) (event : Nat) : Source :=
  ⟨.runTerminal, "domain-event-" ++ toString event, TerminalCode.parse code, some event⟩

def ownedBy (W : World) (run : String) (a : AttemptRow) : Bool := (W.tasks.get a.taskId).any (fun t => t.runId == run)

def attemptRows (W : World) (run : String) : List (String × String) :=
  (sortBy AttemptRow.id (W.attempts.rows.filter (ownedBy W run))).filterMap (fun a => a.terminalClass.map (a.id, ·))

def attemptSource (row : String × String) : Source := ⟨.attemptTerminal, row.1, TerminalCode.parse row.2, none⟩

def revisionSource (r : Revision) (code : String) : Source :=
  ⟨.typedOutcome, r.id, TerminalCode.parse code, r.sourceDomainEventId⟩

def storedOutcomes (t : Improvement.Tables) : List Revision :=
  sortBy (fun r => toLex (r.aggregateId, r.revision)) (t.revisions.rows.filter (fun r => decide (r.aggregateKind = .outcome)))

def outcomeRevisions (w : Wire) (t : Improvement.Tables) : Except StoreError (List Revision) :=
  (storedOutcomes t).mapM (fun r => do
    ensure (readable w.toWire r) (.sqlite .fromSqlConversionFailure)
    return r)

/-! ## One source -/

/-- The row of a source; the columns of a cost that is not known are null. -/
def Source.occurrence (w : Wire) (repository : String) (now : Int) (s : Source) : Occurrence where
  id := "failure-" ++ w.sha256 (sourceText s.key)
  repositoryId := repository
  sourceKind := s.kind
  sourceId := s.id
  terminalCode := s.terminal
  automaticClass := expectedClass s.terminal
  severity := .unknown
  fingerprint := w.sha256 (fingerprintText repository s.kind (expectedClass s.terminal))
  costScopeId := none
  costLower := none
  costUpper := none
  sourceDomainEventId := s.event
  createdAt := now

def Occurrence.checked (o : Occurrence) : Bool :=
  isLowerHex o.fingerprint 64 && decide (o.automaticClass = expectedClass o.terminalCode)

def Occurrence.agrees (o p : Occurrence) : Bool :=
  decide (o.sourceKind = p.sourceKind) && o.sourceId == p.sourceId && o.repositoryId == p.repositoryId &&
    decide (o.terminalCode = p.terminalCode) && decide (o.automaticClass = p.automaticClass) &&
    decide (o.severity = p.severity) && o.fingerprint == p.fingerprint && decide (o.costScopeId = p.costScopeId) &&
    decide (o.costLower = p.costLower) && decide (o.costUpper = p.costUpper) &&
    decide (o.sourceDomainEventId = p.sourceDomainEventId)

def Failures.taken (f : Failures) (o : Occurrence) : Bool :=
  f.occurrences.rows.any (fun q => q.id == o.id || decide (q.key = o.key))

/-- `INSERT OR IGNORE`, which ignores what breaks a check or a key but no foreign key. -/
def insertOccurrence (runs : Run.Tables) (o : Occurrence) (f : Failures) : Except StoreError (Bool × Failures) :=
  if !o.checked || f.taken o then .ok (false, f)
  else do
    require (runs.repositories.contains o.repositoryId &&
      o.sourceDomainEventId.all (fun e => runs.events.any (fun q => decide ((q.id : Int) = e))))
    let occurrences ← insertRow f.occurrences o
    return (true, { f with occurrences := occurrences })

/-- `INSERT OR IGNORE` of a cluster. -/
def insertCluster (runs : Run.Tables) (c : ClusterRow) (f : Failures) : Except StoreError Failures :=
  if (f.clusters.get c.id).isSome then .ok f
  else do
    require (runs.repositories.contains c.repositoryId)
    let clusters ← insertRow f.clusters c
    return { f with clusters := clusters }

def assignOccurrence (runs : Run.Tables) (o : Occurrence) (now : Int) (f : Failures) : Except StoreError Failures := do
  let cluster := "failure-cluster-" ++ o.fingerprint
  let f ← insertCluster runs ⟨cluster, o.repositoryId, 0, now⟩ f
  let t ← Failure.appendFailureMembershipTx o.id cluster .assigned "system" .sourceCorrection now
    (f.tables runs.repositories)
  let t ← Failure.bumpFailureCluster t cluster
  return ⟨f.occurrences, t.clusters, t.memberships⟩

structure Projecting where
  failures : Failures
  inserted : Nat
  alreadyProjected : Nat

def project (w : Wire) (runs : Run.Tables) (repository : String) (now : Int) (p : Projecting) (s : Source) :
    Except StoreError Projecting := do
  ensure (isSafeOperatorControlIdentifier s.id) (.validation "failure controller identity must be an opaque bounded token")
  let o := s.occurrence w repository now
  let (changed, f) ← insertOccurrence runs o p.failures
  if changed then do
    let f ← assignOccurrence runs o now f
    return ⟨f, p.inserted + 1, p.alreadyProjected⟩
  else do
    ensure (f.occurrences.rows.any (fun q => q.agrees o))
      (.conflict "failure projection source collision has different immutable semantics")
    return ⟨f, p.inserted, p.alreadyProjected + 1⟩

/-! ## The projection -/

structure FailureProjectionReceipt where
  inserted : Nat
  alreadyProjected : Nat
deriving DecidableEq, Repr

def projectRevision (w : Wire) (runs : Run.Tables) (run repository : String) (now : Int) (p : Projecting) (r : Revision) :
    Except StoreError Projecting := do
  let o ← parseOutcome r.payload
  o.validate.mapError StoreError.validation
  if o.runId == run && (decide (o.classification = .negative) || decide (o.classification = .unknown)) then
    project w runs repository now p (revisionSource r o.code)
  else return p

/-- The run's own failure, one source for each event that carries its class. -/
def projectLifecycle (w : Wire) (W : World) (run repository : String) (now : Int) (failureClass : Option String)
    (p : Projecting) : Except StoreError Projecting :=
  match failureClass with
  | none      => .ok p
  | some code =>
    ((terminalRunFailureEvents W.runs run code).map (eventSource code)).foldlM (project w W.runs repository now) p

def projectBody (w : Wire) (run : String) (now : Int) (W : World) :
    Except StoreError (FailureProjectionReceipt × World) := do
  let r ← queryRow (W.runs.runs.get run)
  let p ← projectLifecycle w W run r.repositoryId now r.failureClass ⟨W.failures, 0, 0⟩
  let p ← ((attemptRows W run).map attemptSource).foldlM (project w W.runs r.repositoryId now) p
  let revisions ← outcomeRevisions w W.ledger
  let p ← revisions.foldlM (projectRevision w W.runs run r.repositoryId now) p
  return (⟨p.inserted, p.alreadyProjected⟩, { W with failures := p.failures })

def projectFailuresForRun (w : Wire) (run : String) (now : Int) : Call World FailureProjectionReceipt :=
  transaction (projectBody w run now)

/-! ## What one source does -/

structure Inserted (f g : Failures) (o : Occurrence) : Prop where
  free : f.taken o = false
  occurrences : g.occurrences.rows = f.occurrences.rows ++ [o]
  membership : ∃ m : MembershipRow, g.memberships.rows = f.memberships.rows ++ [m] ∧ m.occurrenceId = o.id ∧
    m.action = .assigned

theorem occurrence_checked (w : Wire) (repository : String) (now : Int) (s : Source) :
    (s.occurrence w repository now).checked = true := by
  simp [Occurrence.checked, Source.occurrence, w.hex]

theorem mem_tables {f : Failures} {repositories : List String} {o : Occurrence} (h : o ∈ f.occurrences.rows) :
    ((f.tables repositories).occurrences.get o.id).isSome = true := by
  apply Table.get_isSome.2
  exact List.mem_map.2 ⟨o.row, List.mem_map.2 ⟨o, h, rfl⟩, rfl⟩

section Cases
variable {runs : Run.Tables} {o : Occurrence} {now : Int} {f g : Failures}

theorem insertOccurrence_cases {changed : Bool} (h : insertOccurrence runs o f = .ok (changed, g)) :
    (changed = false ∧ g = f) ∨
    (changed = true ∧ f.taken o = false ∧ g.occurrences.rows = f.occurrences.rows ++ [o] ∧ g.memberships = f.memberships) := by
  unfold insertOccurrence at h
  by_cases hskip : (!o.checked || f.taken o) = true
  · rw [if_pos hskip] at h
    cases h
    exact Or.inl ⟨rfl, rfl⟩
  · rw [if_neg hskip] at h
    obtain ⟨_, -, h⟩ := bind_ok h
    obtain ⟨u, hu, h⟩ := bind_ok h
    cases h
    simp only [Bool.or_eq_true, not_or, Bool.not_eq_true] at hskip
    exact Or.inr ⟨rfl, hskip.2, (insertRow_ok_iff.1 hu).2, rfl⟩

theorem insertCluster_keeps {c : ClusterRow} (h : insertCluster runs c f = .ok g) :
    g.occurrences = f.occurrences ∧ g.memberships = f.memberships := by
  unfold insertCluster at h
  split at h
  · cases h
    exact ⟨rfl, rfl⟩
  · obtain ⟨_, -, h⟩ := bind_ok h
    obtain ⟨u, -, h⟩ := bind_ok h
    cases h
    exact ⟨rfl, rfl⟩

theorem insertCluster_isOk {c : ClusterRow} (hknown : runs.repositories.contains c.repositoryId = true) :
    ∃ g, insertCluster runs c f = .ok g ∧ (g.clusters.get c.id).isSome = true := by
  unfold insertCluster
  by_cases hthere : (f.clusters.get c.id).isSome = true
  · rw [if_pos hthere]
    exact ⟨f, rfl, hthere⟩
  · rw [if_neg hthere]
    have hfree : c.id ∉ f.clusters.rows.map ClusterRow.id := fun h => hthere (Table.get_isSome.2 h)
    obtain ⟨u, hu⟩ := insertRow_isOk (r := c) hfree
    refine ⟨{ f with clusters := u }, by rw [require, hknown, ensure_true, hu]; rfl, Table.get_isSome.2 ?_⟩
    rw [(insertRow_ok_iff.1 hu).2, List.map_append]
    exact List.mem_append_right _ List.mem_cons_self

theorem assignOccurrence_ok (h : assignOccurrence runs o now f = .ok g) :
    g.occurrences = f.occurrences ∧ ∃ m : MembershipRow, g.memberships.rows = f.memberships.rows ++ [m] ∧
      m.occurrenceId = o.id ∧ m.action = .assigned := by
  unfold assignOccurrence at h
  obtain ⟨f₁, h₁, h⟩ := bind_ok h
  obtain ⟨t₂, h₂, h⟩ := bind_ok h
  obtain ⟨t₃, h₃, h⟩ := bind_ok h
  cases h
  obtain ⟨hocc, hmem⟩ := insertCluster_keeps h₁
  unfold Failure.appendFailureMembershipTx at h₂
  obtain ⟨_, -, h₂⟩ := bind_ok h₂
  obtain ⟨u, hu, h₂⟩ := bind_ok h₂
  cases h₂
  unfold Failure.bumpFailureCluster at h₃
  obtain ⟨_, -, h₃⟩ := bind_ok h₃
  cases h₃
  refine ⟨hocc, ⟨nextRevision f₁.memberships.rows, o.id, "failure-cluster-" ++ o.fingerprint, .assigned, "system",
    .sourceCorrection, now⟩, ?_, rfl, rfl⟩
  rw [← hmem]
  exact (insertRow_ok_iff.1 hu).2

theorem append_bump_isOk {t : Failure.Tables} {id cluster : String} (ho : (t.occurrences.get id).isSome = true)
    (hc : (t.clusters.get cluster).isSome = true) :
    ∃ u v, Failure.appendFailureMembershipTx id cluster .assigned "system" .sourceCorrection now t = .ok u ∧
      Failure.bumpFailureCluster u cluster = .ok v := by
  have hfresh : nextRevision t.memberships.rows ∉ t.memberships.rows.map MembershipRow.revision := by
    intro hmem
    obtain ⟨m, hm, hrev⟩ := List.mem_map.1 hmem
    have hle := Table.le_maxOf MembershipRow.revision hm
    unfold nextRevision at hrev
    omega
  obtain ⟨memberships, hu⟩ := @insertRow_isOk _ _ _ _ t.memberships
    ⟨nextRevision t.memberships.rows, id, cluster, .assigned, "system", .sourceCorrection, now⟩ hfresh
  obtain ⟨c, hrow⟩ := Option.isSome_iff_exists.1 hc
  have hcount := @Failure.countP_key { t with memberships := memberships } cluster c hrow
  have hbump : ∃ v, Failure.bumpFailureCluster { t with memberships := memberships } cluster = .ok v := by
    unfold Failure.bumpFailureCluster
    rw [hcount]
    exact ⟨_, rfl⟩
  obtain ⟨v, hv⟩ := hbump
  refine ⟨{ t with memberships := memberships }, v, ?_, hv⟩
  unfold Failure.appendFailureMembershipTx
  rw [ho, hc, Bool.and_self, require, ensure_true, ok_bind, hu]
  rfl

theorem assignOccurrence_isOk (ho : o ∈ f.occurrences.rows) (hknown : runs.repositories.contains o.repositoryId = true) :
    ∃ g, assignOccurrence runs o now f = .ok g := by
  obtain ⟨f₁, h₁, hcluster⟩ :=
    @insertCluster_isOk runs f ⟨"failure-cluster-" ++ o.fingerprint, o.repositoryId, 0, now⟩ hknown
  have hrow : ((f₁.tables runs.repositories).occurrences.get o.id).isSome = true := by
    apply mem_tables
    rw [(insertCluster_keeps h₁).1]
    exact ho
  obtain ⟨u, v, hu, hv⟩ := @append_bump_isOk now (f₁.tables runs.repositories) o.id
    ("failure-cluster-" ++ o.fingerprint) hrow hcluster
  unfold assignOccurrence
  dsimp only
  rw [h₁, ok_bind, hu, ok_bind, hv]
  exact ⟨_, rfl⟩

end Cases

section Project
variable {w : Wire} {runs : Run.Tables} {repository : String} {now : Int} {p q : Projecting} {s : Source}

/-- **What a source that is projected does**: its row is written, or an agreeing one is there. -/
theorem project_cases (h : project w runs repository now p s = .ok q) :
    isSafeOperatorControlIdentifier s.id = true ∧
    ((Inserted p.failures q.failures (s.occurrence w repository now) ∧ q.inserted = p.inserted + 1 ∧
        q.alreadyProjected = p.alreadyProjected) ∨
      (q.failures = p.failures ∧ (∃ o ∈ p.failures.occurrences.rows, o.agrees (s.occurrence w repository now) = true) ∧
        q.inserted = p.inserted ∧ q.alreadyProjected = p.alreadyProjected + 1)) := by
  unfold project at h
  obtain ⟨_, hsafe, h⟩ := bind_ok h
  obtain ⟨⟨changed, f⟩, hinsert, h⟩ := bind_ok h
  refine ⟨ensure_ok hsafe, ?_⟩
  rcases insertOccurrence_cases hinsert with ⟨rfl, rfl⟩ | ⟨rfl, hfree, hrows, hmem⟩
  · obtain ⟨_, hagrees, h⟩ := bind_ok h
    cases h
    exact Or.inr ⟨rfl, List.any_eq_true.1 (ensure_ok hagrees), rfl, rfl⟩
  · obtain ⟨g, hassign, h⟩ := bind_ok h
    cases h
    obtain ⟨hocc, m, hm, hid⟩ := assignOccurrence_ok hassign
    exact Or.inl ⟨⟨hfree, hocc ▸ hrows, m, hmem ▸ hm, hid⟩, rfl, rfl⟩

theorem agrees_key {o o' : Occurrence} (h : o.agrees o' = true) : o.key = o'.key := by
  simp only [Occurrence.agrees, Bool.and_eq_true, decide_eq_true_eq, beq_iff_eq] at h
  obtain ⟨⟨⟨⟨⟨⟨⟨⟨⟨⟨hkind, hid⟩, -⟩, -⟩, -⟩, -⟩, -⟩, -⟩, -⟩, -⟩, -⟩ := h
  exact Prod.ext hkind hid

def Cites (runs : Run.Tables) (s : Source) : Prop := ∀ e, s.event = some e → ∃ q ∈ runs.events, (q.id : Int) = e

/-- **When a source is projected**: every row of it agrees, where no other source has the id of its row. -/
theorem project_isOk_iff (hsafe : isSafeOperatorControlIdentifier s.id = true)
    (hknown : runs.repositories.contains repository = true) (hcites : Cites runs s)
    (hids : ∀ o ∈ p.failures.occurrences.rows, o.id = (s.occurrence w repository now).id → o.key = s.key)
    (honce : (p.failures.occurrences.rows.map Occurrence.key).Nodup) :
    (∃ q, project w runs repository now p s = .ok q) ↔
      ∀ o ∈ p.failures.occurrences.rows, o.key = s.key → o.agrees (s.occurrence w repository now) = true := by
  constructor
  · rintro ⟨q, h⟩ o ho hkey
    rcases (project_cases h).2 with ⟨hinserted, -⟩ | ⟨-, ⟨o', ho', hagrees⟩, -⟩
    · -- the key was free
      have hfree := List.any_eq_false.1 hinserted.free o ho
      rw [show (s.occurrence w repository now).key = s.key from rfl, hkey] at hfree
      simp at hfree
    · have hsame : o' = o := List.inj_on_of_nodup_map honce ho' ho ((agrees_key hagrees).trans hkey.symm)
      rw [← hsame]
      exact hagrees
  · intro h
    unfold project
    rw [hsafe, ensure_true, ok_bind]
    unfold insertOccurrence
    dsimp only
    rw [occurrence_checked, Bool.not_true, Bool.false_or]
    by_cases htaken : p.failures.taken (s.occurrence w repository now) = true
    · rw [if_pos htaken]
      obtain ⟨o, ho, hsame⟩ := List.any_eq_true.1 htaken
      have hkey : o.key = s.key := by
        simp only [Bool.or_eq_true, beq_iff_eq, decide_eq_true_eq] at hsame
        rcases hsame with hid | hkey
        · exact hids o ho hid
        · exact hkey
      have hany : p.failures.occurrences.rows.any (fun q => q.agrees (s.occurrence w repository now)) = true :=
        List.any_eq_true.2 ⟨o, ho, h o ho hkey⟩
      show ∃ q, (ensure _ _ >>= fun _ => _) = _
      rw [hany, ensure_true]
      exact ⟨_, rfl⟩
    · rw [if_neg htaken]
      have hfree : (s.occurrence w repository now).id ∉ p.failures.occurrences.rows.map Occurrence.id := by
        intro hmem
        obtain ⟨o, ho, hid⟩ := List.mem_map.1 hmem
        exact htaken (List.any_eq_true.2 ⟨o, ho, by rw [hid]; simp⟩)
      obtain ⟨u, hu⟩ := insertRow_isOk (r := s.occurrence w repository now) hfree
      have hevent : s.event.all (fun e => runs.events.any (fun q => decide ((q.id : Int) = e))) = true := by
        cases hs : s.event with
        | none => rfl
        | some e =>
          obtain ⟨q, hq, hid⟩ := hcites e hs
          exact List.any_eq_true.2 ⟨q, hq, decide_eq_true hid⟩
      have hmem : s.occurrence w repository now ∈ u.rows := by
        rw [(insertRow_ok_iff.1 hu).2]
        exact List.mem_append_right _ List.mem_cons_self
      obtain ⟨g, hg⟩ := @assignOccurrence_isOk runs (s.occurrence w repository now) now { p.failures with occurrences := u }
        hmem hknown
      rw [show (s.occurrence w repository now).repositoryId = repository from rfl,
        show (s.occurrence w repository now).sourceDomainEventId = s.event from rfl, hknown, hevent, Bool.and_self,
        require, ensure_true, ok_bind, hu, ok_bind]
      show ∃ q, (assignOccurrence runs _ now _ >>= fun f => _) = _
      rw [hg]
      exact ⟨_, rfl⟩

end Project

end FailureProjection
end Bildr
