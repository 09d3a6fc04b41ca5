import Bildr.InvestigationCompletion
import Bildr.Trace
/-!
# CompletionLedger — a stored artifact completes its attempt once

Whatever states the rows are left in between, an artifact has no receipts or one of each kind (`PairedOnce`): the receipt
of the run is looked up under the run that the stored artifact names, and both are written together.  A call that succeeds
leaves the terminal states, and a second call after it finds them and both receipts and changes nothing
(`completion_converges`).
-/
namespace Bildr
namespace Completion

open Control (SourceEvent Wire InvestigationArtifact InvestigationTables)
open Json (Value)
open Trace (Along run)

/-! ## Receipts of an artifact -/

def names (artifactId : String) (e : SourceEvent) : Bool := e.payload.findText ["artifact_id"] == some artifactId

def receiptsOf (eventType : String) (events : List SourceEvent) (artifactId : String) : List SourceEvent :=
  events.filter (fun e => e.eventType == eventType && names artifactId e)

/-- **Every artifact has both receipts, once, or neither.** -/
def PairedOnce (events : List SourceEvent) : Prop :=
  ∀ artifactId, (receiptsOf agentReceiptType events artifactId).length = (receiptsOf runReceiptType events artifactId).length ∧
    (receiptsOf runReceiptType events artifactId).length ≤ 1

/-! ## The calls -/

structure OtherEvent where
  event : SourceEvent
  other : event.eventType ≠ agentReceiptType ∧ event.eventType ≠ runReceiptType

/-- `update` is any other call: it leaves the rows of tasks, attempts, agents, worktrees and metadata as it likes. -/
inductive CompletionCall
  | record (a : InvestigationArtifact)
  | finalize (q : FinalizeRequest) (now : Int)
  | update (l : LifecycleTables)
  | append (e : OtherEvent)

def completionStep (w : Wire) (t : CompletionTables) : CompletionCall → CompletionTables
  | .record a       => { t with investigations := (Control.recordInvestigationArtifact w a t.investigations).2 }
  | .finalize q now => (finalizeInvestigationArtifactLifecycle w q now t).2
  | .update l       => { t with lifecycle := l }
  | .append e       => { t with events := t.events ++ [{ e.event with id := Control.nextEventId t.events }] }

def newTables (l : LifecycleTables) : CompletionTables := ⟨l, ⟨Table.empty, Table.empty⟩, []⟩

/-! ## Looking for a receipt -/

def readEvents (events : List SourceEvent) (runId aggregateType aggregateId eventType : String) : List SourceEvent :=
  events.filter (fun e => e.runId == some runId && e.aggregateType == aggregateType &&
    e.aggregateId == aggregateId && e.eventType == eventType)

/-- Every event that is read names an artifact, and those of this one have this payload. -/
def Readable (events : List SourceEvent) (artifactId : String) (payload : Value) : Prop :=
  ∀ e ∈ events, (e.payload.findText ["artifact_id"]).isSome = true ∧ (names artifactId e = true → e.payload = payload)

theorem readable_cons {e : SourceEvent} {l : List SourceEvent} {artifactId : String} {payload : Value} :
    Readable (e :: l) artifactId payload ↔
      ((e.payload.findText ["artifact_id"]).isSome = true ∧ (names artifactId e = true → e.payload = payload)) ∧
        Readable l artifactId payload := List.forall_mem_cons

theorem matchReceipt_ok_iff {artifactId : String} {payload : Value} {n m : Nat} {e : SourceEvent} :
    matchReceipt artifactId payload n e = .ok m ↔
      ((e.payload.findText ["artifact_id"]).isSome = true ∧ (names artifactId e = true → e.payload = payload)) ∧
        m = n + if names artifactId e = true then 1 else 0 := by
  unfold matchReceipt names
  cases e.payload.findText ["artifact_id"] with
  | none => simp [okOr]
  | some id =>
    simp only [okOr, ok_bind]
    by_cases hname : id = artifactId
    · by_cases hpay : e.payload = payload
      · simp only [hname, hpay, beq_self_eq_true, if_true, ensure_true, ok_bind, pure_ok, Except.ok.injEq,
          Option.isSome_some, implies_true, and_self, true_and]
        exact eq_comm
      · simp [hname, hpay, ensure]
    · have hne : (id == artifactId) = false := by simpa using hname
      simp only [hne, Option.some_beq_some, Bool.false_eq_true, if_false, pure_ok, Except.ok.injEq, Option.isSome_some,
        false_implies, and_self, true_and, Nat.add_zero]
      exact eq_comm

theorem matching_ok_iff {artifactId : String} {payload : Value} : ∀ {l : List SourceEvent} {n m : Nat},
    l.foldlM (matchReceipt artifactId payload) n = .ok m ↔
      Readable l artifactId payload ∧ m = n + (l.filter (names artifactId)).length
  | [], n, m => by
    have hnil : Readable [] artifactId payload := fun e he => by cases he
    rw [List.foldlM_nil, pure_ok, Except.ok.injEq, List.filter_nil, List.length_nil, Nat.add_zero]
    exact ⟨fun h => ⟨hnil, h.symm⟩, fun h => h.2.symm⟩
  | e :: l, n, m => by
    have hcount : ((e :: l).filter (names artifactId)).length =
        (if names artifactId e = true then 1 else 0) + (l.filter (names artifactId)).length := by
      rw [List.filter_cons]
      split
      · rw [List.length_cons]
        omega
      · omega
    rw [List.foldlM_cons, readable_cons, hcount]
    constructor
    · intro h
      obtain ⟨k, hk, h⟩ := bind_ok h
      obtain ⟨he, rfl⟩ := matchReceipt_ok_iff.1 hk
      obtain ⟨hl, rfl⟩ := matching_ok_iff.1 h
      exact ⟨⟨he, hl⟩, by omega⟩
    · rintro ⟨⟨he, hl⟩, rfl⟩
      rw [matchReceipt_ok_iff.2 ⟨he, rfl⟩, ok_bind, matching_ok_iff]
      exact ⟨hl, by omega⟩

/-- **What a lookup says**: every event it reads is a receipt, those of the artifact are equal and at most one. -/
theorem exists_ok_iff {events : List SourceEvent} {runId aggregateType aggregateId eventType artifactId : String}
    {payload : Value} {there : Bool} (hp : payload.findText ["artifact_id"] = some artifactId) :
    investigationCompletionEventExists events runId aggregateType aggregateId eventType payload = .ok there ↔
      Readable (readEvents events runId aggregateType aggregateId eventType) artifactId payload ∧
        ((readEvents events runId aggregateType aggregateId eventType).filter (names artifactId)).length ≤ 1 ∧
        there = (((readEvents events runId aggregateType aggregateId eventType).filter (names artifactId)).length == 1) := by
  unfold investigationCompletionEventExists
  simp only [hp, okOr, ok_bind]
  constructor
  · intro h
    obtain ⟨matching, hm, h⟩ := bind_ok h
    obtain ⟨hread, hcount⟩ := matching_ok_iff.1 hm
    rw [Nat.zero_add] at hcount
    obtain ⟨hle, h⟩ := Control.ensure_bind_ok.1 h
    rw [hcount] at hle h
    exact ⟨hread, of_decide_eq_true hle, (Except.ok.inj h).symm⟩
  · rintro ⟨hread, hle, rfl⟩
    have hm : (readEvents events runId aggregateType aggregateId eventType).foldlM (matchReceipt artifactId payload) 0 =
        .ok ((readEvents events runId aggregateType aggregateId eventType).filter (names artifactId)).length :=
      matching_ok_iff.2 ⟨hread, by rw [Nat.zero_add]⟩
    refine Eq.trans (congrArg (· >>= _) hm) ?_
    rw [ok_bind, Control.ensure_bind_ok]
    exact ⟨decide_eq_true hle, rfl⟩

theorem agentReceipt_names (a : InvestigationArtifact) (taskId attemptId : String) :
    (agentReceipt a taskId attemptId).findText ["artifact_id"] = some a.artifactId := rfl

theorem runReceipt_names (a : InvestigationArtifact) (taskId attemptId : String) :
    (runReceipt a taskId attemptId).findText ["artifact_id"] = some a.artifactId := rfl

theorem record_ok {events events' : List SourceEvent} {runId aggregateType aggregateId eventType : String}
    {payload : Value} {now : Int}
    (h : recordInvestigationCompletionEvent events runId aggregateType aggregateId eventType payload now = .ok events') :
    investigationCompletionEventExists events runId aggregateType aggregateId eventType payload = .ok false ∧
      events' = events ++
        [⟨Control.nextEventId events, some runId, aggregateType, aggregateId, eventType, now, payload⟩] := by
  unfold recordInvestigationCompletionEvent at h
  obtain ⟨there, hthere, h⟩ := bind_ok h
  obtain ⟨hnot, h⟩ := Control.ensure_bind_ok.1 h
  cases h
  refine ⟨?_, rfl⟩
  rw [hthere, show there = false by simpa using hnot]

/-! ## What a call does -/

theorem lifecycleBinding_iff {l : LifecycleTables} {taskId attemptId agentId : String} {b : InvestigationLifecycleBinding} :
    lifecycleBinding l taskId attemptId agentId = some b ↔
      l.tasks.get taskId = some b.task ∧ l.attempts.get attemptId = some b.attempt ∧ b.attempt.taskId = b.task.id ∧
        l.agents.get agentId = some b.agent ∧ liveWorktree l b.attempt.id = some b.worktree := by
  unfold lifecycleBinding
  simp only [Option.bind_eq_some_iff, Option.filter_eq_some_iff, Option.map_eq_some_iff, beq_iff_eq]
  constructor
  · rintro ⟨task, htask, attempt, ⟨hattempt, hof⟩, agent, hagent, worktree, hworktree, rfl⟩
    exact ⟨htask, hattempt, hof, hagent, hworktree⟩
  · rintro ⟨htask, hattempt, hof, hagent, hworktree⟩
    exact ⟨b.task, htask, b.attempt, ⟨hattempt, hof⟩, b.agent, hagent, b.worktree, hworktree, rfl⟩

theorem persistedArtifact_ok {w : Wire} {t : InvestigationTables} {q : FinalizeRequest} {persisted : InvestigationArtifact}
    (h : persistedArtifact w t q = .ok persisted) : persisted = q.artifact ∧ persisted ∈ t.artifacts.rows := by
  unfold persistedArtifact at h
  obtain ⟨-, h⟩ := Control.bind_unit_ok.1 h
  obtain ⟨-, h⟩ := Control.ensure_bind_ok.1 h
  obtain ⟨row, hrow, h⟩ := bind_ok h
  obtain ⟨checked, hchecked, h⟩ := bind_ok h
  obtain ⟨hsame, h⟩ := Control.ensure_bind_ok.1 h
  obtain ⟨-, hchecked⟩ := Control.ensure_bind_ok.1 hchecked
  cases hchecked
  cases h
  exact ⟨by simpa using hsame, Table.mem_of_get (okOr_ok hrow)⟩

theorem boundLifecycle_ok_iff {l : LifecycleTables} {persisted : InvestigationArtifact} {q : FinalizeRequest}
    {b : InvestigationLifecycleBinding} : boundLifecycle l persisted q = .ok b ↔
      lifecycleBinding l q.taskId q.attemptId q.agentId = some b ∧ b.binds persisted q.attemptId = true ∧
        b.recoverable = true := by
  unfold boundLifecycle
  cases hb : lifecycleBinding l q.taskId q.attemptId q.agentId with
  | none => simp [okOr]
  | some c =>
    simp only [okOr, ok_bind]
    rw [Control.ensure_bind_ok, Control.ensure_bind_ok, pure_ok, Except.ok.injEq, Option.some.injEq]
    constructor
    · rintro ⟨hbinds, hrec, rfl⟩
      exact ⟨rfl, hbinds, hrec⟩
    · rintro ⟨rfl, hbinds, hrec⟩
      exact ⟨hbinds, hrec, rfl⟩

/-- What a call that succeeds has read: the artifact, its rows, and that both receipts are there or neither. -/
structure Found (w : Wire) (q : FinalizeRequest) (t : CompletionTables) (persisted : InvestigationArtifact)
    (b : InvestigationLifecycleBinding) (there : Bool) : Prop where
  artifact : persistedArtifact w t.investigations q = .ok persisted
  rows : boundLifecycle t.lifecycle persisted q = .ok b
  agent : investigationCompletionEventExists t.events b.task.runId "agent" q.agentId agentReceiptType
    (agentReceipt persisted q.taskId q.attemptId) = .ok there
  ofRun : investigationCompletionEventExists t.events b.task.runId "run" b.task.runId runReceiptType
    (runReceipt persisted q.taskId q.attemptId) = .ok there

def moved (q : FinalizeRequest) (t : CompletionTables) (persisted : InvestigationArtifact)
    (b : InvestigationLifecycleBinding) (now : Int) : LifecycleTables :=
  t.lifecycle.complete b.worktree.id q.attemptId q.taskId q.agentId q.deadlineKey persisted.baseSha now

/-- **A call succeeds** on terminal rows with both receipts and no deadline, which it leaves, or moves the rows and
writes the receipts that are not there. -/
theorem finalizeBody_ok_iff {w : Wire} {q : FinalizeRequest} {now : Int} {t t' : CompletionTables} {u : Unit} :
    finalizeBody w q now t = .ok (u, t') ↔ ∃ persisted b there, Found w q t persisted b there ∧
      ((b.completed = true ∧ t.lifecycle.metadata.get q.deadlineKey = none ∧ there = true ∧ t' = t) ∨
        (b.completed = false ∧ ∃ events, recordReceipts t.events persisted q b.task.runId there now = .ok events ∧
          t' = { t with lifecycle := moved q t persisted b now, events := events })) := by
  unfold finalizeBody
  constructor
  · intro h
    obtain ⟨persisted, hp, h⟩ := bind_ok h
    obtain ⟨b, hb, h⟩ := bind_ok h
    obtain ⟨agentThere, hagent, h⟩ := bind_ok h
    obtain ⟨runThere, hrun, h⟩ := bind_ok h
    cases hc : b.completed with
    | true =>
      simp only [hc, if_true] at h
      obtain ⟨hdeadline, h⟩ := Control.ensure_bind_ok.1 h
      obtain ⟨hboth, h⟩ := Control.ensure_bind_ok.1 h
      rw [Bool.and_eq_true] at hboth
      obtain ⟨rfl, rfl⟩ := hboth
      cases h
      exact ⟨persisted, b, true, ⟨hp, hb, hagent, hrun⟩, Or.inl ⟨hc, by simpa using hdeadline, rfl, rfl⟩⟩
    | false =>
      simp only [hc, Bool.false_eq_true, if_false] at h
      obtain ⟨hboth, hrest⟩ := Control.ensure_bind_ok.1 h
      obtain rfl : agentThere = runThere := by simpa using hboth
      obtain ⟨events, hevents, hrest⟩ := bind_ok hrest
      cases hrest
      exact ⟨persisted, b, agentThere, ⟨hp, hb, hagent, hrun⟩, Or.inr ⟨hc, events, hevents, rfl⟩⟩
  · rintro ⟨persisted, b, there, hf, h⟩
    simp only [hf.artifact, hf.rows, hf.agent, hf.ofRun, ok_bind]
    rcases h with ⟨hc, hdeadline, rfl, rfl⟩ | ⟨hc, events, hevents, rfl⟩
    · simp only [hc, if_true, hdeadline, Option.isSome_none, Bool.not_false, Bool.and_self, ensure_true, ok_bind, pure_ok]
    · simp only [hc, Bool.false_eq_true, if_false, beq_self_eq_true, ensure_true, ok_bind, hevents, pure_ok]
      rfl

/-! ## The rows after a call -/

theorem get_update_key {α κ : Type} {key : α → κ} [DecidableEq κ] {table : Table key} {k : κ} {row : α} (f : α → α)
    (hf : ∀ r, key (f r) = key r) (h : table.get k = some row) :
    (table.update (fun r => key r == k) f hf).get k = some (f row) := by
  rw [Table.get_update, h, Option.map_some, if_pos (by simp [Table.key_of_get h])]

theorem liveWorktree_preserved {l l' : LifecycleTables} {attemptId : String} {worktree : WorktreeRow} {now : Int}
    (h : liveWorktree l attemptId = some worktree)
    (hl : l'.worktrees = l.worktrees.update (fun r => r.id == worktree.id) (WorktreeRow.preserve now)
      (WorktreeRow.preserve_id now)) : liveWorktree l' attemptId = some (worktree.preserve now) := by
  have hrows : (l'.worktrees.rows.filter (WorktreeRow.live attemptId)) =
      (l.worktrees.rows.filter (WorktreeRow.live attemptId)).map
        (fun r => if r.id == worktree.id then r.preserve now else r) := by
    rw [hl]
    show (List.map _ _).filter _ = _
    rw [List.filter_map]
    congr 1
    refine List.filter_congr (fun r _ => ?_)
    simp only [Function.comp]
    split <;> rfl
  unfold liveWorktree at h ⊢
  have hsorted := List.map_insertionSort (r := fun a b : WorktreeRow => b.createdAt ≤ a.createdAt)
    (s := fun a b : WorktreeRow => b.createdAt ≤ a.createdAt) (fun r => if r.id == worktree.id then r.preserve now else r)
    (l.worktrees.rows.filter (WorktreeRow.live attemptId)) (fun a _ b _ => by split <;> split <;> exact Iff.rfl)
  rw [hrows, ← hsorted, List.head?_map, h, Option.map_some, if_pos (by simp)]

def InvestigationLifecycleBinding.finish (b : InvestigationLifecycleBinding) (baseSha : String) (now : Int) :
    InvestigationLifecycleBinding :=
  ⟨b.task.close now, b.attempt.complete baseSha now, b.agent.complete now, b.worktree.preserve now⟩

theorem boundLifecycle_moved {w : Wire} {q : FinalizeRequest} {t : CompletionTables} {persisted : InvestigationArtifact}
    {b : InvestigationLifecycleBinding} {there : Bool} (hf : Found w q t persisted b there) (now : Int) :
    boundLifecycle (moved q t persisted b now) persisted q = .ok (b.finish persisted.baseSha now) := by
  obtain ⟨hbinding, hbinds, -⟩ := boundLifecycle_ok_iff.1 hf.rows
  obtain ⟨htask, hattempt, hof, hagent, hworktree⟩ := lifecycleBinding_iff.1 hbinding
  refine boundLifecycle_ok_iff.2 ⟨lifecycleBinding_iff.2 ⟨?_, ?_, hof, ?_, ?_⟩, hbinds, ?_⟩
  · exact get_update_key _ (TaskRow.close_id now) htask
  · exact get_update_key _ (AttemptRow.complete_id persisted.baseSha now) hattempt
  · exact get_update_key _ (AgentRow.complete_id now) hagent
  · exact liveWorktree_preserved hworktree rfl
  · rfl

/-! ## A second call -/

theorem exists_appended_other {events : List SourceEvent} {runId aggregateType aggregateId eventType artifactId : String}
    {payload : Value} {there : Bool} (hp : payload.findText ["artifact_id"] = some artifactId)
    (h : investigationCompletionEventExists events runId aggregateType aggregateId eventType payload = .ok there)
    {e : SourceEvent} (he : e.eventType ≠ eventType) :
    investigationCompletionEventExists (events ++ [e]) runId aggregateType aggregateId eventType payload = .ok there := by
  have hread : readEvents (events ++ [e]) runId aggregateType aggregateId eventType =
      readEvents events runId aggregateType aggregateId eventType := by
    unfold readEvents
    rw [List.filter_append, List.filter_cons_of_neg (by simp [he]), List.filter_nil, List.append_nil]
  rw [exists_ok_iff hp, hread]
  exact (exists_ok_iff hp).1 h

theorem exists_appended_self {events : List SourceEvent} {runId aggregateType aggregateId eventType artifactId : String}
    {payload : Value} (hp : payload.findText ["artifact_id"] = some artifactId)
    (h : investigationCompletionEventExists events runId aggregateType aggregateId eventType payload = .ok false)
    (n : Nat) (now : Int) :
    investigationCompletionEventExists (events ++ [⟨n, some runId, aggregateType, aggregateId, eventType, now, payload⟩])
      runId aggregateType aggregateId eventType payload = .ok true := by
  obtain ⟨hread, hle, hcount⟩ := (exists_ok_iff hp).1 h
  have hevents : readEvents (events ++ [⟨n, some runId, aggregateType, aggregateId, eventType, now, payload⟩])
      runId aggregateType aggregateId eventType = readEvents events runId aggregateType aggregateId eventType ++
        [⟨n, some runId, aggregateType, aggregateId, eventType, now, payload⟩] := by
    unfold readEvents
    rw [List.filter_append, List.filter_cons_of_pos (by simp), List.filter_nil]
  have hnames : names artifactId ⟨n, some runId, aggregateType, aggregateId, eventType, now, payload⟩ = true := by
    simp [names, hp]
  have hzero : ((readEvents events runId aggregateType aggregateId eventType).filter (names artifactId)).length = 0 := by
    have := beq_eq_false_iff_ne.1 hcount.symm
    omega
  rw [exists_ok_iff hp, hevents, List.filter_append, List.filter_cons_of_pos hnames, List.filter_nil, List.length_append,
    hzero]
  refine ⟨fun e he => ?_, by simp, rfl⟩
  rcases List.mem_append.1 he with he | he
  · exact hread e he
  · obtain rfl := List.mem_singleton.1 he
    exact ⟨by simp [hp], fun _ => rfl⟩

theorem types_differ : agentReceiptType ≠ runReceiptType := by decide

theorem recordReceipts_ok {events events' : List SourceEvent} {persisted : InvestigationArtifact} {q : FinalizeRequest}
    {runId : String} {there : Bool} {now : Int} (h : recordReceipts events persisted q runId there now = .ok events') :
    (there = true ∧ events' = events) ∨ (there = false ∧ ∃ n m, events' = events ++
      [⟨n, some runId, "agent", q.agentId, agentReceiptType, now, agentReceipt persisted q.taskId q.attemptId⟩,
        ⟨m, some runId, "run", runId, runReceiptType, now, runReceipt persisted q.taskId q.attemptId⟩]) := by
  unfold recordReceipts at h
  cases there with
  | true =>
    rw [if_pos rfl] at h
    cases h
    exact Or.inl ⟨rfl, rfl⟩
  | false =>
    rw [if_neg (by simp)] at h
    obtain ⟨mid, hmid, h⟩ := bind_ok h
    obtain ⟨-, rfl⟩ := record_ok hmid
    obtain ⟨-, rfl⟩ := record_ok h
    exact Or.inr ⟨rfl, _, _, List.append_assoc _ _ _⟩

theorem receipts_there {w : Wire} {q : FinalizeRequest} {t : CompletionTables} {persisted : InvestigationArtifact}
    {b : InvestigationLifecycleBinding} {there : Bool} {now : Int} {events : List SourceEvent}
    (hf : Found w q t persisted b there)
    (h : recordReceipts t.events persisted q b.task.runId there now = .ok events) :
    investigationCompletionEventExists events b.task.runId "agent" q.agentId agentReceiptType
        (agentReceipt persisted q.taskId q.attemptId) = .ok true ∧
      investigationCompletionEventExists events b.task.runId "run" b.task.runId runReceiptType
        (runReceipt persisted q.taskId q.attemptId) = .ok true := by
  have hagent := hf.agent
  have hrun := hf.ofRun
  rcases recordReceipts_ok h with ⟨rfl, rfl⟩ | ⟨rfl, n, m, rfl⟩
  · exact ⟨hagent, hrun⟩
  · have hsplit : ∀ e e' : SourceEvent, t.events ++ [e, e'] = (t.events ++ [e]) ++ [e'] := by simp
    rw [hsplit]
    have hnewAgent := exists_appended_self (agentReceipt_names persisted q.taskId q.attemptId) hagent n now
    have hnewRun := exists_appended_other (e := ⟨n, some b.task.runId, "agent", q.agentId, agentReceiptType, now,
      agentReceipt persisted q.taskId q.attemptId⟩) (runReceipt_names persisted q.taskId q.attemptId) hrun types_differ
    exact ⟨exists_appended_other (agentReceipt_names persisted q.taskId q.attemptId) hnewAgent types_differ.symm,
      exists_appended_self (runReceipt_names persisted q.taskId q.attemptId) hnewRun m now⟩

theorem deadline_gone {q : FinalizeRequest} {t : CompletionTables} {persisted : InvestigationArtifact}
    {b : InvestigationLifecycleBinding} {now : Int} : (moved q t persisted b now).metadata.get q.deadlineKey = none := by
  show (t.lifecycle.metadata.delete (fun m => m.key == q.deadlineKey)).get q.deadlineKey = none
  rw [Table.get_delete, Option.filter_eq_none_iff]
  intro m hm
  simp [Table.key_of_get hm]

/-- **What a call leaves**: the terminal states, and no deadline. -/
structure Terminal (t : CompletionTables) (q : FinalizeRequest) : Prop where
  task : ∃ k, t.lifecycle.tasks.get q.taskId = some k ∧ k.state = .closed
  attempt : ∃ a, t.lifecycle.attempts.get q.attemptId = some a ∧ a.state = "COMPLETED"
  agent : ∃ g, t.lifecycle.agents.get q.agentId = some g ∧ g.state = "COMPLETED"
  worktree : ∃ r, liveWorktree t.lifecycle q.attemptId = some r ∧ r.state = "PRESERVED"
  deadline : t.lifecycle.metadata.get q.deadlineKey = none

theorem terminal_of_completed {t : CompletionTables} {q : FinalizeRequest} {persisted : InvestigationArtifact}
    {b : InvestigationLifecycleBinding} (hb : boundLifecycle t.lifecycle persisted q = .ok b) (hc : b.completed = true)
    (hdeadline : t.lifecycle.metadata.get q.deadlineKey = none) : Terminal t q := by
  obtain ⟨htask, hattempt, -, hagent, hworktree⟩ := lifecycleBinding_iff.1 (boundLifecycle_ok_iff.1 hb).1
  simp only [InvestigationLifecycleBinding.completed, Bool.and_eq_true, beq_iff_eq] at hc
  obtain ⟨⟨⟨hclosed, hcompleted⟩, hdone⟩, hpreserved⟩ := hc
  have hid : b.attempt.id = q.attemptId := Table.key_of_get hattempt
  rw [hid] at hworktree
  exact ⟨⟨_, htask, hclosed⟩, ⟨_, hattempt, hcompleted⟩, ⟨_, hagent, hdone⟩, ⟨_, hworktree, hpreserved⟩, hdeadline⟩

/-- **A call that succeeded, made again at once**, succeeds and changes nothing. -/
theorem finalize_settles {w : Wire} {q : FinalizeRequest} {now : Int} {t t' : CompletionTables} {u : Unit}
    (h : finalizeBody w q now t = .ok (u, t')) :
    Terminal t' q ∧ ∀ later, finalizeBody w q later t' = .ok ((), t') := by
  obtain ⟨persisted, b, there, hf, ⟨hc, hdeadline, rfl, rfl⟩ | ⟨-, events, hevents, rfl⟩⟩ := finalizeBody_ok_iff.1 h
  · exact ⟨terminal_of_completed hf.rows hc hdeadline,
      fun later => finalizeBody_ok_iff.2 ⟨persisted, b, true, hf, Or.inl ⟨hc, hdeadline, rfl, rfl⟩⟩⟩
  · have hrows := boundLifecycle_moved hf now
    obtain ⟨hagent, hrun⟩ := receipts_there hf hevents
    have hf' : Found w q { t with lifecycle := moved q t persisted b now, events := events } persisted
        (b.finish persisted.baseSha now) true := ⟨hf.artifact, hrows, hagent, hrun⟩
    exact ⟨terminal_of_completed hrows rfl deadline_gone,
      fun later => finalizeBody_ok_iff.2 ⟨persisted, _, true, hf', Or.inl ⟨rfl, deadline_gone, rfl, rfl⟩⟩⟩

/-! ## Receipts along a run -/

/-- **What holds at every moment**: the receipt of a run is that of the run its artifact is of, and receipts come in pairs. -/
structure Receipted (t : CompletionTables) : Prop where
  home : ∀ e ∈ t.events, e.eventType = runReceiptType → ∃ a ∈ t.investigations.artifacts.rows,
    names a.artifactId e = true ∧ e.runId = some a.runId ∧ e.aggregateType = "run" ∧ e.aggregateId = a.runId
  paired : PairedOnce t.events

theorem receiptsOf_append (eventType : String) (events : List SourceEvent) (e : SourceEvent) (artifactId : String) :
    (receiptsOf eventType (events ++ [e]) artifactId).length = (receiptsOf eventType events artifactId).length +
      if e.eventType = eventType ∧ names artifactId e = true then 1 else 0 := by
  unfold receiptsOf
  rw [List.filter_append, List.length_append, List.filter_cons, List.filter_nil]
  by_cases h : e.eventType = eventType ∧ names artifactId e = true
  · rw [if_pos (by simp [h.1, h.2]), if_pos h]
    rfl
  · rw [if_neg (by simpa using h), if_neg h]
    rfl

theorem Found.run_eq {w : Wire} {q : FinalizeRequest} {t : CompletionTables} {persisted : InvestigationArtifact}
    {b : InvestigationLifecycleBinding} {there : Bool} (hf : Found w q t persisted b there) :
    persisted.runId = b.task.runId := by
  have hbinds := (boundLifecycle_ok_iff.1 hf.rows).2.1
  simp only [InvestigationLifecycleBinding.binds, Bool.and_eq_true, beq_iff_eq] at hbinds
  exact hbinds.1.1.1.1.1

theorem Receipted.none {t : CompletionTables} (ht : Receipted t) {w : Wire} {q : FinalizeRequest}
    {persisted : InvestigationArtifact} {b : InvestigationLifecycleBinding} (hf : Found w q t persisted b false) :
    (receiptsOf runReceiptType t.events persisted.artifactId).length = 0 := by
  obtain ⟨-, hle, hcount⟩ := (exists_ok_iff (runReceipt_names persisted q.taskId q.attemptId)).1 hf.ofRun
  have hzero := beq_eq_false_iff_ne.1 hcount.symm
  have hrunId := hf.run_eq
  have hsub : receiptsOf runReceiptType t.events persisted.artifactId ⊆
      (readEvents t.events b.task.runId "run" b.task.runId runReceiptType).filter (names persisted.artifactId) := by
    intro e he
    obtain ⟨he, hm⟩ := List.mem_filter.1 he
    rw [Bool.and_eq_true, beq_iff_eq] at hm
    obtain ⟨a, ha, hnames, hrun, hkind, hof⟩ := ht.home e he hm.1
    have hid : a.artifactId = persisted.artifactId := by
      have h1 := hnames
      have h2 := hm.2
      unfold names at h1 h2
      rw [beq_iff_eq] at h1 h2
      exact Option.some.inj (h1.symm.trans h2)
    have hrow : a = persisted := List.inj_on_of_nodup_map t.investigations.artifacts.nodup ha
      (persistedArtifact_ok hf.artifact).2 hid
    rw [hrow, hrunId] at hrun hof
    exact List.mem_filter.2 ⟨List.mem_filter.2 ⟨he, by simp [hrun, hkind, hof, hm.1]⟩, hm.2⟩
  have hnil : (readEvents t.events b.task.runId "run" b.task.runId runReceiptType).filter (names persisted.artifactId) = [] :=
    List.eq_nil_of_length_eq_zero (by omega)
  rw [hnil] at hsub
  rw [List.subset_nil.1 hsub]
  rfl

theorem Receipted.finalize {t t' : CompletionTables} {u : Unit} {w : Wire} {q : FinalizeRequest} {now : Int}
    (ht : Receipted t) (h : finalizeBody w q now t = .ok (u, t')) : Receipted t' := by
  obtain ⟨persisted, b, there, hf, ⟨-, -, -, rfl⟩ | ⟨-, events, hevents, rfl⟩⟩ := finalizeBody_ok_iff.1 h
  · exact ht
  rcases recordReceipts_ok hevents with ⟨-, rfl⟩ | ⟨rfl, n, m, rfl⟩
  · exact ⟨ht.home, ht.paired⟩
  have hmem := (persistedArtifact_ok hf.artifact).2
  have hrunId := hf.run_eq
  refine ⟨fun e he htype => ?_, fun artifactId => ?_⟩
  · rcases List.mem_append.1 he with he | he
    · exact ht.home e he htype
    · rcases List.mem_cons.1 he with rfl | he
      · exact absurd htype types_differ
      · obtain rfl := List.mem_singleton.1 he
        exact ⟨persisted, hmem, by simp [names, runReceipt_names], by simp [hrunId], rfl, hrunId.symm⟩
  · have hsplit : ∀ e e' : SourceEvent, t.events ++ [e, e'] = (t.events ++ [e]) ++ [e'] := by simp
    obtain ⟨hpair, honce⟩ := ht.paired artifactId
    simp only [hsplit, receiptsOf_append, types_differ, types_differ.symm, names, agentReceipt_names, runReceipt_names,
      true_and, false_and, if_false, Nat.add_zero]
    by_cases hid : persisted.artifactId = artifactId
    · have hnone := ht.none hf
      rw [hid] at hnone
      simp only [hid, beq_self_eq_true, if_true]
      omega
    · have hne : (some persisted.artifactId == some artifactId) = false := by simpa using hid
      simp only [hne, Bool.false_eq_true, if_false, Nat.add_zero]
      exact ⟨hpair, honce⟩

theorem record_keeps (w : Wire) (a : InvestigationArtifact) (t : InvestigationTables) :
    ∀ row ∈ t.artifacts.rows, row ∈ (Control.recordInvestigationArtifact w a t).2.artifacts.rows := by
  unfold Control.recordInvestigationArtifact
  refine transaction_after (P := fun t' : InvestigationTables => ∀ row ∈ t.artifacts.rows, row ∈ t'.artifacts.rows)
    (fun row hrow => hrow) (fun a' t' hb row hrow => ?_)
  unfold Control.artifactBody at hb
  obtain ⟨-, hb⟩ := Control.bind_unit_ok.1 hb
  obtain ⟨link, -, hb⟩ := bind_ok hb
  cases hg : t.artifacts.get a.artifactId with
  | some existing =>
    simp only [hg] at hb
    obtain ⟨_, -, hb⟩ := bind_ok hb
    obtain ⟨-, hb⟩ := Control.ensure_bind_ok.1 hb
    obtain ⟨_, -, hb⟩ := bind_ok hb
    cases hb
    exact hrow
  | none =>
    simp only [hg] at hb
    obtain ⟨artifacts, hinsert, hb⟩ := bind_ok hb
    obtain ⟨_, -, hb⟩ := bind_ok hb
    cases hb
    show row ∈ artifacts.rows
    rw [(insertRow_ok_iff.1 hinsert).2]
    exact List.mem_append_left _ hrow

theorem Receipted.step (w : Wire) (t : CompletionTables) (c : CompletionCall) (ht : Receipted t) :
    Receipted (completionStep w t c) := by
  cases c with
  | record a =>
    refine ⟨fun e he htype => ?_, ht.paired⟩
    obtain ⟨row, hrow, h⟩ := ht.home e he htype
    exact ⟨row, record_keeps w a t.investigations row hrow, h⟩
  | finalize q now => exact transaction_after ht (fun u t' hb => ht.finalize hb)
  | update l => exact ⟨ht.home, ht.paired⟩
  | append e =>
    refine ⟨fun x hx htype => ?_, fun artifactId => ?_⟩
    · rcases List.mem_append.1 hx with hx | hx
      · exact ht.home x hx htype
      · obtain rfl := List.mem_singleton.1 hx
        exact absurd htype e.other.2
    · simp only [completionStep, receiptsOf_append, e.other.1, e.other.2, false_and, if_false, Nat.add_zero]
      exact ht.paired artifactId

theorem receipted_new (l : LifecycleTables) : Receipted (newTables l) :=
  ⟨fun _ he => (List.not_mem_nil he).elim, fun _ => ⟨rfl, Nat.zero_le 1⟩⟩

theorem receipted_run (w : Wire) : ∀ (calls : List CompletionCall) {t : CompletionTables}, Receipted t →
    Receipted (run (completionStep w) t calls)
  | [], _, ht => ht
  | c :: calls, t, ht => receipted_run w calls (ht.step w t c)

/-- A call fails and changes nothing, or leaves the terminal states, and the same call made again changes nothing. -/
def Converges (w : Wire) (t : CompletionTables) : CompletionCall → Prop
  | .finalize q now =>
    ((∃ e, (finalizeInvestigationArtifactLifecycle w q now t).1 = .error e) ∧
        (finalizeInvestigationArtifactLifecycle w q now t).2 = t) ∨
      ((finalizeInvestigationArtifactLifecycle w q now t).1 = .ok () ∧
        Terminal (finalizeInvestigationArtifactLifecycle w q now t).2 q ∧
        ∀ later, finalizeInvestigationArtifactLifecycle w q later (finalizeInvestigationArtifactLifecycle w q now t).2 =
          (.ok (), (finalizeInvestigationArtifactLifecycle w q now t).2))
  | _               => True

theorem finalize_converges (w : Wire) (q : FinalizeRequest) (now : Int) (t : CompletionTables) :
    Converges w t (.finalize q now) := by
  simp only [Converges, finalizeInvestigationArtifactLifecycle]
  rcases transaction_cases (finalizeBody w q now) t with ⟨e, -, h⟩ | ⟨u, t', hb, h⟩
  · rw [h]
    exact Or.inl ⟨⟨e, rfl⟩, rfl⟩
  · rw [h]
    obtain ⟨hterminal, hagain⟩ := finalize_settles hb
    refine Or.inr ⟨rfl, hterminal, fun later => ?_⟩
    unfold transaction
    rw [hagain later]

theorem converges_run (w : Wire) : ∀ (calls : List CompletionCall) (t : CompletionTables),
    Along (completionStep w) (Converges w) t calls
  | [], _ => trivial
  | .finalize q now :: calls, t => ⟨finalize_converges w q now t, converges_run w calls _⟩
  | .record _ :: calls, _ => ⟨trivial, converges_run w calls _⟩
  | .update _ :: calls, _ => ⟨trivial, converges_run w calls _⟩
  | .append _ :: calls, _ => ⟨trivial, converges_run w calls _⟩

/-- **Completion converges, once**: along every run each artifact has both receipts or neither and never two of a kind,
every call that succeeds leaves the terminal states and can be repeated, and every other call changes nothing. -/
theorem completion_converges (w : Wire) (l : LifecycleTables) (calls : List CompletionCall) :
    PairedOnce (run (completionStep w) (newTables l) calls).events ∧
      Along (completionStep w) (Converges w) (newTables l) calls :=
  ⟨(receipted_run w calls (receipted_new l)).paired, converges_run w calls (newTables l)⟩

end Completion
end Bildr
