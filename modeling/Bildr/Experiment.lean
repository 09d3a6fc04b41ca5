import Bildr.Contracts
/-!
# Experiment — an experiment and its stages

`harness.experiment.v1` goes through four stages.  Its state and the states of its stages are checked against one table
(`coherentState`), and advancing reads another: the stage before must have passed while the experiment is still in that
stage's running state.  No record is both (`running_stage_stuck`).
-/
namespace Bildr
namespace Promotion

open Json (Value)

/-! ## The record -/

inductive Stage
  | offline | holdout | shadow | canary
deriving DecidableEq, Repr

inductive StageState
  | pending | running | passed | failed | inconclusive | infrastructureUnavailable | invalidated | stopped
deriving DecidableEq, Repr

inductive ExperimentState
  | proposed | offlineRunning | holdoutRunning | shadowRunning | canaryRunning | promotionReview | failed | inconclusive
  | invalidated | stopped
deriving DecidableEq, Repr

structure StageEvidence where
  stage : Stage
  id : String
  digest : String
deriving DecidableEq, Repr

structure StageReceipt where
  stage : Stage
  state : StageState
  evidence : Option StageEvidence
  sampleCount : UInt64
  successfulPairs : UInt64
deriving DecidableEq, Repr

structure GateReceipt where
  gateId : String
  passed : Bool
  evidence : Receipt
deriving DecidableEq, Repr

structure ExperimentV1 where
  schema : String
  experimentId : String
  candidateId : String
  candidateReceipt : Receipt
  championBundleId : String
  championBundleReceipt : Receipt
  challengerBundleId : String
  challengerBundleReceipt : Receipt
  runtimePolicyDigest : String
  stages : List StageReceipt
  hardGates : List GateReceipt
  state : ExperimentState
  sha256 : String
deriving DecidableEq, Repr

/-! ## Its JSON -/

def Stage.name : Stage → String
  | .offline => "offline"
  | .holdout => "holdout"
  | .shadow  => "shadow"
  | .canary  => "canary"

def StageState.name : StageState → String
  | .pending                   => "pending"
  | .running                   => "running"
  | .passed                    => "passed"
  | .failed                    => "failed"
  | .inconclusive              => "inconclusive"
  | .infrastructureUnavailable => "infrastructure_unavailable"
  | .invalidated               => "invalidated"
  | .stopped                   => "stopped"

def ExperimentState.name : ExperimentState → String
  | .proposed        => "proposed"
  | .offlineRunning  => "offline_running"
  | .holdoutRunning  => "holdout_running"
  | .shadowRunning   => "shadow_running"
  | .canaryRunning   => "canary_running"
  | .promotionReview => "promotion_review"
  | .failed          => "failed"
  | .inconclusive    => "inconclusive"
  | .invalidated     => "invalidated"
  | .stopped         => "stopped"

def StageEvidence.json (e : StageEvidence) : Value :=
  .obj [("stage", .str e.stage.name), ("id", .str e.id), ("digest", .str e.digest)]

def StageReceipt.json (s : StageReceipt) : Value :=
  .obj [("stage", .str s.stage.name), ("state", .str s.state.name),
    ("evidence", (s.evidence.map StageEvidence.json).getD .null), ("sample_count", ofWord s.sampleCount),
    ("successful_pairs", ofWord s.successfulPairs)]

def GateReceipt.json (g : GateReceipt) : Value :=
  .obj [("gate_id", .str g.gateId), ("passed", .bool g.passed), ("evidence", g.evidence.json)]

def ExperimentV1.fields (e : ExperimentV1) : List (String × Value) :=
  [("schema", .str e.schema), ("experiment_id", .str e.experimentId), ("candidate_id", .str e.candidateId),
    ("candidate_receipt", e.candidateReceipt.json), ("champion_bundle_id", .str e.championBundleId),
    ("champion_bundle_receipt", e.championBundleReceipt.json), ("challenger_bundle_id", .str e.challengerBundleId),
    ("challenger_bundle_receipt", e.challengerBundleReceipt.json), ("runtime_policy_digest", .str e.runtimePolicyDigest),
    ("stages", .arr (e.stages.map StageReceipt.json)), ("hard_gates", .arr (e.hardGates.map GateReceipt.json)),
    ("state", .str e.state.name), ("sha256", .str e.sha256)]

/-! ## The checks -/

def coherentState (e : ExperimentV1) : Bool :=
  let states := e.stages.map StageReceipt.state
  match e.state with
  | .proposed        => states == [.pending, .pending, .pending, .pending]
  | .offlineRunning  => states == [.running, .pending, .pending, .pending]
  | .holdoutRunning  => states == [.passed, .running, .pending, .pending]
  | .shadowRunning   => states == [.passed, .passed, .running, .pending]
  | .canaryRunning   => states == [.passed, .passed, .passed, .running]
  | .promotionReview => states == [.passed, .passed, .passed, .passed]
  | .failed          => states.contains .failed
  | .inconclusive    => states.contains .inconclusive || states.contains .infrastructureUnavailable
  | .invalidated     => states.contains .invalidated
  | .stopped         => states.contains .stopped

def StageEvidence.validFor (e : StageEvidence) (stage : Stage) : Bool :=
  decide (e.stage = stage) && isId e.id && isDigest e.digest

def StageReceipt.valid (s : StageReceipt) : Bool :=
  decide (s.successfulPairs ≤ s.sampleCount) && s.evidence.all (fun e => e.validFor s.stage) &&
    (s.state != .passed || s.evidence.isSome)

def ExperimentV1.identified (e : ExperimentV1) : Bool :=
  e.schema == "harness.experiment.v1" &&
    [e.experimentId, e.candidateId, e.championBundleId, e.challengerBundleId].all isId &&
    e.championBundleId != e.challengerBundleId &&
    e.candidateReceipt.validAs .candidate && e.candidateReceipt.id == e.candidateId &&
    e.championBundleReceipt.validAs .championBundle && e.championBundleReceipt.id == e.championBundleId &&
    e.challengerBundleReceipt.validAs .challengerBundle && e.challengerBundleReceipt.id == e.challengerBundleId &&
    isDigest e.runtimePolicyDigest

def ExperimentV1.staged (e : ExperimentV1) : Bool :=
  e.stages.map StageReceipt.stage == [.offline, .holdout, .shadow, .canary] && e.stages.all StageReceipt.valid

def ExperimentV1.gated (e : ExperimentV1) : Bool :=
  e.hardGates.all (fun g => isId g.gateId && g.evidence.validAs .hardGate) && !e.hardGates.isEmpty

section Digest
-- the hexadecimal SHA-256 of a value's text
variable (digestJson : Value → String)

def verifyExperiment (e : ExperimentV1) : Except ContractError Unit :=
  ensure (e.identified && e.staged && coherentState e && e.gated && digestWithoutSelf digestJson e.fields == e.sha256)
    .digest

def ExperimentV1.signed (e : ExperimentV1) : ExperimentV1 := { e with sha256 := digestWithoutSelf digestJson e.fields }

/-! ## Advancing -/

def Stage.index : Stage → Nat
  | .offline => 0
  | .holdout => 1
  | .shadow  => 2
  | .canary  => 3

def Stage.expected : Stage → ExperimentState
  | .offline => .proposed
  | .holdout => .offlineRunning
  | .shadow  => .holdoutRunning
  | .canary  => .shadowRunning

def Stage.running : Stage → ExperimentState
  | .offline => .offlineRunning
  | .holdout => .holdoutRunning
  | .shadow  => .shadowRunning
  | .canary  => .canaryRunning

/-- The state of the stage at an index; a verified experiment has all four. -/
def ExperimentV1.stageState (e : ExperimentV1) (i : Nat) : Option StageState := (e.stages.map StageReceipt.state)[i]?

def startStage (s : StageReceipt) : StageReceipt := { s with state := .running }

def advanceStage (e : ExperimentV1) (stage : Stage) : Except ContractError ExperimentV1 := do
  verifyExperiment digestJson e
  ensure (e.hardGates.all GateReceipt.passed) .hardGate
  ensure (decide (e.state = stage.expected)) .stageOrder
  ensure (e.stageState stage.index == some .pending &&
    (stage.index == 0 || e.stageState (stage.index - 1) == some .passed)) .stageOrder
  let next := { e with stages := e.stages.modify stage.index startStage, state := stage.running }
  return next.signed digestJson

/-! ## Recording a stage -/

def passStage (evidence : StageEvidence) (samples pairs : UInt64) (s : StageReceipt) : StageReceipt :=
  { s with state := .passed, evidence := some evidence, sampleCount := samples, successfulPairs := pairs }

def recordPassed (e : ExperimentV1) (stage : Stage) (evidence : StageEvidence) (samples pairs : UInt64) : ExperimentV1 :=
  ExperimentV1.signed digestJson { e with stages := e.stages.modify stage.index (passStage evidence samples pairs) }

end Digest

/-! ## What a verified experiment is -/

section Verified
variable {digestJson : Value → String} {e out : ExperimentV1} {stage : Stage}

theorem verifyExperiment_ok : verifyExperiment digestJson e = .ok () ↔
    e.identified = true ∧ e.staged = true ∧ coherentState e = true ∧ e.gated = true ∧
      digestWithoutSelf digestJson e.fields = e.sha256 := by
  unfold verifyExperiment
  constructor
  · intro h
    have hall := ensure_ok h
    simp only [Bool.and_eq_true, beq_iff_eq] at hall
    exact ⟨hall.1.1.1.1, hall.1.1.1.2, hall.1.1.2, hall.1.2, hall.2⟩
  · rintro ⟨hid, hstaged, hstate, hgated, hdigest⟩
    rw [hid, hstaged, hstate, hgated, hdigest]
    simp

theorem digest_signed (e : ExperimentV1) (text : String) :
    digestWithoutSelf digestJson { e with sha256 := text }.fields = digestWithoutSelf digestJson e.fields := by
  unfold digestWithoutSelf ExperimentV1.fields
  simp only [List.filter_cons, List.filter_nil]
  rfl

theorem staged_four (h : e.staged = true) : ∃ a b c d, e.stages = [a, b, c, d] := by
  unfold ExperimentV1.staged at h
  rw [Bool.and_eq_true, beq_iff_eq] at h
  have hlength := congrArg List.length h.1
  rw [List.length_map] at hlength
  exact List.length_eq_four.1 hlength

theorem advanceStage_ok (h : advanceStage digestJson e stage = .ok out) :
    verifyExperiment digestJson e = .ok () ∧ e.state = stage.expected ∧ e.stageState stage.index = some .pending ∧
      (stage.index = 0 ∨ e.stageState (stage.index - 1) = some .passed) ∧
      out = ExperimentV1.signed digestJson
        { e with stages := e.stages.modify stage.index startStage, state := stage.running } := by
  unfold advanceStage at h
  obtain ⟨u, hverified, h⟩ := bind_ok h
  obtain ⟨u, -, h⟩ := bind_ok h
  obtain ⟨u, hstate, h⟩ := bind_ok h
  obtain ⟨u, hstages, h⟩ := bind_ok h
  cases h
  have hstages := ensure_ok hstages
  simp only [Bool.and_eq_true, Bool.or_eq_true, beq_iff_eq] at hstages
  exact ⟨hverified, of_decide_eq_true (ensure_ok hstate), hstages.1, hstages.2, rfl⟩

theorem advanceStage_offline (h : advanceStage digestJson e stage = .ok out) : stage = .offline := by
  obtain ⟨hverified, hstate, -, hbefore, -⟩ := advanceStage_ok h
  obtain ⟨-, hstaged, hcoherent, -, -⟩ := verifyExperiment_ok.1 hverified
  obtain ⟨a, b, c, d, hstages⟩ := staged_four hstaged
  unfold coherentState at hcoherent
  unfold ExperimentV1.stageState at hbefore
  rw [hstages] at hcoherent hbefore
  -- the stage before is running, as the state says
  cases stage with
  | offline => rfl
  | holdout =>
    simp [hstate, Stage.expected] at hcoherent
    simp [Stage.index, hcoherent] at hbefore
  | shadow =>
    simp [hstate, Stage.expected] at hcoherent
    simp [Stage.index, hcoherent] at hbefore
  | canary =>
    simp [hstate, Stage.expected] at hcoherent
    simp [Stage.index, hcoherent] at hbefore

theorem startStage_valid {s : StageReceipt} (h : s.valid = true) : (startStage s).valid = true := by
  unfold StageReceipt.valid at h ⊢
  simp only [Bool.and_eq_true] at h
  simp only [startStage, Bool.and_eq_true]
  exact ⟨h.1, rfl⟩

theorem advanceStage_verified (h : advanceStage digestJson e stage = .ok out) :
    verifyExperiment digestJson out = .ok () := by
  have hoffline := advanceStage_offline h
  subst hoffline
  obtain ⟨hverified, hstate, -, -, rfl⟩ := advanceStage_ok h
  obtain ⟨hid, hstaged, hcoherent, hgated, -⟩ := verifyExperiment_ok.1 hverified
  obtain ⟨a, b, c, d, hstages⟩ := staged_four hstaged
  refine verifyExperiment_ok.2 ⟨hid, ?_, ?_, hgated, digest_signed _ _⟩
  · unfold ExperimentV1.staged at hstaged ⊢
    rw [hstages] at hstaged
    simp only [List.map_cons, List.map_nil, List.all_cons, List.all_nil, Bool.and_eq_true, Bool.and_true] at hstaged
    show ((e.stages.modify 0 startStage).map StageReceipt.stage == _ && (e.stages.modify 0 startStage).all _) = true
    rw [hstages]
    simp only [List.modify_zero_cons, List.map_cons, List.map_nil, List.all_cons, List.all_nil, Bool.and_true,
      Bool.and_eq_true]
    exact ⟨hstaged.1, startStage_valid hstaged.2.1, hstaged.2.2⟩
  · unfold coherentState at hcoherent
    rw [hstages] at hcoherent
    simp [hstate, Stage.expected] at hcoherent
    unfold coherentState
    show ((e.stages.modify 0 startStage).map StageReceipt.state == [.running, .pending, .pending, .pending]) = true
    rw [hstages]
    simp [startStage, hcoherent]

theorem recordPassed_incoherent (evidence : StageEvidence) (samples pairs : UInt64)
    (hverified : verifyExperiment digestJson e = .ok ()) (hrunning : e.state = stage.running) :
    coherentState (recordPassed digestJson e stage evidence samples pairs) = false := by
  obtain ⟨-, hstaged, -⟩ := verifyExperiment_ok.1 hverified
  obtain ⟨a, b, c, d, hstages⟩ := staged_four hstaged
  unfold coherentState
  cases stage with
  | offline =>
    simp [recordPassed, ExperimentV1.signed, hrunning, Stage.running, Stage.index, hstages, passStage]
  | holdout =>
    simp [recordPassed, ExperimentV1.signed, hrunning, Stage.running, Stage.index, hstages, passStage]
  | shadow =>
    simp [recordPassed, ExperimentV1.signed, hrunning, Stage.running, Stage.index, hstages, passStage]
  | canary =>
    simp [recordPassed, ExperimentV1.signed, hrunning, Stage.running, Stage.index, hstages, passStage]

/-- **Recording the running stage as passed leaves a record that no stage advances; what advancing gives is verified.** -/
theorem running_stage_stuck (e : ExperimentV1) (stage next : Stage) (evidence : StageEvidence) (samples pairs : UInt64)
    (hverified : verifyExperiment digestJson e = .ok ()) (hrunning : e.state = stage.running) :
    advanceStage digestJson (recordPassed digestJson e stage evidence samples pairs) next = .error .digest ∧
      ∀ f s out, advanceStage digestJson f s = .ok out → verifyExperiment digestJson out = .ok () := by
  refine ⟨?_, fun f s out h => advanceStage_verified h⟩
  have hincoherent := recordPassed_incoherent evidence samples pairs hverified hrunning
  unfold advanceStage verifyExperiment
  rw [hincoherent, Bool.and_false, Bool.false_and, Bool.false_and]
  rfl

end Verified

def someDigest : String := String.ofList (List.replicate 64 'a')

def someReceipt (kind : ReceiptKind) (id : String) : Receipt := ⟨kind, id, someDigest⟩

def offlineExperiment : ExperimentV1 where
  schema := "harness.experiment.v1"
  experimentId := "experiment-1"
  candidateId := "candidate-1"
  candidateReceipt := someReceipt .candidate "candidate-1"
  championBundleId := "champion-1"
  championBundleReceipt := someReceipt .championBundle "champion-1"
  challengerBundleId := "challenger-1"
  challengerBundleReceipt := someReceipt .challengerBundle "challenger-1"
  runtimePolicyDigest := someDigest
  stages := [⟨.offline, .running, none, 0, 0⟩, ⟨.holdout, .pending, none, 0, 0⟩, ⟨.shadow, .pending, none, 0, 0⟩,
    ⟨.canary, .pending, none, 0, 0⟩]
  hardGates := [⟨"gate-1", true, someReceipt .hardGate "gate-receipt"⟩]
  state := .offlineRunning
  sha256 := "6fe33b382eac647d0f99189bf2b2b8a704c701d5b87417f01bb55fd15c3b653e"

/-- The digest of that experiment, and of it with the stage recorded as passed. -/
def experimentDigest (v : Value) : String :=
  if v = Json.canonical (.obj (offlineExperiment.fields.filter (fun f => f.1 != "sha256"))) then
    "6fe33b382eac647d0f99189bf2b2b8a704c701d5b87417f01bb55fd15c3b653e"
  else "1dd65f67062ef2954058e74cccc0168e8ff9efee10847389c343b8d2fa200eb0"

def offlineEvidence : StageEvidence := ⟨.offline, "evidence-offline", someDigest⟩

theorem offline_verified : verifyExperiment experimentDigest offlineExperiment = .ok () := by
  decide +kernel

theorem running_stage_stuck_offline :
    verifyExperiment experimentDigest offlineExperiment = .ok () ∧
      advanceStage experimentDigest (recordPassed experimentDigest offlineExperiment .offline offlineEvidence 2 1)
        .holdout = .error .digest :=
  ⟨offline_verified, (running_stage_stuck offlineExperiment .offline .holdout offlineEvidence 2 1
    offline_verified rfl).1⟩

/-- **The offline stage passes with its evidence, and the holdout stage cannot be started.** -/
theorem holdout_never_starts :
    verifyExperiment experimentDigest offlineExperiment = .ok () ∧
      offlineExperiment.hardGates.all GateReceipt.passed = true ∧ offlineExperiment.state = .offlineRunning ∧
      offlineEvidence.validFor .offline = true ∧
      (recordPassed experimentDigest offlineExperiment .offline offlineEvidence 2 1).sha256 =
        "1dd65f67062ef2954058e74cccc0168e8ff9efee10847389c343b8d2fa200eb0" ∧
      (advanceStage experimentDigest (recordPassed experimentDigest offlineExperiment .offline offlineEvidence 2 1)
        .holdout).isOk = false := by
  refine ⟨offline_verified, ?_⟩
  decide +kernel

end Promotion
end Bildr
