import Bildr.Contracts
import Bildr.Trace
import Mathlib.Data.List.Chain
/-!
# Rollback — promotions and the contracts that undo them

A promotion moves the active binding from one bundle to another and a rollback contract moves it back.  Both compare
bundle names and the safety anchor with what is active, and a rollback whose target is active already is a replay when
its digest is the last one persisted.  Nothing compares the promotion a contract names with the one that made the active
binding, so a contract applies again once its bundle is bound again (`rollback_history`).
-/
namespace Bildr
namespace Promotion

open Json (Value)
open Trace (run)

/-! ## Promotion decisions -/

inductive ApprovalRole
  | independentReviewer | operator
deriving DecidableEq, Repr

def ApprovalRole.name : ApprovalRole → String
  | .independentReviewer => "independent_reviewer"
  | .operator            => "operator"

structure ApprovalReceipt where
  role : ApprovalRole
  receipt : Receipt
deriving DecidableEq, Repr

structure RequiredReceipts where
  offline : Receipt
  holdout : Receipt
  shadow : Receipt
  canary : Receipt
  rewardIntegrity : Receipt
  statistics : Receipt
deriving DecidableEq, Repr

def RequiredReceipts.valid (r : RequiredReceipts) : Bool :=
  [(r.offline, ReceiptKind.offline), (r.holdout, .holdout), (r.shadow, .shadow), (r.canary, .canary),
    (r.rewardIntegrity, .rewardIntegrity), (r.statistics, .statistics)].all (fun p => p.1.validAs p.2)

structure PromotionDecisionV1 where
  schema : String
  promotionId : String
  experimentId : String
  candidateId : String
  experimentDigest : String
  runtimePolicyDigest : String
  fromBundleId : String
  toBundleId : String
  safetyAnchorDigest : String
  requiredReceipts : RequiredReceipts
  approvals : List ApprovalReceipt
  rollbackEvidence : Receipt
  sha256 : String
deriving DecidableEq, Repr

def RequiredReceipts.json (r : RequiredReceipts) : Value :=
  .obj [("offline", r.offline.json), ("holdout", r.holdout.json), ("shadow", r.shadow.json), ("canary", r.canary.json),
    ("reward_integrity", r.rewardIntegrity.json), ("statistics", r.statistics.json)]

def ApprovalReceipt.json (a : ApprovalReceipt) : Value := .obj [("role", .str a.role.name), ("receipt", a.receipt.json)]

def PromotionDecisionV1.fields (d : PromotionDecisionV1) : List (String × Value) :=
  [("schema", .str d.schema), ("promotion_id", .str d.promotionId), ("experiment_id", .str d.experimentId),
    ("candidate_id", .str d.candidateId), ("experiment_digest", .str d.experimentDigest),
    ("runtime_policy_digest", .str d.runtimePolicyDigest), ("from_bundle_id", .str d.fromBundleId),
    ("to_bundle_id", .str d.toBundleId), ("safety_anchor_digest", .str d.safetyAnchorDigest),
    ("required_receipts", d.requiredReceipts.json), ("approvals", .arr (d.approvals.map ApprovalReceipt.json)),
    ("rollback_evidence", d.rollbackEvidence.json), ("sha256", .str d.sha256)]

def approved (approvals : List ApprovalReceipt) : Bool :=
  match approvals with
  | [review, operator] =>
    decide (review.role = .independentReviewer) && review.receipt.validAs .independentReview &&
      decide (operator.role = .operator) && operator.receipt.validAs .operatorApproval
  | _ => false

structure AtomicBindingCommand where
  expectedActiveBundleId : String
  toBundleId : String
  safetyAnchorDigest : String
  promotionId : String
  promotionReceipt : Receipt
deriving DecidableEq, Repr

/-! ## Rollback contracts -/

inductive RollbackReason
  | operatorRequested | hardConstraint | globalKillSwitch
deriving DecidableEq, Repr

def RollbackReason.name : RollbackReason → String
  | .operatorRequested => "operator_requested"
  | .hardConstraint    => "hard_constraint"
  | .globalKillSwitch  => "global_kill_switch"

structure RollbackContract where
  schema : String
  promotionId : String
  expectedActiveBundleId : String
  rollbackTargetBundleId : String
  safetyAnchorDigest : String
  promotionReceipt : Receipt
  emergencyStop : Bool
  reason : RollbackReason
  evidence : Receipt
  sha256 : String
deriving DecidableEq, Repr

def RollbackContract.fields (r : RollbackContract) : List (String × Value) :=
  [("schema", .str r.schema), ("promotion_id", .str r.promotionId),
    ("expected_active_bundle_id", .str r.expectedActiveBundleId),
    ("rollback_target_bundle_id", .str r.rollbackTargetBundleId), ("safety_anchor_digest", .str r.safetyAnchorDigest),
    ("promotion_receipt", r.promotionReceipt.json), ("emergency_stop", .bool r.emergencyStop),
    ("reason", .str r.reason.name), ("evidence", r.evidence.json), ("sha256", .str r.sha256)]

structure RollbackBindingCommand where
  expectedActiveBundleId : String
  rollbackTargetBundleId : String
  safetyAnchorDigest : String
  rollbackReceipt : Receipt
deriving DecidableEq, Repr

inductive RollbackReplay
  | apply | exactReplay
deriving DecidableEq, Repr

section Digest
-- the hexadecimal SHA-256 of a value's text
variable (digestJson : Value → String)

def verifyPromotion (d : PromotionDecisionV1) : Except ContractError Unit :=
  ensure (d.schema == "harness.promotion-decision.v1" &&
    [d.promotionId, d.experimentId, d.candidateId, d.fromBundleId, d.toBundleId].all isId &&
    d.fromBundleId != d.toBundleId && isDigest d.safetyAnchorDigest && isDigest d.experimentDigest &&
    isDigest d.runtimePolicyDigest && d.requiredReceipts.valid && approved d.approvals &&
    d.rollbackEvidence.validAs .rollback && digestWithoutSelf digestJson d.fields == d.sha256) .missing

def PromotionDecisionV1.receipt (d : PromotionDecisionV1) : Receipt := ⟨.promotion, d.promotionId, d.sha256⟩

def atomicBindingCommand (d : PromotionDecisionV1) (active anchor : String) :
    Except ContractError AtomicBindingCommand := do
  verifyPromotion digestJson d
  ensure (active == d.fromBundleId && anchor == d.safetyAnchorDigest) .stale
  return ⟨active, d.toBundleId, anchor, d.promotionId, d.receipt⟩

def RollbackContract.fromPromotion (d : PromotionDecisionV1) (current : String) (evidence : Receipt) :
    Except ContractError RollbackContract := do
  verifyPromotion digestJson d
  ensure (current == d.toBundleId) .stale
  let contract : RollbackContract := ⟨"harness.rollback.v1", d.promotionId, current, d.fromBundleId, d.safetyAnchorDigest,
    d.receipt, false, .operatorRequested, evidence, ""⟩
  return { contract with sha256 := digestWithoutSelf digestJson contract.fields }

def validateRollback (r : RollbackContract) (active anchor : String) : Except ContractError Unit :=
  ensure (r.schema == "harness.rollback.v1" && r.expectedActiveBundleId == active && r.safetyAnchorDigest == anchor &&
    [r.promotionId, r.expectedActiveBundleId, r.rollbackTargetBundleId].all isId &&
    r.expectedActiveBundleId != r.rollbackTargetBundleId && isDigest r.safetyAnchorDigest &&
    r.promotionReceipt.validAs .promotion && r.promotionReceipt.id == r.promotionId && r.evidence.validAs .rollback &&
    (!r.emergencyStop || decide (r.reason = .hardConstraint ∨ r.reason = .globalKillSwitch)) &&
    digestWithoutSelf digestJson r.fields == r.sha256) .stale

def RollbackContract.receipt (r : RollbackContract) : Receipt := ⟨.rollback, r.promotionId, r.sha256⟩

def rollbackBindingCommand (r : RollbackContract) (active anchor : String) (persistedRollbackDigest : Option String) :
    Except ContractError (RollbackBindingCommand × RollbackReplay) :=
  if active == r.rollbackTargetBundleId then do
    validateRollback digestJson r r.expectedActiveBundleId anchor
    ensure (persistedRollbackDigest == some r.sha256) .stale
    return (⟨r.expectedActiveBundleId, r.rollbackTargetBundleId, r.safetyAnchorDigest, r.receipt⟩, .exactReplay)
  else do
    validateRollback digestJson r active anchor
    return (⟨active, r.rollbackTargetBundleId, anchor, r.receipt⟩, .apply)

/-! ## Histories of bindings -/

inductive Origin
  | initial
  | promotion (d : PromotionDecisionV1)
  | rollback (r : RollbackContract)
deriving DecidableEq

structure BundleBinding where
  bundle : String
  origin : Origin
deriving DecidableEq

/-- The active binding, the ones before it from the newest, and the digest of the last applied rollback. -/
structure BindingState where
  active : BundleBinding
  earlier : List BundleBinding
  persisted : Option String
deriving DecidableEq

def BindingState.log (s : BindingState) : List BundleBinding := s.active :: s.earlier

inductive BindingRequest
  | promote (d : PromotionDecisionV1)
  | rollback (r : RollbackContract)
deriving DecidableEq

def BindingState.bind (s : BindingState) (b : BundleBinding) (persisted : Option String) : BindingState :=
  ⟨b, s.log, persisted⟩

/-- The command of a request, applied to the active binding; a replay and an error change nothing. -/
def bindingStep (anchor : String) (s : BindingState) : BindingRequest → BindingState
  | .promote d  =>
    match atomicBindingCommand digestJson d s.active.bundle anchor with
    | .ok c    => s.bind ⟨c.toBundleId, .promotion d⟩ s.persisted
    | .error _ => s
  | .rollback r =>
    match rollbackBindingCommand digestJson r s.active.bundle anchor s.persisted with
    | .ok (c, .apply)       => s.bind ⟨c.rollbackTargetBundleId, .rollback r⟩ (some r.sha256)
    | .ok (_, .exactReplay) => s
    | .error _              => s

def bindingsAfter (anchor initial : String) (rs : List BindingRequest) : BindingState :=
  run (bindingStep digestJson anchor) ⟨⟨initial, .initial⟩, [], none⟩ rs

def BindingState.rollback (anchor : String) (s : BindingState) (r : RollbackContract) :
    Except ContractError (RollbackBindingCommand × RollbackReplay) :=
  rollbackBindingCommand digestJson r s.active.bundle anchor s.persisted

end Digest

/-! ## What the commands check -/

section Commands
variable {digestJson : Value → String} {anchor active : String} {d : PromotionDecisionV1} {r : RollbackContract}

theorem validateRollback_ok (h : validateRollback digestJson r active anchor = .ok ()) :
    r.expectedActiveBundleId = active ∧ r.safetyAnchorDigest = anchor ∧
      r.expectedActiveBundleId ≠ r.rollbackTargetBundleId := by
  have hall := ensure_ok h
  simp only [Bool.and_eq_true, beq_iff_eq, bne_iff_ne] at hall
  obtain ⟨⟨⟨⟨⟨⟨⟨⟨⟨⟨-, hexpected⟩, hanchor⟩, -⟩, hne⟩, -⟩, -⟩, -⟩, -⟩, -⟩, -⟩ := hall
  exact ⟨hexpected, hanchor, hne⟩

theorem atomicBindingCommand_ok {c : AtomicBindingCommand} (h : atomicBindingCommand digestJson d active anchor = .ok c) :
    active = d.fromBundleId ∧ c.toBundleId = d.toBundleId := by
  unfold atomicBindingCommand at h
  obtain ⟨u, -, h⟩ := bind_ok h
  obtain ⟨u, hstale, h⟩ := bind_ok h
  cases h
  have hboth := ensure_ok hstale
  simp only [Bool.and_eq_true, beq_iff_eq] at hboth
  exact ⟨hboth.1, rfl⟩

theorem rollback_apply {persisted : Option String} {c : RollbackBindingCommand}
    (h : rollbackBindingCommand digestJson r active anchor persisted = .ok (c, .apply)) :
    active ≠ r.rollbackTargetBundleId ∧ validateRollback digestJson r active anchor = .ok () ∧
      c = ⟨active, r.rollbackTargetBundleId, anchor, r.receipt⟩ := by
  unfold rollbackBindingCommand at h
  by_cases htarget : active = r.rollbackTargetBundleId
  · rw [if_pos (beq_iff_eq.2 htarget)] at h
    obtain ⟨u, -, h⟩ := bind_ok h
    obtain ⟨u, -, h⟩ := bind_ok h
    cases h
  · rw [if_neg (by simpa using htarget)] at h
    obtain ⟨u, hvalid, h⟩ := bind_ok h
    cases h
    exact ⟨htarget, hvalid, rfl⟩

theorem rollback_replay (hvalid : validateRollback digestJson r active anchor = .ok ()) :
    rollbackBindingCommand digestJson r r.rollbackTargetBundleId anchor (some r.sha256) =
      .ok (⟨active, r.rollbackTargetBundleId, anchor, r.receipt⟩, .exactReplay) := by
  obtain ⟨hexpected, hanchor, -⟩ := validateRollback_ok hvalid
  unfold rollbackBindingCommand
  rw [if_pos (beq_self_eq_true _), hexpected, hvalid, hanchor]
  simp

theorem fromPromotion_ok {current : String} {evidence : Receipt}
    (h : RollbackContract.fromPromotion digestJson d current evidence = .ok r) :
    r.promotionId = d.promotionId ∧ r.expectedActiveBundleId = d.toBundleId ∧
      r.rollbackTargetBundleId = d.fromBundleId := by
  unfold RollbackContract.fromPromotion at h
  obtain ⟨u, -, h⟩ := bind_ok h
  obtain ⟨u, hcurrent, h⟩ := bind_ok h
  cases h
  exact ⟨rfl, beq_iff_eq.1 (ensure_ok hcurrent), rfl⟩

end Commands

/-! ## What a binding follows -/

section Log
variable (digestJson : Value → String) (anchor : String)

def Follows (b earlier : BundleBinding) : Prop :=
  match b.origin with
  | .initial     => False
  | .promotion d => b.bundle = d.toBundleId ∧ earlier.bundle = d.fromBundleId
  | .rollback r  => b.bundle = r.rollbackTargetBundleId ∧ earlier.bundle = r.expectedActiveBundleId ∧
      validateRollback digestJson r earlier.bundle anchor = .ok ()

/-- Every binding follows the one before it, and the last rollback's digest is persisted. -/
structure BindingsFollow (s : BindingState) : Prop where
  chain : s.log.IsChain (Follows digestJson anchor)
  first : ∃ b, s.log.getLast? = some b ∧ b.origin = .initial
  persisted : ∀ r, s.active.origin = .rollback r → s.persisted = some r.sha256

end Log

section History
variable {digestJson : Value → String} {anchor : String} {s : BindingState} {r : RollbackContract}

theorem bindingStep_follows (h : BindingsFollow digestJson anchor s) (i : BindingRequest) :
    BindingsFollow digestJson anchor (bindingStep digestJson anchor s i) := by
  have hbind : ∀ b persisted, Follows digestJson anchor b s.active →
      (∀ r, b.origin = .rollback r → persisted = some r.sha256) →
      BindingsFollow digestJson anchor (s.bind b persisted) := by
    intro b persisted hb hpersisted
    refine ⟨List.isChain_cons_cons.2 ⟨hb, h.chain⟩, ?_, hpersisted⟩
    obtain ⟨first, hfirst, horigin⟩ := h.first
    exact ⟨first, by rw [← hfirst]; rfl, horigin⟩
  cases i with
  | promote d =>
    cases hc : atomicBindingCommand digestJson d s.active.bundle anchor with
    | error e =>
      simp only [bindingStep, hc]
      exact h
    | ok c =>
      obtain ⟨hfrom, hto⟩ := atomicBindingCommand_ok hc
      simp only [bindingStep, hc]
      exact hbind ⟨c.toBundleId, .promotion d⟩ s.persisted ⟨hto, hfrom⟩ (fun r hr => by cases hr)
  | rollback r =>
    cases hc : rollbackBindingCommand digestJson r s.active.bundle anchor s.persisted with
    | error e =>
      simp only [bindingStep, hc]
      exact h
    | ok answer =>
      obtain ⟨c, replay⟩ := answer
      simp only [bindingStep, hc]
      cases replay with
      | exactReplay => exact h
      | apply =>
        obtain ⟨-, hvalid, rfl⟩ := rollback_apply hc
        refine hbind ⟨r.rollbackTargetBundleId, .rollback r⟩ (some r.sha256)
          ⟨rfl, (validateRollback_ok hvalid).1.symm, hvalid⟩ (fun r hr => ?_)
        cases hr
        rfl

theorem bindingStep_promote {d : PromotionDecisionV1} (hverified : verifyPromotion digestJson d = .ok ())
    (hfrom : s.active.bundle = d.fromBundleId) (hanchor : anchor = d.safetyAnchorDigest) :
    bindingStep digestJson anchor s (.promote d) = s.bind ⟨d.toBundleId, .promotion d⟩ s.persisted := by
  have hcommand : atomicBindingCommand digestJson d s.active.bundle anchor =
      .ok ⟨s.active.bundle, d.toBundleId, anchor, d.promotionId, d.receipt⟩ := by
    unfold atomicBindingCommand
    rw [hverified, hfrom, hanchor, beq_self_eq_true, beq_self_eq_true]
    rfl
  simp only [bindingStep, hcommand]

theorem bindingStep_rollback (htarget : s.active.bundle ≠ r.rollbackTargetBundleId)
    (hvalid : validateRollback digestJson r s.active.bundle anchor = .ok ()) :
    bindingStep digestJson anchor s (.rollback r) = s.bind ⟨r.rollbackTargetBundleId, .rollback r⟩ (some r.sha256) := by
  have hcommand : rollbackBindingCommand digestJson r s.active.bundle anchor s.persisted =
      .ok (⟨s.active.bundle, r.rollbackTargetBundleId, anchor, r.receipt⟩, .apply) := by
    unfold rollbackBindingCommand
    rw [if_neg (by simpa using htarget), hvalid]
    rfl
  simp only [bindingStep, hcommand]

theorem bindingsAfter_follow (digestJson : Value → String) (anchor initial : String) (rs : List BindingRequest) :
    BindingsFollow digestJson anchor (bindingsAfter digestJson anchor initial rs) := by
  refine Trace.invariant_of_step (P := fun _ _ => True) (BindingsFollow digestJson anchor)
    (fun _ i h _ => bindingStep_follows h i) ⟨List.IsChain.singleton _, ⟨_, rfl, rfl⟩, fun r hr => by cases hr⟩
    ((Trace.along_iff (bindingStep digestJson anchor) (fun _ _ => True) _ rs).2 (fun _ _ _ _ => trivial))

theorem BindingsFollow.before (h : BindingsFollow digestJson anchor s) {newer older : List BundleBinding}
    {b : BundleBinding} (hlog : s.log = newer ++ b :: older) (hb : b.origin ≠ .initial) :
    ∃ earlier rest, older = earlier :: rest ∧ Follows digestJson anchor b earlier := by
  cases older with
  | nil =>
    obtain ⟨first, hfirst, horigin⟩ := h.first
    rw [hlog, List.getLast?_append_of_ne_nil _ (List.cons_ne_nil _ _)] at hfirst
    cases hfirst
    exact absurd horigin hb
  | cons earlier rest => exact ⟨earlier, rest, rfl, (List.isChain_iff_forall_rel_of_append_cons_cons.1 h.chain) hlog⟩

theorem BindingsFollow.before_mem (h : BindingsFollow digestJson anchor s) {b : BundleBinding} (hmem : b ∈ s.log)
    (hb : b.origin ≠ .initial) : ∃ earlier ∈ s.earlier, Follows digestJson anchor b earlier := by
  obtain ⟨newer, older, hlog⟩ := List.append_of_mem hmem
  obtain ⟨earlier, rest, holder, hfollows⟩ := h.before hlog hb
  refine ⟨earlier, ?_, hfollows⟩
  rw [holder] at hlog
  cases newer with
  | nil =>
    obtain ⟨-, hearlier⟩ := List.cons.inj hlog
    rw [hearlier]
    exact List.mem_cons_self
  | cons n newer =>
    obtain ⟨-, hearlier⟩ := List.cons.inj hlog
    rw [hearlier]
    simp

structure RollbackAnswers (digestJson : Value → String) (anchor : String) (s : BindingState) (r : RollbackContract) :
    Prop where
  -- it applies to the bundle it expects only
  applies : ∀ c, s.rollback digestJson anchor r = .ok (c, .apply) → s.active.bundle = r.expectedActiveBundleId ∧
    r.safetyAnchorDigest = anchor ∧ r.expectedActiveBundleId ≠ r.rollbackTargetBundleId ∧
    c = ⟨r.expectedActiveBundleId, r.rollbackTargetBundleId, r.safetyAnchorDigest, r.receipt⟩
  -- of a bundle bound once it undoes the promotion it was made from, and only once
  owned : ∀ c d current evidence, s.rollback digestJson anchor r = .ok (c, .apply) →
    RollbackContract.fromPromotion digestJson d current evidence = .ok r →
    (∃ b ∈ s.log, b.origin = .promotion d) → s.log.countP (fun b => b.bundle == r.expectedActiveBundleId) ≤ 1 →
    s.active.origin = .promotion d ∧ d.promotionId = r.promotionId ∧ ∀ b ∈ s.log, b.origin ≠ .rollback r
  -- an applied contract does not apply until the bundle it expects is bound again
  applied : ∀ newer b older, s.log = newer ++ b :: older → b.origin = .rollback r →
    (∀ n ∈ newer, n.bundle ≠ r.expectedActiveBundleId) → ∀ c, s.rollback digestJson anchor r ≠ .ok (c, .apply)
  -- the contract applied last is a replay
  replayed : s.active.origin = .rollback r → s.rollback digestJson anchor r =
    .ok (⟨r.expectedActiveBundleId, r.rollbackTargetBundleId, r.safetyAnchorDigest, r.receipt⟩, .exactReplay)

theorem rollback_applies {c : RollbackBindingCommand} (h : s.rollback digestJson anchor r = .ok (c, .apply)) :
    s.active.bundle = r.expectedActiveBundleId ∧ r.safetyAnchorDigest = anchor ∧
      r.expectedActiveBundleId ≠ r.rollbackTargetBundleId ∧
      c = ⟨r.expectedActiveBundleId, r.rollbackTargetBundleId, r.safetyAnchorDigest, r.receipt⟩ := by
  obtain ⟨-, hvalid, rfl⟩ := rollback_apply h
  obtain ⟨hexpected, hanchor, hne⟩ := validateRollback_ok hvalid
  exact ⟨hexpected.symm, hanchor, hne, by rw [hexpected, hanchor]⟩

theorem rollback_owned {d : PromotionDecisionV1} (hf : BindingsFollow digestJson anchor s)
    (hactive : s.active.bundle = r.expectedActiveBundleId) (hto : r.expectedActiveBundleId = d.toBundleId)
    (hpromoted : ∃ b ∈ s.log, b.origin = .promotion d)
    (honce : s.log.countP (fun b => b.bundle == r.expectedActiveBundleId) ≤ 1) :
    s.active.origin = .promotion d ∧ ∀ b ∈ s.log, b.origin ≠ .rollback r := by
  -- no earlier binding is of that bundle
  have hearlier : ∀ b ∈ s.earlier, b.bundle ≠ r.expectedActiveBundleId := by
    intro b hb heq
    have hpos : 0 < s.earlier.countP (fun b => b.bundle == r.expectedActiveBundleId) :=
      List.countP_pos_iff.2 ⟨b, hb, beq_iff_eq.2 heq⟩
    unfold BindingState.log at honce
    rw [List.countP_cons, if_pos (beq_iff_eq.2 hactive)] at honce
    omega
  refine ⟨?_, fun b hb horigin => ?_⟩
  · obtain ⟨b, hb, horigin⟩ := hpromoted
    rcases List.mem_cons.1 hb with rfl | hb'
    · exact horigin
    · obtain ⟨e, -, hfollows⟩ := hf.before_mem hb (by rw [horigin]; exact nofun)
      unfold Follows at hfollows
      rw [horigin] at hfollows
      exact absurd (hfollows.1.trans hto.symm) (hearlier b hb')
  · obtain ⟨e, he, hfollows⟩ := hf.before_mem hb (by rw [horigin]; exact nofun)
    unfold Follows at hfollows
    rw [horigin] at hfollows
    exact hearlier e he hfollows.2.1

/-- **What every history answers a contract.** -/
theorem rollback_history (digestJson : Value → String) (anchor initial : String) (rs : List BindingRequest)
    (r : RollbackContract) : RollbackAnswers digestJson anchor (bindingsAfter digestJson anchor initial rs) r := by
  have hf := bindingsAfter_follow digestJson anchor initial rs
  generalize bindingsAfter digestJson anchor initial rs = s at hf
  refine ⟨fun c h => rollback_applies h, fun c d current evidence h hmade hpromoted honce => ?_,
    fun newer b older hlog horigin hnewer c h => ?_, fun horigin => ?_⟩
  · obtain ⟨hid, hto, -⟩ := fromPromotion_ok hmade
    obtain ⟨howned, hfresh⟩ := rollback_owned hf (rollback_applies h).1 hto hpromoted honce
    exact ⟨howned, hid.symm, hfresh⟩
  · obtain ⟨hactive, -, hne, -⟩ := rollback_applies h
    cases newer with
    | nil =>
      -- it was applied last, so its target is active
      obtain ⟨earlier, rest, -, hfollows⟩ := hf.before hlog (by rw [horigin]; exact nofun)
      obtain ⟨hb, -⟩ := List.cons.inj hlog
      unfold Follows at hfollows
      rw [horigin] at hfollows
      exact hne (hactive.symm.trans (hb ▸ hfollows.1))
    | cons n newer =>
      obtain ⟨hn, -⟩ := List.cons.inj hlog
      exact hnewer n List.mem_cons_self (hn ▸ hactive)
  · obtain ⟨earlier, -, hfollows⟩ := hf.before_mem List.mem_cons_self (by rw [horigin]; exact nofun)
    unfold Follows at hfollows
    rw [horigin] at hfollows
    obtain ⟨htarget, hexpected, hvalid⟩ := hfollows
    unfold BindingState.rollback
    rw [htarget, hf.persisted r horigin, rollback_replay hvalid, hexpected, (validateRollback_ok hvalid).2.1]

end History

/-! ## A contract applied twice -/

def sampleReceipt (kind : ReceiptKind) (id : String) : Receipt := ⟨kind, id, String.ofList (List.replicate 64 'a')⟩

def challengerPromotion (id sha256 : String) : PromotionDecisionV1 where
  schema := "harness.promotion-decision.v1"
  promotionId := id
  experimentId := "experiment-1"
  candidateId := "candidate-1"
  experimentDigest := String.ofList (List.replicate 64 'a')
  runtimePolicyDigest := String.ofList (List.replicate 64 'a')
  fromBundleId := "champion-1"
  toBundleId := "challenger-1"
  safetyAnchorDigest := String.ofList (List.replicate 64 'a')
  requiredReceipts := ⟨sampleReceipt .offline "receipt-offline", sampleReceipt .holdout "receipt-holdout",
    sampleReceipt .shadow "receipt-shadow", sampleReceipt .canary "receipt-canary",
    sampleReceipt .rewardIntegrity "receipt-reward", sampleReceipt .statistics "receipt-statistics"⟩
  approvals := [⟨.independentReviewer, sampleReceipt .independentReview (id ++ "-review")⟩,
    ⟨.operator, sampleReceipt .operatorApproval (id ++ "-operator")⟩]
  rollbackEvidence := sampleReceipt .rollback "rollback-evidence"
  sha256 := sha256

def firstPromotion : PromotionDecisionV1 :=
  challengerPromotion "promotion-1" "9f9dbc84091526ab94f575c1a8c6474af1e36d2a01104a33d374f5e000fc86c4"

def secondPromotion : PromotionDecisionV1 :=
  challengerPromotion "promotion-2" "ab84f62cf0e84da3ae3ec3cb52a0104c4d2fdfe273d9d7fb97b0db2e8933fb9b"

def firstRollback : RollbackContract where
  schema := "harness.rollback.v1"
  promotionId := "promotion-1"
  expectedActiveBundleId := "challenger-1"
  rollbackTargetBundleId := "champion-1"
  safetyAnchorDigest := String.ofList (List.replicate 64 'a')
  promotionReceipt := firstPromotion.receipt
  emergencyStop := false
  reason := .operatorRequested
  evidence := sampleReceipt .rollback "rollback-command"
  sha256 := "8212218330a3321bc21de6ddbc2a98ffa11dde5afc61b74bd5b8f31077b31ade"

def promotionDigest (v : Value) : String :=
  match v.findText ["schema"], v.findText ["promotion_id"] with
  | some "harness.rollback.v1", _ => "8212218330a3321bc21de6ddbc2a98ffa11dde5afc61b74bd5b8f31077b31ade"
  | _, some "promotion-1"         => "9f9dbc84091526ab94f575c1a8c6474af1e36d2a01104a33d374f5e000fc86c4"
  | _, _                          => "ab84f62cf0e84da3ae3ec3cb52a0104c4d2fdfe273d9d7fb97b0db2e8933fb9b"

def promotedAgain : BindingState :=
  bindingsAfter promotionDigest firstPromotion.safetyAnchorDigest "champion-1"
    [.promote firstPromotion, .rollback firstRollback, .promote secondPromotion]

theorem isDigest_replicate : isDigest (String.ofList (List.replicate 64 'a')) = true := by
  unfold isDigest
  rw [String.toList_ofList]
  decide

theorem validAs_sampleReceipt (kind : ReceiptKind) {id : String} (h : isId id = true) :
    (sampleReceipt kind id).validAs kind = true := by
  unfold Receipt.validAs sampleReceipt
  rw [h, isDigest_replicate, decide_eq_true rfl]
  rfl

theorem verifyPromotion_challenger {id sha256 : String} (hid : isId id = true) (hreview : isId (id ++ "-review") = true)
    (hoperator : isId (id ++ "-operator") = true)
    (hsha : digestWithoutSelf promotionDigest (challengerPromotion id sha256).fields = sha256) :
    verifyPromotion promotionDigest (challengerPromotion id sha256) = .ok () := by
  have hids : [id, "experiment-1", "candidate-1", "champion-1", "challenger-1"].all isId = true := by
    rw [List.all_cons, hid]
    decide
  have hreceipts : (challengerPromotion id sha256).requiredReceipts.valid = true := by
    simp only [RequiredReceipts.valid, challengerPromotion, List.all_cons, List.all_nil, Bool.and_eq_true, and_true]
    refine ⟨?_, ?_, ?_, ?_, ?_, ?_⟩ <;> exact validAs_sampleReceipt _ (by decide)
  have happroved : approved (challengerPromotion id sha256).approvals = true := by
    simp only [approved, challengerPromotion, validAs_sampleReceipt .independentReview hreview,
      validAs_sampleReceipt .operatorApproval hoperator, decide_true, Bool.and_self]
  have hrollback : (challengerPromotion id sha256).rollbackEvidence.validAs .rollback = true :=
    validAs_sampleReceipt .rollback (by decide)
  have hbundles : ("champion-1" != "challenger-1") = true := by decide
  unfold verifyPromotion
  rw [hsha, hreceipts, happroved, hrollback]
  simp only [challengerPromotion, hids, hbundles, isDigest_replicate, beq_self_eq_true, Bool.and_self, ensure_true]

theorem firstPromotion_verified : verifyPromotion promotionDigest firstPromotion = .ok () :=
  verifyPromotion_challenger (by decide) (by decide) (by decide) (by decide)

theorem secondPromotion_verified : verifyPromotion promotionDigest secondPromotion = .ok () :=
  verifyPromotion_challenger (by decide) (by decide) (by decide) (by decide)

theorem firstRollback_valid :
    validateRollback promotionDigest firstRollback "challenger-1" firstPromotion.safetyAnchorDigest = .ok () := by
  have hids : ["promotion-1", "challenger-1", "champion-1"].all isId = true := by decide
  have hbundles : ("challenger-1" != "champion-1") = true := by decide
  have hpromotion : firstRollback.promotionReceipt.validAs .promotion = true := by decide
  have hevidence : firstRollback.evidence.validAs .rollback = true := validAs_sampleReceipt .rollback (by decide)
  have hsha : digestWithoutSelf promotionDigest firstRollback.fields = firstRollback.sha256 := by decide
  unfold validateRollback
  rw [hsha, hpromotion, hevidence]
  simp only [firstRollback, firstPromotion, challengerPromotion, PromotionDecisionV1.receipt, hids, hbundles,
    isDigest_replicate, beq_self_eq_true, Bool.not_false, Bool.true_or, Bool.and_self, ensure_true]

theorem promotedAgain_eq : promotedAgain =
    ⟨⟨"challenger-1", .promotion secondPromotion⟩, [⟨"champion-1", .rollback firstRollback⟩,
      ⟨"challenger-1", .promotion firstPromotion⟩, ⟨"champion-1", .initial⟩], some firstRollback.sha256⟩ := by
  have hpromoted : bindingStep promotionDigest firstPromotion.safetyAnchorDigest ⟨⟨"champion-1", .initial⟩, [], none⟩
      (.promote firstPromotion) = ⟨⟨"challenger-1", .promotion firstPromotion⟩, [⟨"champion-1", .initial⟩], none⟩ :=
    bindingStep_promote firstPromotion_verified rfl rfl
  have hback : bindingStep promotionDigest firstPromotion.safetyAnchorDigest
      ⟨⟨"challenger-1", .promotion firstPromotion⟩, [⟨"champion-1", .initial⟩], none⟩ (.rollback firstRollback) =
        ⟨⟨"champion-1", .rollback firstRollback⟩, [⟨"challenger-1", .promotion firstPromotion⟩, ⟨"champion-1", .initial⟩],
          some firstRollback.sha256⟩ :=
    bindingStep_rollback (by decide) firstRollback_valid
  have hagain : bindingStep promotionDigest firstPromotion.safetyAnchorDigest
      ⟨⟨"champion-1", .rollback firstRollback⟩, [⟨"challenger-1", .promotion firstPromotion⟩, ⟨"champion-1", .initial⟩],
        some firstRollback.sha256⟩ (.promote secondPromotion) =
      ⟨⟨"challenger-1", .promotion secondPromotion⟩, [⟨"champion-1", .rollback firstRollback⟩,
        ⟨"challenger-1", .promotion firstPromotion⟩, ⟨"champion-1", .initial⟩], some firstRollback.sha256⟩ :=
    bindingStep_promote secondPromotion_verified rfl rfl
  unfold promotedAgain bindingsAfter
  rw [Trace.run_cons, hpromoted, Trace.run_cons, hback, Trace.run_cons, hagain, Trace.run_nil]

/-- **The contract of the first promotion undoes the second one.** -/
theorem rollback_applied_twice :
    RollbackContract.fromPromotion promotionDigest firstPromotion "challenger-1" firstRollback.evidence =
        .ok firstRollback ∧
      promotedAgain.active.origin = .promotion secondPromotion ∧ firstRollback.promotionId ≠ secondPromotion.promotionId ∧
      (∃ b ∈ promotedAgain.earlier, b.origin = .rollback firstRollback) ∧
      promotedAgain.persisted = some firstRollback.sha256 ∧
      (promotedAgain.rollback promotionDigest firstPromotion.safetyAnchorDigest firstRollback).map Prod.snd =
        .ok .apply := by
  have hmade : RollbackContract.fromPromotion promotionDigest firstPromotion "challenger-1" firstRollback.evidence =
      .ok firstRollback := by
    unfold RollbackContract.fromPromotion
    rw [firstPromotion_verified]
    rfl
  have happlied : promotedAgain.rollback promotionDigest firstPromotion.safetyAnchorDigest firstRollback =
      .ok (⟨"challenger-1", "champion-1", firstPromotion.safetyAnchorDigest, firstRollback.receipt⟩, .apply) := by
    rw [promotedAgain_eq]
    unfold BindingState.rollback rollbackBindingCommand
    rw [if_neg (by decide), firstRollback_valid]
    rfl
  rw [happlied, promotedAgain_eq]
  exact ⟨hmade, rfl, by decide, ⟨_, List.mem_cons_self, rfl⟩, rfl, rfl⟩

end Promotion
end Bildr
