import Bildr.Word
import Mathlib.Algebra.BigOperators.Group.List.Basic
import Mathlib.Algebra.GroupWithZero.Nat
/-!
# PlanBudget — whether what is left of a run pays for its plan

The requirement is what the tasks may use, half of it again for their verifiers, the final audit, and a fifth of all
that.  Every sum stops at the largest word.  A requirement that was stopped is less than what is left only if the whole
`u64` range is left, and then it compares equal (`budget_feasible_iff`).
-/
namespace Bildr
namespace Budget

open Word (saturatingAdd saturatingSub)

structure RunSummary where
  mode : String
  runTokenBudget : Option UInt64
deriving DecidableEq, Repr

structure TaskPacket where
  tokenBudget : UInt64
deriving DecidableEq, Repr

structure RunPlan where
  tasks : List TaskPacket
deriving DecidableEq, Repr

structure PlanBudgetAssessment where
  planningTokensUsed : UInt64
  runTokenCeiling : UInt64
  remainingRunTokens : UInt64
  plannedTaskTokens : UInt64
  verifierReserveTokens : UInt64
  finalAuditReserveTokens : UInt64
  contingencyTokens : UInt64
  requiredExecutionTokens : UInt64
  feasible : Bool
deriving DecidableEq, Repr

def maxGovernorGoalTokenBudget : UInt64 := 1000000000

def finalAuditorSessionTokenBudget : UInt64 := 120000

def planBudgetAssessment (run : RunSummary) (plan : RunPlan) (planningTokensUsed : UInt64) : PlanBudgetAssessment :=
  let ceiling := run.runTokenBudget.getD maxGovernorGoalTokenBudget
  let remaining := saturatingSub ceiling planningTokensUsed
  let planned := if run.mode == "plan_only" then 0
    else plan.tasks.foldl (fun total task => saturatingAdd total task.tokenBudget) 0
  let verifier := if run.mode == "plan_only" then 0
    else plan.tasks.foldl (fun total task => saturatingAdd total (task.tokenBudget / 2)) 0
  let audit := if run.mode == "plan_only" then 0 else finalAuditorSessionTokenBudget
  let direct := saturatingAdd (saturatingAdd planned verifier) audit
  let contingency := if run.mode == "plan_only" then 0 else direct / 5
  let required := saturatingAdd direct contingency
  ⟨planningTokensUsed, ceiling, remaining, planned, verifier, audit, contingency, required, decide (required ≤ remaining)⟩

/-! ## Without words -/

def directTokens (run : RunSummary) (plan : RunPlan) : Nat :=
  if run.mode == "plan_only" then 0
  else (plan.tasks.map (fun task => task.tokenBudget.toNat)).sum +
    (plan.tasks.map (fun task => task.tokenBudget.toNat / 2)).sum + 120000

def requirement (run : RunSummary) (plan : RunPlan) : Nat := directTokens run plan + directTokens run plan / 5

def remainingTokens (run : RunSummary) (planningTokensUsed : UInt64) : Nat :=
  (run.runTokenBudget.getD maxGovernorGoalTokenBudget).toNat - planningTokensUsed.toNat

def Feasible (run : RunSummary) (plan : RunPlan) (planningTokensUsed : UInt64) : Prop :=
  requirement run plan ≤ remainingTokens run planningTokensUsed

instance (run : RunSummary) (plan : RunPlan) (planningTokensUsed : UInt64) :
    Decidable (Feasible run plan planningTokensUsed) := inferInstanceAs (Decidable (_ ≤ _))

theorem required_eq (run : RunSummary) (plan : RunPlan) (planningTokensUsed : UInt64) :
    (planBudgetAssessment run plan planningTokensUsed).requiredExecutionTokens.toNat =
      min (requirement run plan) 18446744073709551615 := by
  unfold planBudgetAssessment requirement directTokens
  dsimp only
  by_cases honly : (run.mode == "plan_only") = true
  · simp only [if_pos honly]
    rfl
  · simp only [if_neg honly, Word.toNat_saturatingAdd, Word.toNat_saturatingSum, UInt64.toNat_div]
    rw [show finalAuditorSessionTokenBudget.toNat = 120000 from rfl, show (0 : UInt64).toNat = 0 from rfl,
      show (2 : UInt64).toNat = 2 from rfl, show (5 : UInt64).toNat = 5 from rfl]
    omega

theorem remaining_eq (run : RunSummary) (plan : RunPlan) (planningTokensUsed : UInt64) :
    (planBudgetAssessment run plan planningTokensUsed).remainingRunTokens.toNat =
      remainingTokens run planningTokensUsed := Word.toNat_saturatingSub _ _

theorem feasible_stopped (run : RunSummary) (plan : RunPlan) (planningTokensUsed : UInt64) :
    (planBudgetAssessment run plan planningTokensUsed).feasible = true ↔
      min (requirement run plan) 18446744073709551615 ≤ remainingTokens run planningTokensUsed := by
  rw [← required_eq run plan planningTokensUsed, ← remaining_eq run plan planningTokensUsed, ← UInt64.le_iff_toNat_le]
  exact decide_eq_true_iff

/-- **The assessment is exact unless the whole range of a word is left** and the requirement is more than that. -/
theorem budget_feasible_iff (run : RunSummary) (plan : RunPlan) (planningTokensUsed : UInt64) :
    ((planBudgetAssessment run plan planningTokensUsed).feasible = true ↔ Feasible run plan planningTokensUsed) ↔
      (remainingTokens run planningTokensUsed < 18446744073709551615 ∨ requirement run plan ≤ 18446744073709551615) := by
  have hremaining : remainingTokens run planningTokensUsed ≤ 18446744073709551615 := by
    have hlt := (run.runTokenBudget.getD maxGovernorGoalTokenBudget).toNat_lt
    unfold remainingTokens
    omega
  rw [feasible_stopped]
  unfold Feasible
  constructor
  · intro h
    by_contra hcorner
    rw [not_or] at hcorner
    have hle := h.1 (by omega)
    omega
  · intro h
    omega

/-- A run that may use every word, and a plan of two tasks that need more. -/
def unlimitedRun : RunSummary := ⟨"plan_and_implement", some 18446744073709551615⟩

def largePlan : RunPlan := ⟨[⟨18446744073709551615⟩, ⟨1⟩]⟩

theorem large_plan_feasible :
    (planBudgetAssessment unlimitedRun largePlan 0).feasible = true ∧ ¬ Feasible unlimitedRun largePlan 0 := by
  decide

end Budget
end Bildr
