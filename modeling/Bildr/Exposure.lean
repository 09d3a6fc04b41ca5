import Bildr.Contracts
import Bildr.Trace
import Bildr.Word
import Mathlib.Algebra.GroupWithZero.Nat
/-!
# Exposure — shadow and canary observations under a budget

Every observation is one sample and some cost.  The guard adds costs saturating and the update adds them plainly, so a
budget of the largest word lets a sum through that does not fit one.  As long as every admitted cost fits on top of
what was spent, no call overflows and the state keeps to its budget (`exposure_kept_iff`).
-/
namespace Bildr
namespace Promotion

open Trace (run Along)

inductive ProductionResult
  | passed | failed | unavailable
deriving DecidableEq, Repr

inductive ChallengerResult
  | passed | failed | unavailable
deriving DecidableEq, Repr

inductive StopReason
  | criticalRegression | sampleBudget | costBudget | emergency
deriving DecidableEq, Repr

structure ExposureBudget where
  maxSamples : UInt64
  maxCostMicrousd : UInt64
  criticalFailures : UInt64
deriving DecidableEq, Repr

structure ShadowObservation where
  production : ProductionResult
  challenger : ChallengerResult
  costMicrousd : UInt64
  critical : Bool
deriving DecidableEq, Repr

inductive EditDimension
  | prompt | toolPolicy | retrievalPolicy | modelRoute
deriving DecidableEq, Repr

structure ShadowAuthority where
  isolationCustodyReceipt : Receipt
  editDimensions : List EditDimension
  assignmentReceipt : Receipt
  fallbackReceipt : Receipt
deriving DecidableEq, Repr

def ShadowAuthority.valid (a : ShadowAuthority) : Bool :=
  !a.editDimensions.isEmpty && a.editDimensions.dedup.length == a.editDimensions.length &&
    a.isolationCustodyReceipt.validAs .isolationCustody && a.assignmentReceipt.validAs .assignment &&
    a.fallbackReceipt.validAs .fallback

structure CanaryAuthority where
  shadow : ShadowAuthority
  operatorStartReceipt : Receipt
deriving DecidableEq, Repr

def CanaryAuthority.valid (a : CanaryAuthority) : Bool := a.shadow.valid && a.operatorStartReceipt.validAs .operatorStart

structure ShadowState where
  budget : ExposureBudget
  observed : UInt64
  spentMicrousd : UInt64
  criticalFailures : UInt64
  production : ProductionResult
  fallbackUsed : Bool
  stop : Option StopReason
deriving DecidableEq, Repr

def ShadowState.new (budget : ExposureBudget) : ShadowState := ⟨budget, 0, 0, 0, .unavailable, false, none⟩

/-- The guard of an observation: no sample is left, or its cost is over the budget. -/
def ShadowState.exhausted (s : ShadowState) (o : ShadowObservation) : Bool :=
  decide (s.budget.maxSamples ≤ s.observed) ||
    decide (s.budget.maxCostMicrousd < Word.saturatingAdd s.spentMicrousd o.costMicrousd)

def ShadowState.stopped (s : ShadowState) : ShadowState :=
  { s with stop := some (if s.budget.maxSamples ≤ s.observed then .sampleBudget else .costBudget) }

def ShadowObservation.regression (o : ShadowObservation) : Bool := o.critical && decide (o.challenger = .failed)

def ShadowState.countCritical (overflowChecks : Bool) (s : ShadowState) (o : ShadowObservation) : Option UInt64 :=
  if o.regression then Word.add overflowChecks s.criticalFailures 1 else some s.criticalFailures

def ShadowState.expose (overflowChecks : Bool) (s : ShadowState) (o : ShadowObservation) : Option ShadowState := do
  let observed ← Word.add overflowChecks s.observed 1
  let spent ← Word.add overflowChecks s.spentMicrousd o.costMicrousd
  let critical ← s.countCritical overflowChecks o
  return ⟨s.budget, observed, spent, critical, o.production, decide (o.challenger ≠ .passed),
    if o.regression && decide (s.budget.criticalFailures ≤ critical) then some .criticalRegression else s.stop⟩

/-- `observe_shadow`; none is a panic. -/
def observeShadow (overflowChecks : Bool) (a : ShadowAuthority) (s : ShadowState) (o : ShadowObservation) :
    Option (Except ContractError ShadowState) :=
  if !a.valid then some (.error .missing)
  else if s.stop.isSome then some (.error .stopped)
  else if s.exhausted o then some (.ok s.stopped)
  else (s.expose overflowChecks o).map Except.ok

def observeCanary (overflowChecks : Bool) (a : CanaryAuthority) (s : ShadowState) (o : ShadowObservation) :
    Option (Except ContractError ShadowState) :=
  if !a.valid then some (.error .missing) else observeShadow overflowChecks a.shadow s o

inductive ExposureAuthority
  | shadow (a : ShadowAuthority)
  | canary (a : CanaryAuthority)
deriving DecidableEq, Repr

def ExposureAuthority.valid : ExposureAuthority → Bool
  | .shadow a => a.valid
  | .canary a => a.valid

def observe (overflowChecks : Bool) : ExposureAuthority → ShadowState → ShadowObservation →
    Option (Except ContractError ShadowState)
  | .shadow a => observeShadow overflowChecks a
  | .canary a => observeCanary overflowChecks a

/-! ## Runs -/

structure Exposure where
  state : ShadowState
  accepted : List ShadowObservation
deriving DecidableEq, Repr

/-- An observation that is counted: nothing has stopped the state and its budget is not exhausted. -/
def ShadowState.admits (s : ShadowState) (o : ShadowObservation) : Bool := s.stop.isNone && !s.exhausted o

/-- One more observation; an error leaves the state, and nothing comes after a panic. -/
def exposureStep (overflowChecks : Bool) (a : ExposureAuthority) (x : Option Exposure) (o : ShadowObservation) :
    Option Exposure := do
  let x ← x
  let answer ← observe overflowChecks a x.state o
  match answer with
  | .ok s    => return ⟨s, if x.state.admits o then x.accepted ++ [o] else x.accepted⟩
  | .error _ => return x

def exposureAfter (overflowChecks : Bool) (a : ExposureAuthority) (budget : ExposureBudget)
    (os : List ShadowObservation) : Option Exposure :=
  run (exposureStep overflowChecks a) (some ⟨.new budget, []⟩) os

structure Exposed (budget : ExposureBudget) (x : Exposure) : Prop where
  sameBudget : x.state.budget = budget
  observed : x.state.observed.toNat = x.accepted.length
  samples : x.state.observed.toNat ≤ budget.maxSamples.toNat
  spent : x.state.spentMicrousd.toNat = (x.accepted.map (fun o => o.costMicrousd.toNat)).sum
  cost : x.state.spentMicrousd.toNat ≤ budget.maxCostMicrousd.toNat
  critical : x.state.criticalFailures.toNat = x.accepted.countP ShadowObservation.regression

/-- After these observations: nothing has panicked, the state keeps to its budget, and once stopped it stays. -/
structure ExposureKept (overflowChecks : Bool) (a : ExposureAuthority) (budget : ExposureBudget)
    (os : List ShadowObservation) (x : Exposure) : Prop where
  reached : exposureAfter overflowChecks a budget os = some x
  exposed : Exposed budget x
  frozen : x.state.stop.isSome = true → ∀ o, observe overflowChecks a x.state o = some (.error .stopped) ∧
    exposureAfter overflowChecks a budget (os ++ [o]) = some x

def CostFits (x : Option Exposure) (o : ShadowObservation) : Prop :=
  ∀ y, x = some y → y.state.admits o = true → y.state.spentMicrousd.toNat + o.costMicrousd.toNat < UInt64.size

/-! ## One observation -/

section Step
variable {overflowChecks : Bool} {a : ExposureAuthority} {budget : ExposureBudget} {x : Exposure} {o : ShadowObservation}

theorem canary_shadow {a : CanaryAuthority} (h : a.valid = true) : a.shadow.valid = true := by
  unfold CanaryAuthority.valid at h
  rw [Bool.and_eq_true] at h
  exact h.1

theorem observe_eq (ha : a.valid = true) (s : ShadowState) (o : ShadowObservation) :
    observe overflowChecks a s o = if s.stop.isSome then some (.error .stopped)
      else if s.exhausted o then some (.ok s.stopped)
      else (s.expose overflowChecks o).map Except.ok := by
  cases a with
  | shadow a =>
    have hvalid : a.valid = true := ha
    show observeShadow overflowChecks a s o = _
    unfold observeShadow
    rw [hvalid]
    rfl
  | canary a =>
    have hvalid : a.valid = true := ha
    show observeCanary overflowChecks a s o = _
    unfold observeCanary observeShadow
    rw [hvalid, canary_shadow hvalid]
    rfl

theorem exposureStep_eq (ha : a.valid = true) (x : Exposure) (o : ShadowObservation) :
    exposureStep overflowChecks a (some x) o =
      if x.state.admits o then (x.state.expose overflowChecks o).map (fun s => ⟨s, x.accepted ++ [o]⟩)
      else some (if x.state.stop.isSome then x else ⟨x.state.stopped, x.accepted⟩) := by
  show (observe overflowChecks a x.state o).bind _ = _
  rw [observe_eq ha]
  unfold ShadowState.admits
  cases hstop : x.state.stop with
  | some reason => rfl
  | none =>
    cases hexhausted : x.state.exhausted o with
    | true => rfl
    | false =>
      simp only [Option.isSome_none, Option.isNone_none, Bool.false_eq_true, if_false, Bool.not_false, Bool.and_true,
        if_true]
      cases x.state.expose overflowChecks o <;> rfl

theorem admits_fits (h : x.state.admits o = true) :
    x.state.observed.toNat < x.state.budget.maxSamples.toNat ∧
      min (x.state.spentMicrousd.toNat + o.costMicrousd.toNat) 18446744073709551615 ≤
        x.state.budget.maxCostMicrousd.toNat := by
  unfold ShadowState.admits ShadowState.exhausted at h
  simp only [Bool.and_eq_true, Bool.not_eq_true', Bool.or_eq_false_iff, decide_eq_false_iff_not] at h
  obtain ⟨-, hsamples, hcost⟩ := h
  rw [UInt64.le_iff_toNat_le] at hsamples
  rw [UInt64.lt_iff_toNat_lt, Word.toNat_saturatingAdd] at hcost
  omega

theorem countP_snoc (o : ShadowObservation) (os : List ShadowObservation) :
    (os ++ [o]).countP ShadowObservation.regression =
      os.countP ShadowObservation.regression + if o.regression then 1 else 0 := by
  rw [List.countP_append, List.countP_cons, List.countP_nil, Nat.zero_add]

theorem critical_counts (overflowChecks : Bool) (o : ShadowObservation) (hx : Exposed budget x) (hsamples : x.state.observed.toNat < budget.maxSamples.toNat) :
    ∃ c, x.state.countCritical overflowChecks o = some c ∧
      c.toNat = (x.accepted ++ [o]).countP ShadowObservation.regression := by
  unfold ShadowState.countCritical
  rw [countP_snoc, ← hx.critical]
  cases o.regression with
  | false => exact ⟨x.state.criticalFailures, rfl, rfl⟩
  | true =>
    have hcount := List.countP_le_length (p := ShadowObservation.regression) (l := x.accepted)
    rw [← hx.critical, ← hx.observed] at hcount
    have hmax := budget.maxSamples.toNat_lt
    have hfits : x.state.criticalFailures.toNat + (1 : UInt64).toNat < UInt64.size := by
      show x.state.criticalFailures.toNat + 1 < 18446744073709551616
      omega
    exact ⟨_, Word.add_fits hfits, Word.toNat_add hfits⟩

theorem expose_exposed (overflowChecks : Bool) (hx : Exposed budget x) (hadmits : x.state.admits o = true)
    (hfits : x.state.spentMicrousd.toNat + o.costMicrousd.toNat < UInt64.size) :
    ∃ s, x.state.expose overflowChecks o = some s ∧ Exposed budget ⟨s, x.accepted ++ [o]⟩ := by
  obtain ⟨hsamples, hcost⟩ := admits_fits hadmits
  rw [hx.sameBudget] at hsamples hcost
  have hmax := budget.maxSamples.toNat_lt
  have hobserved : x.state.observed.toNat + (1 : UInt64).toNat < UInt64.size := by
    show x.state.observed.toNat + 1 < 18446744073709551616
    omega
  obtain ⟨c, hc, hcritical⟩ := critical_counts overflowChecks o hx hsamples
  have hone : (x.state.observed + 1).toNat = x.state.observed.toNat + 1 := Word.toNat_add hobserved
  have hsum := Word.toNat_add hfits
  unfold ShadowState.expose
  rw [Word.add_fits hobserved, Word.add_fits hfits, hc]
  refine ⟨_, rfl, ⟨hx.sameBudget, ?_, ?_, ?_, ?_, hcritical⟩⟩
  · show (x.state.observed + 1).toNat = _
    rw [hone, hx.observed, List.length_append, List.length_singleton]
  · show (x.state.observed + 1).toNat ≤ _
    omega
  · show (x.state.spentMicrousd + o.costMicrousd).toNat = _
    rw [hsum, hx.spent, List.map_append, List.sum_append, List.map_singleton, List.sum_singleton]
  · show (x.state.spentMicrousd + o.costMicrousd).toNat ≤ _
    simp only [UInt64.size] at hfits
    omega

theorem expose_overflows {s : ShadowState} (hx : Exposed budget x)
    (hover : UInt64.size ≤ x.state.spentMicrousd.toNat + o.costMicrousd.toNat)
    (hs : x.state.expose overflowChecks o = some s) : ¬ Exposed budget ⟨s, x.accepted ++ [o]⟩ := by
  intro hnext
  unfold ShadowState.expose at hs
  obtain ⟨observed, -, hs⟩ := Option.bind_eq_some_iff.1 hs
  obtain ⟨spent, hspent, hs⟩ := Option.bind_eq_some_iff.1 hs
  obtain ⟨critical, -, hs⟩ := Option.bind_eq_some_iff.1 hs
  cases hs
  have hwrapped := Word.add_overflows hover hspent
  have hexact : spent.toNat = ((x.accepted ++ [o]).map (fun o => o.costMicrousd.toNat)).sum := hnext.spent
  rw [List.map_append, List.sum_append, List.map_singleton, List.sum_singleton, ← hx.spent] at hexact
  simp only [UInt64.size] at hwrapped
  omega

/-- **An observation whose cost fits does not panic and keeps to the budget.** -/
theorem exposureStep_exposed (ha : a.valid = true) (hx : Exposed budget x) (hfits : CostFits (some x) o) :
    ∃ y, exposureStep overflowChecks a (some x) o = some y ∧ Exposed budget y := by
  rw [exposureStep_eq ha]
  cases hadmits : x.state.admits o with
  | true =>
    obtain ⟨s, hs, hexposed⟩ := expose_exposed overflowChecks hx hadmits (hfits x rfl hadmits)
    rw [if_pos rfl, hs]
    exact ⟨_, rfl, hexposed⟩
  | false =>
    refine ⟨_, if_neg Bool.false_ne_true, ?_⟩
    cases x.state.stop with
    | some reason => exact hx
    | none => exact ⟨hx.sameBudget, hx.observed, hx.samples, hx.spent, hx.cost, hx.critical⟩

end Step

/-! ## Runs of observations -/

section Runs
variable {overflowChecks : Bool} {a : ExposureAuthority} {budget : ExposureBudget}

theorem exposed_new (budget : ExposureBudget) : Exposed budget ⟨.new budget, []⟩ :=
  ⟨rfl, rfl, Nat.zero_le _, rfl, Nat.zero_le _, rfl⟩

theorem exposureAfter_snoc (os : List ShadowObservation) (o : ShadowObservation) :
    exposureAfter overflowChecks a budget (os ++ [o]) =
      exposureStep overflowChecks a (exposureAfter overflowChecks a budget os) o := Trace.run_append _ _ _ _

theorem stopped_stays (overflowChecks : Bool) (ha : a.valid = true) {x : Exposure} (h : x.state.stop.isSome = true) (o : ShadowObservation) :
    observe overflowChecks a x.state o = some (.error .stopped) ∧ exposureStep overflowChecks a (some x) o = some x := by
  constructor
  · rw [observe_eq ha, if_pos h]
  · have hadmits : x.state.admits o = false := by
      unfold ShadowState.admits
      cases hs : x.state.stop with
      | none =>
        rw [hs] at h
        cases h
      | some reason => rfl
    rw [exposureStep_eq ha, hadmits, if_neg Bool.false_ne_true, if_pos h]

theorem exposureKept_of_exposed (ha : a.valid = true) {os : List ShadowObservation} {x : Exposure}
    (hreached : exposureAfter overflowChecks a budget os = some x) (hx : Exposed budget x) :
    ExposureKept overflowChecks a budget os x := by
  refine ⟨hreached, hx, fun hstop o => ?_⟩
  obtain ⟨herror, hstay⟩ := stopped_stays overflowChecks ha hstop o
  rw [exposureAfter_snoc, hreached]
  exact ⟨herror, hstay⟩

/-- **Every state of a run keeps to the budget exactly when every admitted cost fits.** -/
theorem exposure_kept_iff (overflowChecks : Bool) (a : ExposureAuthority) (budget : ExposureBudget)
    (os : List ShadowObservation) (ha : a.valid = true) :
    (∀ js ks, os = js ++ ks → ∃ x, ExposureKept overflowChecks a budget js x) ↔
      Along (exposureStep overflowChecks a) CostFits (some ⟨.new budget, []⟩) os := by
  constructor
  · intro hkept
    rw [Trace.along_iff]
    intro js o ks hos x hx hadmits
    by_contra hover
    obtain ⟨y, hy⟩ := hkept js (o :: ks) hos
    obtain ⟨z, hz⟩ := hkept (js ++ [o]) ks (by rw [hos, List.append_assoc]; rfl)
    have hyx : y = x := Option.some.inj (hy.reached.symm.trans hx)
    subst hyx
    have hstep := hz.reached
    rw [exposureAfter_snoc, hy.reached, exposureStep_eq ha, if_pos hadmits] at hstep
    obtain ⟨s, hs, hsz⟩ := Option.map_eq_some_iff.1 hstep
    subst hsz
    exact expose_overflows hy.exposed (Nat.le_of_not_lt hover) hs hz.exposed
  · intro halong js ks hos
    rw [hos, Trace.along_append] at halong
    have hinv := Trace.invariant_of_step (fun x : Option Exposure => ∃ y, x = some y ∧ Exposed budget y)
      (fun x o hx hfits => by
        obtain ⟨y, rfl, hy⟩ := hx
        exact exposureStep_exposed ha hy hfits) ⟨_, rfl, exposed_new budget⟩ halong.1
    obtain ⟨x, hreached, hx⟩ := hinv
    exact ⟨x, exposureKept_of_exposed ha hreached hx⟩

end Runs

def someAuthority : ExposureAuthority :=
  .shadow ⟨⟨.isolationCustody, "custody", String.ofList (List.replicate 64 'a')⟩, [.prompt],
    ⟨.assignment, "assignment", String.ofList (List.replicate 64 'a')⟩,
    ⟨.fallback, "fallback", String.ofList (List.replicate 64 'a')⟩⟩

def costly (cost : UInt64) : ShadowObservation := ⟨.passed, .passed, cost, false⟩

def unboundedCost : ExposureBudget := ⟨2, 18446744073709551615, 1⟩

theorem exposure_kept_once :
    ∃ x, ExposureKept true someAuthority unboundedCost [costly 18446744073709551615] x := by
  refine (exposure_kept_iff true someAuthority unboundedCost [costly 18446744073709551615] (by decide)).2
    ⟨fun y hy _ => ?_, trivial⟩ [costly 18446744073709551615] [] rfl
  cases hy
  decide

/-- **The largest word and one more**: a panic, or nothing spent. -/
theorem cost_budget_overflows :
    exposureAfter true someAuthority unboundedCost [costly 18446744073709551615, costly 1] = none ∧
      (exposureAfter false someAuthority unboundedCost [costly 18446744073709551615, costly 1]).map
        (fun x => (x.state.spentMicrousd, x.accepted.length)) = some (0, 2) ∧
      (¬ ∃ x, ExposureKept true someAuthority unboundedCost [costly 18446744073709551615, costly 1] x) ∧
      ¬ ∃ x, ExposureKept false someAuthority unboundedCost [costly 18446744073709551615, costly 1] x := by
  have hchecked : exposureAfter true someAuthority unboundedCost [costly 18446744073709551615, costly 1] = none := by
    decide
  have hwrapped : exposureAfter false someAuthority unboundedCost [costly 18446744073709551615, costly 1] =
      some ⟨⟨unboundedCost, 2, 0, 0, .passed, false, none⟩, [costly 18446744073709551615, costly 1]⟩ := by
    decide
  refine ⟨hchecked, by rw [hwrapped]; rfl, ?_, ?_⟩
  · rintro ⟨x, hx⟩
    have hreached := hx.reached
    rw [hchecked] at hreached
    cases hreached
  · rintro ⟨x, hx⟩
    have hreached := hx.reached
    rw [hwrapped] at hreached
    cases hreached
    have hspent := hx.exposed.spent
    revert hspent
    decide

end Promotion
end Bildr
