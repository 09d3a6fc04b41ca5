import Bildr.Usage
import Mathlib.Order.MinMax
/-!
# UsageCost — what a call costs, in machine words

Counters and prices are `u64`; the computation is in `u128`, with products that saturate and with operators that panic
where they overflow, divide by zero or go below zero.  No operator does (`estimate_ok_iff`).  Rates are cut to whole
micro-dollars per million tokens and every component is rounded half up; `Usage.estimate` is the same computation over the
naturals, with the stops at `2^128 - 1` and the refusals above `2^64 - 1` written out (`estimate_model`).
-/
namespace Bildr
namespace UsageCost

open Usage (u64Max u128Max)

inductive CostConfidence
  | exact | bounded | unknown
deriving DecidableEq, Repr

structure TokenUsage where
  inputTokens : UInt64
  cachedInputTokens : UInt64
  cacheWriteInputTokens : Option UInt64
  outputTokens : UInt64
  reasoningOutputTokens : UInt64
  totalTokens : UInt64
  modelContextWindow : Option UInt64
deriving DecidableEq, Repr

structure PricingSnapshot where
  id : String
  inputMicrousdPerMillion : UInt64
  cachedInputMicrousdPerMillion : UInt64
  outputMicrousdPerMillion : UInt64
  cacheWriteMultiplierNumerator : UInt64
  cacheWriteMultiplierDenominator : UInt64
  longContextThresholdTokens : Option UInt64
  longContextInputMultiplierNumerator : Option UInt64
  longContextInputMultiplierDenominator : Option UInt64
  longContextOutputMultiplierNumerator : Option UInt64
  longContextOutputMultiplierDenominator : Option UInt64
deriving DecidableEq, Repr

structure CostEstimate where
  lowerMicrousd : UInt64
  upperMicrousd : UInt64
  confidence : CostConfidence
  pricingSnapshotIds : List String
  explanation : String
deriving DecidableEq, Repr

inductive UsageError
  | domain (reason : String)
  | impossibleCounters (reason : String)
  | overflow
deriving DecidableEq, Repr

inductive Fault
  | panic
  | error (e : UsageError)
deriving DecidableEq, Repr

def TokenUsage.validate (u : TokenUsage) : Except Fault Unit := do
  ensure (decide (u.cachedInputTokens ≤ u.inputTokens)) (.error (.domain "cached input exceeds input"))
  ensure (decide (u.cacheWriteInputTokens.getD 0 ≤ u.inputTokens)) (.error (.domain "cache-write input exceeds input"))
  ensure (decide (u.reasoningOutputTokens ≤ u.outputTokens)) (.error (.domain "reasoning output exceeds output"))

/-! ## `u128` -/

def saturatingMul (a b : Nat) : Nat := min (a * b) u128Max

def saturatingAdd (a b : Nat) : Nat := min (a + b) u128Max

def add (a b : Nat) : Except Fault Nat := if a + b ≤ u128Max then .ok (a + b) else .error .panic

def sub (a b : Nat) : Except Fault Nat := if b ≤ a then .ok (a - b) else .error .panic

def div (a b : Nat) : Except Fault Nat := if b = 0 then .error .panic else .ok (a / b)

def tokenDenominator : Nat := 1000000

def ratio (numerator denominator : Option UInt64) : Nat × Nat :=
  ((numerator.getD 1).toNat, (max (denominator.getD 1) 1).toNat)

def applyRatio (value : Nat) (r : Nat × Nat) : Except Fault Nat := div (saturatingMul value r.1) (max r.2 1)

/-- Rounded to the nearest micro-dollar for each independently priced component. -/
def tokenCost (tokens rateMicrousdPerMillion : Nat) : Except Fault Nat := do
  let half ← div tokenDenominator 2
  div (saturatingAdd (saturatingMul tokens rateMicrousdPerMillion) half) tokenDenominator

def toU64 (value : Nat) : Except Fault UInt64 :=
  if value ≤ u64Max then .ok (UInt64.ofNat value) else .error (.error .overflow)

/-! ## The estimate -/

def longContext (u : TokenUsage) (p : PricingSnapshot) : Bool :=
  p.longContextThresholdTokens.any (fun threshold => decide (threshold < u.inputTokens))

def inputMultiplier (u : TokenUsage) (p : PricingSnapshot) : Nat × Nat :=
  if longContext u p then ratio p.longContextInputMultiplierNumerator p.longContextInputMultiplierDenominator else (1, 1)

def outputMultiplier (u : TokenUsage) (p : PricingSnapshot) : Nat × Nat :=
  if longContext u p then ratio p.longContextOutputMultiplierNumerator p.longContextOutputMultiplierDenominator else (1, 1)

def cacheWriteMultiplier (p : PricingSnapshot) : Nat × Nat :=
  (p.cacheWriteMultiplierNumerator.toNat, (max p.cacheWriteMultiplierDenominator 1).toNat)

def estimateOf (p : PricingSnapshot) (bounds : Nat × Nat) (confidence : CostConfidence) (explanation : String) :
    Except Fault CostEstimate := do
  let lower ← toU64 bounds.1
  let upper ← toU64 bounds.2
  return ⟨lower, upper, confidence, [p.id], explanation⟩

def estimate (u : TokenUsage) (p : PricingSnapshot) : Except Fault CostEstimate := do
  u.validate
  let inputRate ← applyRatio p.inputMicrousdPerMillion.toNat (inputMultiplier u p)
  let outputRate ← applyRatio p.outputMicrousdPerMillion.toNat (outputMultiplier u p)
  let cacheWriteRate ← applyRatio inputRate (cacheWriteMultiplier p)
  let cachedRate ← applyRatio p.cachedInputMicrousdPerMillion.toNat (inputMultiplier u p)
  let nonCached ← sub u.inputTokens.toNat u.cachedInputTokens.toNat
  let cachedCost ← tokenCost u.cachedInputTokens.toNat cachedRate
  let outputCost ← tokenCost u.outputTokens.toNat outputRate
  let fixed ← add cachedCost outputCost
  match u.cacheWriteInputTokens with
  | some cacheWrite => do
    ensure (decide (cacheWrite.toNat ≤ nonCached))
      (.error (.impossibleCounters "cached plus cache-write input exceeds total input"))
    let normal ← sub nonCached cacheWrite.toNat
    let normalCost ← tokenCost normal inputRate
    let cacheWriteCost ← tokenCost cacheWrite.toNat cacheWriteRate
    let withNormal ← add fixed normalCost
    let total ← add withNormal cacheWriteCost
    estimateOf p (total, total) .exact
      "Per-turn observed usage; reasoning output is included in output and not charged twice."
  | none => do
    let normalCost ← tokenCost nonCached inputRate
    let allNormal ← add fixed normalCost
    let cacheWriteCost ← tokenCost nonCached cacheWriteRate
    let allCacheWrite ← add fixed cacheWriteCost
    estimateOf p (min allNormal allCacheWrite, max allNormal allCacheWrite) .bounded
      "Cache-write input was not reported; the range spans zero through all non-cached input. Reasoning output is not charged twice."

/-! ## What it computes -/

def nonCached (u : TokenUsage) : Nat := u.inputTokens.toNat - u.cachedInputTokens.toNat

structure Rates where
  input : Nat
  output : Nat
  cacheWrite : Nat
  cached : Nat

/-- The rates, where `apply` scales a price by a ratio. -/
def ratesBy (apply : Nat → Nat × Nat → Nat) (u : TokenUsage) (p : PricingSnapshot) : Rates :=
  let input := apply p.inputMicrousdPerMillion.toNat (inputMultiplier u p)
  ⟨input, apply p.outputMicrousdPerMillion.toNat (outputMultiplier u p), apply input (cacheWriteMultiplier p),
    apply p.cachedInputMicrousdPerMillion.toNat (inputMultiplier u p)⟩

/-- The components that do not depend on how much input was written to the cache. -/
def fixedBy (cost : Nat → Nat → Nat) (r : Rates) (u : TokenUsage) : Nat :=
  cost u.cachedInputTokens.toNat r.cached + cost u.outputTokens.toNat r.output

/-- The cost where this much of the input that was not cached was written to the cache. -/
def totalBy (cost : Nat → Nat → Nat) (r : Rates) (u : TokenUsage) (cacheWrite : Nat) : Nat :=
  fixedBy cost r u + cost (nonCached u - cacheWrite) r.input + cost cacheWrite r.cacheWrite

/-- The bounds, where `cost` prices tokens at a rate. -/
def boundsBy (cost : Nat → Nat → Nat) (r : Rates) (u : TokenUsage) : Nat × Nat :=
  match u.cacheWriteInputTokens with
  | some cacheWrite => (totalBy cost r u cacheWrite.toNat, totalBy cost r u cacheWrite.toNat)
  | none =>
    (min (fixedBy cost r u + cost (nonCached u) r.input) (fixedBy cost r u + cost (nonCached u) r.cacheWrite),
      max (fixedBy cost r u + cost (nonCached u) r.input) (fixedBy cost r u + cost (nonCached u) r.cacheWrite))

def rates (u : TokenUsage) (p : PricingSnapshot) : Rates := ratesBy Usage.applyRatio u p

def bounds (u : TokenUsage) (p : PricingSnapshot) : Nat × Nat := boundsBy Usage.tokenCost (rates u p) u

def TokenUsage.confidence (u : TokenUsage) : CostConfidence :=
  if u.cacheWriteInputTokens.isSome then .exact else .bounded

def TokenUsage.explanation (u : TokenUsage) : String :=
  if u.cacheWriteInputTokens.isSome then
    "Per-turn observed usage; reasoning output is included in output and not charged twice."
  else "Cache-write input was not reported; the range spans zero through all non-cached input. Reasoning output is not charged twice."

/-- The cached input and the input written to the cache are part of the input. -/
def Counted (u : TokenUsage) : Prop :=
  u.validate = .ok () ∧ ∀ w, u.cacheWriteInputTokens = some w → w.toNat ≤ nonCached u

theorem applyRatio_eq (value : Nat) (r : Nat × Nat) : applyRatio value r = .ok (Usage.applyRatio value r) := by
  unfold applyRatio div saturatingMul Usage.applyRatio
  rw [if_neg (by omega)]

theorem tokenCost_eq (tokens rate : Nat) : tokenCost tokens rate = .ok (Usage.tokenCost tokens rate) := by
  unfold tokenCost div saturatingAdd saturatingMul Usage.tokenCost tokenDenominator
  rw [if_neg (by decide), ok_bind, if_neg (by decide)]

theorem tokenCost_le (tokens rate : Nat) : Usage.tokenCost tokens rate ≤ 340282366920938463463374607431768 := by
  unfold Usage.tokenCost u128Max
  omega

theorem add_ok {a b : Nat} (h : a + b ≤ u128Max) : add a b = .ok (a + b) := if_pos h

theorem sub_ok {a b : Nat} (h : b ≤ a) : sub a b = .ok (a - b) := if_pos h

theorem bind_value {ε α β : Type} {x : Except ε α} {a : α} (h : x = .ok a) (f : α → Except ε β) : (x >>= f) = f a := by
  rw [h, ok_bind]

theorem cached_le {u : TokenUsage} (h : u.validate = .ok ()) : u.cachedInputTokens.toNat ≤ u.inputTokens.toNat := by
  unfold TokenUsage.validate at h
  obtain ⟨_, hcached, -⟩ := bind_ok h
  exact UInt64.le_iff_toNat_le.1 (of_decide_eq_true (ensure_ok hcached))

theorem nonCached_eq {u : TokenUsage} (h : u.validate = .ok ()) :
    sub u.inputTokens.toNat u.cachedInputTokens.toNat = .ok (nonCached u) := sub_ok (cached_le h)

section Rates
variable (u : TokenUsage) (p : PricingSnapshot)

theorem input_rate : Usage.applyRatio p.inputMicrousdPerMillion.toNat (inputMultiplier u p) = (rates u p).input := by
  simp only [rates, ratesBy]

theorem output_rate : Usage.applyRatio p.outputMicrousdPerMillion.toNat (outputMultiplier u p) = (rates u p).output := by
  simp only [rates, ratesBy]

theorem cacheWrite_rate : Usage.applyRatio (rates u p).input (cacheWriteMultiplier p) = (rates u p).cacheWrite := by
  simp only [rates, ratesBy]

theorem cached_rate :
    Usage.applyRatio p.cachedInputMicrousdPerMillion.toNat (inputMultiplier u p) = (rates u p).cached := by
  simp only [rates, ratesBy]

end Rates

section Sums
variable (r : Rates) (u : TokenUsage)

theorem fixedBy_le : fixedBy Usage.tokenCost r u ≤ 680564733841876926926749214863536 := by
  have hcached := tokenCost_le u.cachedInputTokens.toNat r.cached
  have houtput := tokenCost_le u.outputTokens.toNat r.output
  unfold fixedBy
  omega

theorem add_fixed : add (Usage.tokenCost u.cachedInputTokens.toNat r.cached)
    (Usage.tokenCost u.outputTokens.toNat r.output) = .ok (fixedBy Usage.tokenCost r u) := by
  have hle := fixedBy_le r u
  unfold fixedBy at hle ⊢
  exact add_ok (hle.trans (by decide))

theorem add_component (tokens rate : Nat) : add (fixedBy Usage.tokenCost r u) (Usage.tokenCost tokens rate) =
    .ok (fixedBy Usage.tokenCost r u + Usage.tokenCost tokens rate) := by
  have hle := fixedBy_le r u
  have hcost := tokenCost_le tokens rate
  refine add_ok (le_trans (Nat.add_le_add hle hcost) (by decide))

theorem add_total (w : Nat) :
    add (fixedBy Usage.tokenCost r u + Usage.tokenCost (nonCached u - w) r.input) (Usage.tokenCost w r.cacheWrite) =
      .ok (totalBy Usage.tokenCost r u w) := by
  have hle := fixedBy_le r u
  have hnormal := tokenCost_le (nonCached u - w) r.input
  have hwrite := tokenCost_le w r.cacheWrite
  unfold totalBy
  exact add_ok (le_trans (Nat.add_le_add (Nat.add_le_add hle hnormal) hwrite) (by decide))

end Sums

/-- **No operator panics**: the estimate is the bounds, if the counters are possible and the bounds are words. -/
theorem estimate_eq (u : TokenUsage) (p : PricingSnapshot) : estimate u p = (do
    u.validate
    ensure (u.cacheWriteInputTokens.all (fun w => decide (w.toNat ≤ nonCached u)))
      (.error (.impossibleCounters "cached plus cache-write input exceeds total input"))
    estimateOf p (bounds u p) u.confidence u.explanation) := by
  unfold estimate bounds
  cases hv : u.validate with
  | error e => rw [error_bind, error_bind]
  | ok _ =>
    rw [bind_value rfl, bind_value rfl, bind_value (applyRatio_eq _ _), bind_value (applyRatio_eq _ _),
      bind_value (applyRatio_eq _ _), bind_value (applyRatio_eq _ _), input_rate, output_rate, cacheWrite_rate, cached_rate]
    generalize rates u p = r
    rw [bind_value (nonCached_eq hv), bind_value (tokenCost_eq _ _), bind_value (tokenCost_eq _ _),
      bind_value (add_fixed r u)]
    unfold boundsBy TokenUsage.confidence TokenUsage.explanation
    cases hw : u.cacheWriteInputTokens with
    | some w =>
      dsimp only
      rw [Option.all_some, Option.isSome_some, if_pos rfl, if_pos rfl]
      by_cases hle : w.toNat ≤ nonCached u
      · rw [decide_eq_true hle, ensure_true, bind_value rfl, bind_value rfl, bind_value (sub_ok hle),
          bind_value (tokenCost_eq _ _), bind_value (tokenCost_eq _ _), bind_value (add_component r u _ _),
          bind_value (add_total r u _)]
      · rw [decide_eq_false hle, ensure_false, error_bind, error_bind]
    | none =>
      dsimp only
      rw [Option.all_none, ensure_true, bind_value rfl, Option.isSome_none, if_neg Bool.false_ne_true,
        if_neg Bool.false_ne_true, bind_value (tokenCost_eq _ _), bind_value (add_component r u _ _),
        bind_value (tokenCost_eq _ _), bind_value (add_component r u _ _)]

/-! ## What an estimate says -/

theorem boundsBy_le (cost : Nat → Nat → Nat) (r : Rates) (u : TokenUsage) : (boundsBy cost r u).1 ≤ (boundsBy cost r u).2 := by
  unfold boundsBy
  cases u.cacheWriteInputTokens with
  | some w => exact le_refl _
  | none => exact min_le_max

theorem toU64_ok {value : Nat} {word : UInt64} : toU64 value = .ok word ↔ value ≤ u64Max ∧ word = UInt64.ofNat value := by
  unfold toU64
  by_cases hle : value ≤ u64Max
  · rw [if_pos hle, Except.ok.injEq]
    exact ⟨fun h => ⟨hle, h.symm⟩, fun h => h.2.symm⟩
  · rw [if_neg hle]
    exact ⟨fun h => (by cases h), fun h => absurd h.1 hle⟩

theorem toNat_word {value : Nat} (h : value ≤ u64Max) : (UInt64.ofNat value).toNat = value := by
  rw [UInt64.toNat_ofNat']
  unfold u64Max at h
  omega

/-- **An estimate is returned exactly if the counters are possible and the upper bound is a word**; then it is the
bounds. -/
theorem estimate_ok_iff {u : TokenUsage} {p : PricingSnapshot} {c : CostEstimate} : estimate u p = .ok c ↔
    Counted u ∧ (bounds u p).2 ≤ u64Max ∧
      c = ⟨.ofNat (bounds u p).1, .ofNat (bounds u p).2, u.confidence, [p.id], u.explanation⟩ := by
  rw [estimate_eq]
  have hle : (bounds u p).1 ≤ (bounds u p).2 := boundsBy_le _ _ _
  generalize bounds u p = b at hle
  unfold Counted
  constructor
  · intro h
    obtain ⟨_, hvalid, h⟩ := bind_ok h
    obtain ⟨_, hall, h⟩ := bind_ok h
    unfold estimateOf at h
    obtain ⟨lower, hlower, h⟩ := bind_ok h
    obtain ⟨upper, hupper, h⟩ := bind_ok h
    obtain ⟨-, rfl⟩ := toU64_ok.1 hlower
    obtain ⟨hfits, rfl⟩ := toU64_ok.1 hupper
    refine ⟨⟨hvalid, fun w hw => ?_⟩, hfits, (Except.ok.inj h).symm⟩
    have hcounted := ensure_ok hall
    rw [hw, Option.all_some] at hcounted
    exact of_decide_eq_true hcounted
  · rintro ⟨⟨hvalid, hcounted⟩, hfits, rfl⟩
    have hall : u.cacheWriteInputTokens.all (fun w => decide (w.toNat ≤ nonCached u)) = true := by
      cases hw : u.cacheWriteInputTokens with
      | none => rfl
      | some w => exact decide_eq_true (hcounted w hw)
    rw [hvalid, ok_bind, hall, ensure_true, ok_bind]
    unfold estimateOf
    rw [toU64_ok.2 ⟨le_trans hle hfits, rfl⟩, ok_bind, toU64_ok.2 ⟨hfits, rfl⟩, ok_bind]
    rfl

theorem ensure_error {ε α : Type} {b : Bool} {e : ε} {f : Unit → Except ε α} {e' : ε} (h : (ensure b e >>= f) = .error e') :
    e' = e ∨ f () = .error e' := by
  cases b with
  | false =>
    rw [ensure_false, error_bind] at h
    exact Or.inl (Except.error.inj h).symm
  | true =>
    rw [ensure_true, ok_bind] at h
    exact Or.inr h

theorem toU64_not_panic (value : Nat) : toU64 value ≠ .error .panic := by
  unfold toU64
  split
  · exact fun h => by cases h
  · exact fun h => by cases h

theorem estimate_not_panic (u : TokenUsage) (p : PricingSnapshot) : estimate u p ≠ .error .panic := by
  rw [estimate_eq]
  intro h
  cases hv : u.validate with
  | error e =>
    rw [hv, error_bind] at h
    obtain rfl := Except.error.inj h
    unfold TokenUsage.validate at hv
    rcases ensure_error hv with hv | hv
    · cases hv
    · rcases ensure_error hv with hv | hv
      · cases hv
      · unfold ensure at hv
        split at hv <;> cases hv
  | ok _ =>
    rw [hv, ok_bind] at h
    rcases ensure_error h with h | h
    · cases h
    · unfold estimateOf at h
      cases hlower : toU64 (bounds u p).1 with
      | error e =>
        rw [hlower, error_bind] at h
        obtain rfl := Except.error.inj h
        exact toU64_not_panic _ hlower
      | ok lower =>
        rw [hlower, ok_bind] at h
        cases hupper : toU64 (bounds u p).2 with
        | error e =>
          rw [hupper, error_bind] at h
          obtain rfl := Except.error.inj h
          exact toU64_not_panic _ hupper
        | ok upper =>
          rw [hupper, ok_bind] at h
          cases h

/-! ## The estimate without words -/

def TokenUsage.counts (u : TokenUsage) : Usage.TokenUsage where
  inputTokens := u.inputTokens.toNat
  cachedInputTokens := u.cachedInputTokens.toNat
  cacheWriteInputTokens := u.cacheWriteInputTokens.map UInt64.toNat
  outputTokens := u.outputTokens.toNat
  reasoningOutputTokens := u.reasoningOutputTokens.toNat
  totalTokens := u.totalTokens.toNat
  modelContextWindow := u.modelContextWindow.map UInt64.toNat

def PricingSnapshot.prices (p : PricingSnapshot) : Usage.PricingSnapshot where
  id := p.id
  inputMicrousdPerMillion := p.inputMicrousdPerMillion.toNat
  cachedInputMicrousdPerMillion := p.cachedInputMicrousdPerMillion.toNat
  outputMicrousdPerMillion := p.outputMicrousdPerMillion.toNat
  cacheWriteMultiplierNumerator := p.cacheWriteMultiplierNumerator.toNat
  cacheWriteMultiplierDenominator := p.cacheWriteMultiplierDenominator.toNat
  longContextThresholdTokens := p.longContextThresholdTokens.map UInt64.toNat
  longContextInputMultiplierNumerator := p.longContextInputMultiplierNumerator.map UInt64.toNat
  longContextInputMultiplierDenominator := p.longContextInputMultiplierDenominator.map UInt64.toNat
  longContextOutputMultiplierNumerator := p.longContextOutputMultiplierNumerator.map UInt64.toNat
  longContextOutputMultiplierDenominator := p.longContextOutputMultiplierDenominator.map UInt64.toNat

theorem toNat_max (a : UInt64) : (max a 1).toNat = max a.toNat 1 := by
  change (if a ≤ 1 then 1 else a).toNat = _
  split
  · rename_i h
    exact (max_eq_right (UInt64.le_iff_toNat_le.1 h)).symm
  · rename_i h
    have hlt : 1 < a.toNat := Nat.lt_of_not_le fun hle => h (UInt64.le_iff_toNat_le.2 hle)
    exact (max_eq_left (le_of_lt hlt)).symm

theorem ratio_toNat (numerator denominator : Option UInt64) :
    Usage.ratio (numerator.map UInt64.toNat) (denominator.map UInt64.toNat) = ratio numerator denominator := by
  unfold Usage.ratio ratio
  rw [toNat_max]
  cases numerator <;> cases denominator <;> rfl

theorem long_counts (u : TokenUsage) (p : PricingSnapshot) :
    p.prices.longContextThresholdTokens.any (fun threshold => decide (threshold < u.counts.inputTokens)) =
      longContext u p := by
  unfold longContext PricingSnapshot.prices TokenUsage.counts
  cases p.longContextThresholdTokens with
  | none => rfl
  | some threshold => exact decide_eq_decide.2 UInt64.lt_iff_toNat_lt.symm

def Fault.text : Fault → String
  | .panic => ""
  | .error (.domain reason) => "invalid usage counters: " ++ reason
  | .error (.impossibleCounters reason) => "impossible usage counters: " ++ reason
  | .error .overflow => "cost arithmetic overflow"

theorem ensure_mapError {ε δ : Type} (b : Bool) (e : ε) (f : ε → δ) : (ensure b e).mapError f = ensure b (f e) := by
  cases b <;> rfl

theorem bind_mapError {ε δ α β : Type} (x : Except ε α) (g : α → Except ε β) (f : ε → δ) :
    (x >>= g).mapError f = x.mapError f >>= fun a => (g a).mapError f := by
  cases x <;> rfl

theorem validate_counts (u : TokenUsage) : u.counts.validate = u.validate.mapError Fault.text := by
  unfold TokenUsage.validate Usage.TokenUsage.validate
  rw [bind_mapError, ensure_mapError]
  simp only [bind_mapError, ensure_mapError]
  have hle : ∀ a b : UInt64, decide (a ≤ b) = decide (a.toNat ≤ b.toNat) := fun a b =>
    decide_eq_decide.2 UInt64.le_iff_toNat_le
  rw [hle, hle, hle]
  unfold TokenUsage.counts Fault.text
  cases u.cacheWriteInputTokens <;> rfl

section Model
variable (u : TokenUsage) (p : PricingSnapshot)

theorem inputMultiplier_counts : (if p.prices.longContextThresholdTokens.any
      (fun threshold => decide (threshold < u.counts.inputTokens)) then
      Usage.ratio p.prices.longContextInputMultiplierNumerator p.prices.longContextInputMultiplierDenominator
    else (1, 1)) = inputMultiplier u p := by
  rw [long_counts]
  unfold inputMultiplier PricingSnapshot.prices
  rw [ratio_toNat]

theorem outputMultiplier_counts : (if p.prices.longContextThresholdTokens.any
      (fun threshold => decide (threshold < u.counts.inputTokens)) then
      Usage.ratio p.prices.longContextOutputMultiplierNumerator p.prices.longContextOutputMultiplierDenominator
    else (1, 1)) = outputMultiplier u p := by
  rw [long_counts]
  unfold outputMultiplier PricingSnapshot.prices
  rw [ratio_toNat]

theorem cacheWriteMultiplier_counts : (p.prices.cacheWriteMultiplierNumerator,
    max p.prices.cacheWriteMultiplierDenominator 1) = cacheWriteMultiplier p := by
  unfold cacheWriteMultiplier PricingSnapshot.prices
  rw [toNat_max]

theorem model_eq : Usage.estimate u.counts p.prices = (do
    u.counts.validate
    ensure (u.cacheWriteInputTokens.all (fun w => decide (w.toNat ≤ nonCached u)))
      "impossible usage counters: cached plus cache-write input exceeds total input"
    let lower ← Usage.toU64 (bounds u p).1
    let upper ← Usage.toU64 (bounds u p).2
    return ⟨lower, upper⟩) := by
  unfold Usage.estimate bounds
  simp only [inputMultiplier_counts, outputMultiplier_counts, cacheWriteMultiplier_counts]
  have hinput : p.prices.inputMicrousdPerMillion = p.inputMicrousdPerMillion.toNat := by
    simp only [PricingSnapshot.prices]
  have houtput : p.prices.outputMicrousdPerMillion = p.outputMicrousdPerMillion.toNat := by
    simp only [PricingSnapshot.prices]
  have hcached : p.prices.cachedInputMicrousdPerMillion = p.cachedInputMicrousdPerMillion.toNat := by
    simp only [PricingSnapshot.prices]
  rw [hinput, houtput, hcached, input_rate, output_rate, cacheWrite_rate, cached_rate]
  generalize rates u p = r
  cases u.counts.validate with
  | error e => rw [error_bind, error_bind]
  | ok _ =>
    rw [bind_value rfl, bind_value rfl]
    unfold boundsBy totalBy fixedBy nonCached TokenUsage.counts
    cases u.cacheWriteInputTokens with
    | some w =>
      dsimp only [Option.map_some, Option.all_some]
      by_cases hle : w.toNat ≤ u.inputTokens.toNat - u.cachedInputTokens.toNat
      · rw [decide_eq_true hle, ensure_true, bind_value rfl, bind_value rfl]
        cases Usage.toU64 _ with
        | error e => rw [error_bind, error_bind]
        | ok total => rw [bind_value rfl, bind_value rfl, bind_value rfl]
      · rw [decide_eq_false hle, ensure_false, error_bind, error_bind]
    | none =>
      dsimp only [Option.map_none, Option.all_none]
      rw [ensure_true, bind_value rfl]

theorem toU64_text (value : Nat) : ((toU64 value).map UInt64.toNat).mapError Fault.text = Usage.toU64 value := by
  unfold toU64 Usage.toU64
  by_cases hle : value ≤ u64Max
  · rw [if_pos hle, if_pos hle]
    exact congrArg Except.ok (toNat_word hle)
  · rw [if_neg hle, if_neg hle]
    rfl

/-- **No operator panics, and the estimate is the one over the naturals** in which the stops of the words are written out. -/
theorem estimate_model : ((estimate u p).map fun c =>
      (⟨c.lowerMicrousd.toNat, c.upperMicrousd.toNat⟩ : Usage.CostEstimate)).mapError Fault.text =
    Usage.estimate u.counts p.prices := by
  rw [estimate_eq, model_eq, validate_counts]
  generalize bounds u p = b
  cases u.validate with
  | error e => rfl
  | ok _ =>
    have hok : (Except.ok () : Except Fault Unit).mapError Fault.text = .ok () := rfl
    rw [ok_bind, hok, ok_bind]
    cases u.cacheWriteInputTokens.all (fun w => decide (w.toNat ≤ nonCached u)) with
    | false => rfl
    | true =>
      rw [ensure_true, ensure_true, ok_bind, ok_bind, ← toU64_text, ← toU64_text]
      unfold estimateOf
      cases toU64 b.1 with
      | error e => rfl
      | ok lower =>
        rw [ok_bind]
        cases toU64 b.2 with
        | error e => rfl
        | ok upper => rfl

end Model

end UsageCost
end Bildr
