import Bildr.Json
import Bildr.Store
/-!
# Usage — token usage and its cost

Counters are `u64`, prices are computed in `u128`; additions and products saturate.
-/
namespace Bildr
namespace Usage

open Json (Value)

def u64Max : Nat := 18446744073709551615
def u128Max : Nat := 340282366920938463463374607431768211455

def satAdd (a b : Nat) : Nat := min (a + b) u64Max

structure TokenUsage where
  inputTokens : Nat
  cachedInputTokens : Nat
  cacheWriteInputTokens : Option Nat
  outputTokens : Nat
  reasoningOutputTokens : Nat
  totalTokens : Nat
  modelContextWindow : Option Nat
deriving DecidableEq, Repr

def TokenUsage.validate (u : TokenUsage) : Except String Unit := do
  ensure (decide (u.cachedInputTokens ≤ u.inputTokens)) "invalid usage counters: cached input exceeds input"
  ensure (decide (u.cacheWriteInputTokens.getD 0 ≤ u.inputTokens)) "invalid usage counters: cache-write input exceeds input"
  ensure (decide (u.reasoningOutputTokens ≤ u.outputTokens)) "invalid usage counters: reasoning output exceeds output"

structure PricingSnapshot where
  id : String
  inputMicrousdPerMillion : Nat
  cachedInputMicrousdPerMillion : Nat
  outputMicrousdPerMillion : Nat
  cacheWriteMultiplierNumerator : Nat
  cacheWriteMultiplierDenominator : Nat
  longContextThresholdTokens : Option Nat
  longContextInputMultiplierNumerator : Option Nat
  longContextInputMultiplierDenominator : Option Nat
  longContextOutputMultiplierNumerator : Option Nat
  longContextOutputMultiplierDenominator : Option Nat
deriving DecidableEq, Repr

/-- The bounds of an estimate; its confidence and its explanation are display data. -/
structure CostEstimate where
  lowerMicrousd : Nat
  upperMicrousd : Nat
deriving DecidableEq, Repr

def ratio (numerator denominator : Option Nat) : Nat × Nat := (numerator.getD 1, max (denominator.getD 1) 1)

def applyRatio (value : Nat) (r : Nat × Nat) : Nat := min (value * r.1) u128Max / max r.2 1

def tokenCost (tokens rate : Nat) : Nat := min (min (tokens * rate) u128Max + 500000) u128Max / 1000000

def toU64 (n : Nat) : Except String Nat := if n ≤ u64Max then .ok n else .error "cost arithmetic overflow"

def estimate (u : TokenUsage) (p : PricingSnapshot) : Except String CostEstimate := do
  u.validate
  let long := p.longContextThresholdTokens.any (fun threshold => decide (threshold < u.inputTokens))
  let inputMultiplier := if long then ratio p.longContextInputMultiplierNumerator p.longContextInputMultiplierDenominator
    else (1, 1)
  let outputMultiplier :=
    if long then ratio p.longContextOutputMultiplierNumerator p.longContextOutputMultiplierDenominator else (1, 1)
  let inputRate := applyRatio p.inputMicrousdPerMillion inputMultiplier
  let outputRate := applyRatio p.outputMicrousdPerMillion outputMultiplier
  let cacheWriteRate := applyRatio inputRate (p.cacheWriteMultiplierNumerator, max p.cacheWriteMultiplierDenominator 1)
  let cachedRate := applyRatio p.cachedInputMicrousdPerMillion inputMultiplier
  let nonCached := u.inputTokens - u.cachedInputTokens
  let fixed := tokenCost u.cachedInputTokens cachedRate + tokenCost u.outputTokens outputRate
  match u.cacheWriteInputTokens with
  | some cacheWrite => do
    ensure (decide (cacheWrite ≤ nonCached))
      "impossible usage counters: cached plus cache-write input exceeds total input"
    let total ← toU64 (fixed + tokenCost (nonCached - cacheWrite) inputRate + tokenCost cacheWrite cacheWriteRate)
    return ⟨total, total⟩
  | none => do
    let allNormal := fixed + tokenCost nonCached inputRate
    let allCacheWrite := fixed + tokenCost nonCached cacheWriteRate
    let lower ← toU64 (min allNormal allCacheWrite)
    let upper ← toU64 (max allNormal allCacheWrite)
    return ⟨lower, upper⟩

structure UsageSummary where
  inputTokens : Nat
  cachedInputTokens : Nat
  cacheWriteInputTokens : Option Nat
  outputTokens : Nat
  reasoningOutputTokens : Nat
  totalTokens : Nat
  cost : CostEstimate
deriving DecidableEq, Repr

def UsageSummary.empty : UsageSummary := ⟨0, 0, none, 0, 0, 0, ⟨0, 0⟩⟩

def addSample (s : UsageSummary) (u : TokenUsage) (c : CostEstimate) : Except String UsageSummary := do
  u.validate
  return {
    inputTokens := satAdd s.inputTokens u.inputTokens
    cachedInputTokens := satAdd s.cachedInputTokens u.cachedInputTokens
    cacheWriteInputTokens :=
      match s.cacheWriteInputTokens, u.cacheWriteInputTokens with
      | some left, some right => some (satAdd left right)
      | none, some right => if s.totalTokens = 0 then some right else none
      | _, none => none
    outputTokens := satAdd s.outputTokens u.outputTokens
    reasoningOutputTokens := satAdd s.reasoningOutputTokens u.reasoningOutputTokens
    totalTokens := satAdd s.totalTokens u.totalTokens
    cost := ⟨satAdd s.cost.lowerMicrousd c.lowerMicrousd, satAdd s.cost.upperMicrousd c.upperMicrousd⟩ }

def parseTokenUsage (last payload : Value) : Except StoreError TokenUsage := do
  let usage : TokenUsage := {
    inputTokens := (last.findU64 ["inputTokens"]).getD 0
    cachedInputTokens := (last.findU64 ["cachedInputTokens"]).getD 0
    cacheWriteInputTokens :=
      (last.get "cacheWriteInputTokens").map (fun _ => (last.findU64 ["cacheWriteInputTokens"]).getD 0)
    outputTokens := (last.findU64 ["outputTokens"]).getD 0
    reasoningOutputTokens := (last.findU64 ["reasoningOutputTokens"]).getD 0
    totalTokens := (last.findU64 ["totalTokens"]).getD 0
    modelContextWindow := payload.findU64 ["tokenUsage", "modelContextWindow"] }
  usage.validate.mapError StoreError.validation
  return usage

/-! ## The usage updates of a turn -/

structure Progress where
  summary : UsageSummary
  lastCumulativeTotal : Option Nat
  lastSource : Nat
  contextWindow : Option Nat
deriving DecidableEq

def updateCost (pricing : Option PricingSnapshot) (usage : TokenUsage) : Except StoreError CostEstimate :=
  match pricing with
  | some snapshot => (estimate usage snapshot).mapError StoreError.validation
  | none          => .ok ⟨0, 0⟩

/-- One update: skipped without a last call or when the cumulative total did not move. -/
def addUpdate (pricing : Option PricingSnapshot) (p : Progress) (row : Nat × Value) : Except StoreError Progress :=
  match row.2.find ["tokenUsage", "last"] with
  | none => .ok p
  | some last =>
    let cumulativeTotal := (row.2.findU64 ["tokenUsage", "total", "totalTokens"]).getD 0
    if p.lastCumulativeTotal = some cumulativeTotal then .ok p
    else do
      let usage ← parseTokenUsage last row.2
      let cost ← updateCost pricing usage
      let summary ← (addSample p.summary usage cost).mapError StoreError.validation
      return ⟨summary, some cumulativeTotal, row.1, usage.modelContextWindow⟩

def summarizeTurn (pricing : Option PricingSnapshot) (source : Nat) (rows : List (Nat × Value)) :
    Except StoreError Progress :=
  rows.foldlM (addUpdate pricing) ⟨UsageSummary.empty, none, source, none⟩

/-! ## What the loop depends on -/

theorem addUpdate_cases (pricing : Option PricingSnapshot) (row : Nat × Value) (p : Progress) (source : Nat) :
    (addUpdate pricing p row = .ok p ∧ addUpdate pricing { p with lastSource := source } row =
      .ok { p with lastSource := source }) ∨
    (addUpdate pricing { p with lastSource := source } row = addUpdate pricing p row ∧
      ∀ q, addUpdate pricing p row = .ok q → q.lastSource = row.1 ∧
        (p.summary.totalTokens ≠ 0 → q.summary.totalTokens ≠ 0)) := by
  unfold addUpdate
  cases row.2.find ["tokenUsage", "last"] with
  | none => exact Or.inl ⟨rfl, rfl⟩
  | some last =>
    dsimp only
    split
    · exact Or.inl ⟨rfl, rfl⟩
    · refine Or.inr ⟨rfl, fun q hq => ?_⟩
      obtain ⟨u, -, hq⟩ := bind_ok hq
      obtain ⟨c, -, hq⟩ := bind_ok hq
      obtain ⟨s, hs, hq⟩ := bind_ok hq
      cases hq
      refine ⟨rfl, fun hp => ?_⟩
      have hadd : ∃ s', addSample p.summary u c = .ok s' ∧ s' = s := by
        cases ha : addSample p.summary u c with
        | error e => rw [ha] at hs; cases hs
        | ok s' => rw [ha] at hs; cases hs; exact ⟨_, rfl, rfl⟩
      obtain ⟨s', ha, rfl⟩ := hadd
      obtain ⟨_, -, ha⟩ := bind_ok ha
      cases ha
      simp only [satAdd, u64Max]
      omega

theorem foldlM_addUpdate (pricing : Option PricingSnapshot) : ∀ (rows : List (Nat × Value)) (p q : Progress) (source : Nat),
    rows.foldlM (addUpdate pricing) p = .ok q →
      (q = p ∧ rows.foldlM (addUpdate pricing) { p with lastSource := source } = .ok { p with lastSource := source }) ∨
      (rows.foldlM (addUpdate pricing) { p with lastSource := source } = .ok q ∧ q.lastSource ∈ rows.map Prod.fst)
  | [], p, q, source, h => by
    simp only [List.foldlM_nil] at h
    cases h
    exact Or.inl ⟨rfl, rfl⟩
  | row :: rows, p, q, source, h => by
    rw [List.foldlM_cons] at h ⊢
    obtain ⟨p₁, h₁, h⟩ := bind_ok h
    rcases addUpdate_cases pricing row p source with ⟨hskip, hskip'⟩ | ⟨hsame, hlast⟩
    · rw [hskip] at h₁
      cases h₁
      rw [hskip', ok_bind]
      rcases foldlM_addUpdate pricing rows p q source h with ⟨hq, hr⟩ | ⟨hr, hm⟩
      · exact Or.inl ⟨hq, hr⟩
      · exact Or.inr ⟨hr, List.mem_cons_of_mem _ hm⟩
    · rw [hsame, h₁, ok_bind]
      refine Or.inr ⟨h, ?_⟩
      -- the row was counted, so the source is this row's or a later one's
      have hlast₁ := (hlast p₁ h₁).1
      rcases foldlM_addUpdate pricing rows p₁ q 0 h with ⟨hq, -⟩ | ⟨-, hm⟩
      · rw [hq, hlast₁]
        exact List.mem_cons_self
      · exact List.mem_cons_of_mem _ hm

theorem foldlM_addUpdate_total (pricing : Option PricingSnapshot) : ∀ {rows : List (Nat × Value)} {p q : Progress},
    rows.foldlM (addUpdate pricing) p = .ok q → p.summary.totalTokens ≠ 0 → q.summary.totalTokens ≠ 0
  | [], p, q, h, hp => by
    simp only [List.foldlM_nil] at h
    cases h
    exact hp
  | row :: rows, p, q, h, hp => by
    rw [List.foldlM_cons] at h
    obtain ⟨p₁, h₁, h⟩ := bind_ok h
    refine foldlM_addUpdate_total pricing h ?_
    rcases addUpdate_cases pricing row p 0 with ⟨hskip, -⟩ | ⟨-, hlast⟩
    · rw [hskip] at h₁
      cases h₁
      exact hp
    · exact (hlast p₁ h₁).2 hp

theorem summarizeTurn_counted {pricing : Option PricingSnapshot} {source : Nat} {rows : List (Nat × Value)} {p : Progress}
    (h : summarizeTurn pricing source rows = .ok p) (hp : p.summary.totalTokens ≠ 0) (source' : Nat) :
    summarizeTurn pricing source' rows = .ok p ∧ p.lastSource ∈ rows.map Prod.fst := by
  rcases foldlM_addUpdate pricing rows _ p source' h with ⟨rfl, -⟩ | ⟨hr, hm⟩
  · exact absurd rfl hp
  · exact ⟨hr, hm⟩

theorem summarizeTurn_zero {pricing : Option PricingSnapshot} {source : Nat} {rows : List (Nat × Value)} {p : Progress}
    (h : summarizeTurn pricing source rows = .ok p) (hp : p.summary.totalTokens = 0) (source' : Nat) :
    ∃ p', summarizeTurn pricing source' rows = .ok p' ∧ p'.summary.totalTokens = 0 := by
  rcases foldlM_addUpdate pricing rows _ p source' h with ⟨-, hr⟩ | ⟨hr, -⟩
  · exact ⟨_, hr, rfl⟩
  · exact ⟨p, hr, hp⟩

theorem summarizeTurn_append_zero {pricing : Option PricingSnapshot} {source : Nat} {rows rows' : List (Nat × Value)}
    {p q : Progress} (h : summarizeTurn pricing source rows = .ok p)
    (h' : summarizeTurn pricing source (rows ++ rows') = .ok q) (hq : q.summary.totalTokens = 0) :
    p.summary.totalTokens = 0 := by
  unfold summarizeTurn at h h'
  rw [List.foldlM_append, h, ok_bind] at h'
  by_cases hp : p.summary.totalTokens = 0
  · exact hp
  · exact absurd hq (foldlM_addUpdate_total pricing h' hp)

end Usage
end Bildr
