import Bildr.CostRange
/-!
# CostExact — the estimate against the same formulas without a largest number

Prices, multipliers and counts are words, so a first product of two of them fits `u128`, and a component that was cut is
too large for a word.  Only the cache-write rate scales a number that is no word: where its product is cut, the quotient
may come back into range, and an amount is returned that no formula gives (`Drifts`).
-/
namespace Bildr
namespace UsageCost

open Usage (u64Max u128Max)
open Rounding

/-! ## The formulas -/

def exactRate (value : Nat) (r : Nat × Nat) : Nat := value * r.1 / max r.2 1

def exactCost (tokens rate : Nat) : Nat := halfUp half (tokens * rate)

def exactRates (u : TokenUsage) (p : PricingSnapshot) : Rates := ratesBy exactRate u p

def exactBounds (u : TokenUsage) (p : PricingSnapshot) : Nat × Nat := boundsBy exactCost (exactRates u p) u

/-! ## Where saturation shows -/

def writeProduct (u : TokenUsage) (p : PricingSnapshot) : Nat :=
  (exactRates u p).input * p.cacheWriteMultiplierNumerator.toNat

/-- The rates, where the product of the cache-write rate is the largest number. -/
def cutRates (u : TokenUsage) (p : PricingSnapshot) : Rates :=
  { exactRates u p with cacheWrite := u128Max / max (cacheWriteMultiplier p).2 1 }

def writtenTokens (u : TokenUsage) : Nat := (u.cacheWriteInputTokens.map UInt64.toNat).getD (nonCached u)

/-- The product of the cache-write rate is cut, and the costs at the rate that is left are words, but not the costs. -/
def Drifts (u : TokenUsage) (p : PricingSnapshot) : Prop :=
  u128Max < writeProduct u p ∧ Counted u ∧ (boundsBy exactCost (cutRates u p) u).2 ≤ u64Max ∧
    exactCost (writtenTokens u) (cutRates u p).cacheWrite ≠ exactCost (writtenTokens u) (exactRates u p).cacheWrite

/-! ## Rates -/

theorem toNat_le (word : UInt64) : word.toNat ≤ u64Max := Nat.le_of_lt_succ word.toNat_lt

theorem applyRatio_exact {value : Nat} {r : Nat × Nat} (h : value * r.1 ≤ u128Max) :
    Usage.applyRatio value r = exactRate value r := by
  unfold Usage.applyRatio exactRate
  rw [Nat.min_eq_left h]

theorem applyRatio_cut {value : Nat} {r : Nat × Nat} (h : u128Max < value * r.1) :
    Usage.applyRatio value r = u128Max / max r.2 1 := by
  unfold Usage.applyRatio
  rw [Nat.min_eq_right (le_of_lt h)]

theorem ratio_le (numerator denominator : Option UInt64) : (ratio numerator denominator).1 ≤ u64Max := toNat_le _

theorem inputMultiplier_le (u : TokenUsage) (p : PricingSnapshot) : (inputMultiplier u p).1 ≤ u64Max := by
  unfold inputMultiplier
  split
  · exact ratio_le _ _
  · exact (by decide : 1 ≤ u64Max)

theorem outputMultiplier_le (u : TokenUsage) (p : PricingSnapshot) : (outputMultiplier u p).1 ≤ u64Max := by
  unfold outputMultiplier
  split
  · exact ratio_le _ _
  · exact (by decide : 1 ≤ u64Max)

theorem applyRatio_price {price : UInt64} {r : Nat × Nat} (h : r.1 ≤ u64Max) :
    Usage.applyRatio price.toNat r = exactRate price.toNat r :=
  applyRatio_exact (le_trans (Nat.mul_le_mul (toNat_le price) h) (by decide))

theorem rates_eq (u : TokenUsage) (p : PricingSnapshot) :
    rates u p = if writeProduct u p ≤ u128Max then exactRates u p else cutRates u p := by
  have hinput : Usage.applyRatio p.inputMicrousdPerMillion.toNat (inputMultiplier u p) = (exactRates u p).input := by
    rw [applyRatio_price (inputMultiplier_le u p)]
    simp only [exactRates, ratesBy]
  have houtput : Usage.applyRatio p.outputMicrousdPerMillion.toNat (outputMultiplier u p) = (exactRates u p).output := by
    rw [applyRatio_price (outputMultiplier_le u p)]
    simp only [exactRates, ratesBy]
  have hcached : Usage.applyRatio p.cachedInputMicrousdPerMillion.toNat (inputMultiplier u p) =
      (exactRates u p).cached := by
    rw [applyRatio_price (inputMultiplier_le u p)]
    simp only [exactRates, ratesBy]
  unfold rates ratesBy
  dsimp only
  rw [hinput, houtput, hcached]
  split
  · rename_i h
    rw [applyRatio_exact h]
    rfl
  · rename_i h
    rw [applyRatio_cut (Nat.lt_of_not_le h)]
    rfl

/-! ## Bounds -/

theorem exactCost_tokenCost {tokens rate : Nat} (h : exactCost tokens rate ≤ u64Max) :
    exactCost tokens rate = Usage.tokenCost tokens rate := by
  unfold exactCost Usage.tokenCost u64Max u128Max halfUp half at *
  generalize tokens * rate = product at *
  omega

theorem boundsBy_congr {top : Nat} {cost cost' : Nat → Nat → Nat}
    (hcost : ∀ tokens rate, cost tokens rate ≤ top → cost tokens rate = cost' tokens rate) {r : Rates} {u : TokenUsage}
    (h : (boundsBy cost r u).2 ≤ top) : boundsBy cost r u = boundsBy cost' r u := by
  unfold boundsBy totalBy fixedBy at *
  cases hw : u.cacheWriteInputTokens with
  | some w =>
    rw [hw] at h
    dsimp only at h ⊢
    rw [← hcost _ _ (show cost u.cachedInputTokens.toNat r.cached ≤ top by omega),
      ← hcost _ _ (show cost u.outputTokens.toNat r.output ≤ top by omega),
      ← hcost _ _ (show cost (nonCached u - w.toNat) r.input ≤ top by omega),
      ← hcost _ _ (show cost w.toNat r.cacheWrite ≤ top by omega)]
  | none =>
    rw [hw] at h
    dsimp only at h ⊢
    rw [← hcost _ _ (show cost u.cachedInputTokens.toNat r.cached ≤ top by omega),
      ← hcost _ _ (show cost u.outputTokens.toNat r.output ≤ top by omega),
      ← hcost _ _ (show cost (nonCached u) r.input ≤ top by omega),
      ← hcost _ _ (show cost (nonCached u) r.cacheWrite ≤ top by omega)]

theorem boundsBy_write (cost : Nat → Nat → Nat) (r : Rates) (u : TokenUsage) (rate : Nat) :
    boundsBy cost { r with cacheWrite := rate } u = boundsBy cost r u ↔
      cost (writtenTokens u) rate = cost (writtenTokens u) r.cacheWrite := by
  unfold boundsBy totalBy fixedBy writtenTokens
  cases u.cacheWriteInputTokens with
  | some w =>
    dsimp only [Option.map_some, Option.getD_some]
    rw [Prod.mk.injEq, and_self_iff, Nat.add_left_cancel_iff]
  | none =>
    dsimp only [Option.map_none, Option.getD_none]
    rw [Prod.mk.injEq]
    omega

theorem bounds_exactCost {u : TokenUsage} {p : PricingSnapshot} (h : (bounds u p).2 ≤ u64Max) :
    bounds u p = boundsBy exactCost (rates u p) u := by
  unfold bounds at h ⊢
  exact boundsBy_congr (fun tokens rate hle => tokenCost_halfUp hle) h

theorem exactCost_bounds {u : TokenUsage} {p : PricingSnapshot} (h : (boundsBy exactCost (rates u p) u).2 ≤ u64Max) :
    boundsBy exactCost (rates u p) u = bounds u p := by
  unfold bounds
  exact boundsBy_congr (fun tokens rate hle => exactCost_tokenCost hle) h

theorem bounds_exact_iff {u : TokenUsage} {p : PricingSnapshot} (h : (bounds u p).2 ≤ u64Max) :
    bounds u p = exactBounds u p ↔ writeProduct u p ≤ u128Max ∨
      exactCost (writtenTokens u) (cutRates u p).cacheWrite = exactCost (writtenTokens u) (exactRates u p).cacheWrite := by
  rw [bounds_exactCost h, rates_eq]
  unfold exactBounds
  by_cases hfits : writeProduct u p ≤ u128Max
  · rw [if_pos hfits]
    exact ⟨fun _ => Or.inl hfits, fun _ => rfl⟩
  · rw [if_neg hfits, or_iff_right hfits]
    exact boundsBy_write exactCost (exactRates u p) u _

theorem words_of_estimate {u : TokenUsage} {p : PricingSnapshot} {c : CostEstimate} (h : estimate u p = .ok c) :
    (bounds u p).2 ≤ u64Max ∧ (c.lowerMicrousd.toNat, c.upperMicrousd.toNat) = bounds u p := by
  obtain ⟨-, hfits, rfl⟩ := estimate_ok_iff.1 h
  have hlower : (bounds u p).1 ≤ u64Max := le_trans (boundsBy_le _ _ _) hfits
  dsimp only
  rw [toNat_word hlower, toNat_word hfits]
  exact ⟨hfits, rfl⟩

/-- **An estimate does not panic and its words are the formulas' bounds, exactly if the cache-write rate does not
drift.** -/
theorem estimate_exact_iff (u : TokenUsage) (p : PricingSnapshot) :
    (estimate u p ≠ .error .panic ∧ ∀ c, estimate u p = .ok c →
      (c.lowerMicrousd.toNat, c.upperMicrousd.toNat) = exactBounds u p) ↔ ¬ Drifts u p := by
  constructor
  · rintro ⟨-, hexact⟩ ⟨hcut, hcounted, hfits, hne⟩
    have hrates : rates u p = cutRates u p := by rw [rates_eq, if_neg (Nat.not_le.2 hcut)]
    rw [← hrates] at hfits
    have hbounds := exactCost_bounds hfits
    rw [hbounds] at hfits
    have hok := estimate_ok_iff.2 ⟨hcounted, hfits, rfl⟩
    have hwords := words_of_estimate hok
    rcases (bounds_exact_iff hfits).1 (hwords.2.symm.trans (hexact _ hok)) with hle | heq
    · exact absurd hle (Nat.not_le.2 hcut)
    · exact hne heq
  · intro hsteady
    refine ⟨estimate_not_panic u p, fun c hc => ?_⟩
    obtain ⟨hfits, hwords⟩ := words_of_estimate hc
    rw [hwords, bounds_exact_iff hfits]
    by_cases hcut : writeProduct u p ≤ u128Max
    · exact Or.inl hcut
    · refine Or.inr (Classical.not_not.1 fun hne => ?_)
      have hrates : rates u p = cutRates u p := by rw [rates_eq, if_neg hcut]
      have hfits' := hfits
      rw [bounds_exactCost hfits, hrates] at hfits'
      exact hsteady ⟨Nat.lt_of_not_le hcut, (estimate_ok_iff.1 hc).1, hfits', hne⟩

/-! ## A rate of the largest word, scaled by half the range of words -/

/-- The input rate is `u64Max * 2^63`, four times that is too large for `u128`. -/
def longPriced : PricingSnapshot :=
  ⟨"long", 18446744073709551615, 0, 0, 4, 18446744073709551615, some 0, some 9223372036854775808, some 1, none, none⟩

def oneWritten : TokenUsage := ⟨1, 0, some 1, 0, 0, 1, none⟩

theorem estimate_longPriced : estimate oneWritten longPriced =
    .ok ⟨18446744073710, 18446744073710, .exact, ["long"], oneWritten.explanation⟩ := by
  have hbounds : bounds oneWritten longPriced = (18446744073710, 18446744073710) := by decide
  refine estimate_ok_iff.2 ⟨⟨by decide, fun w hw => by cases hw; decide⟩, by decide, ?_⟩
  rw [hbounds]
  rfl

/-- **A cut rate is returned as a cost**: twice as much is owed. -/
theorem cut_rate_returned : ¬ ∀ (u : TokenUsage) (p : PricingSnapshot), estimate u p ≠ .error .panic ∧
    ∀ c, estimate u p = .ok c → (c.lowerMicrousd.toNat, c.upperMicrousd.toNat) = exactBounds u p := by
  intro hall
  have hbounds : exactBounds oneWritten longPriced = (36893488147419, 36893488147419) := by decide
  have hwords := (hall oneWritten longPriced).2 _ estimate_longPriced
  rw [hbounds] at hwords
  exact absurd (congrArg Prod.fst hwords) (by decide)

end UsageCost
end Bildr
