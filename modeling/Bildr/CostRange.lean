import Bildr.UsageCost
import Bildr.Rounding
/-!
# CostRange — the range where the cache-write input was not reported

The range runs from the cost where no input was written to the cache to the cost where all of it was.  A split is priced
as two components, each rounded on its own: they are a micro-dollar away from their rounded sum where both remainders
cross half on one side (`Rounding.Over`, `Rounding.Under`), and the range misses the split if the sum is rounded like that
end of the range (`Misses`).
-/
namespace Bildr
namespace UsageCost

open Usage (u64Max u128Max)
open Rounding

/-- Half a million micro-dollars: what a component is rounded by. -/
abbrev half : Nat := 500000

theorem tokenCost_halfUp {tokens rate : Nat} (h : Usage.tokenCost tokens rate ≤ u64Max) :
    Usage.tokenCost tokens rate = halfUp half (tokens * rate) := by
  unfold Usage.tokenCost u64Max u128Max halfUp half at *
  generalize tokens * rate = product at *
  omega

/-! ## A split of the input that was not cached -/

def normalPart (u : TokenUsage) (p : PricingSnapshot) (w : Nat) : Nat := (nonCached u - w) * (rates u p).input

def writtenPart (u : TokenUsage) (p : PricingSnapshot) (w : Nat) : Nat := w * (rates u p).cacheWrite

/-- Both parts of the split are rounded up past the dearer end of the range, or both down past the cheaper one. -/
def Misses (u : TokenUsage) (p : PricingSnapshot) (w : Nat) : Prop :=
  (Over half (normalPart u p w) (writtenPart u p w) ∧ halfUp half (normalPart u p w + writtenPart u p w) =
    max (halfUp half (normalPart u p 0)) (halfUp half (writtenPart u p (nonCached u)))) ∨
  (Under half (normalPart u p w) (writtenPart u p w) ∧ halfUp half (normalPart u p w + writtenPart u p w) =
    min (halfUp half (normalPart u p 0)) (halfUp half (writtenPart u p (nonCached u))))

theorem split_between {n w : Nat} (hw : w ≤ n) (a b : Nat) :
    min (n * a) (n * b) ≤ (n - w) * a + w * b ∧ (n - w) * a + w * b ≤ max (n * a) (n * b) := by
  obtain ⟨m, rfl⟩ := Nat.exists_eq_add_of_le' hw
  rw [Nat.add_sub_cancel, Nat.add_mul, Nat.add_mul]
  rcases Nat.le_total a b with hab | hab
  · have hm := Nat.mul_le_mul_left m hab
    have hwab := Nat.mul_le_mul_left w hab
    omega
  · have hm := Nat.mul_le_mul_left m hab
    have hwab := Nat.mul_le_mul_left w hab
    omega

theorem halfUp_min (x y : Nat) : halfUp half (min x y) = min (halfUp half x) (halfUp half y) := by
  rcases Nat.le_total x y with h | h
  · rw [Nat.min_eq_left h, Nat.min_eq_left (halfUp_mono h)]
  · rw [Nat.min_eq_right h, Nat.min_eq_right (halfUp_mono h)]

theorem halfUp_max (x y : Nat) : halfUp half (max x y) = max (halfUp half x) (halfUp half y) := by
  rcases Nat.le_total x y with h | h
  · rw [Nat.max_eq_right h, Nat.max_eq_right (halfUp_mono h)]
  · rw [Nat.max_eq_left h, Nat.max_eq_left (halfUp_mono h)]

theorem rounded_between (u : TokenUsage) (p : PricingSnapshot) {w : Nat} (hw : w ≤ nonCached u) :
    min (halfUp half (normalPart u p 0)) (halfUp half (writtenPart u p (nonCached u))) ≤
        halfUp half (normalPart u p w + writtenPart u p w) ∧
      halfUp half (normalPart u p w + writtenPart u p w) ≤
        max (halfUp half (normalPart u p 0)) (halfUp half (writtenPart u p (nonCached u))) := by
  have hbetween := split_between hw (rates u p).input (rates u p).cacheWrite
  rw [← halfUp_min, ← halfUp_max]
  unfold normalPart writtenPart
  rw [Nat.sub_zero]
  exact ⟨halfUp_mono hbetween.1, halfUp_mono hbetween.2⟩

/-! ## The range and an estimate in it -/

def TokenUsage.written (u : TokenUsage) (w : UInt64) : TokenUsage := { u with cacheWriteInputTokens := some w }

section Written
variable (u : TokenUsage) (p : PricingSnapshot) (w : UInt64)

theorem rates_written : rates (u.written w) p = rates u p := by
  unfold rates ratesBy inputMultiplier outputMultiplier longContext TokenUsage.written
  rfl

theorem fixed_written (r : Rates) : fixedBy Usage.tokenCost r (u.written w) = fixedBy Usage.tokenCost r u := by
  unfold fixedBy TokenUsage.written
  rfl

end Written

theorem range_parts {u : TokenUsage} {p : PricingSnapshot} {w : UInt64} {range c : CostEstimate}
    (hnone : u.cacheWriteInputTokens = none) (hrange : estimate u p = .ok range)
    (hc : estimate (u.written w) p = .ok c) : ∃ fixed, w.toNat ≤ nonCached u ∧
      range.lowerMicrousd.toNat =
        fixed + min (halfUp half (normalPart u p 0)) (halfUp half (writtenPart u p (nonCached u))) ∧
      range.upperMicrousd.toNat =
        fixed + max (halfUp half (normalPart u p 0)) (halfUp half (writtenPart u p (nonCached u))) ∧
      c.lowerMicrousd.toNat = fixed + (halfUp half (normalPart u p w.toNat) + halfUp half (writtenPart u p w.toNat)) ∧
      c.upperMicrousd = c.lowerMicrousd := by
  obtain ⟨-, hfits, rfl⟩ := estimate_ok_iff.1 hrange
  obtain ⟨⟨-, hcounted⟩, hfits', rfl⟩ := estimate_ok_iff.1 hc
  have hle : w.toNat ≤ nonCached u := hcounted w rfl
  refine ⟨fixedBy Usage.tokenCost (rates u p) u, hle, ?_⟩
  have hbounds : bounds u p = (min (fixedBy Usage.tokenCost (rates u p) u +
        Usage.tokenCost (nonCached u) (rates u p).input) (fixedBy Usage.tokenCost (rates u p) u +
        Usage.tokenCost (nonCached u) (rates u p).cacheWrite),
      max (fixedBy Usage.tokenCost (rates u p) u + Usage.tokenCost (nonCached u) (rates u p).input)
        (fixedBy Usage.tokenCost (rates u p) u + Usage.tokenCost (nonCached u) (rates u p).cacheWrite)) := by
    unfold bounds boundsBy
    rw [hnone]
  have hbounds' : bounds (u.written w) p = (fixedBy Usage.tokenCost (rates u p) u +
        Usage.tokenCost (nonCached u - w.toNat) (rates u p).input + Usage.tokenCost w.toNat (rates u p).cacheWrite,
      fixedBy Usage.tokenCost (rates u p) u + Usage.tokenCost (nonCached u - w.toNat) (rates u p).input +
        Usage.tokenCost w.toNat (rates u p).cacheWrite) := by
    unfold bounds boundsBy totalBy
    rw [rates_written, fixed_written]
    rfl
  rw [hbounds] at hfits ⊢
  rw [hbounds'] at hfits' ⊢
  dsimp only at hfits hfits' ⊢
  generalize fixedBy Usage.tokenCost (rates u p) u = fixed at *
  have hnormal := @tokenCost_halfUp (nonCached u) (rates u p).input (by omega)
  have hwritten := @tokenCost_halfUp (nonCached u) (rates u p).cacheWrite (by omega)
  have hsplit := @tokenCost_halfUp (nonCached u - w.toNat) (rates u p).input (by omega)
  have hsplit' := @tokenCost_halfUp w.toNat (rates u p).cacheWrite (by omega)
  rw [hnormal, hwritten] at hfits ⊢
  rw [hsplit, hsplit'] at hfits' ⊢
  unfold normalPart writtenPart
  rw [Nat.sub_zero, toNat_word hfits, toNat_word (le_trans min_le_max hfits), toNat_word hfits', ← Nat.add_min_add_left,
    ← Nat.add_max_add_left, ← Nat.add_assoc]
  exact ⟨rfl, rfl, rfl, rfl⟩

/-- **A split lies in the range, or a micro-dollar outside of it.** -/
theorem range_within_one {u : TokenUsage} {p : PricingSnapshot} {w : UInt64} {range c : CostEstimate}
    (hnone : u.cacheWriteInputTokens = none) (hrange : estimate u p = .ok range)
    (hc : estimate (u.written w) p = .ok c) :
    range.lowerMicrousd.toNat ≤ c.lowerMicrousd.toNat + 1 ∧ c.upperMicrousd.toNat ≤ range.upperMicrousd.toNat + 1 := by
  obtain ⟨fixed, hle, hlower, hupper, hcost, hsame⟩ := range_parts hnone hrange hc
  have hbetween := rounded_between u p hle
  have hparts := halfUp_parts (h := half) (by decide) (normalPart u p w.toNat) (writtenPart u p w.toNat)
  rw [hsame]
  omega

/-- **The range holds a split exactly if it does not miss it.** -/
theorem range_holds_iff {u : TokenUsage} {p : PricingSnapshot} {w : UInt64} {range c : CostEstimate}
    (hnone : u.cacheWriteInputTokens = none) (hrange : estimate u p = .ok range)
    (hc : estimate (u.written w) p = .ok c) :
    (range.lowerMicrousd ≤ c.lowerMicrousd ∧ c.lowerMicrousd = c.upperMicrousd ∧
      c.upperMicrousd ≤ range.upperMicrousd) ↔ ¬ Misses u p w.toNat := by
  obtain ⟨fixed, hle, hlower, hupper, hcost, hsame⟩ := range_parts hnone hrange hc
  have hbetween := rounded_between u p hle
  have hparts := halfUp_parts (h := half) (by decide) (normalPart u p w.toNat) (writtenPart u p w.toNat)
  unfold Misses
  rw [hsame, UInt64.le_iff_toNat_le, UInt64.le_iff_toNat_le, hlower, hupper, hcost]
  generalize halfUp half (normalPart u p w.toNat) + halfUp half (writtenPart u p w.toNat) = rounded at *
  rcases hparts with ⟨hover, heq⟩ | ⟨hunder, heq⟩ | ⟨hover, hunder, heq⟩
  · have hnot : ¬ Under half (normalPart u p w.toNat) (writtenPart u p w.toNat) := fun hunder =>
      absurd hunder.1 (Nat.not_lt.2 hover.1)
    constructor
    · rintro ⟨-, -, hle⟩ (⟨-, hmax⟩ | ⟨hunder, -⟩)
      · omega
      · exact hnot hunder
    · intro hmiss
      have hne : ¬ _ := fun hmax => hmiss (Or.inl ⟨hover, hmax⟩)
      exact ⟨by omega, rfl, by omega⟩
  · have hnot : ¬ Over half (normalPart u p w.toNat) (writtenPart u p w.toNat) := fun hover =>
      absurd hunder.1 (Nat.not_lt.2 hover.1)
    constructor
    · rintro ⟨hle, -, -⟩ (⟨hover, -⟩ | ⟨-, hmin⟩)
      · exact hnot hover
      · omega
    · intro hmiss
      have hne : ¬ _ := fun hmin => hmiss (Or.inr ⟨hunder, hmin⟩)
      exact ⟨by omega, rfl, by omega⟩
  · constructor
    · rintro - (⟨h, -⟩ | ⟨h, -⟩)
      · exact hover h
      · exact hunder h
    · exact fun _ => ⟨by omega, rfl, by omega⟩

/-! ## Two tokens at half a micro-dollar each -/

def halfPriced : PricingSnapshot := ⟨"half", 500000, 0, 0, 1, 1, none, none, none, none, none⟩

def twoTokens : TokenUsage := ⟨2, 0, none, 0, 0, 2, none⟩

def twoTokensRange : CostEstimate := ⟨1, 1, .bounded, ["half"], twoTokens.explanation⟩

def twoTokensSplit : CostEstimate := ⟨2, 2, .exact, ["half"], (twoTokens.written 1).explanation⟩

theorem estimate_twoTokens : estimate twoTokens halfPriced = .ok twoTokensRange := by
  have hbounds : bounds twoTokens halfPriced = (1, 1) := by decide
  refine estimate_ok_iff.2 ⟨⟨by decide, fun w hw => by cases hw⟩, by decide, ?_⟩
  rw [hbounds]
  rfl

theorem estimate_written : estimate (twoTokens.written 1) halfPriced = .ok twoTokensSplit := by
  have hbounds : bounds (twoTokens.written 1) halfPriced = (2, 2) := by decide
  refine estimate_ok_iff.2 ⟨⟨by decide, fun w hw => by cases hw; decide⟩, by decide, ?_⟩
  rw [hbounds]
  rfl

theorem range_holds_twoTokens :
    (twoTokensRange.lowerMicrousd ≤ twoTokensSplit.lowerMicrousd ∧
      twoTokensSplit.lowerMicrousd = twoTokensSplit.upperMicrousd ∧
      twoTokensSplit.upperMicrousd ≤ twoTokensRange.upperMicrousd) ↔ ¬ Misses twoTokens halfPriced (1 : UInt64).toNat :=
  range_holds_iff rfl estimate_twoTokens estimate_written

theorem range_within_one_twoTokens :
    twoTokensRange.lowerMicrousd.toNat ≤ twoTokensSplit.lowerMicrousd.toNat + 1 ∧
      twoTokensSplit.upperMicrousd.toNat ≤ twoTokensRange.upperMicrousd.toNat + 1 :=
  range_within_one rfl estimate_twoTokens estimate_written

/-- **The range does not hold every split.** -/
theorem split_above_range : ¬ ∀ (u : TokenUsage) (p : PricingSnapshot) (range : CostEstimate),
    u.cacheWriteInputTokens = none → estimate u p = .ok range → ∀ (w : UInt64) (c : CostEstimate),
      w.toNat ≤ nonCached u → estimate (u.written w) p = .ok c →
        range.lowerMicrousd ≤ c.lowerMicrousd ∧ c.lowerMicrousd = c.upperMicrousd ∧
          c.upperMicrousd ≤ range.upperMicrousd := by
  intro hall
  have hheld := hall twoTokens halfPriced twoTokensRange rfl estimate_twoTokens 1 twoTokensSplit (by decide) estimate_written
  exact absurd hheld.2.2 (by decide)

end UsageCost
end Bildr
