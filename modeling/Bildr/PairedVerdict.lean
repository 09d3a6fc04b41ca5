import Bildr.PairedComparison
import Bildr.Consecutive
/-!
# PairedVerdict — which verdict a comparison gives

The loop ends at the first regression in the order of the keys, and its verdict is that one's: a critical regression is
refused where it is the first (`FirstRegressionCritical`).  A verdict of better is earned unless the differences or their
sum wrapped (`Misread`).
-/
namespace Bildr
namespace Paired

open Json (Value)
open SignedWord (Fits wrap)
open SortBy (sortBy)

/-! ## Keys that differ -/

theorem nodup_of_neighbours {l : List PairedSample} (hsorted : l.Pairwise fun a b => a.key ≤ b.key)
    (hne : ∀ a b, (a, b) ∈ l.zip l.tail → a.key ≠ b.key) : (l.map PairedSample.key).Nodup := by
  induction l with
  | nil => exact List.nodup_nil
  | cons a l ih =>
    rw [List.pairwise_cons] at hsorted
    cases l with
    | nil => exact List.nodup_singleton _
    | cons b l =>
      have hrest := ih hsorted.2 fun x y hxy => hne x y (List.mem_cons_of_mem _ hxy)
      refine List.nodup_cons.2 ⟨fun hmem => ?_, hrest⟩
      obtain ⟨c, hc, hkey⟩ := List.mem_map.1 hmem
      have hbc : b.key ≤ c.key := by
        rcases List.mem_cons.1 hc with rfl | hc
        · exact le_refl _
        · exact (List.pairwise_cons.1 hsorted.2).1 c hc
      have hab := hsorted.1 b List.mem_cons_self
      exact hne a b List.mem_cons_self (le_antisymm hab (hkey ▸ hbc))

theorem duplicated_iff {l : List PairedSample} (hsorted : l.Pairwise fun a b => a.key ≤ b.key) :
    duplicated l = true ↔ ¬ (l.map PairedSample.key).Nodup := by
  unfold duplicated
  rw [List.any_eq_true]
  constructor
  · rintro ⟨⟨a, b⟩, hab, hkey⟩ hnodup
    obtain ⟨s, t, rfl⟩ := Consecutive.mem_zip_tail.1 hab
    rw [List.map_append, List.map_cons, List.map_cons, List.nodup_append] at hnodup
    exact (List.nodup_cons.1 hnodup.2.1).1 (by rw [of_decide_eq_true hkey]; exact List.mem_cons_self)
  · intro hnot
    by_contra hnone
    exact hnot (nodup_of_neighbours hsorted fun a b hab hkey => hnone ⟨(a, b), hab, decide_eq_true hkey⟩)

theorem not_duplicated {samples : List PairedSample} (hkeys : (samples.map PairedSample.key).Nodup) :
    duplicated (sortBy PairedSample.key samples) = false := by
  have hsorted := SortBy.sorted_sortBy PairedSample.key samples
  have hperm := (SortBy.perm_sortBy PairedSample.key samples).map PairedSample.key
  rw [← Bool.not_eq_true, duplicated_iff hsorted, Classical.not_not]
  exact hperm.nodup_iff.2 hkeys

/-! ## Exact numbers -/

def exactDelta (samples : List PairedSample) : Int := ((samples.filter PairedSample.available).map PairedSample.diff).sum

def exactWins (samples : List PairedSample) : Nat := samples.countP fun p => p.available && decide (0 < p.diff)

def exactLosses (samples : List PairedSample) : Nat := samples.countP fun p => p.available && decide (p.diff < 0)

theorem wrap_sum (l : List PairedSample) : wrap (l.map fun p => wrap p.diff).sum = wrap (l.map PairedSample.diff).sum := by
  induction l with
  | nil => rfl
  | cons p l ih =>
    rw [List.map_cons, List.sum_cons, List.map_cons, List.sum_cons, SignedWord.wrap_wrap_add,
      ← SignedWord.wrap_add_wrap, ih, SignedWord.wrap_add_wrap]

theorem delta_after (digest : String) (l : List PairedSample) :
    ((emptyStatistics digest).after l).deltaMilli.toInt = wrap (exactDelta l) := by
  unfold Statistics.after emptyStatistics exactDelta
  dsimp only
  rw [SignedWord.toInt_sum, ← wrap_sum, List.map_map]
  have hzero : (0 : Int64).toInt = 0 := rfl
  rw [hzero, Int.zero_add]
  congr 2
  exact List.map_congr_left fun p _ => toInt_scoreDiff p

theorem compared_of_none {l : List PairedSample} (h : ∀ p ∈ l, p.regression = false) :
    compared l = l.filter PairedSample.available := by
  induction l with
  | nil => rfl
  | cons p rest ih =>
    have hrest := ih fun q hq => h q (List.mem_cons_of_mem _ hq)
    cases havailable : p.available with
    | false =>
      rw [compared_unavailable havailable, hrest, List.filter_cons_of_neg (by rw [havailable]; exact Bool.false_ne_true)]
    | true =>
      rw [compared, havailable, Bool.not_true, if_neg Bool.false_ne_true, h p List.mem_cons_self,
        if_neg Bool.false_ne_true, hrest, List.filter_cons_of_pos havailable]

theorem sumsFit_words {start : Int} {l : List PairedSample} (h : SumsFit start l) (hstart : Fits start) :
    (∀ p ∈ l, Fits p.diff) ∧ Fits (start + (l.map PairedSample.diff).sum) := by
  induction l generalizing start with
  | nil => exact ⟨fun p hp => (by cases hp), by simpa using hstart⟩
  | cons p rest ih =>
    obtain ⟨hdiff, hsum, hrest⟩ := h
    obtain ⟨hall, htotal⟩ := ih hrest hsum
    rw [List.map_cons, List.sum_cons, ← Int.add_assoc]
    refine ⟨fun q hq => ?_, htotal⟩
    rcases List.mem_cons.1 hq with rfl | hq
    · exact hdiff
    · exact hall q hq

/-! ## The verdicts -/

section Verdicts
variable (overflowChecks : Bool) (digestJson : Value → String) (samples : List PairedSample) (signals : SignalVector)
  (minimumPairs : UInt64)

/-- An available critical pair that the champion passes and the challenger fails is refused. -/
def CriticalWins : Prop :=
  (∃ p ∈ samples, p.available = true ∧ p.critical = true ∧ p.champion = .pass ∧ p.challenger = .fail) →
    ∃ st, compare overflowChecks digestJson samples signals minimumPairs = some st ∧
      st.decision = .refusedCriticalRegression

/-- Better is without a regression, on enough pairs, with more wins than losses and a positive sum. -/
def BetterEarned : Prop :=
  ∀ st, compare overflowChecks digestJson samples signals minimumPairs = some st → st.decision = .better →
    (∀ p ∈ samples, p.available = true → ¬ (p.champion = .pass ∧ p.challenger = .fail)) ∧
      minimumPairs.toNat ≤ samples.countP PairedSample.available ∧ exactLosses samples < exactWins samples ∧
      0 < exactDelta samples

/-- Where there is a critical regression, the first regression is critical, and checked sums fit up to it. -/
def FirstRegressionCritical : Prop :=
  (∃ p ∈ samples, p.regression = true ∧ p.critical = true) →
    ∃ p, (sortBy PairedSample.key samples).find? PairedSample.regression = some p ∧ p.critical = true ∧
      (overflowChecks = true → SumsFit 0 (compared (sortBy PairedSample.key samples)))

/-- The wrapped numbers make a comparison better that the exact ones do not. -/
def Misread : Prop :=
  overflowChecks = false ∧ (∀ p ∈ samples, p.regression = false) ∧
    minimumPairs.toNat ≤ samples.countP PairedSample.available ∧ samples.countP lost < samples.countP won ∧
    0 < wrap (exactDelta samples) ∧ ¬ (exactLosses samples < exactWins samples ∧ 0 < exactDelta samples)

theorem regression_iff {p : PairedSample} :
    p.regression = true ↔ p.available = true ∧ p.champion = .pass ∧ p.challenger = .fail := by
  constructor
  · intro h
    have havailable := available_of_regression h
    unfold PairedSample.regression at h
    rw [Bool.and_eq_true, beq_iff_eq, beq_iff_eq] at h
    exact ⟨havailable, h⟩
  · rintro ⟨-, h⟩
    unfold PairedSample.regression
    rw [Bool.and_eq_true, beq_iff_eq, beq_iff_eq]
    exact h

end Verdicts

section Verdict
variable {overflowChecks : Bool} {digestJson : Value → String} {samples : List PairedSample} {signals : SignalVector}
  {minimumPairs : UInt64}

theorem compare_eq (hkeys : (samples.map PairedSample.key).Nodup) (hsignals : rewardIntegrity signals = true) :
    compare overflowChecks digestJson samples signals minimumPairs = comparePairs overflowChecks minimumPairs
      (emptyStatistics (digestJson (pairedJson (sortBy PairedSample.key samples)))) (sortBy PairedSample.key samples) := by
  unfold compare
  dsimp only
  rw [hsignals, Bool.not_true, if_neg Bool.false_ne_true, not_duplicated hkeys, if_neg Bool.false_ne_true]

theorem sumsFit_of_some {out st : Statistics} {l : List PairedSample} (hzero : out.deltaMilli = 0)
    (h : comparePairs overflowChecks minimumPairs out l = some st) : overflowChecks = true → SumsFit 0 (compared l) := by
  intro hchecks
  by_contra hfit
  have hpanic := @comparePairs_panics minimumPairs out l (by rw [hzero]; exact hfit)
  rw [hchecks, hpanic] at h
  cases h

theorem decided_better {out : Statistics} (h : out.decision = .inconclusive) :
    (out.decided minimumPairs).decision = .better ↔
      minimumPairs.toNat ≤ out.successfulPairs ∧ out.lossPairs < out.winPairs ∧ 0 < out.deltaMilli := by
  unfold Statistics.decided
  by_cases hsmall : out.successfulPairs < minimumPairs.toNat
  · rw [if_pos hsmall]
    exact ⟨fun h => (by cases h), fun h => absurd h.1 (Nat.not_le.2 hsmall)⟩
  · rw [if_neg hsmall]
    by_cases hbetter : out.lossPairs < out.winPairs ∧ 0 < out.deltaMilli
    · rw [if_pos hbetter]
      exact ⟨fun _ => ⟨Nat.le_of_not_lt hsmall, hbetter⟩, fun _ => rfl⟩
    · rw [if_neg hbetter]
      refine ⟨fun hdecision => ?_, fun hearned => absurd hearned.2 hbetter⟩
      split at hdecision
      · cases hdecision
      · rw [h] at hdecision
        cases hdecision

/-- **When the loop says better**: no pair is a regression and the wrapped numbers say so. -/
theorem better_iff {digest : String} {st : Statistics} {l : List PairedSample}
    (h : comparePairs overflowChecks minimumPairs (emptyStatistics digest) l = some st) :
    st.decision = .better ↔ (∀ p ∈ l, p.regression = false) ∧
      minimumPairs.toNat ≤ l.countP PairedSample.available ∧ l.countP lost < l.countP won ∧ 0 < wrap (exactDelta l) := by
  obtain ⟨st', hst', hfirst, hall⟩ := @comparePairs_some _ minimumPairs (emptyStatistics digest) l
    (sumsFit_of_some rfl h)
  obtain rfl : st = st' := Option.some.inj (h.symm.trans hst')
  cases hfind : l.find? PairedSample.regression with
  | some p =>
    have hp := List.find?_some hfind
    have hdecision := hfirst p hfind
    constructor
    · intro hbetter
      rw [hbetter] at hdecision
      split at hdecision <;> cases hdecision
    · rintro ⟨hnone, -⟩
      rw [hnone p (List.mem_of_find?_eq_some hfind)] at hp
      cases hp
  | none =>
    have hnone : ∀ p ∈ l, p.regression = false := fun p hp => by
      have := List.find?_eq_none.1 hfind p hp
      rwa [Bool.not_eq_true] at this
    have hinconclusive : ((emptyStatistics digest).after l).decision = .inconclusive := rfl
    have hpairs : ((emptyStatistics digest).after l).successfulPairs = l.countP PairedSample.available := Nat.zero_add _
    have hwins : ((emptyStatistics digest).after l).winPairs = l.countP won := Nat.zero_add _
    have hlosses : ((emptyStatistics digest).after l).lossPairs = l.countP lost := Nat.zero_add _
    have hzero : (0 : Int64).toInt = 0 := rfl
    rw [hall hfind, decided_better hinconclusive, hpairs, hwins, hlosses, Int64.lt_iff_toInt_lt, delta_after, hzero]
    exact ⟨fun h => ⟨hnone, h⟩, fun h => h.2⟩

/-- **Critical regressions win exactly where the first regression is one.** -/
theorem criticalWins_iff (hkeys : (samples.map PairedSample.key).Nodup) (hsignals : rewardIntegrity signals = true) :
    CriticalWins overflowChecks digestJson samples signals minimumPairs ↔ FirstRegressionCritical overflowChecks samples := by
  unfold CriticalWins FirstRegressionCritical
  rw [compare_eq hkeys hsignals]
  have hcritical : (∃ p ∈ samples, p.available = true ∧ p.critical = true ∧ p.champion = .pass ∧ p.challenger = .fail) ↔
      ∃ p ∈ samples, p.regression = true ∧ p.critical = true := by
    refine exists_congr fun p => and_congr_right fun _ => ?_
    rw [regression_iff]
    tauto
  rw [hcritical]
  refine imp_congr_right fun ⟨q, hq, hregression, _⟩ => ?_
  have hfind : (sortBy PairedSample.key samples).find? PairedSample.regression ≠ none := fun hnone =>
    List.find?_eq_none.1 hnone q (SortBy.mem_sortBy.2 hq) hregression
  obtain ⟨p, hp⟩ := Option.ne_none_iff_exists'.1 hfind
  constructor
  · rintro ⟨st, hst, hdecision⟩
    have hfit := sumsFit_of_some (by rfl) hst
    obtain ⟨st', hst', hfirst, -⟩ := @comparePairs_some _ minimumPairs (emptyStatistics
      (digestJson (pairedJson (sortBy PairedSample.key samples)))) _ hfit
    obtain rfl : st = st' := Option.some.inj (hst.symm.trans hst')
    have hverdict := hfirst p hp
    rw [hdecision] at hverdict
    refine ⟨p, hp, ?_, hfit⟩
    by_contra hnot
    rw [if_neg hnot] at hverdict
    cases hverdict
  · rintro ⟨p', hp', hcritical, hfit⟩
    obtain ⟨st, hst, hfirst, -⟩ := @comparePairs_some _ minimumPairs (emptyStatistics
      (digestJson (pairedJson (sortBy PairedSample.key samples)))) _ hfit
    have hverdict := hfirst p' hp'
    rw [if_pos hcritical] at hverdict
    exact ⟨st, hst, hverdict⟩

/-! ## Better -/

theorem counts_sorted (samples : List PairedSample) (f : PairedSample → Bool) :
    (sortBy PairedSample.key samples).countP f = samples.countP f := (SortBy.perm_sortBy PairedSample.key samples).countP_eq f

theorem exactDelta_sorted (samples : List PairedSample) :
    exactDelta (sortBy PairedSample.key samples) = exactDelta samples :=
  (((SortBy.perm_sortBy PairedSample.key samples).filter _).map _).sum_eq

theorem exact_of_fit {l : List PairedSample} (hnone : ∀ p ∈ l, p.regression = false) (hfit : SumsFit 0 (compared l)) :
    l.countP won = exactWins l ∧ l.countP lost = exactLosses l ∧ wrap (exactDelta l) = exactDelta l := by
  rw [compared_of_none hnone] at hfit
  obtain ⟨hdiffs, hsum⟩ := sumsFit_words hfit (by decide)
  have hdiff : ∀ p ∈ l, p.available = true → wrap p.diff = p.diff := fun p hp havailable =>
    SignedWord.wrap_fits (hdiffs p (List.mem_filter.2 ⟨hp, havailable⟩))
  refine ⟨List.countP_congr fun p hp => ?_, List.countP_congr fun p hp => ?_, ?_⟩
  · unfold won
    rw [Bool.and_eq_true, Bool.and_eq_true]
    exact and_congr_right fun havailable => by rw [hdiff p hp havailable]
  · unfold lost
    rw [Bool.and_eq_true, Bool.and_eq_true]
    exact and_congr_right fun havailable => by rw [hdiff p hp havailable]
  · unfold exactDelta
    rw [Int.zero_add] at hsum
    exact SignedWord.wrap_fits hsum

theorem betterEarned_iff (hkeys : (samples.map PairedSample.key).Nodup) (hsignals : rewardIntegrity signals = true) :
    BetterEarned overflowChecks digestJson samples signals minimumPairs ↔ ¬ Misread overflowChecks samples minimumPairs := by
  have hregressions : (∀ p ∈ sortBy PairedSample.key samples, p.regression = false) ↔ ∀ p ∈ samples, p.regression = false :=
    forall_congr' fun p => by rw [SortBy.mem_sortBy]
  have hnoneIff : (∀ p ∈ samples, p.available = true → ¬ (p.champion = .pass ∧ p.challenger = .fail)) ↔
      ∀ p ∈ samples, p.regression = false := by
    refine forall_congr' fun p => imp_congr_right fun _ => ?_
    rw [← Bool.not_eq_true, regression_iff]
    tauto
  unfold BetterEarned Misread
  rw [compare_eq hkeys hsignals, hnoneIff]
  constructor
  · rintro hearned ⟨hchecks, hnone, hpairs, hcounts, hdelta, hnot⟩
    obtain ⟨st, hst, -⟩ := @comparePairs_some overflowChecks minimumPairs
      (emptyStatistics (digestJson (pairedJson (sortBy PairedSample.key samples))))
      (sortBy PairedSample.key samples) (fun h => by rw [hchecks] at h; cases h)
    have hbetter := (better_iff hst).2 ⟨hregressions.2 hnone, by
      rw [counts_sorted, counts_sorted, counts_sorted, exactDelta_sorted]
      exact ⟨hpairs, hcounts, hdelta⟩⟩
    exact hnot (hearned st hst hbetter).2.2
  · intro hmisread st hst hbetter
    have hfit := sumsFit_of_some (by rfl) hst
    obtain ⟨hnone, hpairs, hcounts, hdelta⟩ := (better_iff hst).1 hbetter
    rw [counts_sorted] at hpairs
    refine ⟨hregressions.1 hnone, hpairs, ?_⟩
    cases hchecks : overflowChecks with
    | true =>
      -- under checks the numbers are exact
      obtain ⟨hwins, hlosses, hexact⟩ := exact_of_fit hnone (hfit hchecks)
      rw [hwins, hlosses] at hcounts
      rw [hexact, exactDelta_sorted] at hdelta
      unfold exactWins exactLosses at hcounts
      rw [counts_sorted, counts_sorted] at hcounts
      exact ⟨hcounts, hdelta⟩
    | false =>
      by_contra hnot
      rw [counts_sorted, counts_sorted] at hcounts
      rw [exactDelta_sorted] at hdelta
      exact hmisread ⟨hchecks, hregressions.1 hnone, hpairs, hcounts, hdelta, hnot⟩

/-- **When critical regressions win and better is earned.** -/
theorem verdict_iff (hkeys : (samples.map PairedSample.key).Nodup) (hsignals : rewardIntegrity signals = true) :
    (CriticalWins overflowChecks digestJson samples signals minimumPairs ∧
      BetterEarned overflowChecks digestJson samples signals minimumPairs) ↔
    (FirstRegressionCritical overflowChecks samples ∧ ¬ Misread overflowChecks samples minimumPairs) := by
  rw [criticalWins_iff hkeys hsignals, betterEarned_iff hkeys hsignals]

end Verdict

/-! ## A regression before a critical one -/

def letters : String := String.ofList (List.replicate 64 'a')

def regressionOf (caseId : String) (critical : Bool) : PairedSample :=
  ⟨caseId, letters, 1, letters, letters, critical, .pass, .fail, 10, 0⟩

def twoRegressions : List PairedSample := [regressionOf "case-1" false, regressionOf "case-2" true]

def passing : SignalVector := ⟨true, true, true⟩

def regressionDigest (_ : Value) : String := "f98b2795a0da0f1412ddc4f033d10123be25e42975e656ef5287c236e9f03858"

theorem verdict_twoRegressions :
    (CriticalWins true regressionDigest twoRegressions passing 1 ∧
      BetterEarned true regressionDigest twoRegressions passing 1) ↔
    (FirstRegressionCritical true twoRegressions ∧ ¬ Misread true twoRegressions 1) := verdict_iff (by decide) rfl

/-- **A critical regression is passed over**: the comparison is worse, for the regression before it. -/
theorem critical_passed_over : ¬ ∀ (overflowChecks : Bool) (digestJson : Value → String) (samples : List PairedSample)
    (signals : SignalVector) (minimumPairs : UInt64), (samples.map PairedSample.key).Nodup →
      rewardIntegrity signals = true → CriticalWins overflowChecks digestJson samples signals minimumPairs ∧
        BetterEarned overflowChecks digestJson samples signals minimumPairs := by
  intro hall
  obtain ⟨st, hst, hdecision⟩ := (hall true regressionDigest twoRegressions passing 1 (by decide) rfl).1
    ⟨regressionOf "case-2" true, by decide, by decide⟩
  have hworse : compare true regressionDigest twoRegressions passing 1 =
      some ⟨.worse, 1, 0, 0, -10, .pairedExactV1, regressionDigest .null⟩ := by decide
  rw [hworse] at hst
  cases hst
  cases hdecision

end Paired
end Bildr
