import Bildr.Json
import Bildr.SignedWord
import Bildr.SortBy
import Mathlib.Data.Prod.Lex
import Mathlib.Data.String.Basic
/-!
# PairedComparison — a challenger against the champion, pair by pair

The pairs are taken in the order of their cases, seeds and digests; the first one that the champion passes and the
challenger fails ends the comparison.  Scores are `i64`: a build that checks for overflow panics where another wraps.
The counters are numbers of elements of a slice, which no `u64` is too small for.
-/
namespace Bildr
namespace Paired

open Json (Value)
open SignedWord (Fits wrap)

inductive SampleResult
  | pass | fail | infrastructureUnavailable
deriving DecidableEq, Repr

structure PairedSample where
  caseId : String
  caseDigest : String
  seed : UInt64
  graderDigest : String
  runtimeDigest : String
  critical : Bool
  champion : SampleResult
  challenger : SampleResult
  championScoreMilli : Int64
  challengerScoreMilli : Int64
deriving DecidableEq

inductive Decision
  | better | worse | inconclusive | refusedCriticalRegression | refusedSmallSample | invalidRewardIntegrity
deriving DecidableEq, Repr

inductive StatisticsMethod
  | pairedExactV1
deriving DecidableEq, Repr

structure Statistics where
  decision : Decision
  successfulPairs : Nat
  winPairs : Nat
  lossPairs : Nat
  deltaMilli : Int64
  method : StatisticsMethod
  inputDigest : String
deriving DecidableEq

structure SignalVector where
  requiredPass : Bool
  negativeControlsPass : Bool
  rewardIntegrityPass : Bool
deriving DecidableEq, Repr

def rewardIntegrity (s : SignalVector) : Bool := s.requiredPass && s.negativeControlsPass && s.rewardIntegrityPass

/-! ## The digest of the pairs -/

def SampleResult.name : SampleResult → String
  | .pass                      => "pass"
  | .fail                      => "fail"
  | .infrastructureUnavailable => "infrastructure_unavailable"

def ofSigned (n : Int64) : Value := if n.toInt < 0 then .num (.neg n.toInt.natAbs) else .num (.pos n.toInt.natAbs)

def PairedSample.json (p : PairedSample) : Value := .obj [
  ("case_id", .str p.caseId),
  ("case_digest", .str p.caseDigest),
  ("seed", .num (.pos p.seed.toNat)),
  ("grader_digest", .str p.graderDigest),
  ("runtime_digest", .str p.runtimeDigest),
  ("critical", .bool p.critical),
  ("champion", .str p.champion.name),
  ("challenger", .str p.challenger.name),
  ("champion_score_milli", ofSigned p.championScoreMilli),
  ("challenger_score_milli", ofSigned p.challengerScoreMilli)]

def pairedJson (samples : List PairedSample) : Value := .arr (samples.map PairedSample.json)

/-! ## Comparing -/

def PairedSample.key (p : PairedSample) : String ×ₗ String ×ₗ ℕ ×ₗ String ×ₗ String :=
  toLex (p.caseId, toLex (p.caseDigest, toLex (p.seed.toNat, toLex (p.runtimeDigest, p.graderDigest))))

def PairedSample.available (p : PairedSample) : Bool :=
  p.champion != .infrastructureUnavailable && p.challenger != .infrastructureUnavailable

def PairedSample.regression (p : PairedSample) : Bool := p.champion == .pass && p.challenger == .fail

def duplicated (ordered : List PairedSample) : Bool :=
  (ordered.zip ordered.tail).any fun x => decide (x.1.key = x.2.key)

def Statistics.decided (out : Statistics) (minimumPairs : UInt64) : Statistics :=
  if out.successfulPairs < minimumPairs.toNat then { out with decision := .refusedSmallSample }
  else if out.lossPairs < out.winPairs ∧ 0 < out.deltaMilli then { out with decision := .better }
  else if out.winPairs < out.lossPairs ∨ out.deltaMilli < 0 then { out with decision := .worse }
  else out

def Statistics.scored (out : Statistics) (d : Int64) : Statistics :=
  if 0 < d then { out with winPairs := out.winPairs + 1 }
  else if d < 0 then { out with lossPairs := out.lossPairs + 1 }
  else out

def comparePairs (overflowChecks : Bool) (minimumPairs : UInt64) (out : Statistics) : List PairedSample → Option Statistics
  | []        => some (out.decided minimumPairs)
  | p :: rest =>
    if !p.available then comparePairs overflowChecks minimumPairs out rest
    else do
      let d ← SignedWord.sub overflowChecks p.challengerScoreMilli p.championScoreMilli
      let delta ← SignedWord.add overflowChecks out.deltaMilli d
      let out := { out with successfulPairs := out.successfulPairs + 1, deltaMilli := delta }
      if p.regression then
        some { out with decision := if p.critical then .refusedCriticalRegression else .worse }
      else comparePairs overflowChecks minimumPairs (out.scored d) rest

def emptyStatistics (inputDigest : String) : Statistics := ⟨.inconclusive, 0, 0, 0, 0, .pairedExactV1, inputDigest⟩

def compare (overflowChecks : Bool) (digestJson : Value → String) (samples : List PairedSample) (signals : SignalVector)
    (minimumPairs : UInt64) : Option Statistics :=
  let ordered := SortBy.sortBy PairedSample.key samples
  let out := emptyStatistics (digestJson (pairedJson ordered))
  if !rewardIntegrity signals then some { out with decision := .invalidRewardIntegrity }
  else if duplicated ordered then some { out with decision := .inconclusive }
  else comparePairs overflowChecks minimumPairs out ordered

/-! ## What the loop compares -/

def PairedSample.diff (p : PairedSample) : Int := p.challengerScoreMilli.toInt - p.championScoreMilli.toInt

def compared : List PairedSample → List PairedSample
  | []        => []
  | p :: rest => if !p.available then compared rest else if p.regression then [p] else p :: compared rest

def SumsFit (start : Int) : List PairedSample → Prop
  | []        => True
  | p :: rest => Fits p.diff ∧ Fits (start + p.diff) ∧ SumsFit (start + p.diff) rest

instance : ∀ (start : Int) (l : List PairedSample), Decidable (SumsFit start l)
  | _, []            => isTrue trivial
  | start, p :: rest =>
    have : Decidable (SumsFit (start + p.diff) rest) := instDecidableSumsFit (start + p.diff) rest
    inferInstanceAs (Decidable (Fits p.diff ∧ Fits (start + p.diff) ∧ SumsFit (start + p.diff) rest))

def PairedSample.scoreDiff (p : PairedSample) : Int64 := p.challengerScoreMilli - p.championScoreMilli

def won (p : PairedSample) : Bool := p.available && decide (0 < wrap p.diff)

def lost (p : PairedSample) : Bool := p.available && decide (wrap p.diff < 0)

def Statistics.after (out : Statistics) (l : List PairedSample) : Statistics :=
  { out with
    successfulPairs := out.successfulPairs + l.countP PairedSample.available
    winPairs := out.winPairs + l.countP won
    lossPairs := out.lossPairs + l.countP lost
    deltaMilli := ((l.filter PairedSample.available).map PairedSample.scoreDiff).foldl (· + ·) out.deltaMilli }

theorem available_of_regression {p : PairedSample} (h : p.regression = true) : p.available = true := by
  unfold PairedSample.regression at h
  rw [Bool.and_eq_true, beq_iff_eq, beq_iff_eq] at h
  unfold PairedSample.available
  rw [h.1, h.2]
  rfl

theorem toInt_scoreDiff (p : PairedSample) : p.scoreDiff.toInt = wrap p.diff := SignedWord.toInt_sub _ _

section Loop
variable {overflowChecks : Bool} {minimumPairs : UInt64} {out : Statistics} {p : PairedSample} {rest : List PairedSample}

theorem after_unavailable (h : p.available = false) : out.after (p :: rest) = out.after rest := by
  unfold Statistics.after won lost
  simp [h]

theorem after_available (h : p.available = true) : out.after (p :: rest) =
    (Statistics.scored { out with successfulPairs := out.successfulPairs + 1, deltaMilli := out.deltaMilli + p.scoreDiff }
      p.scoreDiff).after rest := by
  have hwon : won p = decide (0 < p.scoreDiff) := by
    unfold won
    rw [h, Bool.true_and, decide_eq_decide, Int64.lt_iff_toInt_lt, toInt_scoreDiff]
    rfl
  have hlost : lost p = decide (p.scoreDiff < 0) := by
    unfold lost
    rw [h, Bool.true_and, decide_eq_decide, Int64.lt_iff_toInt_lt, toInt_scoreDiff]
    rfl
  unfold Statistics.after Statistics.scored
  rw [List.countP_cons, List.countP_cons, List.countP_cons, List.filter_cons_of_pos h, hwon, hlost, if_pos h]
  by_cases hpos : 0 < p.scoreDiff
  · have hneg : ¬ p.scoreDiff < 0 := Int64.not_lt.2 (Int64.le_of_lt hpos)
    simp [hpos, hneg, Nat.add_comm, Nat.add_left_comm]
  · by_cases hneg : p.scoreDiff < 0
    · simp [hpos, hneg, Nat.add_comm, Nat.add_left_comm]
    · simp [hpos, hneg, Nat.add_comm, Nat.add_left_comm]

theorem sumsFit_available (h : p.available = true) {start : Int} (hfit : SumsFit start (compared (p :: rest))) :
    Fits p.diff ∧ Fits (start + p.diff) ∧ (p.regression = false → SumsFit (start + p.diff) (compared rest)) := by
  unfold compared at hfit
  rw [h, Bool.not_true, if_neg Bool.false_ne_true] at hfit
  by_cases hregression : p.regression = true
  · rw [if_pos hregression] at hfit
    exact ⟨hfit.1, hfit.2.1, fun hfalse => by rw [hregression] at hfalse; cases hfalse⟩
  · rw [if_neg hregression] at hfit
    exact ⟨hfit.1, hfit.2.1, fun _ => hfit.2.2⟩

theorem compared_unavailable (h : p.available = false) : compared (p :: rest) = compared rest := by
  rw [compared, h, Bool.not_false, if_pos rfl]

theorem score_pair (h : p.available = true)
    (hfit : overflowChecks = true → Fits p.diff ∧ Fits (out.deltaMilli.toInt + p.diff)) :
    comparePairs overflowChecks minimumPairs out (p :: rest) =
      if p.regression then some { out with
        successfulPairs := out.successfulPairs + 1
        deltaMilli := out.deltaMilli + p.scoreDiff
        decision := if p.critical then .refusedCriticalRegression else .worse }
      else comparePairs overflowChecks minimumPairs (Statistics.scored { out with
        successfulPairs := out.successfulPairs + 1
        deltaMilli := out.deltaMilli + p.scoreDiff } p.scoreDiff) rest := by
  have hsub : SignedWord.sub overflowChecks p.challengerScoreMilli p.championScoreMilli = some p.scoreDiff :=
    SignedWord.sub_eq fun hchecks => (hfit hchecks).1
  have hadd : SignedWord.add overflowChecks out.deltaMilli p.scoreDiff = some (out.deltaMilli + p.scoreDiff) := by
    refine SignedWord.add_eq fun hchecks => ?_
    rw [toInt_scoreDiff, SignedWord.wrap_fits (hfit hchecks).1]
    exact (hfit hchecks).2
  rw [comparePairs, h, Bool.not_true, if_neg Bool.false_ne_true, hsub, Option.bind_eq_bind, Option.bind_some, hadd,
    Option.bind_some]

theorem toInt_delta (hdiff : Fits p.diff) (hsum : Fits (out.deltaMilli.toInt + p.diff)) :
    (out.deltaMilli + p.scoreDiff).toInt = out.deltaMilli.toInt + p.diff := by
  rw [SignedWord.toInt_add, toInt_scoreDiff, SignedWord.wrap_fits hdiff, SignedWord.wrap_fits hsum]

theorem scored_delta (o : Statistics) (d : Int64) : (o.scored d).deltaMilli = o.deltaMilli := by
  unfold Statistics.scored
  split
  · rfl
  · split <;> rfl

/-- **What the loop returns**: the verdict of the first regression, or the counters of all pairs. -/
theorem comparePairs_some {l : List PairedSample} (hfit : overflowChecks = true → SumsFit out.deltaMilli.toInt (compared l)) :
    ∃ st, comparePairs overflowChecks minimumPairs out l = some st ∧
      (∀ p, l.find? PairedSample.regression = some p →
        st.decision = if p.critical then .refusedCriticalRegression else .worse) ∧
      (l.find? PairedSample.regression = none → st = (out.after l).decided minimumPairs) := by
  induction l generalizing out with
  | nil =>
    exact ⟨_, rfl, fun p hp => (by cases hp), fun _ => rfl⟩
  | cons p rest ih =>
    cases havailable : p.available with
    | false =>
      have hregression : p.regression = false := by
        cases hr : p.regression with
        | false => rfl
        | true => rw [available_of_regression hr] at havailable; cases havailable
      rw [compared_unavailable havailable] at hfit
      obtain ⟨st, hst, hfacts⟩ := ih hfit
      refine ⟨st, ?_, ?_⟩
      · rw [comparePairs, havailable, Bool.not_false, if_pos rfl, hst]
      · rw [List.find?_cons_of_neg (by rw [hregression]; exact Bool.false_ne_true), after_unavailable havailable]
        exact hfacts
    | true =>
      have hpair := @score_pair _ minimumPairs _ _ rest havailable
        fun hchecks => ⟨(sumsFit_available havailable (hfit hchecks)).1, (sumsFit_available havailable (hfit hchecks)).2.1⟩
      rw [hpair]
      by_cases hregression : p.regression = true
      · rw [if_pos hregression, List.find?_cons_of_pos hregression]
        refine ⟨_, rfl, fun q hq => ?_, fun hnone => (by cases hnone)⟩
        obtain rfl := Option.some.inj hq
        rfl
      · rw [if_neg hregression, List.find?_cons_of_neg hregression, after_available havailable]
        refine ih fun hchecks => ?_
        obtain ⟨hdiff, hsum, hrest⟩ := sumsFit_available havailable (hfit hchecks)
        rw [scored_delta, toInt_delta hdiff hsum]
        exact hrest (Bool.not_eq_true _ ▸ hregression)

theorem comparePairs_panics {l : List PairedSample} (hfit : ¬ SumsFit out.deltaMilli.toInt (compared l)) :
    comparePairs true minimumPairs out l = none := by
  induction l generalizing out with
  | nil => exact absurd trivial hfit
  | cons p rest ih =>
    cases havailable : p.available with
    | false =>
      rw [compared_unavailable havailable] at hfit
      rw [comparePairs, havailable, Bool.not_false, if_pos rfl]
      exact ih hfit
    | true =>
      by_cases hwords : Fits p.diff ∧ Fits (out.deltaMilli.toInt + p.diff)
      · unfold compared at hfit
        rw [havailable, Bool.not_true, if_neg Bool.false_ne_true] at hfit
        rw [score_pair havailable fun _ => hwords]
        by_cases hregression : p.regression = true
        · rw [if_pos hregression] at hfit
          exact absurd ⟨hwords.1, hwords.2, trivial⟩ hfit
        · rw [if_neg hregression] at hfit ⊢
          refine ih ?_
          rw [scored_delta, toInt_delta hwords.1 hwords.2]
          exact fun hrest => hfit ⟨hwords.1, hwords.2, hrest⟩
      · rw [comparePairs, havailable, Bool.not_true, if_neg Bool.false_ne_true]
        by_cases hdiff : Fits p.diff
        · have hsum : ¬ Fits (out.deltaMilli.toInt + p.diff) := fun h => hwords ⟨hdiff, h⟩
          have hsub : SignedWord.sub true p.challengerScoreMilli p.championScoreMilli = some p.scoreDiff :=
            SignedWord.sub_eq fun _ => hdiff
          have hadd : SignedWord.add true out.deltaMilli p.scoreDiff = none := by
            refine SignedWord.add_panics ?_
            rwa [toInt_scoreDiff, SignedWord.wrap_fits hdiff]
          rw [hsub, Option.bind_eq_bind, Option.bind_some, hadd]
          rfl
        · have hsub : SignedWord.sub true p.challengerScoreMilli p.championScoreMilli = none := SignedWord.sub_panics hdiff
          rw [hsub]
          rfl

end Loop

end Paired
end Bildr
