import Bildr.PairedVerdict
import Mathlib.Data.List.Permutation
/-!
# PairedOrder — comparisons of the same pairs in another order

A comparison reads its pairs in the order of their keys, where pairs of one key stay in the order they came in: the digest
shows that order.  No order shows, and no operator panics, exactly where pairs of one key are one pair and the sums that
are read fit (`orderIndependent_iff`).
-/
namespace Bildr
namespace Paired

open Json (Value)
open SortBy (sortBy)

section Order
variable (digestJson : Value → String) (samples : List PairedSample) (signals : SignalVector) (minimumPairs : UInt64)

/-- No overflow, and one result for every order of the pairs, whether or not the build checks. -/
def OrderIndependent : Prop :=
  compare true digestJson samples signals minimumPairs ≠ none ∧
    ∀ samples', samples'.Perm samples → ∀ overflowChecks,
      compare overflowChecks digestJson samples' signals minimumPairs =
        compare overflowChecks digestJson samples signals minimumPairs

/-- The sums that are read fit: a comparison that ends before its loop reads none. -/
def OverflowFree : Prop :=
  rewardIntegrity signals = false ∨ ¬ (samples.map PairedSample.key).Nodup ∨
    SumsFit 0 (compared (sortBy PairedSample.key samples))

def KeysDecide : Prop := ∀ a ∈ samples, ∀ b ∈ samples, a.key = b.key → a = b

def DigestsDiffer : Prop :=
  ∀ l l' : List PairedSample, l.Perm samples → l'.Perm samples →
    digestJson (pairedJson l) = digestJson (pairedJson l') → pairedJson l = pairedJson l'

end Order

/-! ## The array of the pairs -/

theorem ofSigned_inj {a b : Int64} (h : ofSigned a = ofSigned b) : a = b := by
  unfold ofSigned at h
  refine Int64.toInt.inj ?_
  split at h <;> split at h
  · have := Json.Num.neg.inj (Value.num.inj h)
    omega
  · cases h
  · cases h
  · have := Json.Num.pos.inj (Value.num.inj h)
    omega

theorem name_inj {a b : SampleResult} (h : a.name = b.name) : a = b := by
  cases a <;> cases b <;> first | rfl | exact absurd h (by decide)

theorem json_inj {p q : PairedSample} (h : p.json = q.json) : p = q := by
  unfold PairedSample.json at h
  have h := Value.obj.inj h
  simp only [List.cons.injEq, Prod.mk.injEq, true_and, and_true, Value.str.injEq, Value.num.injEq, Json.Num.pos.injEq,
    Value.bool.injEq] at h
  obtain ⟨hcase, hdigest, hseed, hgrader, hruntime, hcritical, hchampion, hchallenger, hscore, hscore'⟩ := h
  cases p
  cases q
  simp only [PairedSample.mk.injEq]
  exact ⟨hcase, hdigest, UInt64.toNat.inj hseed, hgrader, hruntime, hcritical, name_inj hchampion, name_inj hchallenger,
    ofSigned_inj hscore, ofSigned_inj hscore'⟩

theorem pairedJson_inj {l l' : List PairedSample} (h : pairedJson l = pairedJson l') : l = l' :=
  List.map_injective_iff.2 (fun _ _ => json_inj) (Value.arr.inj h)

/-! ## What a comparison returns -/

section Returns
variable {overflowChecks : Bool} {digestJson : Value → String} {samples : List PairedSample} {signals : SignalVector}
  {minimumPairs : UInt64}

theorem scored_digest (out : Statistics) (d : Int64) : (out.scored d).inputDigest = out.inputDigest := by
  unfold Statistics.scored
  split
  · rfl
  · split <;> rfl

theorem decided_digest (out : Statistics) : (out.decided minimumPairs).inputDigest = out.inputDigest := by
  unfold Statistics.decided
  split
  · rfl
  · split
    · rfl
    · split <;> rfl

theorem comparePairs_digest {l : List PairedSample} {out st : Statistics}
    (h : comparePairs overflowChecks minimumPairs out l = some st) : st.inputDigest = out.inputDigest := by
  induction l generalizing out with
  | nil =>
    cases h
    exact decided_digest out
  | cons p rest ih =>
    rw [comparePairs] at h
    split at h
    · exact ih h
    · obtain ⟨d, -, h⟩ := Option.bind_eq_some_iff.1 h
      obtain ⟨delta, -, h⟩ := Option.bind_eq_some_iff.1 h
      dsimp only at h
      split at h
      · cases h
        rfl
      · have hrest := ih h
        rwa [scored_digest] at hrest

theorem compare_digest {st : Statistics} (h : compare overflowChecks digestJson samples signals minimumPairs = some st) :
    st.inputDigest = digestJson (pairedJson (sortBy PairedSample.key samples)) := by
  unfold compare at h
  dsimp only at h
  split at h
  · cases h
    rfl
  · split at h
    · cases h
      rfl
    · exact comparePairs_digest h

theorem compare_wraps : ∃ st, compare false digestJson samples signals minimumPairs = some st := by
  unfold compare
  dsimp only
  split
  · exact ⟨_, rfl⟩
  · split
    · exact ⟨_, rfl⟩
    · obtain ⟨st, hst, -⟩ := @comparePairs_some false minimumPairs
        (emptyStatistics (digestJson (pairedJson (sortBy PairedSample.key samples))))
        (sortBy PairedSample.key samples) (fun h => by cases h)
      exact ⟨st, hst⟩

/-- **Under checks a comparison returns exactly where the sums that it reads fit.** -/
theorem compare_returns_iff :
    compare true digestJson samples signals minimumPairs ≠ none ↔ OverflowFree samples signals := by
  have hsorted := SortBy.sorted_sortBy PairedSample.key samples
  have hperm := (SortBy.perm_sortBy PairedSample.key samples).map PairedSample.key
  unfold compare OverflowFree
  dsimp only
  cases hsignals : rewardIntegrity signals with
  | false => exact ⟨fun _ => Or.inl rfl, fun _ h => by cases h⟩
  | true =>
    rw [Bool.not_true, if_neg Bool.false_ne_true]
    by_cases hduplicate : duplicated (sortBy PairedSample.key samples) = true
    · have hnot := (duplicated_iff hsorted).1 hduplicate
      rw [if_pos hduplicate]
      exact ⟨fun _ => Or.inr (Or.inl fun hnodup => hnot (hperm.nodup_iff.2 hnodup)), fun _ h => by cases h⟩
    · have hnodup : (samples.map PairedSample.key).Nodup := by
        rw [duplicated_iff hsorted, Classical.not_not] at hduplicate
        exact hperm.nodup_iff.1 hduplicate
      rw [if_neg hduplicate]
      constructor
      · intro hsome
        refine Or.inr (Or.inr ?_)
        by_contra hfit
        exact hsome (comparePairs_panics hfit)
      · rintro (h | h | hfit)
        · cases h
        · exact absurd hnodup h
        · obtain ⟨st, hst, -⟩ := @comparePairs_some true minimumPairs
            (emptyStatistics (digestJson (pairedJson (sortBy PairedSample.key samples)))) _ (fun _ => hfit)
          rw [hst]
          exact fun h => by cases h

/-! ## Every order -/

theorem sortBy_of_keysDecide (h : KeysDecide samples) {samples' : List PairedSample} (hperm : samples'.Perm samples) :
    sortBy PairedSample.key samples' = sortBy PairedSample.key samples := by
  refine SortBy.sortBy_congr fun k => ?_
  have hfilter := hperm.filter fun p => decide (p.key = k)
  cases hl : samples.filter fun p => decide (p.key = k) with
  | nil =>
    rw [hl] at hfilter
    exact List.perm_nil.1 hfilter
  | cons a rest =>
    -- all pairs of the key are the first of them
    have hall : ∀ p ∈ samples.filter fun p => decide (p.key = k), p = a := by
      intro p hp
      have ha : a ∈ samples.filter fun p => decide (p.key = k) := by rw [hl]; exact List.mem_cons_self
      rw [List.mem_filter, decide_eq_true_eq] at hp ha
      exact h p hp.1 a ha.1 (hp.2.trans ha.2.symm)
    have hreplicate := List.eq_replicate_of_mem hall
    rw [hreplicate] at hfilter
    rw [← hl, hreplicate]
    exact List.perm_replicate.1 hfilter

theorem keysDecide_of_digests (hfree : DigestsDiffer digestJson samples)
    (horder : ∀ samples', samples'.Perm samples → compare false digestJson samples' signals minimumPairs =
      compare false digestJson samples signals minimumPairs) : KeysDecide samples := by
  intro a ha b hb hkey
  have hfirst : ∀ p ∈ samples, pairedJson (sortBy PairedSample.key (p :: samples.erase p)) =
      pairedJson (sortBy PairedSample.key samples) := by
    intro p hp
    have hperm : (p :: samples.erase p).Perm samples := (List.perm_cons_erase hp).symm
    obtain ⟨st, hst⟩ := @compare_wraps digestJson samples signals minimumPairs
    have hdigest := compare_digest hst
    rw [← horder _ hperm] at hst
    rw [compare_digest hst] at hdigest
    exact hfree _ _ ((SortBy.perm_sortBy _ _).trans hperm) (SortBy.perm_sortBy _ _) hdigest
  have hsorted := pairedJson_inj ((hfirst a ha).trans (hfirst b hb).symm)
  have hgroup := congrArg (List.filter fun p => decide (p.key = a.key)) hsorted
  rw [SortBy.filter_sortBy, SortBy.filter_sortBy, List.filter_cons_of_pos (by simp),
    List.filter_cons_of_pos (by simp [hkey])] at hgroup
  exact (List.cons.inj hgroup).1

/-- **No overflow and no order shows exactly where the sums fit and pairs of one key are one pair.** -/
theorem orderIndependent_iff (hfree : DigestsDiffer digestJson samples) :
    OrderIndependent digestJson samples signals minimumPairs ↔ OverflowFree samples signals ∧ KeysDecide samples := by
  unfold OrderIndependent
  rw [compare_returns_iff]
  refine and_congr_right fun _ => ⟨fun h => keysDecide_of_digests hfree fun samples' hperm => h samples' hperm false,
    fun hkeys samples' hperm overflowChecks => ?_⟩
  unfold compare
  rw [sortBy_of_keysDecide hkeys hperm]

end Returns

/-! ## Two pairs in both orders -/

def scoredPair (caseId : String) (score : Int64) : PairedSample :=
  ⟨caseId, letters, 1, letters, letters, false, .pass, .pass, 1, score⟩

/-- The digests of two pairs of one case and of two pairs of two cases, in both orders. -/
def orderDigest (v : Value) : String :=
  if v = pairedJson [scoredPair "case-1" 5, scoredPair "case-1" 7] then
    "8f69ad3b0050fce8f7f8cd26af0ed85de5a79e64344953e1d713583b7c5e07ec"
  else if v = pairedJson [scoredPair "case-1" 7, scoredPair "case-1" 5] then
    "dcd0896cf87725cf2b324400bccb3ea099769f721cfc1c6220e0bed12c7723f5"
  else if v = pairedJson [scoredPair "case-1" 5, scoredPair "case-2" 7] then
    "ac2cf33b5d955787b87b803db973c0b9e60d71b6e732d75f66dbfa4cec82a641"
  else "b29cd48f53e2e4bdacf17b8f06e4edcebcec87fb6b0eef08c930d8ba36c70991"

theorem digestsDiffer_pair {digestJson : Value → String} {p q : PairedSample}
    (h : digestJson (pairedJson [p, q]) ≠ digestJson (pairedJson [q, p])) : DigestsDiffer digestJson [p, q] := by
  intro l l' hl hl' hsame
  rcases List.perm_pair.1 hl with rfl | rfl <;> rcases List.perm_pair.1 hl' with rfl | rfl
  · rfl
  · exact absurd hsame h
  · exact absurd hsame.symm h
  · rfl

/-- Two pairs of two cases, and two pairs of one case. -/
theorem orderIndependent_scored :
    OrderIndependent orderDigest [scoredPair "case-1" 5, scoredPair "case-2" 7] passing 1 ∧
      ¬ OrderIndependent orderDigest [scoredPair "case-1" 5, scoredPair "case-1" 7] passing 1 := by
  have hcases : DigestsDiffer orderDigest [scoredPair "case-1" 5, scoredPair "case-2" 7] := digestsDiffer_pair (by decide)
  have hcase : DigestsDiffer orderDigest [scoredPair "case-1" 5, scoredPair "case-1" 7] := digestsDiffer_pair (by decide)
  refine ⟨(orderIndependent_iff hcases).2 ⟨?_, ?_⟩, fun h => ?_⟩
  · unfold OverflowFree
    decide
  · unfold KeysDecide
    decide
  · have hkeys := ((orderIndependent_iff hcase).1 h).2 (scoredPair "case-1" 5) (by simp) (scoredPair "case-1" 7) (by simp) rfl
    exact absurd hkeys (by decide)

/-! ## The lowest score below a positive one -/

def lowestPair : PairedSample := ⟨"case-1", letters, 1, letters, letters, false, .pass, .pass, 1, Int64.minValue⟩

def lowestDigest (_ : Value) : String := "c7b3d980effd27d1ab12cc33ba66da4341d1d30913a567facd5450a4e33c257d"

/-- **A difference overflows**: a build that checks panics. -/
theorem difference_overflows : ¬ ∀ (digestJson : Value → String) (samples : List PairedSample) (signals : SignalVector)
    (minimumPairs : UInt64), OrderIndependent digestJson samples signals minimumPairs := by
  intro hall
  exact (hall lowestDigest [lowestPair] passing 1).1 (by decide)

end Paired
end Bildr
