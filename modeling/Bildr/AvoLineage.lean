import Bildr.Avo
import Mathlib.Data.List.Induction
/-!
# AvoLineage — what a verified episode says

One invariant of the two loops over the variations so far (`Reached`): the incumbent is the last improvement, its score
is the best one of what passed, and the trajectory is in the same place.
-/
namespace Bildr
namespace Promotion

open Json (Value)

/-! ## The variations so far -/

def improvements (variations : List AvoVariationV1) : List AvoVariationV1 :=
  variations.filter fun v => decide (v.outcome = .improved)

def latestImproved (variations : List AvoVariationV1) : Option String :=
  (improvements variations).getLast?.map AvoVariationV1.candidateId

def improvedScores (variations : List AvoVariationV1) : List UInt64 :=
  (improvements variations).filterMap AvoVariationV1.candidateScoreMilli

def sinceImproved (variations : List AvoVariationV1) : Nat :=
  (variations.reverse.takeWhile fun v => decide (v.outcome ≠ .improved)).length

/-- The highest of a first score and the scores of the variations that passed. -/
def BestScore (initial : UInt64) (variations : List AvoVariationV1) (score : UInt64) : Prop :=
  (score = initial ∨ ∃ v ∈ variations, v.correctness = .passed ∧ v.candidateScoreMilli = some score) ∧
    initial ≤ score ∧ ∀ v ∈ variations, v.correctness = .passed → ∀ s, v.candidateScoreMilli = some s → s ≤ score

theorem improvements_snoc (variations : List AvoVariationV1) (v : AvoVariationV1) :
    improvements (variations ++ [v]) = if v.outcome = .improved then improvements variations ++ [v] else improvements variations := by
  unfold improvements
  rw [List.filter_append]
  split
  · rename_i h
    rw [List.filter_cons_of_pos (by simpa using h), List.filter_nil]
  · rename_i h
    rw [List.filter_cons_of_neg (by simpa using h), List.filter_nil, List.append_nil]

theorem sinceImproved_snoc (variations : List AvoVariationV1) (v : AvoVariationV1) :
    sinceImproved (variations ++ [v]) = if v.outcome = .improved then 0 else sinceImproved variations + 1 := by
  unfold sinceImproved
  rw [List.reverse_append, List.reverse_singleton, List.singleton_append]
  split
  · rename_i h
    rw [List.takeWhile_cons_of_neg (by simpa using h), List.length_nil]
  · rename_i h
    rw [List.takeWhile_cons_of_pos (by simpa using h), List.length_cons]

theorem sinceImproved_le (variations : List AvoVariationV1) : sinceImproved variations ≤ variations.length := by
  unfold sinceImproved
  have h := (List.takeWhile_prefix (fun v : AvoVariationV1 => decide (v.outcome ≠ .improved)) (l := variations.reverse)).length_le
  rwa [List.length_reverse] at h

/-! ## One variation -/

structure Accepted (l : Lineage) (v : AvoVariationV1) : Prop where
  parent : v.parentCandidateId = l.incumbent
  unpassed : v.correctness ≠ .passed → v.candidateScoreMilli = none
  improved : v.outcome = .improved → v.correctness = .passed ∧ ∃ s, v.candidateScoreMilli = some s ∧ l.score < s
  other : v.outcome ≠ .improved → ∀ s, v.candidateScoreMilli = some s → s ≤ l.score

theorem validOutcome_improved {v : AvoVariationV1} (h : validOutcome v = true) (himproved : v.outcome = .improved) :
    v.correctness = .passed ∧ ∃ s, v.candidateScoreMilli = some s ∧ v.parentScoreMilli < s := by
  unfold validOutcome at h
  rw [himproved] at h
  cases hc : v.correctness with
  | passed =>
    rw [hc] at h
    obtain ⟨s, hs, hlt⟩ := (Option.any_eq_true _ _).1 h
    exact ⟨rfl, s, hs, of_decide_eq_true hlt⟩
  | failed => rw [hc] at h; simp at h
  | inconclusive => rw [hc] at h; simp at h
  | infrastructureUnavailable => rw [hc] at h; simp at h

theorem validOutcome_other {v : AvoVariationV1} (h : validOutcome v = true) (hother : v.outcome ≠ .improved) {s : UInt64}
    (hs : v.candidateScoreMilli = some s) : s ≤ v.parentScoreMilli := by
  unfold validOutcome at h
  rw [hs] at h
  cases hc : v.correctness with
  | passed =>
    rw [hc] at h
    cases ho : v.outcome with
    | improved => exact absurd ho hother
    | notImproved => rw [ho] at h; exact of_decide_eq_true h
    | rejected => rw [ho] at h; cases h
    | inconclusive => rw [ho] at h; cases h
  | failed => rw [hc] at h; cases h
  | inconclusive => rw [hc] at h; cases h
  | infrastructureUnavailable => rw [hc] at h; cases h

theorem validOutcome_unpassed {v : AvoVariationV1} (h : validOutcome v = true) (hc : v.correctness ≠ .passed) :
    v.candidateScoreMilli = none := by
  unfold validOutcome at h
  cases hv : v.correctness with
  | passed => exact absurd hv hc
  | failed =>
    rw [hv] at h
    exact Option.isNone_iff_eq_none.1 (Bool.and_eq_true_iff.1 h).1
  | inconclusive =>
    rw [hv] at h
    exact Option.isNone_iff_eq_none.1 (Bool.and_eq_true_iff.1 h).1
  | infrastructureUnavailable =>
    rw [hv] at h
    exact Option.isNone_iff_eq_none.1 (Bool.and_eq_true_iff.1 h).1

theorem acceptVariation_ok {l l' : Lineage} {indexed : AvoVariationV1 × Nat} (h : acceptVariation l indexed = .ok l') :
    Accepted l indexed.1 ∧
      (indexed.1.outcome = .improved → indexed.1.candidateScoreMilli = some l'.score ∧
        l'.incumbent = some indexed.1.candidateId) ∧
      (indexed.1.outcome ≠ .improved → l'.score = l.score ∧ l'.incumbent = l.incumbent) := by
  unfold acceptVariation at h
  obtain ⟨sequence, -, h⟩ := bind_ok h
  obtain ⟨_, horder, h⟩ := bind_ok h
  obtain ⟨_, hverified, h⟩ := bind_ok h
  have horder := ensure_ok horder
  simp only [Bool.and_eq_true, beq_iff_eq] at horder
  unfold verifyVariation at hverified
  obtain ⟨_, hids, hvalid⟩ := bind_ok hverified
  have hids := ensure_ok hids
  simp only [Bool.and_eq_true, beq_iff_eq] at hids
  have hscore : indexed.1.parentScoreMilli = l.score := hids.1.1.1.2
  have hvalid := ensure_ok hvalid
  refine ⟨⟨horder.2, validOutcome_unpassed hvalid, ?_, ?_⟩, ?_, ?_⟩
  · intro himproved
    rw [← hscore]
    exact validOutcome_improved hvalid himproved
  · intro hother s hs
    rw [← hscore]
    exact validOutcome_other hvalid hother hs
  · intro himproved
    rw [if_pos himproved] at h
    obtain ⟨s, hs, h⟩ := bind_ok h
    cases h
    exact ⟨okOr_ok hs, rfl⟩
  · intro hother
    rw [if_neg hother] at h
    cases h
    exact ⟨rfl, rfl⟩

/-! ## The loops -/

structure Reached (initial : UInt64) (variations : List AvoVariationV1) (l : Lineage) : Prop where
  incumbent : l.incumbent = latestImproved variations
  best : BestScore initial variations l.score
  chain : (initial :: improvedScores variations).Pairwise (· < ·)
  last : (initial :: improvedScores variations).getLast? = some l.score
  parents : ∀ before v after, variations = before ++ v :: after → v.parentCandidateId = latestImproved before
  unpassed : ∀ v ∈ variations, v.correctness ≠ .passed → v.candidateScoreMilli = none
  improved : ∀ v ∈ variations, v.outcome = .improved → v.correctness = .passed ∧ v.candidateScoreMilli.isSome
  trajectory : variations.length < 65536 → ∃ stagnant : UInt16, stagnant.toNat = sinceImproved variations ∧
    variations.foldlM followVariation ⟨initial, none, 0⟩ = .ok ⟨l.score, l.incumbent, stagnant⟩

theorem reached_nil (initial : UInt64) : Reached initial [] ⟨initial, none, [], []⟩ where
  incumbent := rfl
  best := ⟨Or.inl rfl, UInt64.le_refl _, fun v hv => by cases hv⟩
  chain := List.pairwise_singleton _ _
  last := rfl
  parents := fun before v after h => by cases before <;> cases h
  unpassed := fun v hv => by cases hv
  improved := fun v hv => by cases hv
  trajectory := fun _ => ⟨0, rfl, rfl⟩

theorem improvedScores_le {initial : UInt64} {variations : List AvoVariationV1} {l : Lineage}
    (h : Reached initial variations l) {s : UInt64} (hs : s ∈ initial :: improvedScores variations) : s ≤ l.score := by
  rcases List.mem_cons.1 hs with rfl | hs
  · exact h.best.2.1
  · obtain ⟨v, hv, hscore⟩ := List.mem_filterMap.1 hs
    have hv := List.mem_of_mem_filter hv
    by_cases hpassed : v.correctness = .passed
    · exact h.best.2.2 v hv hpassed s hscore
    · rw [h.unpassed v hv hpassed] at hscore
      cases hscore

theorem bestScore_improved {initial score s : UInt64} {variations : List AvoVariationV1} {v : AvoVariationV1}
    (h : BestScore initial variations score) (hpassed : v.correctness = .passed) (hs : v.candidateScoreMilli = some s)
    (hlt : score < s) : BestScore initial (variations ++ [v]) s := by
  refine ⟨Or.inr ⟨v, by simp, hpassed, hs⟩, UInt64.le_of_lt (UInt64.lt_of_le_of_lt h.2.1 hlt), fun w hw hpass t ht => ?_⟩
  rcases List.mem_append.1 hw with hw | hw
  · exact UInt64.le_of_lt (UInt64.lt_of_le_of_lt (h.2.2 w hw hpass t ht) hlt)
  · obtain rfl := List.mem_singleton.1 hw
    rw [hs] at ht
    cases ht
    exact UInt64.le_refl _

theorem bestScore_other {initial score : UInt64} {variations : List AvoVariationV1} {v : AvoVariationV1}
    (h : BestScore initial variations score) (hle : ∀ s, v.candidateScoreMilli = some s → s ≤ score) :
    BestScore initial (variations ++ [v]) score := by
  refine ⟨?_, h.2.1, fun w hw hpass t ht => ?_⟩
  · rcases h.1 with h | ⟨w, hw, hpass, hs⟩
    · exact Or.inl h
    · exact Or.inr ⟨w, List.mem_append_left _ hw, hpass, hs⟩
  · rcases List.mem_append.1 hw with hw | hw
    · exact h.2.2 w hw hpass t ht
    · obtain rfl := List.mem_singleton.1 hw
      exact hle t ht

theorem toNat_saturatingSucc {n : UInt16} {m : Nat} (h : n.toNat = m) (hm : m < 65535) :
    (saturatingSucc n).toNat = m + 1 := by
  unfold saturatingSucc
  have hne : n ≠ 65535 := by
    rintro rfl
    have : (65535 : UInt16).toNat = 65535 := rfl
    omega
  rw [if_neg hne, UInt16.toNat_add, h]
  exact Nat.mod_eq_of_lt (by simp; omega)

theorem split_snoc {before after variations : List AvoVariationV1} {v w : AvoVariationV1}
    (h : variations ++ [v] = before ++ w :: after) :
    (∃ rest, variations = before ++ w :: rest) ∨ (before = variations ∧ w = v) := by
  induction after using List.reverseRecOn with
  | nil =>
    obtain ⟨rfl, hv⟩ := List.append_inj' h rfl
    cases hv
    exact Or.inr ⟨rfl, rfl⟩
  | append_singleton after x _ =>
    rw [← List.cons_append, ← List.append_assoc] at h
    exact Or.inl ⟨after, (List.append_inj' h rfl).1⟩

theorem reached_snoc {initial : UInt64} {variations : List AvoVariationV1} {l l' : Lineage}
    {indexed : AvoVariationV1 × Nat} (h : Reached initial variations l) (haccept : acceptVariation l indexed = .ok l') :
    Reached initial (variations ++ [indexed.1]) l' := by
  obtain ⟨haccepted, himproved, hother⟩ := acceptVariation_ok haccept
  generalize indexed.1 = v at *
  have hparents : ∀ before w after, variations ++ [v] = before ++ w :: after →
      w.parentCandidateId = latestImproved before := by
    intro before w after hsplit
    rcases split_snoc hsplit with ⟨rest, hrest⟩ | ⟨rfl, rfl⟩
    · exact h.parents before w rest hrest
    · exact haccepted.parent.trans h.incumbent
  have hunpassed : ∀ w ∈ variations ++ [v], w.correctness ≠ .passed → w.candidateScoreMilli = none := by
    intro w hw
    rcases List.mem_append.1 hw with hw | hw
    · exact h.unpassed w hw
    · obtain rfl := List.mem_singleton.1 hw
      exact haccepted.unpassed
  have hscored : ∀ w ∈ variations ++ [v], w.outcome = .improved →
      w.correctness = .passed ∧ w.candidateScoreMilli.isSome := by
    intro w hw houtcome
    rcases List.mem_append.1 hw with hw | hw
    · exact h.improved w hw houtcome
    · obtain rfl := List.mem_singleton.1 hw
      obtain ⟨hpassed, s, hs, -⟩ := haccepted.improved houtcome
      exact ⟨hpassed, by rw [hs]; rfl⟩
  by_cases houtcome : v.outcome = .improved
  · obtain ⟨hscore, hincumbent⟩ := himproved houtcome
    obtain ⟨hpassed, s, hs, hlt⟩ := haccepted.improved houtcome
    obtain rfl : s = l'.score := Option.some.inj (hs.symm.trans hscore)
    have hscores : improvedScores (variations ++ [v]) = improvedScores variations ++ [l'.score] := by
      unfold improvedScores
      rw [improvements_snoc, if_pos houtcome, List.filterMap_append]
      simp [hscore]
    refine ⟨?_, bestScore_improved h.best hpassed hscore hlt, ?_, ?_, hparents, hunpassed, hscored, fun hlength => ?_⟩
    · unfold latestImproved
      rw [hincumbent, improvements_snoc, if_pos houtcome, List.getLast?_append]
      rfl
    · rw [hscores, ← List.cons_append, List.pairwise_append]
      refine ⟨h.chain, List.pairwise_singleton _ _, fun t ht u hu => ?_⟩
      obtain rfl := List.mem_singleton.1 hu
      exact UInt64.lt_of_le_of_lt (improvedScores_le h ht) hlt
    · rw [hscores, ← List.cons_append, List.getLast?_append]
      rfl
    · rw [List.length_append, List.length_singleton] at hlength
      obtain ⟨stagnant, -, hfold⟩ := h.trajectory (by omega)
      refine ⟨0, by rw [sinceImproved_snoc, if_pos houtcome]; rfl, ?_⟩
      rw [List.foldlM_append, hfold, ok_bind]
      simp only [List.foldlM_cons, List.foldlM_nil, followVariation]
      rw [if_pos houtcome, hscore, hincumbent]
      rfl
  · obtain ⟨hscore, hincumbent⟩ := hother houtcome
    have himprovements : improvements (variations ++ [v]) = improvements variations := by
      rw [improvements_snoc, if_neg houtcome]
    have hbest := bestScore_other h.best (haccepted.other houtcome)
    rw [← hscore] at hbest
    refine ⟨?_, hbest, ?_, ?_, hparents, hunpassed, hscored, fun hlength => ?_⟩
    · unfold latestImproved
      rw [hincumbent, himprovements, h.incumbent]
      rfl
    · unfold improvedScores
      rw [himprovements]
      exact h.chain
    · unfold improvedScores
      rw [himprovements, hscore]
      exact h.last
    · rw [List.length_append, List.length_singleton] at hlength
      obtain ⟨stagnant, hstagnant, hfold⟩ := h.trajectory (by omega)
      have hle := sinceImproved_le variations
      refine ⟨saturatingSucc stagnant, ?_, ?_⟩
      · rw [sinceImproved_snoc, if_neg houtcome]
        exact toNat_saturatingSucc hstagnant (by omega)
      · rw [List.foldlM_append, hfold, ok_bind]
        simp only [List.foldlM_cons, List.foldlM_nil, followVariation]
        rw [if_neg houtcome, hscore, hincumbent]
        rfl

theorem reached_of_fold {initial : UInt64} {variations : List AvoVariationV1} {l : Lineage}
    (h : variations.zipIdx.foldlM acceptVariation ⟨initial, none, [], []⟩ = .ok l) : Reached initial variations l := by
  induction variations using List.reverseRecOn generalizing l with
  | nil =>
    cases h
    exact reached_nil initial
  | append_singleton variations v ih =>
    rw [List.zipIdx_append, List.foldlM_append] at h
    obtain ⟨m, hm, h⟩ := bind_ok h
    obtain ⟨l', hl', h⟩ := bind_ok h
    cases h
    exact reached_snoc (ih hm) hl'

/-! ## An episode -/

/-- **What a verified episode says**: its trajectory, and that every part of its history from the start is one. -/
structure LineageSound (digestJson : Value → String) (e : AvoEpisodeV1) (t : AvoTrajectory) : Prop where
  best : BestScore e.initialScoreMilli e.variations t.incumbentScoreMilli
  chain : (e.initialScoreMilli :: improvedScores e.variations).Pairwise (· < ·)
  parents : ∀ before v after, e.variations = before ++ v :: after → v.parentCandidateId = latestImproved before
  incumbent : t.incumbentCandidateId = latestImproved e.variations
  unpassed : ∀ v ∈ e.variations, v.correctness ≠ .passed → v.candidateScoreMilli = none
  improved : ∀ v ∈ e.variations, v.outcome = .improved → v.correctness = .passed ∧ v.candidateScoreMilli.isSome
  completed : t.completedVariations.toNat = e.variations.length
  stagnant : t.stagnantVariations.toNat = sinceImproved e.variations
  prefixes : ∀ before after, e.variations = before ++ after →
    verifyAvoEpisode digestJson (({ e with variations := before } : AvoEpisodeV1).signed digestJson) = .ok ()

theorem verify_parts {digestJson : Value → String} {e : AvoEpisodeV1} (h : verifyAvoEpisode digestJson e = .ok ()) :
    verifyHeader digestJson e = true ∧
      ∃ l, e.variations.zipIdx.foldlM acceptVariation ⟨e.initialScoreMilli, none, [], []⟩ = .ok l := by
  unfold verifyAvoEpisode at h
  obtain ⟨_, hheader, h⟩ := bind_ok h
  obtain ⟨l, hl, -⟩ := bind_ok h
  exact ⟨ensure_ok hheader, l, hl⟩

theorem length_le {digestJson : Value → String} {e : AvoEpisodeV1} (h : verifyHeader digestJson e = true) :
    e.variations.length ≤ e.variationBudget.toNat ∧ e.variationBudget.toNat ≤ 64 := by
  unfold verifyHeader at h
  simp only [Bool.and_eq_true, decide_eq_true_eq] at h
  exact ⟨h.1.2, UInt16.le_iff_toNat_le.1 h.1.1.1.1.2⟩

theorem fields_eq (e : AvoEpisodeV1) : e.fields = e.fields.take 11 ++ [("sha256", .str e.sha256)] := rfl

theorem payload_digest (digestJson : Value → String) (e : AvoEpisodeV1) :
    digestWithoutSelf digestJson (e.signed digestJson).fields = (e.signed digestJson).sha256 := by
  have hsame : (e.signed digestJson).fields.take 11 = e.fields.take 11 := rfl
  show digestWithoutSelf digestJson (e.signed digestJson).fields = digestWithoutSelf digestJson e.fields
  unfold digestWithoutSelf
  rw [fields_eq (e.signed digestJson), fields_eq e, hsame, List.filter_append, List.filter_append]
  simp only [List.filter_cons, List.filter_nil, bne_self_eq_false, Bool.false_eq_true, if_false]

theorem verify_prefix {digestJson : Value → String} {e : AvoEpisodeV1} (h : verifyAvoEpisode digestJson e = .ok ())
    {before after : List AvoVariationV1} (hsplit : e.variations = before ++ after) :
    verifyAvoEpisode digestJson (({ e with variations := before } : AvoEpisodeV1).signed digestJson) = .ok () := by
  obtain ⟨hheader, l, hl⟩ := verify_parts h
  obtain ⟨hlength, -⟩ := length_le hheader
  rw [hsplit, List.length_append] at hlength
  rw [hsplit, List.zipIdx_append, List.foldlM_append] at hl
  obtain ⟨m, hm, -⟩ := bind_ok hl
  have hheader' : verifyHeader digestJson (({ e with variations := before } : AvoEpisodeV1).signed digestJson) = true := by
    unfold verifyHeader at hheader ⊢
    rw [payload_digest]
    simp only [Bool.and_eq_true, decide_eq_true_eq, beq_self_eq_true, and_true] at hheader ⊢
    exact ⟨hheader.1.1, (by omega : before.length ≤ e.variationBudget.toNat)⟩
  unfold verifyAvoEpisode
  rw [hheader', ensure_true, ok_bind]
  show (before.zipIdx.foldlM acceptVariation ⟨e.initialScoreMilli, none, [], []⟩ >>= fun _ => pure ()) = _
  rw [hm, ok_bind]
  rfl

/-- **The lineage of a verified episode is sound.** -/
theorem lineage_sound {digestJson : Value → String} {e : AvoEpisodeV1} (h : verifyAvoEpisode digestJson e = .ok ()) :
    ∃ t, avoTrajectory digestJson e = .ok t ∧ LineageSound digestJson e t := by
  obtain ⟨hheader, l, hl⟩ := verify_parts h
  obtain ⟨hbudget, hmax⟩ := length_le hheader
  have hlength : e.variations.length < 65536 := by omega
  have hreached := reached_of_fold hl
  obtain ⟨stagnant, hstagnant, hfold⟩ := hreached.trajectory hlength
  unfold avoTrajectory
  rw [h, hfold, decide_eq_true hlength]
  refine ⟨_, rfl, ?_⟩
  exact {
    best := hreached.best
    chain := hreached.chain
    parents := hreached.parents
    incumbent := hreached.incumbent
    unpassed := hreached.unpassed
    improved := hreached.improved
    completed := by
      rw [UInt16.toNat_ofNat']
      exact Nat.mod_eq_of_lt hlength
    stagnant := hstagnant
    prefixes := fun before after hsplit => verify_prefix h hsplit }

/-! ## The episode of the repository -/

def letters : String := String.ofList (List.replicate 64 'a')

def firstVariation : AvoVariationV1 where
  sequence := 1
  variationId := "variation-1"
  parentCandidateId := none
  strategy := .refine
  parentScoreMilli := 100
  candidateId := "candidate-1"
  candidateReceipt := ⟨.candidate, "candidate-1", letters⟩
  correctness := .passed
  correctnessEvidence := ⟨.hardGate, "gate-1", letters⟩
  candidateScoreMilli := some 120
  outcome := .improved

def secondVariation : AvoVariationV1 where
  sequence := 2
  variationId := "variation-2"
  parentCandidateId := some "candidate-1"
  strategy := .retrieval
  parentScoreMilli := 120
  candidateId := "candidate-2"
  candidateReceipt := ⟨.candidate, "candidate-2", letters⟩
  correctness := .passed
  correctnessEvidence := ⟨.hardGate, "gate-2", letters⟩
  candidateScoreMilli := some 119
  outcome := .notImproved

def exampleEpisode : AvoEpisodeV1 where
  schema := "harness.avo-episode.v1"
  episodeId := "episode-1"
  taskFamily := .developmentEval
  championBundleId := "champion-1"
  championBundleReceipt := ⟨.championBundle, "champion-1", letters⟩
  knowledgeSnapshotDigest := letters
  hardGatePolicyDigest := letters
  initialScoreMilli := 100
  variationBudget := 3
  stagnationLimit := 2
  variations := [firstVariation, secondVariation]
  sha256 := "4f7664e366aa84e756fafec24968e78ce587a4c13427ef4b2e0d349f5a57d580"

def episodeDigest (v : Value) : String :=
  match (v.get "variations").bind Value.asArray with
  | some [_, _] => "4f7664e366aa84e756fafec24968e78ce587a4c13427ef4b2e0d349f5a57d580"
  | some [_]    => "e281c76bf40895ce65689c54fdae626a341aac6d5c50fa29550ec70e0ec32703"
  | _           => "15338485c639eee18f1223d38b6c3e749f634afe4976a35db2da9cc729c7a810"

theorem lineage_sound_example : ∃ t, avoTrajectory episodeDigest exampleEpisode = .ok t ∧
    LineageSound episodeDigest exampleEpisode t := lineage_sound (by decide)

end Promotion
end Bildr
