import Bildr.Knowledge
import Bildr.SortBy
import Mathlib.Data.String.Basic
/-!
# Suggestions — what the optimizer proposes

`suggest_candidates` goes through the failures in the order of their revisions, and through the dimensions that may be
edited; a control and the first two pairs that were not rejected are proposed.  It does not ask of a control what
`CandidateV1::verify` asks, nor that the revisions differ (`suggestions_admissible_iff`).  The digest of a candidate is a
parameter.
-/
namespace Bildr
namespace Optimizer

open Knowledge (SourceReceipt CustodyState ReceiptKind)
open Improvement (isLowerHex)
open SortBy (sortBy)

inductive LearningContractError
  | invalidCandidate
  | unsafeSuggestionInput
  | digest
deriving DecidableEq, Repr

/-! ## Receipts -/

def token (value : String) : Bool := Improvement.token ['_', '-', '.', ':'] 128 value

def controllerToken (value : String) : Bool := Improvement.token ['_', '-', '.', ':'] 160 value

def validReceipt (r : SourceReceipt) : Bool := token r.revisionId && isLowerHex r.digest 64

def cleanDevelopment (r : SourceReceipt) : Bool := decide (r.split = some .development ∧ r.custody = some .clean)

/-! ## Candidates -/

inductive ComponentDimension
  | contextSourceOrdering | tokenBudget | readOnlyProbeParameters | retryTiming | cacheSummaryPolicy | rolePrompts
  | planningContracts | skills | proceduralMemory | modelEffortRouting | delegationStrategy | validatorSelection
  | validatorThresholds | knowledgeRetrieval | compactionHandoff
deriving DecidableEq, Repr

inductive EditRisk
  | green | amber
deriving DecidableEq, Repr

def ComponentDimension.risk : ComponentDimension → EditRisk
  | .contextSourceOrdering | .tokenBudget | .readOnlyProbeParameters | .retryTiming | .cacheSummaryPolicy => .green
  | _ => .amber

structure CandidateEdit where
  dimension : ComponentDimension
  riskClass : EditRisk
  beforeDigest : String
  afterDigest : String

structure CandidateScope where
  repositoryId : String
  taskFamily : String
  modelFamily : Option String
  runtimeClass : Option String
  baseSha : String

structure CandidateV1 where
  schema : String
  candidateId : String
  scope : CandidateScope
  parentBundle : SourceReceipt
  targetFailure : SourceReceipt
  developmentCase : SourceReceipt
  noChangeControl : SourceReceipt
  taskset : SourceReceipt
  graderBundle : SourceReceipt
  runtime : SourceReceipt
  hypothesis : String
  edit : CandidateEdit
  predictedSignals : List String
  evidence : List SourceReceipt
  rollbackBundle : SourceReceipt
  sha256 : String

/-- What `verify` checks of the texts of a candidate. -/
def CandidateV1.wellFormed (c : CandidateV1) : Bool :=
  c.schema == "harness.improvement-candidate.v1" && token c.candidateId && controllerToken c.scope.repositoryId &&
    token c.scope.taskFamily && c.scope.modelFamily.all token && c.scope.runtimeClass.all token &&
    isLowerHex c.scope.baseSha 40 && !c.hypothesis.isEmpty && !c.predictedSignals.isEmpty && !c.evidence.isEmpty &&
    decide (c.edit.riskClass = c.edit.dimension.risk) && isLowerHex c.edit.beforeDigest 64 &&
    isLowerHex c.edit.afterDigest 64 && c.edit.beforeDigest != c.edit.afterDigest && c.predictedSignals.all token &&
    decide c.predictedSignals.Nodup

/-- What `verify` checks of the receipts of a candidate. -/
def CandidateV1.pinned (c : CandidateV1) : Bool :=
  c.evidence.all validReceipt &&
    [c.parentBundle, c.targetFailure, c.developmentCase, c.noChangeControl, c.taskset, c.graderBundle, c.runtime,
      c.rollbackBundle].all validReceipt &&
    decide (c.parentBundle.kind = .policyBundle) && decide (c.rollbackBundle.kind = .policyBundle) &&
    decide (c.targetFailure.kind = .failure) && decide (c.developmentCase.kind = .evalCase) &&
    cleanDevelopment c.developmentCase && decide (c.noChangeControl.kind = .evalCase) &&
    cleanDevelopment c.noChangeControl && c.noChangeControl.revisionId != c.developmentCase.revisionId &&
    decide (c.taskset.kind = .taskset) && decide (c.graderBundle.kind = .graderBundle) &&
    decide (c.runtime.kind = .runtime) && c.parentBundle.revisionId != c.candidateId &&
    !c.evidence.any (fun e => e.revisionId == c.candidateId)

def CandidateV1.verify (digest : CandidateV1 → Except LearningContractError String) (c : CandidateV1) :
    Except LearningContractError Unit := do
  ensure (c.wellFormed && c.pinned) .invalidCandidate
  let expected ← digest c
  ensure (expected == c.sha256) .invalidCandidate

def slotOk (r : SourceReceipt) : Bool := decide (r.kind = .evalCase) && cleanDevelopment r && validReceipt r

/-! ## Suggestions -/

structure RejectedSuggestion where
  failureRevisionId : String
  dimension : ComponentDimension
deriving DecidableEq, Repr

structure FailureSuggestionInput where
  failure : SourceReceipt
  developmentEvidence : List SourceReceipt
  noChangeControl : SourceReceipt
deriving DecidableEq

structure OptimizerInput where
  clusters : List FailureSuggestionInput
  editable : List ComponentDimension
  rejected : List RejectedSuggestion

inductive SuggestionKind
  | targeted | alternative | noChangeControl
deriving DecidableEq, Repr

structure OptimizerSuggestion where
  targetFailure : SourceReceipt
  dimension : ComponentDimension
  kind : SuggestionKind
deriving DecidableEq

def FailureSuggestionInput.revision (c : FailureSuggestionInput) : String := c.failure.revisionId

def FailureSuggestionInput.safe (c : FailureSuggestionInput) : Bool :=
  decide (c.failure.kind = .failure) && validReceipt c.failure && c.failure.split.isNone &&
    decide (c.failure.custody ≠ some .invalidated ∧ c.failure.custody ≠ some .restricted) &&
    !c.developmentEvidence.isEmpty &&
    c.developmentEvidence.all (fun r => decide (r.kind = .evalCase) && cleanDevelopment r && validReceipt r) &&
    cleanDevelopment c.noChangeControl &&
    !c.developmentEvidence.any (fun r => r.revisionId == c.noChangeControl.revisionId)

def OptimizerInput.safe (input : OptimizerInput) : Bool :=
  !input.editable.isEmpty && decide input.editable.Nodup && decide (input.rejected.length ≤ 256) &&
    input.rejected.all (fun r => token r.failureRevisionId) && input.clusters.all FailureSuggestionInput.safe

def rejects (rejected : List RejectedSuggestion) (revision : String) (dimension : ComponentDimension) : Bool :=
  rejected.any (fun r => r.failureRevisionId == revision && decide (r.dimension = dimension))

def propose (rejected : List RejectedSuggestion) (c : FailureSuggestionInput) (out : List OptimizerSuggestion)
    (dimension : ComponentDimension) : List OptimizerSuggestion :=
  if out.length = 3 then out
  else if rejects rejected c.revision dimension then out
  else out ++ [⟨c.failure, dimension, if out.length = 1 then .targeted else .alternative⟩]

def controlOf : List FailureSuggestionInput → List ComponentDimension → List OptimizerSuggestion
  | first :: _, dimension :: _ => [⟨first.failure, dimension, .noChangeControl⟩]
  | _, _                       => []

def suggestCandidates (input : OptimizerInput) : Except LearningContractError (List OptimizerSuggestion) := do
  ensure input.safe .unsafeSuggestionInput
  let clusters := sortBy FailureSuggestionInput.revision input.clusters
  return clusters.foldl (fun out c => input.editable.foldl (propose input.rejected c) out)
    (controlOf clusters input.editable)

/-! ## The two loops as one list of pairs -/

def openDimensions (input : OptimizerInput) (revision : String) : List ComponentDimension :=
  input.editable.filter (fun d => !rejects input.rejected revision d)

def pairs (input : OptimizerInput) (clusters : List FailureSuggestionInput) :
    List (FailureSuggestionInput × ComponentDimension) :=
  clusters.flatMap (fun c => (openDimensions input c.revision).map (fun d => (c, d)))

def pairKey (p : FailureSuggestionInput × ComponentDimension) : String × ComponentDimension := (p.1.revision, p.2)

def place (out : List OptimizerSuggestion) (p : FailureSuggestionInput × ComponentDimension) :
    List OptimizerSuggestion :=
  if out.length = 3 then out
  else out ++ [⟨p.1.failure, p.2, if out.length = 1 then .targeted else .alternative⟩]

def labelled : List (FailureSuggestionInput × ComponentDimension) → List OptimizerSuggestion
  | []          => []
  | [p]         => [⟨p.1.failure, p.2, .targeted⟩]
  | p :: q :: _ => [⟨p.1.failure, p.2, .targeted⟩, ⟨q.1.failure, q.2, .alternative⟩]

theorem foldl_propose (input : OptimizerInput) (c : FailureSuggestionInput) (out : List OptimizerSuggestion) :
    input.editable.foldl (propose input.rejected c) out =
      ((openDimensions input c.revision).map (fun d => (c, d))).foldl place out := by
  rw [List.foldl_map, openDimensions, List.foldl_filter]
  congr 1
  funext out d
  unfold propose place
  by_cases hrejected : rejects input.rejected c.revision d = true
  · simp [hrejected]
  · simp [hrejected]

theorem foldl_place_full (out : List OptimizerSuggestion) (hfull : out.length = 3) :
    ∀ l : List (FailureSuggestionInput × ComponentDimension), l.foldl place out = out
  | []     => rfl
  | p :: l => by
    have hplace : place out p = out := by
      unfold place
      rw [if_pos hfull]
    rw [List.foldl_cons, hplace]
    exact foldl_place_full out hfull l

theorem foldl_place (control : OptimizerSuggestion) :
    ∀ l : List (FailureSuggestionInput × ComponentDimension), l.foldl place [control] = control :: labelled l
  | []          => rfl
  | [_]         => rfl
  | p :: q :: l => by
    rw [List.foldl_cons, List.foldl_cons]
    exact foldl_place_full _ rfl l

theorem suggestCandidates_ok {input : OptimizerInput} {out : List OptimizerSuggestion}
    (h : suggestCandidates input = .ok out) : input.safe = true ∧
      out = (sortBy FailureSuggestionInput.revision input.clusters).foldl
        (fun out c => input.editable.foldl (propose input.rejected c) out)
        (controlOf (sortBy FailureSuggestionInput.revision input.clusters) input.editable) := by
  unfold suggestCandidates at h
  obtain ⟨⟨⟩, hsafe, hrest⟩ := bind_ok h
  exact ⟨ensure_ok hsafe, (Except.ok.inj hrest).symm⟩

/-- **What is proposed**: nothing without a failure, otherwise the control and the first two pairs. -/
theorem suggestCandidates_shape {input : OptimizerInput} {out : List OptimizerSuggestion}
    (h : suggestCandidates input = .ok out) : (input.clusters = [] ∧ out = []) ∨
      (input.clusters ≠ [] ∧ ∃ failure dimension, out = ⟨failure, dimension, .noChangeControl⟩ ::
        labelled (pairs input (sortBy FailureSuggestionInput.revision input.clusters))) := by
  obtain ⟨hsafe, rfl⟩ := suggestCandidates_ok h
  by_cases hempty : input.clusters = []
  · refine .inl ⟨hempty, ?_⟩
    rw [hempty]
    rfl
  · refine .inr ⟨hempty, ?_⟩
    have hsorted : sortBy FailureSuggestionInput.revision input.clusters ≠ [] := by
      intro hnil
      refine hempty (List.eq_nil_of_length_eq_zero ?_)
      rw [← (SortBy.perm_sortBy FailureSuggestionInput.revision input.clusters).length_eq, hnil]
      rfl
    have heditable : input.editable ≠ [] := by
      intro hnil
      unfold OptimizerInput.safe at hsafe
      simp [hnil] at hsafe
    obtain ⟨first, others, hfirst⟩ := List.exists_cons_of_ne_nil hsorted
    obtain ⟨dimension, dimensions, hdimension⟩ := List.exists_cons_of_ne_nil heditable
    refine ⟨first.failure, dimension, ?_⟩
    have hcontrol : controlOf (sortBy FailureSuggestionInput.revision input.clusters) input.editable =
        [⟨first.failure, dimension, .noChangeControl⟩] := by
      rw [hfirst, hdimension]
      rfl
    rw [hcontrol, funext (fun out => funext (fun c => foldl_propose input c out)), ← List.foldl_flatMap]
    exact foldl_place _ _

/-! ## When a pair comes twice -/

/-- One revision id on two failures that leave one dimension open, before which nothing is open. -/
def Repeats (input : OptimizerInput) : Prop :=
  ∃ revision dimension, openDimensions input revision = [dimension] ∧
    2 ≤ input.clusters.countP (fun c => c.revision = revision) ∧
    ∀ c ∈ input.clusters, c.revision < revision → openDimensions input c.revision = []

theorem mem_pairs {input : OptimizerInput} {clusters : List FailureSuggestionInput}
    {p : FailureSuggestionInput × ComponentDimension} :
    p ∈ pairs input clusters ↔ p.1 ∈ clusters ∧ p.2 ∈ openDimensions input p.1.revision := by
  unfold pairs
  rw [List.mem_flatMap]
  constructor
  · rintro ⟨c, hc, hp⟩
    obtain ⟨d, hd, rfl⟩ := List.mem_map.1 hp
    exact ⟨hc, hd⟩
  · rintro ⟨hc, hd⟩
    exact ⟨p.1, hc, List.mem_map.2 ⟨p.2, hd, rfl⟩⟩

theorem pairs_cons (input : OptimizerInput) (c : FailureSuggestionInput) (clusters : List FailureSuggestionInput) :
    pairs input (c :: clusters) = (openDimensions input c.revision).map (fun d => (c, d)) ++ pairs input clusters :=
  List.flatMap_cons

theorem head_repeats_iff {input : OptimizerInput} (hnodup : input.editable.Nodup) :
    ∀ {clusters : List FailureSuggestionInput}, clusters.Pairwise (fun a b => a.revision ≤ b.revision) →
      ((∃ p q rest, pairs input clusters = p :: q :: rest ∧ pairKey p = pairKey q) ↔
        ∃ revision dimension, openDimensions input revision = [dimension] ∧
          2 ≤ clusters.countP (fun c => c.revision = revision) ∧
          ∀ c ∈ clusters, c.revision < revision → openDimensions input c.revision = [])
  | [], _ => by
    constructor
    · rintro ⟨p, q, rest, hpairs, -⟩
      cases hpairs
    · rintro ⟨revision, dimension, -, hcount, -⟩
      simp at hcount
  | c :: clusters, hsorted => by
    obtain ⟨hleast, hsorted⟩ := List.pairwise_cons.1 hsorted
    -- A revision that comes twice is the first one, unless the first failure leaves nothing open.
    have hfirst : ∀ {revision : String}, openDimensions input c.revision ≠ [] →
        2 ≤ (c :: clusters).countP (fun c => c.revision = revision) →
        (∀ d ∈ c :: clusters, d.revision < revision → openDimensions input d.revision = []) →
        revision = c.revision := by
      intro revision hopen hcount hbefore
      by_contra hne
      have hcountLater : 0 < clusters.countP (fun c => c.revision = revision) := by
        rw [List.countP_cons_of_neg (by simpa using Ne.symm hne)] at hcount
        omega
      obtain ⟨d, hd, hrevision⟩ := List.countP_pos_iff.1 hcountLater
      have hle : c.revision ≤ revision := (hleast d hd).trans_eq (of_decide_eq_true hrevision)
      exact hopen (hbefore c List.mem_cons_self (lt_of_le_of_ne hle (Ne.symm hne)))
    rw [pairs_cons]
    rcases hopen : openDimensions input c.revision with - | ⟨first, - | ⟨second, others⟩⟩
    · rw [List.map_nil, List.nil_append, head_repeats_iff hnodup hsorted]
      refine exists_congr (fun revision => exists_congr (fun dimension => and_congr_right (fun hone => ?_)))
      have hne : ¬ c.revision = revision := by
        rintro rfl
        rw [hopen] at hone
        cases hone
      rw [List.countP_cons_of_neg (by simpa using hne), List.forall_mem_cons]
      exact and_congr_right (fun _ => ⟨fun h => ⟨fun _ => hopen, h⟩, And.right⟩)
    · rw [List.map_cons, List.map_nil, List.singleton_append]
      constructor
      · rintro ⟨p, q, rest, hpairs, hkey⟩
        obtain ⟨rfl, htail⟩ := List.cons.inj hpairs
        have hq : q ∈ pairs input clusters := by
          rw [htail]
          exact List.mem_cons_self
        have hrevision : q.1.revision = c.revision := (congrArg Prod.fst hkey).symm
        refine ⟨c.revision, first, hopen, ?_, fun d hd hlt => ?_⟩
        · rw [List.countP_cons_of_pos (by simp)]
          have hagain : 0 < clusters.countP (fun d => d.revision = c.revision) :=
            List.countP_pos_iff.2 ⟨q.1, (mem_pairs.1 hq).1, by simpa using hrevision⟩
          omega
        · rcases List.mem_cons.1 hd with rfl | hd
          · exact absurd hlt (lt_irrefl _)
          · exact absurd hlt (not_lt_of_ge (hleast d hd))
      · rintro ⟨revision, dimension, hone, hcount, hbefore⟩
        obtain rfl := hfirst (by rw [hopen]; exact List.cons_ne_nil _ _) hcount hbefore
        have hagain : 0 < clusters.countP (fun d => d.revision = c.revision) := by
          rw [List.countP_cons_of_pos (by simp)] at hcount
          omega
        obtain ⟨d, hd, hrevision⟩ := List.countP_pos_iff.1 hagain
        obtain ⟨next, later, rfl⟩ := List.exists_cons_of_ne_nil (List.ne_nil_of_mem hd)
        have hnext : next.revision = c.revision := by
          refine le_antisymm ?_ (hleast next List.mem_cons_self)
          rw [← of_decide_eq_true hrevision]
          rcases List.mem_cons.1 hd with rfl | hlater
          · exact le_refl _
          · exact (List.pairwise_cons.1 hsorted).1 d hlater
        refine ⟨(c, first), (next, first), pairs input later, ?_, ?_⟩
        · rw [pairs_cons, hnext, hopen]
          rfl
        · unfold pairKey
          rw [hnext]
    · constructor
      · rintro ⟨p, q, rest, hpairs, hkey⟩
        obtain ⟨rfl, htail⟩ := List.cons.inj hpairs
        obtain ⟨rfl, -⟩ := List.cons.inj htail
        have hdistinct : (openDimensions input c.revision).Nodup := hnodup.filter _
        rw [hopen] at hdistinct
        exact absurd (List.mem_cons.2 (.inl (congrArg Prod.snd hkey))) (List.nodup_cons.1 hdistinct).1
      · rintro ⟨revision, dimension, hone, hcount, hbefore⟩
        obtain rfl := hfirst (by rw [hopen]; exact List.cons_ne_nil _ _) hcount hbefore
        rw [hopen] at hone
        cases hone

theorem sorted_repeats_iff {input : OptimizerInput} (hnodup : input.editable.Nodup) :
    (∃ p q rest, pairs input (sortBy FailureSuggestionInput.revision input.clusters) = p :: q :: rest ∧
      pairKey p = pairKey q) ↔ Repeats input := by
  rw [head_repeats_iff hnodup (SortBy.sorted_sortBy FailureSuggestionInput.revision input.clusters)]
  unfold Repeats
  refine exists_congr (fun revision => exists_congr (fun dimension => and_congr_right (fun _ => ?_)))
  rw [(SortBy.perm_sortBy FailureSuggestionInput.revision input.clusters).countP_eq]
  simp only [SortBy.mem_sortBy]

/-! ## Admissible suggestions -/

structure Admissible (input : OptimizerInput) (out : List OptimizerSuggestion) : Prop where
  bounded : out.length ≤ 3
  control : input.clusters ≠ [] → ∃ failure dimension rest, out = ⟨failure, dimension, .noChangeControl⟩ :: rest ∧
    ∀ s ∈ rest, s.kind ≠ .noChangeControl
  unrejected : ∀ s ∈ out, s.kind ≠ .noChangeControl →
    rejects input.rejected s.targetFailure.revisionId s.dimension = false
  distinct : ((out.filter (fun s => s.kind ≠ .noChangeControl)).map
    (fun s => (s.targetFailure.revisionId, s.dimension))).Nodup
  ordered : (input.clusters.map FailureSuggestionInput.revision).Nodup →
    ∀ clusters : List FailureSuggestionInput, clusters.Perm input.clusters →
      suggestCandidates { input with clusters := clusters } = .ok out
  slots : ∀ c ∈ input.clusters, slotOk c.noChangeControl = true ∧ c.developmentEvidence.all slotOk = true

theorem length_labelled : ∀ l : List (FailureSuggestionInput × ComponentDimension), (labelled l).length ≤ 2
  | []          => Nat.zero_le 2
  | [_]         => Nat.le_succ 1
  | _ :: _ :: _ => le_refl 2

theorem mem_labelled {s : OptimizerSuggestion} :
    ∀ {l : List (FailureSuggestionInput × ComponentDimension)}, s ∈ labelled l →
      s.kind ≠ .noChangeControl ∧ ∃ p ∈ l, s.targetFailure = p.1.failure ∧ s.dimension = p.2
  | [], h => by cases h
  | [p], h => by
    obtain rfl := List.mem_singleton.1 h
    exact ⟨by simp, p, List.mem_cons_self, rfl, rfl⟩
  | p :: q :: l, h => by
    rcases List.mem_cons.1 h with rfl | h
    · exact ⟨by simp, p, List.mem_cons_self, rfl, rfl⟩
    · obtain rfl := List.mem_singleton.1 h
      exact ⟨by simp, q, List.mem_cons_of_mem p List.mem_cons_self, rfl, rfl⟩

theorem labelled_nodup_iff : ∀ {l : List (FailureSuggestionInput × ComponentDimension)},
    ((labelled l).map (fun s => (s.targetFailure.revisionId, s.dimension))).Nodup ↔
      ¬ ∃ p q rest, l = p :: q :: rest ∧ pairKey p = pairKey q
  | [] => by simp [labelled]
  | [p] => by simp [labelled]
  | p :: q :: l => by
    have hrest : (labelled (p :: q :: l)).map (fun s => (s.targetFailure.revisionId, s.dimension)) =
        [pairKey p, pairKey q] := rfl
    rw [hrest, List.nodup_cons, List.mem_singleton]
    constructor
    · rintro ⟨hne, -⟩ ⟨p', q', rest, hl, hkey⟩
      obtain ⟨hp, hl⟩ := List.cons.inj hl
      rw [hp, (List.cons.inj hl).1] at hne
      exact hne hkey
    · intro hnone
      exact ⟨fun hkey => hnone ⟨p, q, l, rfl, hkey⟩, List.nodup_singleton _⟩

theorem filter_labelled (failure : SourceReceipt) (dimension : ComponentDimension)
    (l : List (FailureSuggestionInput × ComponentDimension)) :
    ((⟨failure, dimension, .noChangeControl⟩ : OptimizerSuggestion) :: labelled l).filter
      (fun s => s.kind ≠ .noChangeControl) = labelled l := by
  rw [List.filter_cons_of_neg (by simp)]
  exact List.filter_eq_self.2 (fun s hs => by simpa using (mem_labelled hs).1)

theorem safe_input {input : OptimizerInput} (h : input.safe = true) :
    input.editable.Nodup ∧ ∀ c ∈ input.clusters, c.safe = true := by
  unfold OptimizerInput.safe at h
  simp only [Bool.and_eq_true, decide_eq_true_eq, List.all_eq_true] at h
  exact ⟨h.1.1.1.2, h.2⟩

theorem safe_cluster {c : FailureSuggestionInput} (h : c.safe = true) :
    c.developmentEvidence.all slotOk = true ∧ cleanDevelopment c.noChangeControl = true := by
  unfold FailureSuggestionInput.safe at h
  simp only [Bool.and_eq_true] at h
  exact ⟨h.1.1.2, h.1.2⟩

theorem suggestCandidates_perm {input : OptimizerInput} {clusters : List FailureSuggestionInput}
    (hnodup : (input.clusters.map FailureSuggestionInput.revision).Nodup) (hperm : clusters.Perm input.clusters) :
    suggestCandidates { input with clusters := clusters } = suggestCandidates input := by
  have hsafe : OptimizerInput.safe { input with clusters := clusters } = input.safe := by
    unfold OptimizerInput.safe
    rw [hperm.all_eq]
  have hsorted : sortBy FailureSuggestionInput.revision clusters =
      sortBy FailureSuggestionInput.revision input.clusters :=
    (SortBy.sortBy_perm hperm.symm hnodup).symm
  unfold suggestCandidates
  rw [hsafe]
  simp only [hsorted]

theorem distinct_iff {input : OptimizerInput} {out : List OptimizerSuggestion}
    (h : suggestCandidates input = .ok out) :
    ((out.filter (fun s => s.kind ≠ .noChangeControl)).map (fun s => (s.targetFailure.revisionId, s.dimension))).Nodup ↔
      ¬ Repeats input := by
  rw [← sorted_repeats_iff (safe_input (suggestCandidates_ok h).1).1]
  rcases suggestCandidates_shape h with ⟨hempty, rfl⟩ | ⟨-, failure, dimension, rfl⟩
  · rw [hempty]
    refine ⟨fun _ => ?_, fun _ => List.nodup_nil⟩
    rintro ⟨p, q, rest, hpairs, -⟩
    cases hpairs
  · rw [filter_labelled, labelled_nodup_iff]

/-- **Suggestions are admissible exactly when the controls are and no pair repeats.** -/
theorem suggestions_admissible_iff (input : OptimizerInput) (out : List OptimizerSuggestion)
    (h : suggestCandidates input = .ok out) : Admissible input out ↔
      (∀ c ∈ input.clusters, c.noChangeControl.kind = .evalCase ∧ validReceipt c.noChangeControl = true) ∧
        ¬ Repeats input := by
  obtain ⟨-, hclusters⟩ := safe_input (suggestCandidates_ok h).1
  have hslot : ∀ c ∈ input.clusters, slotOk c.noChangeControl = true ↔
      c.noChangeControl.kind = .evalCase ∧ validReceipt c.noChangeControl = true := by
    intro c hc
    unfold slotOk
    rw [(safe_cluster (hclusters c hc)).2]
    simp
  constructor
  · intro hadmissible
    exact ⟨fun c hc => (hslot c hc).1 (hadmissible.slots c hc).1, (distinct_iff h).1 hadmissible.distinct⟩
  · rintro ⟨hcontrols, hrepeats⟩
    refine ⟨?_, fun hne => ?_, fun s hs hkind => ?_, (distinct_iff h).2 hrepeats, fun hnodup clusters hperm => ?_,
      fun c hc => ⟨(hslot c hc).2 (hcontrols c hc), (safe_cluster (hclusters c hc)).1⟩⟩
    · rcases suggestCandidates_shape h with ⟨-, rfl⟩ | ⟨-, failure, dimension, rfl⟩
      · exact Nat.zero_le 3
      · exact Nat.succ_le_succ (length_labelled _)
    · rcases suggestCandidates_shape h with ⟨hempty, -⟩ | ⟨-, failure, dimension, rfl⟩
      · exact absurd hempty hne
      · exact ⟨failure, dimension, _, rfl, fun s hs => (mem_labelled hs).1⟩
    · rcases suggestCandidates_shape h with ⟨-, rfl⟩ | ⟨-, failure, dimension, rfl⟩
      · cases hs
      · rcases List.mem_cons.1 hs with rfl | hs
        · exact absurd rfl hkind
        · obtain ⟨-, p, hp, hfailure, hdimension⟩ := mem_labelled hs
          have hopen := (List.mem_filter.1 (mem_pairs.1 hp).2).2
          rw [hfailure, hdimension]
          simpa [FailureSuggestionInput.revision] using hopen
    · rw [suggestCandidates_perm hnodup hperm, h]

/-! ### Two inputs that are accepted -/

def failureReceipt (revisionId : String) : SourceReceipt :=
  ⟨.failure, revisionId, "".pushn 'a' 64, none, none⟩

def developmentReceipt (revisionId : String) : SourceReceipt :=
  ⟨.evalCase, revisionId, "".pushn 'a' 64, some .development, some .clean⟩

def looseControl : OptimizerInput where
  clusters := [⟨failureReceipt "f1", [developmentReceipt "development-1"],
    ⟨.policyBundle, "control-1", "", some .development, some .clean⟩⟩]
  editable := [.tokenBudget]
  rejected := []

def oneRevisionTwice : OptimizerInput where
  clusters := [⟨failureReceipt "f1", [developmentReceipt "development-1"], developmentReceipt "control-1"⟩,
    ⟨failureReceipt "f1", [developmentReceipt "development-2"], developmentReceipt "control-2"⟩]
  editable := [.tokenBudget]
  rejected := []

def twoRevisions : OptimizerInput where
  clusters := [⟨failureReceipt "f2", [developmentReceipt "development-2"], developmentReceipt "control-2"⟩,
    ⟨failureReceipt "f1", [developmentReceipt "development-1"], developmentReceipt "control-1"⟩]
  editable := [.tokenBudget, .rolePrompts]
  rejected := []

theorem two_revisions_admissible :
    Admissible twoRevisions [⟨failureReceipt "f1", .tokenBudget, .noChangeControl⟩,
      ⟨failureReceipt "f1", .tokenBudget, .targeted⟩, ⟨failureReceipt "f1", .rolePrompts, .alternative⟩] := by
  refine (suggestions_admissible_iff twoRevisions _ (by decide +kernel)).2 ⟨by decide +kernel, ?_⟩
  rintro ⟨revision, dimension, hone, -⟩
  have hlength := congrArg List.length hone
  have hopen : openDimensions twoRevisions revision = [.tokenBudget, .rolePrompts] := rfl
  rw [hopen] at hlength
  cases hlength

theorem loose_suggestions_inadmissible :
    suggestCandidates looseControl = .ok [⟨failureReceipt "f1", .tokenBudget, .noChangeControl⟩,
        ⟨failureReceipt "f1", .tokenBudget, .targeted⟩] ∧
      ¬ Admissible looseControl [⟨failureReceipt "f1", .tokenBudget, .noChangeControl⟩,
        ⟨failureReceipt "f1", .tokenBudget, .targeted⟩] ∧
      suggestCandidates oneRevisionTwice = .ok [⟨failureReceipt "f1", .tokenBudget, .noChangeControl⟩,
        ⟨failureReceipt "f1", .tokenBudget, .targeted⟩, ⟨failureReceipt "f1", .tokenBudget, .alternative⟩] ∧
      ¬ Admissible oneRevisionTwice [⟨failureReceipt "f1", .tokenBudget, .noChangeControl⟩,
        ⟨failureReceipt "f1", .tokenBudget, .targeted⟩, ⟨failureReceipt "f1", .tokenBudget, .alternative⟩] := by
  refine ⟨by decide +kernel, fun hadmissible => ?_, by decide +kernel, fun hadmissible => ?_⟩
  · exact absurd (hadmissible.slots _ List.mem_cons_self).1 (by decide +kernel)
  · exact absurd hadmissible.distinct (by decide +kernel)

end Optimizer
end Bildr
