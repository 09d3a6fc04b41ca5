import Bildr.UsageCost
import Bildr.Word
import Mathlib.Data.List.Perm.Basic
import Mathlib.Data.List.Induction
/-!
# UsageAggregate — samples added up

A summary does not say whether it has had a sample: no total tokens stands for no cache-write report that is missing, and
no tokens, no cost and no price snapshot stand for no confidence to keep.  So samples of nothing are read as no samples.
`Aggregates` is what every order of the samples should give; it does exactly where the reports that are missing come with
tokens and the samples of nothing are no weaker than the others (`aggregates_iff`).
-/
namespace Bildr
namespace UsageCost

structure UsageSummary where
  inputTokens : UInt64
  cachedInputTokens : UInt64
  cacheWriteInputTokens : Option UInt64
  outputTokens : UInt64
  reasoningOutputTokens : UInt64
  totalTokens : UInt64
  cost : CostEstimate
deriving DecidableEq, Repr

def UsageSummary.default : UsageSummary := ⟨0, 0, none, 0, 0, 0, ⟨0, 0, .unknown, [], ""⟩⟩

def aggregateConfidence : CostConfidence → CostConfidence → CostConfidence
  | .unknown, _ => .unknown
  | _, .unknown => .unknown
  | .bounded, _ => .bounded
  | _, .bounded => .bounded
  | _, _ => .exact

def UsageSummary.wasEmpty (s : UsageSummary) : Bool :=
  s.totalTokens == 0 && s.cost.lowerMicrousd == 0 && s.cost.upperMicrousd == 0 && s.cost.pricingSnapshotIds.isEmpty

def addIds (ids more : List String) : List String :=
  more.foldl (fun ids id => if ids.contains id then ids else ids ++ [id]) ids

def UsageSummary.add (summary : UsageSummary) (usage : TokenUsage) (cost : CostEstimate) : UsageSummary where
  inputTokens := Word.saturatingAdd summary.inputTokens usage.inputTokens
  cachedInputTokens := Word.saturatingAdd summary.cachedInputTokens usage.cachedInputTokens
  cacheWriteInputTokens :=
    match summary.cacheWriteInputTokens, usage.cacheWriteInputTokens with
    | some left, some right => some (Word.saturatingAdd left right)
    | none, some right      => if summary.totalTokens = 0 then some right else none
    | _, none               => none
  outputTokens := Word.saturatingAdd summary.outputTokens usage.outputTokens
  reasoningOutputTokens := Word.saturatingAdd summary.reasoningOutputTokens usage.reasoningOutputTokens
  totalTokens := Word.saturatingAdd summary.totalTokens usage.totalTokens
  cost := {
    lowerMicrousd := Word.saturatingAdd summary.cost.lowerMicrousd cost.lowerMicrousd
    upperMicrousd := Word.saturatingAdd summary.cost.upperMicrousd cost.upperMicrousd
    confidence := if summary.wasEmpty then cost.confidence
      else aggregateConfidence summary.cost.confidence cost.confidence
    pricingSnapshotIds := addIds summary.cost.pricingSnapshotIds cost.pricingSnapshotIds
    explanation := summary.cost.explanation }

def addSample (summary : UsageSummary) (usage : TokenUsage) (cost : CostEstimate) : Except Fault UsageSummary := do
  usage.validate
  return summary.add usage cost

abbrev Sample := TokenUsage × CostEstimate

def addSamples (samples : List Sample) : Except Fault UsageSummary :=
  samples.foldlM (fun summary x => addSample summary x.1 x.2) .default

/-! ## What every order should give -/

def CostConfidence.weakness : CostConfidence → Nat
  | .exact => 0
  | .bounded => 1
  | .unknown => 2

/-- The same totals, the same bounds and the same price snapshots. -/
structure SameTotals (s s' : UsageSummary) : Prop where
  input : s.inputTokens = s'.inputTokens
  cached : s.cachedInputTokens = s'.cachedInputTokens
  cacheWrite : s.cacheWriteInputTokens = s'.cacheWriteInputTokens
  output : s.outputTokens = s'.outputTokens
  reasoning : s.reasoningOutputTokens = s'.reasoningOutputTokens
  total : s.totalTokens = s'.totalTokens
  lower : s.cost.lowerMicrousd = s'.cost.lowerMicrousd
  upper : s.cost.upperMicrousd = s'.cost.upperMicrousd
  ids : ∀ id, id ∈ s.cost.pricingSnapshotIds ↔ id ∈ s'.cost.pricingSnapshotIds

def Weakest (samples : List Sample) (c : CostConfidence) : Prop :=
  (∃ x ∈ samples, x.2.confidence = c) ∧ ∀ x ∈ samples, x.2.confidence.weakness ≤ c.weakness

/-- Every order gives one summary, with the weakest confidence, and a cache-write total if every sample reports one. -/
def Aggregates (samples : List Sample) : Prop :=
  ∃ s, addSamples samples = .ok s ∧ ∀ samples', samples'.Perm samples → ∃ s', addSamples samples' = .ok s' ∧
    SameTotals s' s ∧ Weakest samples s'.cost.confidence ∧
    (s'.cacheWriteInputTokens.isSome ↔ ∀ x ∈ samples, x.1.cacheWriteInputTokens.isSome)

/-! ## Where it does -/

def Blank (x : Sample) : Prop :=
  x.1.totalTokens = 0 ∧ x.2.lowerMicrousd = 0 ∧ x.2.upperMicrousd = 0 ∧ x.2.pricingSnapshotIds = []

instance (x : Sample) : Decidable (Blank x) := inferInstanceAs (Decidable (_ ∧ _))

/-- All samples report their cache-write input, or none does, or one that does not has tokens. -/
def ReportsCount (samples : List Sample) : Prop :=
  (∀ x ∈ samples, x.1.cacheWriteInputTokens.isSome) ∨ (∀ x ∈ samples, x.1.cacheWriteInputTokens = none) ∨
    ∃ x ∈ samples, x.1.cacheWriteInputTokens = none ∧ x.1.totalTokens ≠ 0

/-- A sample of nothing is no weaker than some other sample, or all are samples of nothing, of one confidence. -/
def ConfidenceCounts (samples : List Sample) : Prop :=
  (∀ x ∈ samples, Blank x → ∃ y ∈ samples, ¬ Blank y ∧ x.2.confidence.weakness ≤ y.2.confidence.weakness) ∨
    ∀ x ∈ samples, ∀ y ∈ samples, Blank x ∧ x.2.confidence = y.2.confidence

/-! ## One sample -/

def total (s : UsageSummary) (samples : List Sample) : UsageSummary := samples.foldl (fun s x => s.add x.1 x.2) s

theorem addSamples_ok {samples : List Sample} (hvalid : ∀ x ∈ samples, x.1.validate = .ok ()) :
    addSamples samples = .ok (total .default samples) := by
  unfold addSamples total
  induction samples using List.reverseRecOn with
  | nil => rfl
  | append_singleton samples x ih =>
    rw [List.foldlM_append, ih fun y hy => hvalid y (List.mem_append_left _ hy), ok_bind, List.foldl_append]
    unfold addSample
    simp only [List.foldlM_cons, List.foldlM_nil, List.foldl_cons, List.foldl_nil]
    rw [hvalid x (by simp), ok_bind]
    rfl

theorem total_snoc (s : UsageSummary) (samples : List Sample) (x : Sample) :
    total s (samples ++ [x]) = (total s samples).add x.1 x.2 := by
  unfold total
  rw [List.foldl_append, List.foldl_cons, List.foldl_nil]

theorem total_append (s : UsageSummary) (samples more : List Sample) :
    total s (samples ++ more) = total (total s samples) more := List.foldl_append

theorem saturatingAdd_right_comm (a b c : UInt64) :
    Word.saturatingAdd (Word.saturatingAdd a b) c = Word.saturatingAdd (Word.saturatingAdd a c) b := by
  apply UInt64.toNat.inj
  simp only [Word.toNat_saturatingAdd]
  omega

theorem saturatingAdd_eq_zero {a b : UInt64} : Word.saturatingAdd a b = 0 ↔ a = 0 ∧ b = 0 := by
  have hzero : ∀ w : UInt64, w = 0 ↔ w.toNat = 0 := fun w => ⟨fun h => by rw [h]; rfl, fun h => UInt64.toNat.inj h⟩
  rw [hzero, hzero, hzero, Word.toNat_saturatingAdd]
  omega

theorem zero_saturatingAdd (a : UInt64) : Word.saturatingAdd 0 a = a := by
  apply UInt64.toNat.inj
  have ha := a.toNat_lt
  rw [Word.toNat_saturatingAdd]
  simp only [UInt64.toNat_zero]
  omega

/-! ## Totals -/

theorem total_counter {f : UsageSummary → UInt64} {g : Sample → UInt64}
    (hadd : ∀ (s : UsageSummary) (x : Sample), f (s.add x.1 x.2) = Word.saturatingAdd (f s) (g x)) (s : UsageSummary)
    (samples : List Sample) : f (total s samples) = (samples.map g).foldl Word.saturatingAdd (f s) := by
  induction samples using List.reverseRecOn with
  | nil => rfl
  | append_singleton samples x ih =>
    rw [total_snoc, hadd, ih, List.map_append, List.foldl_append]
    rfl

theorem counter_perm {f : UsageSummary → UInt64} {g : Sample → UInt64}
    (hadd : ∀ (s : UsageSummary) (x : Sample), f (s.add x.1 x.2) = Word.saturatingAdd (f s) (g x)) (s : UsageSummary)
    {samples samples' : List Sample} (h : samples'.Perm samples) : f (total s samples') = f (total s samples) := by
  rw [total_counter hadd, total_counter hadd]
  exact (h.map g).foldl_eq' (fun a _ b _ c => saturatingAdd_right_comm c a b) _

theorem counter_zero {f : UsageSummary → UInt64} {g : Sample → UInt64}
    (hadd : ∀ (s : UsageSummary) (x : Sample), f (s.add x.1 x.2) = Word.saturatingAdd (f s) (g x)) (s : UsageSummary)
    (samples : List Sample) : f (total s samples) = 0 ↔ f s = 0 ∧ ∀ x ∈ samples, g x = 0 := by
  induction samples using List.reverseRecOn with
  | nil => exact ⟨fun h => ⟨h, fun x hx => by cases hx⟩, fun h => h.1⟩
  | append_singleton samples x ih =>
    rw [total_snoc, hadd, saturatingAdd_eq_zero, ih]
    simp only [List.mem_append, List.mem_singleton, or_imp, forall_and, forall_eq, and_assoc]

theorem addIds_cons (ids : List String) (id : String) (more : List String) :
    addIds ids (id :: more) = addIds (if ids.contains id then ids else ids ++ [id]) more := rfl

theorem mem_addIds {more : List String} {id : String} : ∀ {ids : List String}, id ∈ addIds ids more ↔ id ∈ ids ∨ id ∈ more := by
  induction more with
  | nil => exact fun {ids} => ⟨Or.inl, fun h => h.resolve_right (List.not_mem_nil)⟩
  | cons other more ih =>
    intro ids
    rw [addIds_cons, ih, List.mem_cons, ← or_assoc]
    refine or_congr_left ?_
    by_cases hmem : other ∈ ids
    · rw [if_pos (List.contains_iff_mem.2 hmem)]
      exact ⟨Or.inl, fun h => h.elim (fun h => h) fun heq => heq ▸ hmem⟩
    · rw [if_neg (mt List.contains_iff_mem.1 hmem), List.mem_append, List.mem_singleton]

theorem addIds_eq_nil {ids more : List String} : addIds ids more = [] ↔ ids = [] ∧ more = [] := by
  simp only [List.eq_nil_iff_forall_not_mem, mem_addIds, not_or, forall_and]

theorem mem_ids (s : UsageSummary) (samples : List Sample) (id : String) :
    id ∈ (total s samples).cost.pricingSnapshotIds ↔
      id ∈ s.cost.pricingSnapshotIds ∨ ∃ x ∈ samples, id ∈ x.2.pricingSnapshotIds := by
  induction samples using List.reverseRecOn with
  | nil => exact ⟨Or.inl, fun h => h.elim (fun h => h) fun ⟨x, hx, _⟩ => by cases hx⟩
  | append_singleton samples x ih =>
    rw [total_snoc]
    show id ∈ addIds _ _ ↔ _
    rw [mem_addIds, ih, or_assoc]
    simp only [List.mem_append, List.mem_singleton, or_and_right, exists_or, exists_eq_left]

theorem wasEmpty_add {s : UsageSummary} {x : Sample} : (s.add x.1 x.2).wasEmpty ↔ s.wasEmpty ∧ Blank x := by
  unfold UsageSummary.wasEmpty UsageSummary.add Blank
  simp only [Bool.and_eq_true, beq_iff_eq, saturatingAdd_eq_zero, List.isEmpty_iff, addIds_eq_nil]
  tauto

theorem wasEmpty_total {s : UsageSummary} {samples : List Sample} :
    (total s samples).wasEmpty ↔ s.wasEmpty ∧ ∀ x ∈ samples, Blank x := by
  induction samples using List.reverseRecOn with
  | nil => exact ⟨fun h => ⟨h, fun x hx => by cases hx⟩, fun h => h.1⟩
  | append_singleton samples x ih =>
    rw [total_snoc, wasEmpty_add, ih]
    simp only [List.mem_append, List.mem_singleton, or_imp, forall_and, forall_eq, and_assoc]

/-! ## The cache-write total -/

theorem tokens_add (s : UsageSummary) (x : Sample) :
    (s.add x.1 x.2).totalTokens = Word.saturatingAdd s.totalTokens x.1.totalTokens := rfl

theorem tokens_total (s : UsageSummary) (samples : List Sample) :
    (total s samples).totalTokens = 0 ↔ s.totalTokens = 0 ∧ ∀ x ∈ samples, x.1.totalTokens = 0 :=
  counter_zero tokens_add s samples

theorem cacheWrite_none {s : UsageSummary} {x : Sample} (h : x.1.cacheWriteInputTokens = none) :
    (s.add x.1 x.2).cacheWriteInputTokens = none := by
  unfold UsageSummary.add
  dsimp only
  rw [h]
  cases s.cacheWriteInputTokens <;> rfl

theorem cacheWrite_some {s : UsageSummary} {x : Sample} {w : UInt64} (h : x.1.cacheWriteInputTokens = some w)
    (hs : s.cacheWriteInputTokens.isSome ∨ s.totalTokens = 0) :
    (s.add x.1 x.2).cacheWriteInputTokens = some (Word.saturatingAdd (s.cacheWriteInputTokens.getD 0) w) := by
  unfold UsageSummary.add
  dsimp only
  rw [h]
  cases hc : s.cacheWriteInputTokens with
  | some left => rfl
  | none =>
    have htotal : s.totalTokens = 0 := hs.resolve_left (by rw [hc]; exact Bool.false_ne_true)
    dsimp only
    rw [if_pos htotal, Option.getD_none, zero_saturatingAdd]

theorem cacheWrite_kept {s : UsageSummary} {x : Sample} (hs : s.cacheWriteInputTokens = none) (htotal : s.totalTokens ≠ 0) :
    (s.add x.1 x.2).cacheWriteInputTokens = none := by
  unfold UsageSummary.add
  dsimp only
  rw [hs]
  cases x.1.cacheWriteInputTokens with
  | none => rfl
  | some right => exact if_neg htotal

theorem cacheWrite_reports {s : UsageSummary} (hs : s.cacheWriteInputTokens.isSome ∨ s.totalTokens = 0)
    {samples : List Sample} (hsome : ∀ x ∈ samples, x.1.cacheWriteInputTokens.isSome) (hne : samples ≠ []) :
    (total s samples).cacheWriteInputTokens = some ((samples.map fun x => x.1.cacheWriteInputTokens.getD 0).foldl
      Word.saturatingAdd (s.cacheWriteInputTokens.getD 0)) := by
  induction samples using List.reverseRecOn with
  | nil => exact absurd rfl hne
  | append_singleton samples x ih =>
    obtain ⟨w, hw⟩ := Option.isSome_iff_exists.1 (hsome x (by simp))
    rw [total_snoc, List.map_append, List.foldl_append]
    by_cases hnil : samples = []
    · subst hnil
      rw [show total s [] = s from rfl, cacheWrite_some hw hs]
      simp [hw]
    · have hbefore := ih (fun y hy => hsome y (List.mem_append_left _ hy)) hnil
      rw [cacheWrite_some hw (Or.inl (by rw [hbefore]; rfl)), hbefore]
      simp [hw]

theorem cacheWrite_missing {s : UsageSummary} {samples : List Sample}
    (h : ∃ x ∈ samples, x.1.cacheWriteInputTokens = none ∧ x.1.totalTokens ≠ 0) :
    (total s samples).cacheWriteInputTokens = none ∧ (total s samples).totalTokens ≠ 0 := by
  induction samples using List.reverseRecOn with
  | nil => obtain ⟨x, hx, -⟩ := h; cases hx
  | append_singleton samples x ih =>
    obtain ⟨y, hy, hnone, htokens⟩ := h
    refine ⟨?_, fun hzero => htokens ((tokens_total _ _).1 hzero |>.2 y hy)⟩
    rw [total_snoc]
    rcases List.mem_append.1 hy with hy | hy
    · obtain ⟨hbefore, hne⟩ := ih ⟨y, hy, hnone, htokens⟩
      exact cacheWrite_kept hbefore hne
    · obtain rfl := List.mem_singleton.1 hy
      exact cacheWrite_none hnone

theorem cacheWrite_unreported {s : UsageSummary} {samples : List Sample}
    (hs : samples = [] → s.cacheWriteInputTokens = none) (h : ∀ x ∈ samples, x.1.cacheWriteInputTokens = none) :
    (total s samples).cacheWriteInputTokens = none := by
  induction samples using List.reverseRecOn with
  | nil => exact hs rfl
  | append_singleton samples x ih =>
    rw [total_snoc]
    exact cacheWrite_none (h x (by simp))

/-! ## The confidence -/

theorem weakness_inj {a b : CostConfidence} (h : a.weakness = b.weakness) : a = b := by
  cases a <;> cases b <;> first | rfl | cases h

theorem weakness_aggregate (a b : CostConfidence) :
    (aggregateConfidence a b).weakness = max a.weakness b.weakness := by
  cases a <;> cases b <;> rfl

theorem confidence_add (s : UsageSummary) (x : Sample) : (s.add x.1 x.2).cost.confidence =
    if s.wasEmpty then x.2.confidence else aggregateConfidence s.cost.confidence x.2.confidence := rfl

theorem aggregate_cases (a b : CostConfidence) : aggregateConfidence a b = a ∨ aggregateConfidence a b = b := by
  cases a <;> cases b <;> first | exact Or.inl rfl | exact Or.inr rfl

theorem confidence_attained {s : UsageSummary} (hs : s.wasEmpty) {samples : List Sample} (hne : samples ≠ []) :
    ∃ x ∈ samples, x.2.confidence = (total s samples).cost.confidence := by
  induction samples using List.reverseRecOn with
  | nil => exact absurd rfl hne
  | append_singleton samples x ih =>
    rw [total_snoc, confidence_add]
    split
    · exact ⟨x, by simp, rfl⟩
    · rename_i hfull
      have hnil : samples ≠ [] := by
        rintro rfl
        exact hfull hs
      obtain ⟨y, hy, hconfidence⟩ := ih hnil
      rcases aggregate_cases (total s samples).cost.confidence x.2.confidence with h | h
      · exact ⟨y, List.mem_append_left _ hy, by rw [h, hconfidence]⟩
      · exact ⟨x, by simp, h.symm⟩

theorem confidence_counts {s : UsageSummary} {samples : List Sample} {y : Sample} (hy : y ∈ samples) (hfull : ¬ Blank y) :
    y.2.confidence.weakness ≤ (total s samples).cost.confidence.weakness := by
  induction samples using List.reverseRecOn with
  | nil => cases hy
  | append_singleton samples x ih =>
    rw [total_snoc, confidence_add]
    rcases List.mem_append.1 hy with hy | hy
    · have hne : ¬ (total s samples).wasEmpty := fun h => hfull ((wasEmpty_total.1 h).2 y hy)
      rw [if_neg hne, weakness_aggregate]
      exact le_trans (ih hy) (le_max_left _ _)
    · obtain rfl := List.mem_singleton.1 hy
      split
      · exact le_refl _
      · rw [weakness_aggregate]
        exact le_max_right _ _

/-! ## Every order -/

section Orders
variable {samples : List Sample}

theorem aggregates_total (hvalid : ∀ x ∈ samples, x.1.validate = .ok ()) : Aggregates samples ↔
    ∀ samples', samples'.Perm samples → SameTotals (total .default samples') (total .default samples) ∧
      Weakest samples (total .default samples').cost.confidence ∧
      ((total .default samples').cacheWriteInputTokens.isSome ↔ ∀ x ∈ samples, x.1.cacheWriteInputTokens.isSome) := by
  have hall : ∀ samples', samples'.Perm samples → addSamples samples' = .ok (total .default samples') :=
    fun samples' hperm => addSamples_ok fun x hx => hvalid x (hperm.mem_iff.1 hx)
  constructor
  · rintro ⟨s, hs, hagg⟩ samples' hperm
    obtain ⟨s', hs', hfacts⟩ := hagg samples' hperm
    rw [hall samples (List.Perm.refl _)] at hs
    rw [hall samples' hperm] at hs'
    cases hs
    cases hs'
    exact hfacts
  · intro hagg
    exact ⟨_, hall samples (List.Perm.refl _), fun samples' hperm => ⟨_, hall samples' hperm, hagg samples' hperm⟩⟩

theorem empty_default : UsageSummary.default.wasEmpty = true := rfl

theorem reports_of_orders
    (horders : ∀ samples', samples'.Perm samples → ((total .default samples').cacheWriteInputTokens.isSome ↔
      ∀ x ∈ samples, x.1.cacheWriteInputTokens.isSome)) : ReportsCount samples := by
  unfold ReportsCount
  by_contra hnot
  push Not at hnot
  obtain ⟨⟨x, hx, hmissing⟩, ⟨y, hy, hreported⟩, htokens⟩ := hnot
  let missing := samples.filter fun x => x.1.cacheWriteInputTokens.isNone
  let reports := samples.filter fun x => !x.1.cacheWriteInputTokens.isNone
  have hperm : (missing ++ reports).Perm samples := List.filter_append_perm _ _
  have hzero : (total .default missing).totalTokens = 0 := by
    refine (tokens_total _ _).2 ⟨rfl, fun z hz => ?_⟩
    obtain ⟨hz, hnone⟩ := List.mem_filter.1 hz
    exact htokens z hz (Option.isNone_iff_eq_none.1 hnone)
  have hsome : ∀ z ∈ reports, z.1.cacheWriteInputTokens.isSome := by
    intro z hz
    have hz := (List.mem_filter.1 hz).2
    rwa [Option.not_isNone] at hz
  have hrest : reports ≠ [] := by
    refine List.ne_nil_of_mem (List.mem_filter.2 ⟨hy, ?_⟩)
    rw [Option.not_isNone]
    exact Option.isSome_iff_ne_none.2 hreported
  have htotal := cacheWrite_reports (Or.inr hzero) hsome hrest
  have hresult := (horders _ hperm).1 (by rw [total_append, htotal]; rfl)
  exact hmissing (hresult x hx)

theorem confidence_of_orders
    (horders : ∀ samples', samples'.Perm samples → Weakest samples (total .default samples').cost.confidence) :
    ConfidenceCounts samples := by
  by_cases hfull : ∃ y ∈ samples, ¬ Blank y
  · refine Or.inl fun x hx _ => ?_
    obtain ⟨y, hy, hblank⟩ := hfull
    let blanks := samples.filter fun x => decide (Blank x)
    let others := samples.filter fun x => !decide (Blank x)
    have hperm : (blanks ++ others).Perm samples := List.filter_append_perm _ _
    have hempty : (total .default blanks).wasEmpty :=
      wasEmpty_total.2 ⟨rfl, fun z hz => of_decide_eq_true (List.mem_filter.1 hz).2⟩
    have hothers : others ≠ [] := List.ne_nil_of_mem (List.mem_filter.2 ⟨hy, by rw [decide_eq_false hblank]; rfl⟩)
    obtain ⟨z, hz, hconfidence⟩ := confidence_attained hempty hothers
    obtain ⟨hz, hother⟩ := List.mem_filter.1 hz
    have hweakest := (horders _ hperm).2 x hx
    rw [total_append, ← hconfidence] at hweakest
    exact ⟨z, hz, by simpa using hother, hweakest⟩
  · have hblank : ∀ y ∈ samples, Blank y := fun y hy => Classical.not_not.1 fun h => hfull ⟨y, hy, h⟩
    have hlast : ∀ q ∈ samples, ∀ x ∈ samples, x.2.confidence.weakness ≤ q.2.confidence.weakness := by
      intro q hq x hx
      obtain ⟨before, after, rfl⟩ := List.append_of_mem hq
      have hperm : (before ++ after ++ [q]).Perm (before ++ q :: after) := by
        rw [List.append_assoc]
        exact List.Perm.append_left _ List.perm_append_comm
      have hempty : (total .default (before ++ after)).wasEmpty := by
        refine wasEmpty_total.2 ⟨rfl, fun z hz => hblank z ?_⟩
        rcases List.mem_append.1 hz with hz | hz
        · exact List.mem_append_left _ hz
        · exact List.mem_append_right _ (List.mem_cons_of_mem _ hz)
      have hweakest := (horders _ hperm).2 x hx
      rwa [total_snoc, confidence_add, if_pos hempty] at hweakest
    exact Or.inr fun x hx y hy => ⟨hblank x hx, weakness_inj (le_antisymm (hlast y hy x hx) (hlast x hx y hy))⟩

theorem weakest_of_counts (hne : samples ≠ []) (hcounts : ConfidenceCounts samples) {samples' : List Sample}
    (hperm : samples'.Perm samples) : Weakest samples (total .default samples').cost.confidence := by
  have hne' : samples' ≠ [] := fun h => hne (List.perm_nil.1 (h ▸ hperm).symm)
  obtain ⟨x, hx, hattained⟩ := confidence_attained empty_default hne'
  have hx := hperm.mem_iff.1 hx
  refine ⟨⟨x, hx, hattained⟩, fun z hz => ?_⟩
  rcases hcounts with hothers | hsame
  · have hfull : ∀ y ∈ samples, ¬ Blank y →
        y.2.confidence.weakness ≤ (total .default samples').cost.confidence.weakness :=
      fun y hy => confidence_counts (hperm.mem_iff.2 hy)
    by_cases hblank : Blank z
    · obtain ⟨y, hy, hother, hle⟩ := hothers z hz hblank
      exact le_trans hle (hfull y hy hother)
    · exact hfull z hz hblank
  · rw [← hattained, (hsame z hz x hx).2]

theorem cacheWrite_orders (hne : samples ≠ []) (hcounts : ReportsCount samples) {samples' : List Sample}
    (hperm : samples'.Perm samples) :
    (total .default samples').cacheWriteInputTokens = (total .default samples).cacheWriteInputTokens ∧
      ((total .default samples').cacheWriteInputTokens.isSome ↔ ∀ x ∈ samples, x.1.cacheWriteInputTokens.isSome) := by
  have hne' : samples' ≠ [] := fun h => hne (List.perm_nil.1 (h ▸ hperm).symm)
  rcases hcounts with hsome | hnone | ⟨x, hx, hnone, htokens⟩
  · have hreports := cacheWrite_reports (s := UsageSummary.default) (Or.inr rfl) hsome hne
    have hreports' := cacheWrite_reports (s := UsageSummary.default) (Or.inr rfl)
      (fun x hx => hsome x (hperm.mem_iff.1 hx)) hne'
    refine ⟨?_, fun _ => hsome, fun _ => by rw [hreports']; rfl⟩
    rw [hreports, hreports']
    exact congrArg some ((hperm.map _).foldl_eq' (fun a _ b _ c => saturatingAdd_right_comm c a b) _)
  · have htotal := cacheWrite_unreported (s := UsageSummary.default) (fun _ => rfl) hnone
    have htotal' := cacheWrite_unreported (s := UsageSummary.default) (fun _ => rfl)
      fun x hx => hnone x (hperm.mem_iff.1 hx)
    rw [htotal, htotal']
    refine ⟨rfl, fun h => (by cases h), fun hsome => ?_⟩
    obtain ⟨x, hx⟩ := List.exists_mem_of_ne_nil samples hne
    have hx' := hsome x hx
    rw [hnone x hx] at hx'
    exact hx'
  · have htotal := (cacheWrite_missing (s := UsageSummary.default) ⟨x, hx, hnone, htokens⟩).1
    have htotal' := (cacheWrite_missing (s := UsageSummary.default) ⟨x, hperm.mem_iff.2 hx, hnone, htokens⟩).1
    rw [htotal, htotal']
    refine ⟨rfl, fun h => (by cases h), fun hsome => ?_⟩
    have hx' := hsome x hx
    rw [hnone] at hx'
    exact hx'

/-- **Every order gives one summary exactly where missing reports come with tokens and samples of nothing do not decide
the confidence.** -/
theorem aggregates_iff (hvalid : ∀ x ∈ samples, x.1.validate = .ok ()) :
    Aggregates samples ↔ samples ≠ [] ∧ ReportsCount samples ∧ ConfidenceCounts samples := by
  rw [aggregates_total hvalid]
  constructor
  · intro horders
    have hne : samples ≠ [] := by
      rintro rfl
      obtain ⟨-, ⟨⟨x, hx, -⟩, -⟩, -⟩ := horders [] (List.Perm.refl _)
      cases hx
    exact ⟨hne, reports_of_orders fun samples' hperm => (horders samples' hperm).2.2,
      confidence_of_orders fun samples' hperm => (horders samples' hperm).2.1⟩
  · rintro ⟨hne, hreports, hconfidence⟩ samples' hperm
    obtain ⟨hcacheWrite, hreported⟩ := cacheWrite_orders hne hreports hperm
    refine ⟨⟨?_, ?_, hcacheWrite, ?_, ?_, ?_, ?_, ?_, fun id => ?_⟩, weakest_of_counts hne hconfidence hperm, hreported⟩
    · exact counter_perm (g := fun x => x.1.inputTokens) (fun _ _ => rfl) _ hperm
    · exact counter_perm (g := fun x => x.1.cachedInputTokens) (fun _ _ => rfl) _ hperm
    · exact counter_perm (g := fun x => x.1.outputTokens) (fun _ _ => rfl) _ hperm
    · exact counter_perm (g := fun x => x.1.reasoningOutputTokens) (fun _ _ => rfl) _ hperm
    · exact counter_perm (g := fun x => x.1.totalTokens) (fun _ _ => rfl) _ hperm
    · exact counter_perm (f := fun s => s.cost.lowerMicrousd) (g := fun x => x.2.lowerMicrousd) (fun _ _ => rfl) _ hperm
    · exact counter_perm (f := fun s => s.cost.upperMicrousd) (g := fun x => x.2.upperMicrousd) (fun _ _ => rfl) _ hperm
    · rw [mem_ids, mem_ids]
      exact or_congr_right (exists_congr fun x => and_congr_left' hperm.mem_iff)

end Orders

/-! ## Two reports, and a sample of no tokens before one with a report -/

def reported : Sample := (⟨5, 0, some 2, 0, 0, 5, none⟩, ⟨1, 1, .exact, ["p"], ""⟩)

def cached : Sample := (⟨9, 4, some 1, 3, 2, 12, none⟩, ⟨2, 6, .bounded, ["p", "q"], ""⟩)

/-- Two samples with reports, in every order. -/
theorem aggregates_reported : Aggregates [reported, cached] := by
  refine (aggregates_iff (by decide)).2 ⟨by decide, ?_, ?_⟩
  · unfold ReportsCount
    decide
  · unfold ConfidenceCounts
    decide

def unreported : Sample := (⟨0, 0, none, 0, 0, 0, none⟩, ⟨0, 0, .bounded, ["p"], ""⟩)

/-- **The order shows**: the report that is missing is forgotten where it came first. -/
theorem missing_report_forgotten : ¬ ∀ samples : List Sample, (∀ x ∈ samples, x.1.validate = .ok ()) →
    Aggregates samples := by
  intro hall
  obtain ⟨s, hs, hagg⟩ := hall [unreported, reported] (by decide)
  obtain ⟨s', hs', -, -, hreported⟩ := hagg _ (List.Perm.refl _)
  rw [hs'] at hs
  cases hs
  have hsome : addSamples [unreported, reported] =
      .ok ⟨5, 0, some 2, 0, 0, 5, ⟨1, 1, .bounded, ["p"], ""⟩⟩ := by decide
  rw [hsome] at hs'
  cases hs'
  exact absurd (hreported.1 rfl unreported (by decide)) (by decide)

end UsageCost
end Bildr
