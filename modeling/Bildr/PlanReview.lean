import Bildr.Projection
import Bildr.OutcomeSupersession
import Bildr.Quoted
import Bildr.SortBy
import Bildr.Words
import Mathlib.Data.List.Sort
/-!
# PlanReview — plan reviews that do not converge

An agent's rejection of a plan ends the loop when the same blocking findings were there before, or when the last three
rejections never got shorter.  Findings are compared as a list up to its order, and their texts up to spaces and the case
of ASCII letters: two texts that differ in the case of other letters are different findings, and so are one finding and
the same finding twice (`lettered_findings_accepted`).
-/
namespace Bildr
namespace PlanReview

open Session (isWhitespace)
open Improvement (CollisionFree)
open SortBy (sortBy)
open Words (words join)

/-! ## Findings -/

inductive PlanFindingSeverity
  | blocking | advisory
deriving DecidableEq, Repr

structure PlanReviewFinding where
  severity : PlanFindingSeverity
  file : Option String
  description : String
deriving DecidableEq, Repr

def blocking (findings : List PlanReviewFinding) : List PlanReviewFinding :=
  findings.filter (fun f => decide (f.severity = .blocking))

def normalize (text : String) : List Char := (join ' ' (words isWhitespace text.toList)).map Char.toLower

def nul : Char := Char.ofNat 0

def findingText (f : PlanReviewFinding) : String :=
  String.ofList ((f.file.map normalize).getD [] ++ nul :: normalize f.description)

def findingsJson (findings : List PlanReviewFinding) : String :=
  String.ofList (Quoted.array ((sortBy (fun text => text) ((blocking findings).map findingText)).map String.toList))

def planReviewBlockingFingerprint (sha256 : String → String) (findings : List PlanReviewFinding) : Option String :=
  if (blocking findings).isEmpty then none else some (sha256 (findingsJson findings))

/-! ## Records -/

/-- A record of the history; what nothing reads of it is left out. -/
structure PlanReviewRecord where
  revision : Nat
  source : String
  findings : List PlanReviewFinding
  blockingFingerprint : Option String
  blockingCount : Nat
deriving DecidableEq, Repr

def reviewRecord (sha256 : String → String) (revision : Nat) (source : String) (findings : List PlanReviewFinding) :
    PlanReviewRecord where
  revision := revision
  source := source
  findings := findings
  blockingFingerprint := planReviewBlockingFingerprint sha256 findings
  blockingCount := (blocking findings).length

def PlanReviewRecord.Recorded (sha256 : String → String) (r : PlanReviewRecord) : Prop :=
  r = reviewRecord sha256 r.revision r.source r.findings

def PlanReviewRecord.rejection (r : PlanReviewRecord) : Bool := r.source == "agent" && decide (0 < r.blockingCount)

/-! ## The loop -/

def planNonshrinkingReviewWindow : Nat := 3

def nonShrinking (counts : List Nat) : Bool := (counts.zip counts.tail).all (fun pair => decide (pair.1 ≤ pair.2))

/-- The counts that are compared: those of the last rejections of agents, and of the review. -/
def reviewCounts (priorAgentRejections : List PlanReviewRecord) (current : PlanReviewRecord) : List Nat :=
  ((priorAgentRejections.reverse.take (planNonshrinkingReviewWindow - 1)).map PlanReviewRecord.blockingCount).reverse ++
    [current.blockingCount]

def planReviewNonconvergence (prior : List PlanReviewRecord) (current : PlanReviewRecord) : Option String :=
  let priorAgentRejections := prior.filter PlanReviewRecord.rejection
  match current.blockingFingerprint.bind
      (fun fingerprint => priorAgentRejections.find? (fun r => r.blockingFingerprint == some fingerprint)) with
  | some previous => some ("blocking finding set repeated from revision " ++ toString previous.revision)
  | none =>
    let counts := reviewCounts priorAgentRejections current
    if decide (counts.length = planNonshrinkingReviewWindow) && nonShrinking counts then
      some ("blocking finding count did not shrink across " ++ toString planNonshrinkingReviewWindow ++ " reviews (" ++
        " -> ".intercalate (counts.map toString) ++ ")")
    else none

/-- No review of an agent is reported when the records come one after the other. -/
def accepts (prior : List PlanReviewRecord) : List PlanReviewRecord → Bool
  | []           => true
  | r :: history => (r.source != "agent" || (planReviewNonconvergence prior r).isNone) && accepts (prior ++ [r]) history

theorem accepts_iff : ∀ {prior history : List PlanReviewRecord}, accepts prior history = true ↔
    ∀ before r after, history = before ++ r :: after → r.source = "agent" →
      planReviewNonconvergence (prior ++ before) r = none
  | prior, [] => by
    refine ⟨fun _ before r after h => ?_, fun _ => rfl⟩
    cases before <;> cases h
  | prior, r :: history => by
    rw [accepts, Bool.and_eq_true, accepts_iff]
    constructor
    · rintro ⟨hr, hhistory⟩ before r' after h hagent
      cases before with
      | nil =>
        obtain ⟨rfl, -⟩ := List.cons.inj h
        rw [List.append_nil]
        simpa [hagent] using hr
      | cons x before =>
        obtain ⟨rfl, htail⟩ := List.cons.inj h
        have hrest := hhistory before r' after htail hagent
        rwa [List.append_assoc, List.singleton_append] at hrest
    · intro h
      constructor
      · by_cases hagent : r.source = "agent"
        · have hfirst := h [] r history rfl hagent
          rw [List.append_nil] at hfirst
          simp [hfirst]
        · simp [hagent]
      · intro before r' after hhistory hagent
        have hrest := h (r :: before) r' after (by rw [hhistory, List.cons_append]) hagent
        rwa [List.append_assoc, List.singleton_append]

/-! ## The same findings -/

def wordsOf (lower : Char → Char) (text : String) : List (List Char) :=
  (words isWhitespace text.toList).map (List.map lower)

def findingWords (lower : Char → Char) (f : PlanReviewFinding) : List (List Char) × List (List Char) :=
  (wordsOf lower (f.file.getD ""), wordsOf lower f.description)

/-- The same blocking findings up to their order, the spaces and the case of their texts. -/
def SameFindings (lower : Char → Char) (a b : List PlanReviewFinding) : Prop :=
  ((blocking a).map (findingWords lower)).Perm ((blocking b).map (findingWords lower))

theorem normalize_eq (text : String) : normalize text = join ' ' (wordsOf Char.toLower text) := by
  unfold normalize wordsOf
  rw [Words.map_join, show Char.toLower ' ' = ' ' by decide]

def wordsText (w : List (List Char) × List (List Char)) : String := String.ofList (join ' ' w.1 ++ nul :: join ' ' w.2)

theorem findingText_eq (f : PlanReviewFinding) : findingText f = wordsText (findingWords Char.toLower f) := by
  unfold findingText wordsText findingWords
  rw [normalize_eq]
  cases f.file with
  | none => rfl
  | some file => rw [Option.map_some, Option.getD_some, Option.getD_some, normalize_eq]

theorem eq_of_toLower {c d : Char} (hd : d.toNat < 97) (h : c.toLower = d) : c = d := by
  unfold Char.toLower at h
  split at h
  · rename_i hupper
    have hlow : 65 ≤ c.val.toNat := hupper.1
    have hhigh : c.val.toNat ≤ 90 := hupper.2
    have hval : (c.val + 32).toNat = d.toNat := congrArg (fun c : Char => c.val.toNat) h
    rw [UInt32.toNat_add, show (32 : UInt32).toNat = 32 from rfl] at hval
    omega
  · exact h

theorem mem_wordsOf {text : String} {w : List Char} (hw : w ∈ wordsOf Char.toLower text) : w ≠ [] ∧ ' ' ∉ w := by
  obtain ⟨v, hv, rfl⟩ := List.mem_map.1 hw
  obtain ⟨hne, hplain⟩ := Words.isWord_of_mem hv
  refine ⟨by simpa using hne, fun hspace => ?_⟩
  obtain ⟨c, hc, hlower⟩ := List.mem_map.1 hspace
  have hplainSpace := hplain c hc
  rw [eq_of_toLower (by decide) hlower] at hplainSpace
  exact absurd hplainSpace (by decide)

theorem nul_not_mem_join {text : String} (hfree : nul ∉ text.toList) : nul ∉ join ' ' (wordsOf Char.toLower text) := by
  intro hmem
  rcases Words.mem_join hmem with h | ⟨w, hw, hc⟩
  · exact absurd h (by decide)
  · obtain ⟨v, hv, rfl⟩ := List.mem_map.1 hw
    obtain ⟨c, hc, hlower⟩ := List.mem_map.1 hc
    rw [eq_of_toLower (by decide) hlower] at hc
    exact hfree (Words.mem_of_mem_words hv hc)

def Separable (findings : List PlanReviewFinding) : Prop :=
  ∀ f ∈ blocking findings, nul ∉ (f.file.getD "").toList

theorem findingWords_inj {f g : PlanReviewFinding} (hf : nul ∉ (f.file.getD "").toList)
    (hg : nul ∉ (g.file.getD "").toList) (h : findingText f = findingText g) :
    findingWords Char.toLower f = findingWords Char.toLower g := by
  rw [findingText_eq, findingText_eq] at h
  obtain ⟨hfile, hdescription⟩ := Texts.separator_inj (nul_not_mem_join hf) (nul_not_mem_join hg)
    (String.ofList_injective h)
  exact Prod.ext (Words.join_inj (fun _ hw => mem_wordsOf hw) (fun _ hw => mem_wordsOf hw) hfile)
    (Words.join_inj (fun _ hw => mem_wordsOf hw) (fun _ hw => mem_wordsOf hw) hdescription)

/-! ## Equal fingerprints -/

theorem findingTexts_eq (findings : List PlanReviewFinding) :
    (blocking findings).map findingText = ((blocking findings).map (findingWords Char.toLower)).map wordsText := by
  rw [List.map_map]
  exact List.map_congr_left (fun f _ => findingText_eq f)

theorem sortBy_perm_eq {l l' : List String} (h : l.Perm l') :
    sortBy (fun text => text) l = sortBy (fun text => text) l' := by
  refine (((SortBy.perm_sortBy _ l).trans h).trans (SortBy.perm_sortBy _ l').symm).eq_of_pairwise ?_
    (SortBy.sorted_sortBy (fun text => text) l) (SortBy.sorted_sortBy (fun text => text) l')
  exact fun a b _ _ hab hba => le_antisymm hab hba

theorem sameFindings_json {a b : List PlanReviewFinding} (h : SameFindings Char.toLower a b) :
    findingsJson a = findingsJson b := by
  unfold findingsJson
  rw [findingTexts_eq, findingTexts_eq, sortBy_perm_eq (h.map wordsText)]

theorem sameFindings_fingerprint (sha256 : String → String) {a b : List PlanReviewFinding}
    (h : SameFindings Char.toLower a b) :
    planReviewBlockingFingerprint sha256 a = planReviewBlockingFingerprint sha256 b := by
  have hempty : (blocking a).isEmpty = (blocking b).isEmpty := by
    have hmapped := h.isEmpty_eq
    rwa [List.isEmpty_map, List.isEmpty_map] at hmapped
  unfold planReviewBlockingFingerprint
  rw [hempty, sameFindings_json h]

theorem findingsJson_perm {a b : List PlanReviewFinding} (h : findingsJson a = findingsJson b) :
    ((blocking a).map findingText).Perm ((blocking b).map findingText) := by
  have htexts := List.map_injective_iff.2 (fun _ _ h => String.toList_inj.1 h) (Quoted.array_inj (String.ofList_injective h))
  exact ((SortBy.perm_sortBy _ _).symm.trans (List.Perm.of_eq htexts)).trans (SortBy.perm_sortBy _ _)

theorem perm_of_map {α β γ : Type} {f : α → β} {g : α → γ} : ∀ {l l' : List α},
    (∀ a ∈ l, ∀ b ∈ l', f a = f b → g a = g b) → (l.map f).Perm (l'.map f) → (l.map g).Perm (l'.map g)
  | [], l', _, h => by
    have hnil : l' = [] := List.map_eq_nil_iff.1 (List.nil_perm.1 h)
    rw [hnil]
  | a :: l, l', hinj, h => by
    obtain ⟨b, hb, hab⟩ := List.mem_map.1 (h.subset List.mem_cons_self)
    obtain ⟨s, t, rfl⟩ := List.append_of_mem hb
    have hmiddle : ∀ {δ : Type} (k : α → δ), ((s ++ b :: t).map k).Perm (k b :: (s ++ t).map k) := fun k =>
      List.perm_middle.map k
    have hrest : (l.map f).Perm ((s ++ t).map f) := by
      have hcons := h.trans (hmiddle f)
      rw [List.map_cons, ← hab] at hcons
      exact hcons.cons_inv
    have htail := perm_of_map (fun x hx y hy => hinj x (List.mem_cons_of_mem a hx) y (by
      rcases List.mem_append.1 hy with hy | hy
      · exact List.mem_append_left _ hy
      · exact List.mem_append_right s (List.mem_cons_of_mem b hy))) hrest
    rw [List.map_cons, hinj a List.mem_cons_self b hb hab.symm]
    exact (htail.cons _).trans (hmiddle g).symm

/-- **One fingerprint is of the same findings**, where no digests collide and no file holds the separator. -/
theorem fingerprint_sameFindings {sha256 : String → String} {a b : List PlanReviewFinding}
    (hfree : CollisionFree sha256 [findingsJson a, findingsJson b]) (ha : Separable a) (hb : Separable b)
    {fingerprint : String} (hfa : planReviewBlockingFingerprint sha256 a = some fingerprint)
    (hfb : planReviewBlockingFingerprint sha256 b = some fingerprint) : SameFindings Char.toLower a b := by
  unfold planReviewBlockingFingerprint at hfa hfb
  split at hfa
  · cases hfa
  · split at hfb
    · cases hfb
    · have hdigest := (Option.some.inj hfa).trans (Option.some.inj hfb).symm
      have hjson := hfree _ List.mem_cons_self _ (List.mem_cons_of_mem _ List.mem_cons_self) hdigest
      exact perm_of_map (fun f hf g hg hfg => findingWords_inj (ha f hf) (hb g hg) hfg) (findingsJson_perm hjson)

/-! ## What is reported -/

theorem nonShrinking_iff : ∀ {counts : List Nat}, nonShrinking counts = true ↔ counts.Pairwise (· ≤ ·)
  | [] => by simp [nonShrinking]
  | [_] => by simp [nonShrinking]
  | a :: b :: counts => by
    have hcons : nonShrinking (a :: b :: counts) = (decide (a ≤ b) && nonShrinking (b :: counts)) := rfl
    rw [hcons, Bool.and_eq_true, decide_eq_true_eq, nonShrinking_iff, List.pairwise_cons (a := a)]
    refine and_congr_left (fun hrest => ⟨fun hab c hc => ?_, fun h => h b List.mem_cons_self⟩)
    rcases List.mem_cons.1 hc with rfl | hc
    · exact hab
    · exact hab.trans ((List.pairwise_cons.1 hrest).1 c hc)

def Repeated (prior : List PlanReviewRecord) (current : PlanReviewRecord) : Prop :=
  ∃ previous ∈ prior.filter PlanReviewRecord.rejection, ∃ fingerprint,
    previous.blockingFingerprint = some fingerprint ∧ current.blockingFingerprint = some fingerprint

/-- The last rejections of agents and the review make a window in which no count is below the one before it. -/
def Stalled (prior : List PlanReviewRecord) (current : PlanReviewRecord) : Prop :=
  ∃ window, window <:+ prior.filter PlanReviewRecord.rejection ∧
    (window ++ [current]).length = planNonshrinkingReviewWindow ∧
    ((window ++ [current]).map PlanReviewRecord.blockingCount).Pairwise (· ≤ ·)

theorem found_iff {prior : List PlanReviewRecord} {current : PlanReviewRecord} :
    (current.blockingFingerprint.bind (fun fingerprint => (prior.filter PlanReviewRecord.rejection).find?
      (fun r => r.blockingFingerprint == some fingerprint))).isSome = true ↔ Repeated prior current := by
  unfold Repeated
  cases hcurrent : current.blockingFingerprint with
  | none => simp
  | some fingerprint =>
    rw [Option.bind_some, List.find?_isSome]
    refine exists_congr (fun previous => and_congr_right (fun _ => ?_))
    rw [beq_iff_eq]
    constructor
    · exact fun h => ⟨fingerprint, h, rfl⟩
    · rintro ⟨fingerprint', h, hsame⟩
      rw [h, hsame]

theorem reviewCounts_eq (rejections : List PlanReviewRecord) (current : PlanReviewRecord) :
    reviewCounts rejections current =
      (rejections.drop (rejections.length - (planNonshrinkingReviewWindow - 1)) ++ [current]).map
        PlanReviewRecord.blockingCount := by
  unfold reviewCounts
  rw [List.take_reverse, List.map_reverse, List.reverse_reverse, List.map_append]
  rfl

theorem stalled_iff {prior : List PlanReviewRecord} {current : PlanReviewRecord} :
    (decide ((reviewCounts (prior.filter PlanReviewRecord.rejection) current).length = planNonshrinkingReviewWindow) &&
      nonShrinking (reviewCounts (prior.filter PlanReviewRecord.rejection) current)) = true ↔ Stalled prior current := by
  unfold Stalled
  rw [Bool.and_eq_true, decide_eq_true_eq, nonShrinking_iff, reviewCounts_eq, List.length_map]
  constructor
  · rintro ⟨hlength, hcounts⟩
    exact ⟨_, List.drop_suffix _ _, hlength, hcounts⟩
  · rintro ⟨window, hsuffix, hlength, hcounts⟩
    have hwindow : window.length = planNonshrinkingReviewWindow - 1 := by
      rw [List.length_append] at hlength
      exact Nat.eq_sub_of_add_eq hlength
    rw [← hwindow, ← List.suffix_iff_eq_drop.1 hsuffix]
    exact ⟨hlength, hcounts⟩

/-- **A review is reported** exactly when its findings were there before or the counts have not shrunk. -/
theorem nonconvergence_isSome_iff {prior : List PlanReviewRecord} {current : PlanReviewRecord} :
    (planReviewNonconvergence prior current).isSome = true ↔ Repeated prior current ∨ Stalled prior current := by
  rw [← found_iff, ← stalled_iff]
  unfold planReviewNonconvergence
  cases hfound : current.blockingFingerprint.bind (fun fingerprint =>
      (prior.filter PlanReviewRecord.rejection).find? (fun r => r.blockingFingerprint == some fingerprint)) with
  | some previous => simp only [hfound, Option.isSome_some, true_or]
  | none =>
    simp only [hfound, Option.isSome_none, Bool.false_eq_true, false_or]
    by_cases hstalled : (decide ((reviewCounts (prior.filter PlanReviewRecord.rejection) current).length =
        planNonshrinkingReviewWindow) &&
      nonShrinking (reviewCounts (prior.filter PlanReviewRecord.rejection) current)) = true
    · rw [if_pos hstalled]
      exact iff_of_true rfl hstalled
    · rw [if_neg hstalled]
      exact iff_of_false (by decide) hstalled

/-! ## The loop is cut off -/

theorem recorded_fingerprint {sha256 : String → String} {r : PlanReviewRecord} (h : r.Recorded sha256) :
    r.blockingFingerprint = planReviewBlockingFingerprint sha256 r.findings := by
  rw [h]
  rfl

theorem recorded_count {sha256 : String → String} {r : PlanReviewRecord} (h : r.Recorded sha256) :
    r.blockingCount = (blocking r.findings).length := by
  rw [h]
  rfl

theorem recorded_isSome {sha256 : String → String} {r : PlanReviewRecord} (h : r.Recorded sha256) :
    r.blockingFingerprint.isSome = true ↔ 0 < r.blockingCount := by
  rw [recorded_fingerprint h, recorded_count h]
  unfold planReviewBlockingFingerprint
  cases blocking r.findings with
  | nil => simp
  | cons f findings => simp

theorem pairwise_of_split {α : Type} {R : α → α → Prop} {l : List α}
    (h : ∀ s b t, l = s ++ b :: t → ∀ a ∈ s, R a b) : l.Pairwise R := by
  induction l using List.reverseRecOn with
  | nil => exact List.Pairwise.nil
  | append_singleton l b ih =>
    refine List.pairwise_append.2 ⟨ih (fun s c t hl => ?_), List.pairwise_singleton R b, fun a ha c hc => ?_⟩
    · exact h s c (t ++ [b]) (by rw [hl, List.append_assoc, List.cons_append])
    · obtain rfl := List.mem_singleton.1 hc
      exact h l c [] rfl a ha

theorem rejection_split {history s t : List PlanReviewRecord} {r : PlanReviewRecord}
    (h : history.filter PlanReviewRecord.rejection = s ++ r :: t) : ∃ before after, history = before ++ r :: after ∧
      before.filter PlanReviewRecord.rejection = s ∧ r.rejection = true := by
  obtain ⟨front, back, rfl, hfront, hback⟩ := List.filter_eq_append_iff.1 h
  obtain ⟨between, after, rfl, hbetween, hr, -⟩ := List.filter_eq_cons_iff.1 hback
  refine ⟨front ++ between, after, by rw [List.append_assoc], ?_, hr⟩
  rw [List.filter_append, hfront, List.filter_eq_nil_iff.2 hbetween, List.append_nil]

theorem rejection_iff {r : PlanReviewRecord} : r.rejection = true ↔ r.source = "agent" ∧ 0 < r.blockingCount := by
  unfold PlanReviewRecord.rejection
  rw [Bool.and_eq_true, beq_iff_eq, decide_eq_true_eq]

theorem accepts_rejection {history before after : List PlanReviewRecord} {r : PlanReviewRecord}
    (haccepts : accepts [] history = true) (hhistory : history = before ++ r :: after) (hr : r.rejection = true) :
    ¬ Repeated before r ∧ ¬ Stalled before r := by
  have hnone := accepts_iff.1 haccepts before r after hhistory (rejection_iff.1 hr).1
  rw [List.nil_append] at hnone
  refine not_or.1 (fun h => ?_)
  rw [← nonconvergence_isSome_iff, hnone] at h
  cases h

theorem accepts_no_repeat {sha256 : String → String} {history : List PlanReviewRecord}
    (hrecorded : ∀ r ∈ history, r.Recorded sha256) (haccepts : accepts [] history = true) :
    (history.filter PlanReviewRecord.rejection).Pairwise
      (fun a b => ¬ SameFindings Char.toLower a.findings b.findings) := by
  refine pairwise_of_split (fun s b t hfilter a ha hsame => ?_)
  obtain ⟨before, after, hhistory, rfl, hb⟩ := rejection_split hfilter
  have hab : a.blockingFingerprint = b.blockingFingerprint := by
    rw [recorded_fingerprint (hrecorded a (by rw [hhistory]; exact List.mem_append_left _ (List.mem_filter.1 ha).1)),
      recorded_fingerprint (hrecorded b (by rw [hhistory]; simp))]
    exact sameFindings_fingerprint sha256 hsame
  obtain ⟨fingerprint, hfingerprint⟩ := Option.isSome_iff_exists.1
    ((recorded_isSome (hrecorded b (by rw [hhistory]; simp))).2 (rejection_iff.1 hb).2)
  exact (accepts_rejection haccepts hhistory hb).1 ⟨a, ha, fingerprint, hab.trans hfingerprint, hfingerprint⟩

/-- **No accepted history holds a window of rejections that never gets shorter.** -/
theorem accepts_no_window {history window : List PlanReviewRecord} (haccepts : accepts [] history = true)
    (hwindow : window <:+: history.filter PlanReviewRecord.rejection)
    (hlength : window.length = planNonshrinkingReviewWindow) :
    ¬ (window.map PlanReviewRecord.blockingCount).Pairwise (· ≤ ·) := by
  intro hcounts
  obtain ⟨s, t, hfilter⟩ := hwindow
  have hne : window ≠ [] := by
    rintro rfl
    cases hlength
  rw [← List.dropLast_append_getLast hne] at hlength hcounts hfilter
  rw [List.append_assoc, List.append_assoc, List.singleton_append, ← List.append_assoc] at hfilter
  obtain ⟨before, after, hhistory, hbefore, hr⟩ := rejection_split hfilter.symm
  refine (accepts_rejection haccepts hhistory hr).2 ⟨window.dropLast, ?_, hlength, hcounts⟩
  rw [hbefore]
  exact List.suffix_append _ _

/-- **What is reported really occurs**: the findings of an earlier rejection, or a window that never gets shorter. -/
theorem reported_sound {sha256 : String → String} {history before after : List PlanReviewRecord}
    {current : PlanReviewRecord} (hrecorded : ∀ r ∈ history, r.Recorded sha256)
    (hfree : CollisionFree sha256 (history.map (fun r => findingsJson r.findings)))
    (hseparable : ∀ r ∈ history, Separable r.findings) (hhistory : history = before ++ current :: after)
    (hagent : current.source = "agent") (hreported : (planReviewNonconvergence before current).isSome = true) :
    current.rejection = true ∧
      ((∃ previous ∈ before.filter PlanReviewRecord.rejection,
          SameFindings Char.toLower previous.findings current.findings) ∨ Stalled before current) := by
  have hcurrent : current ∈ history := by
    rw [hhistory]
    simp
  rcases nonconvergence_isSome_iff.1 hreported with ⟨previous, hprevious, fingerprint, hfp, hfc⟩ | hstalled
  · have hmem : previous ∈ history := by
      rw [hhistory]
      exact List.mem_append_left _ (List.mem_filter.1 hprevious).1
    have hblocking : 0 < current.blockingCount := by
      rw [← recorded_isSome (hrecorded current hcurrent), hfc]
      rfl
    refine ⟨rejection_iff.2 ⟨hagent, hblocking⟩, .inl ⟨previous, hprevious, ?_⟩⟩
    rw [recorded_fingerprint (hrecorded previous hmem)] at hfp
    rw [recorded_fingerprint (hrecorded current hcurrent)] at hfc
    refine fingerprint_sameFindings (fun a ha b hb => ?_) (hseparable previous hmem) (hseparable current hcurrent) hfp hfc
    have hjson : ∀ x ∈ [findingsJson previous.findings, findingsJson current.findings],
        x ∈ history.map (fun r => findingsJson r.findings) := by
      intro x hx
      rcases List.mem_cons.1 hx with rfl | hx
      · exact List.mem_map.2 ⟨previous, hmem, rfl⟩
      · obtain rfl := List.mem_singleton.1 hx
        exact List.mem_map.2 ⟨current, hcurrent, rfl⟩
    exact hfree a (hjson a ha) b (hjson b hb)
  · refine ⟨rejection_iff.2 ⟨hagent, ?_⟩, .inr hstalled⟩
    obtain ⟨window, hsuffix, hlength, hcounts⟩ := hstalled
    have hne : window ≠ [] := by
      rintro rfl
      cases hlength
    obtain ⟨r, others, rfl⟩ := List.exists_cons_of_ne_nil hne
    have hr : r ∈ before.filter PlanReviewRecord.rejection := hsuffix.subset List.mem_cons_self
    have hle : r.blockingCount ≤ current.blockingCount := by
      rw [List.map_append, List.pairwise_append] at hcounts
      exact hcounts.2.2 _ (List.mem_map.2 ⟨r, List.mem_cons_self, rfl⟩) _ List.mem_cons_self
    exact lt_of_lt_of_le (rejection_iff.1 (List.mem_filter.1 hr).2).2 hle

/-- **The loop of plan reviews is cut off**: no accepted history repeats the findings of a rejection or holds a window of
rejections that never gets shorter, and a review of an agent is reported only where one of the two ends at it. -/
theorem plan_review_loop_cut_off (sha256 : String → String) (history : List PlanReviewRecord)
    (hrecorded : ∀ r ∈ history, r.Recorded sha256) :
    (accepts [] history = true →
      (history.filter PlanReviewRecord.rejection).Pairwise
          (fun a b => ¬ SameFindings Char.toLower a.findings b.findings) ∧
        ∀ window, window <:+: history.filter PlanReviewRecord.rejection →
          window.length = planNonshrinkingReviewWindow →
          ¬ (window.map PlanReviewRecord.blockingCount).Pairwise (· ≤ ·)) ∧
      (CollisionFree sha256 (history.map (fun r => findingsJson r.findings)) →
        (∀ r ∈ history, Separable r.findings) →
        ∀ before current after reason, history = before ++ current :: after → current.source = "agent" →
          planReviewNonconvergence before current = some reason →
          current.rejection = true ∧
            ((∃ previous ∈ before.filter PlanReviewRecord.rejection,
                SameFindings Char.toLower previous.findings current.findings) ∨
              ∃ window, window <:+ before.filter PlanReviewRecord.rejection ∧
                (window ++ [current]).length = planNonshrinkingReviewWindow ∧
                ((window ++ [current]).map PlanReviewRecord.blockingCount).Pairwise (· ≤ ·))) := by
  refine ⟨fun haccepts => ⟨accepts_no_repeat hrecorded haccepts, fun window hwindow hlength =>
    accepts_no_window haccepts hwindow hlength⟩, fun hfree hseparable before current after reason hhistory hagent h => ?_⟩
  exact reported_sound hrecorded hfree hseparable hhistory hagent (by rw [h]; rfl)

/-! ### Histories of two and three reviews -/

def blockingFinding (file description : String) : PlanReviewFinding := ⟨.blocking, some file, description⟩

/-- The digests of the findings of these histories. -/
def findingsDigests : List (String × String) :=
  [("[\"a.rs\\u0000no test\",\"b.rs\\u0000slow\"]", "0330fb49c9fada66363f4da0236a05a40f5ec232ff4c788476434d14a9262242"),
    ("[\"a.rs\\u0000scope\"]", "4eef9cd49b0119cbd1d6ee49cfda5d68ea27e9431af2d3ef69a019a3f687cfa1"),
    ("[\"a.rs\\u0000\u00c9\"]", "da99068235f8dc2da6dc1bf70bf047fef375b249483ffb199ef0f160e0be1ad0"),
    ("[\"a.rs\\u0000\u00e9\"]", "6d712d65ead37b782d10702fb4b4eefaf0680e4ca95b370bf03854ebe50a026a"),
    ("[\"a.rs\\u0000slow\"]", "adec978d564d56d4b4395c5a323eca0826e5af384fe66a21ecf0342d1116fff0"),
    ("[\"a.rs\\u0000slow\",\"a.rs\\u0000slow\"]", "070452bc529823b706d09ca86609088ea36967bf77ecacdea11247b93bfef782"),
    ("[\"a\\u0000b\\u0000c\"]", "1a4f0e9105ae014752bc6b6e91f9afeb8c799772a9da171e235bea09bd83cab0")]

def findingsSha256 (text : String) : String := (findingsDigests.lookup text).getD ""

/-- A rejection, the changes a human asked for. -/
def earlierReviews : List PlanReviewRecord :=
  [reviewRecord findingsSha256 1 "agent" [blockingFinding "a.rs" "No  Test", blockingFinding "b.rs" "slow"],
    reviewRecord findingsSha256 2 "human" [blockingFinding "a.rs" "scope"]]

def laterReview : PlanReviewRecord :=
  reviewRecord findingsSha256 3 "agent" [blockingFinding "b.rs" " SLOW", blockingFinding "a.rs" "no test"]

theorem shuffled_findings_cut_off : ∃ previous ∈ earlierReviews.filter PlanReviewRecord.rejection,
    SameFindings Char.toLower previous.findings laterReview.findings := by
  have hreported : planReviewNonconvergence earlierReviews laterReview =
      some "blocking finding set repeated from revision 1" := by decide +kernel
  have hseparable : ∀ r ∈ earlierReviews ++ [laterReview], Separable r.findings := by
    unfold Separable
    decide +kernel
  have hfree : CollisionFree findingsSha256 ((earlierReviews ++ [laterReview]).map (fun r => findingsJson r.findings)) := by
    unfold CollisionFree
    decide +kernel
  have hrun := (plan_review_loop_cut_off findingsSha256 (earlierReviews ++ [laterReview])
    (by unfold PlanReviewRecord.Recorded; decide +kernel)).2 hfree hseparable earlierReviews laterReview [] _ rfl rfl
    hreported
  rcases hrun.2 with hrepeated | ⟨window, hsuffix, hlength, -⟩
  · exact hrepeated
  · have hwindow := hsuffix.length_le
    have hrejections : (earlierReviews.filter PlanReviewRecord.rejection).length = 1 := by decide +kernel
    rw [List.length_append, List.length_singleton] at hlength
    have hthree : window.length = 2 := Nat.succ.inj hlength
    omega

/-- The case of letters of the first two hundred and fifty-six characters. -/
def latinLower (c : Char) : Char :=
  if 0xc0 ≤ c.toNat ∧ c.toNat ≤ 0xde ∧ c.toNat ≠ 0xd7 then Char.ofNat (c.toNat + 32) else c.toLower

/-- Three histories: the findings of the first differ in the case of one letter, those of the second are one finding and
the same one twice, and those of the last are two findings, which are reported. -/
theorem lettered_findings_accepted :
    (accepts [] [reviewRecord findingsSha256 1 "agent" [blockingFinding "a.rs" "\u00c9"],
        reviewRecord findingsSha256 2 "agent" [blockingFinding "a.rs" "\u00e9"]] = true ∧
      SameFindings latinLower [blockingFinding "a.rs" "\u00c9"] [blockingFinding "a.rs" "\u00e9"]) ∧
    (accepts [] [reviewRecord findingsSha256 1 "agent" [blockingFinding "a.rs" "slow"],
        reviewRecord findingsSha256 2 "agent" [blockingFinding "a.rs" "slow", blockingFinding "a.rs" "slow"]] = true ∧
      ∀ f, f ∈ [blockingFinding "a.rs" "slow"] ↔ f ∈ [blockingFinding "a.rs" "slow", blockingFinding "a.rs" "slow"]) ∧
    (planReviewNonconvergence [reviewRecord findingsSha256 1 "agent" [blockingFinding "a\x00b" "c"]]
        (reviewRecord findingsSha256 2 "agent" [blockingFinding "a" "b\x00c"]) =
        some "blocking finding set repeated from revision 1" ∧
      ¬ SameFindings latinLower [blockingFinding "a\x00b" "c"] [blockingFinding "a" "b\x00c"]) := by
  unfold SameFindings
  refine ⟨⟨by decide +kernel, by decide +kernel⟩, ⟨by decide +kernel, fun f => by simp⟩, by decide +kernel,
    by decide +kernel⟩

end PlanReview
end Bildr
