import Bildr.LeaseExclusion
import Bildr.PlanStorage
import Mathlib.Data.List.Pairwise
/-!
# PlanCustody — when the overlap test of a plan is right

`mayOverlap` compares the texts before the first special character, cut at their last separator, component by component.
It misses two kinds of pairs: a pattern whose first special character stands inside a component that the other one spells
on (`src/ab*` and `src/abc.rs`), and patterns of which one starts with `./`.  Outside these a pair it lets pass shares no
path (`not_shares_of_told`), and it reads nothing else of a pattern: for every pair of these kinds that passes, patterns with the
same text and the same first cut share one.
-/
namespace Bildr
namespace Plan

open Glob (matchesPath)
open Lease (trimDotSlash Shares)

/-! ## The text before the first special character -/

def goesOn (g : List Char) : Bool := g.any special

theorem stretch_append (g : List Char) : g = stretch g ++ g.dropWhile (fun c => !special c) :=
  List.takeWhile_append_dropWhile.symm

theorem stretch_free (g : List Char) : ∀ c ∈ stretch g, special c = false := by
  intro c hc
  have := List.all_eq_true.1 (List.all_takeWhile (l := g) (p := fun c => !special c)) c hc
  simpa using this

theorem literal_of_free {a : List Char} (h : ∀ c ∈ a, special c = false) : a.all Glob.literal = true := by
  rw [List.all_eq_true]
  intro c hc
  have := h c hc
  simp only [special, List.contains_eq_mem, List.mem_cons, List.not_mem_nil, or_false, decide_eq_false_iff_not,
    not_or] at this
  simp [Glob.literal, Glob.plain, this]

theorem stretch_literal (g : List Char) : (stretch g).all Glob.literal = true := literal_of_free (stretch_free g)

theorem stretch_plain (g : List Char) : (stretch g).all Glob.plain = true := by
  have h := stretch_literal g
  rw [List.all_eq_true] at h ⊢
  exact fun c hc => (Bool.and_eq_true_iff.1 (h c hc)).1

theorem stretch_eq_of_free {g : List Char} (h : goesOn g = false) : stretch g = g := by
  unfold stretch
  rw [List.takeWhile_eq_self_iff]
  intro c hc
  have := List.any_eq_false.1 h c hc
  simpa using this

theorem stretch_star {a : List Char} (h : ∀ c ∈ a, special c = false) : stretch (a ++ ['*']) = a := by
  unfold stretch
  rw [List.takeWhile_append_of_pos (fun c hc => by simp [h c hc])]
  simp [special]

theorem stretch_starts {g p : List Char} (h : matchesPath g p = true) : stretch g <+: p := by
  rw [stretch_append g] at h
  exact Glob.matchesPath_lead (stretch g) _ p (stretch_plain g) h

theorem eq_stretch_of_matches {g p : List Char} (hg : goesOn g = false) (h : matchesPath g p = true) : p = stretch g := by
  rw [← stretch_eq_of_free hg] at h
  exact (Glob.matchesPath_text _ p (stretch_literal g)).1 h

/-! ## A leading `./` -/

def dotted (g : List Char) : Bool := trimDotSlash g != g

theorem trimDotSlash_of_not_dotted {g : List Char} (h : dotted g = false) : trimDotSlash g = g := by
  simpa [dotted] using h

theorem trimDotSlash_eq_self {g : List Char} (h : ∀ cs, g = '.' :: '/' :: cs → False) : trimDotSlash g = g := by
  unfold trimDotSlash
  split
  · exact absurd rfl (h _)
  · rfl

theorem stretch_trim (g : List Char) : stretch (trimDotSlash g) = trimDotSlash (stretch g) := by
  fun_induction trimDotSlash g with
  | case1 cs ih =>
    rw [ih]
    have : stretch ('.' :: '/' :: cs) = '.' :: '/' :: stretch cs := by simp [stretch, special]
    rw [this, trimDotSlash]
  | case2 g hg =>
    refine (trimDotSlash_eq_self (fun cs he => ?_)).symm
    have := stretch_append g
    rw [he] at this
    exact hg _ this

theorem goesOn_trim (g : List Char) : goesOn (trimDotSlash g) = goesOn g := by
  fun_induction trimDotSlash g with
  | case1 cs ih =>
    rw [ih]
    simp [goesOn, special]
  | case2 g hg => rfl

/-! ## The pairs the test misses -/

/-- Some pattern with the stretch of `g` may match the stretch of `h`. -/
def Reaches (g h : List Char) : Prop :=
  stretch (trimDotSlash g) <+: stretch (trimDotSlash h) ∧
    (goesOn g = true ∨ stretch (trimDotSlash g) = stretch (trimDotSlash h))

/-- The first special character of `g` stands inside a component that `h` spells on. -/
def Inside (g h : List Char) : Prop :=
  goesOn g = true ∧ stretch g ≠ [] ∧ (stretch g).getLast? ≠ some '/' ∧
    ∃ c rest, stretch h = stretch g ++ c :: rest ∧ c ≠ '/'

/-- The test tells whether patterns with these stretches share a path. -/
structure Told (g h : List Char) : Prop where
  unescaped : '\\' ∉ g ∧ '\\' ∉ h
  inside : dotted g = false → dotted h = false → ¬ Inside g h ∧ ¬ Inside h g
  dots : dotted g = true ∨ dotted h = true → ¬ Reaches g h ∧ ¬ Reaches h g

theorem not_shares_of_not_reaches {g h : List Char} (hgh : ¬ Reaches g h) (hhg : ¬ Reaches h g) : ¬ Shares g h := by
  rintro ⟨p, hg, hh⟩
  -- both stretches start the path, so one starts the other; the shorter pattern would have to end there
  have hcut : ∀ {g h : List Char}, ¬ Reaches g h → matchesPath (trimDotSlash g) p = true →
      matchesPath (trimDotSlash h) p = true → ¬ stretch (trimDotSlash g) <+: stretch (trimDotSlash h) := by
    intro g h hn hg hh hpre
    have hgo : goesOn g = false := by
      cases hgo : goesOn g with
      | false => rfl
      | true => exact absurd ⟨hpre, Or.inl hgo⟩ hn
    have hp := eq_stretch_of_matches (by rw [goesOn_trim]; exact hgo) hg
    have hsame : stretch (trimDotSlash h) <+: stretch (trimDotSlash g) := hp ▸ stretch_starts hh
    exact hn ⟨hpre, Or.inr (hpre.eq_of_length_le hsame.length_le)⟩
  rcases List.prefix_or_prefix_of_prefix (stretch_starts hg) (stretch_starts hh) with h1 | h1
  · exact hcut hgh hg hh h1
  · exact hcut hhg hh hg h1

theorem inside_reaches {g h : List Char} (hg : dotted g = false) (hh : dotted h = false) (hi : Inside g h) :
    Reaches g h := by
  obtain ⟨hgo, -, -, c, rest, he, -⟩ := hi
  unfold Reaches
  rw [trimDotSlash_of_not_dotted hg, trimDotSlash_of_not_dotted hh]
  exact ⟨he ▸ List.prefix_append _ _, Or.inl hgo⟩

/-! ## What the test sees -/

theorem rdropWhile_append (p : Char → Bool) (xs ys : List Char) :
    (xs ++ ys).rdropWhile p = if (ys.rdropWhile p).isEmpty then xs.rdropWhile p else xs ++ ys.rdropWhile p := by
  unfold List.rdropWhile
  rw [List.reverse_append, List.dropWhile_append, List.isEmpty_reverse]
  split <;> simp

theorem eq_rdropWhile_append (a : List Char) :
    ∃ n, a = a.rdropWhile (fun c => c == '/') ++ List.replicate n '/' := by
  induction a using List.reverseRecOn with
  | nil => exact ⟨0, rfl⟩
  | append_singleton a c ih =>
    by_cases hc : c = '/'
    · obtain ⟨n, hn⟩ := ih
      refine ⟨n + 1, ?_⟩
      rw [List.rdropWhile_concat_pos _ _ _ (by simp [hc]), List.replicate_succ', ← List.append_assoc, ← hn, hc]
    · exact ⟨0, by rw [List.rdropWhile_concat_neg _ _ _ (by simp [hc])]; simp⟩

theorem below_of_separator {a b r : List Char} (h : b = a.rdropWhile (fun c => c == '/') ++ '/' :: r) :
    b.rdropWhile (fun c => c == '/') = a.rdropWhile (fun c => c == '/') ∨
      below (b.rdropWhile (fun c => c == '/')) (a.rdropWhile (fun c => c == '/')) = true := by
  rw [h, rdropWhile_append, List.rdropWhile_idempotent]
  split
  · exact Or.inl rfl
  · rename_i hne
    right
    obtain ⟨s, hs⟩ := List.rdropWhile_prefix (fun c => c == '/') ('/' :: r)
    cases hr : ('/' :: r).rdropWhile (fun c => c == '/') with
    | nil => rw [hr] at hne; exact absurd rfl hne
    | cons c t =>
      rw [hr, List.cons_append, List.cons.injEq] at hs
      simp [below, hs.1]

theorem mayOverlap_comm (g h : List Char) : mayOverlap g h = mayOverlap h g := by
  unfold mayOverlap
  rw [Bool.eq_iff_iff]
  simp only [Bool.or_eq_true, beq_iff_eq]
  tauto

theorem mayOverlap_false {g h : List Char} (ht : mayOverlap g h = false) :
    globPrefix g ≠ [] ∧ globPrefix g ≠ globPrefix h ∧ below (globPrefix h) (globPrefix g) = false := by
  simp only [mayOverlap, Bool.or_eq_false_iff, List.isEmpty_eq_false_iff, beq_eq_false_iff_ne] at ht
  exact ⟨ht.1.1.1.1, ht.1.1.2, ht.2⟩

/-- **A pair that passes the test and starts alike stops inside a component.** -/
theorem inside_of_starts {g h : List Char} (ht : mayOverlap g h = false) (hgo : goesOn g = true)
    (hpre : stretch g <+: stretch h) : Inside g h := by
  obtain ⟨hne, hpq, hbelow⟩ := mayOverlap_false ht
  obtain ⟨s, hs⟩ := hpre
  -- a separator after the cut of `g` would make the test true
  have hsep : ∀ r, stretch h ≠ globPrefix g ++ '/' :: r := by
    intro r he
    rcases below_of_separator he with h1 | h1
    · exact hpq h1.symm
    · rw [globPrefix, globPrefix] at hbelow
      rw [hbelow] at h1
      cases h1
  have hnil : stretch g ≠ [] := fun he => hne (by rw [globPrefix, he]; rfl)
  obtain ⟨n, hn⟩ := eq_rdropWhile_append (stretch g)
  have hzero : n = 0 := by
    cases n with
    | zero => rfl
    | succ n =>
      refine absurd ?_ (hsep (List.replicate n '/' ++ s))
      rw [← hs, globPrefix]
      conv => lhs; rw [hn]
      simp [List.replicate_succ]
  have hcut : globPrefix g = stretch g := by
    rw [hzero, List.replicate_zero, List.append_nil] at hn
    exact hn.symm
  have hlast : (stretch g).getLast? ≠ some '/' := by
    intro he
    obtain ⟨a, ha⟩ := List.getLast?_eq_some_iff.1 he
    rw [globPrefix, ha, List.rdropWhile_concat_pos _ _ _ (by simp)] at hcut
    have hlen := (List.rdropWhile_prefix (fun c => c == '/') a).length_le
    rw [hcut, List.length_append, List.length_singleton] at hlen
    omega
  cases s with
  | nil =>
    rw [List.append_nil] at hs
    exact absurd (by rw [globPrefix, globPrefix, hs]) hpq
  | cons c rest =>
    refine ⟨hgo, hnil, hlast, c, rest, hs.symm, ?_⟩
    rintro rfl
    exact hsep rest (by rw [hcut, hs])

theorem told_iff_not_reaches {g h : List Char} (ht : mayOverlap g h = false) (hg : '\\' ∉ g) (hh : '\\' ∉ h) :
    Told g h ↔ ¬ Reaches g h ∧ ¬ Reaches h g := by
  -- without dots, a pair that reaches and passes stops inside a component
  have hin : ∀ {g h : List Char}, mayOverlap g h = false → dotted g = false → dotted h = false → ¬ Inside g h →
      ¬ Reaches g h := by
    intro g h ht hdg hdh hni hr
    unfold Reaches at hr
    rw [trimDotSlash_of_not_dotted hdg, trimDotSlash_of_not_dotted hdh] at hr
    rcases hr.2 with hgo | he
    · exact hni (inside_of_starts ht hgo hr.1)
    · exact (mayOverlap_false ht).2.1 (by rw [globPrefix, globPrefix, he])
  constructor
  · intro hT
    by_cases hd : dotted g = true ∨ dotted h = true
    · exact hT.dots hd
    · rw [not_or, Bool.not_eq_true, Bool.not_eq_true] at hd
      obtain ⟨h1, h2⟩ := hT.inside hd.1 hd.2
      exact ⟨hin ht hd.1 hd.2 h1, hin (mayOverlap_comm g h ▸ ht) hd.2 hd.1 h2⟩
  · rintro ⟨h1, h2⟩
    exact ⟨⟨hg, hh⟩, fun hdg hdh => ⟨fun hi => h1 (inside_reaches hdg hdh hi), fun hi => h2 (inside_reaches hdh hdg hi)⟩,
      fun _ => ⟨h1, h2⟩⟩

theorem not_shares_of_told {g h : List Char} (ht : mayOverlap g h = false) (hT : Told g h) : ¬ Shares g h := by
  obtain ⟨h1, h2⟩ := (told_iff_not_reaches ht hT.unescaped.1 hT.unescaped.2).1 hT
  exact not_shares_of_not_reaches h1 h2

/-! ## What the test cannot see

It reads the stretch of a pattern and nothing after it.  The widest pattern with the same stretch ends in `*`. -/

def SameLead (g g' : List Char) : Prop := stretch g = stretch g' ∧ goesOn g = goesOn g'

def widest (g : List Char) : List Char := if goesOn g then stretch g ++ ['*'] else g

theorem reaches_of_sameLead {g h g' h' : List Char} (hg : SameLead g g') (hh : SameLead h h') (hr : Reaches g' h') :
    Reaches g h := by
  unfold Reaches at hr ⊢
  rw [stretch_trim, stretch_trim] at hr ⊢
  rw [hg.1, hg.2, hh.1]
  exact hr

theorem sameLead_widest (g : List Char) : SameLead g (widest g) := by
  unfold widest
  cases hgo : goesOn g with
  | false => exact ⟨rfl, rfl⟩
  | true =>
    rw [if_pos rfl]
    refine ⟨(stretch_star (stretch_free g)).symm, ?_⟩
    rw [hgo]
    simp [goesOn, special]

theorem trimDotSlash_star (a : List Char) : trimDotSlash (a ++ ['*']) = trimDotSlash a ++ ['*'] := by
  fun_induction trimDotSlash a with
  | case1 cs ih => rw [List.cons_append, List.cons_append, trimDotSlash, ih]
  | case2 a ha =>
    apply trimDotSlash_eq_self
    intro cs he
    match a, ha, he with
    | [], _, he => cases he
    | [_], _, he => cases he
    | _ :: _ :: a, ha, he =>
      simp only [List.cons_append, List.cons.injEq] at he
      obtain ⟨rfl, rfl, -⟩ := he
      exact ha a rfl

theorem widest_trim (g : List Char) :
    trimDotSlash (widest g) = stretch (trimDotSlash g) ++ if goesOn g then ['*'] else [] := by
  unfold widest
  cases hgo : goesOn g with
  | false =>
    rw [if_neg Bool.false_ne_true, if_neg Bool.false_ne_true, List.append_nil, stretch_eq_of_free]
    rw [goesOn_trim, hgo]
  | true => rw [if_pos rfl, if_pos rfl, trimDotSlash_star, stretch_trim]

theorem widest_matches {g : List Char} {s : List Char} (h : goesOn g = true ∨ s = []) :
    matchesPath (trimDotSlash (widest g)) (stretch (trimDotSlash g) ++ s) = true := by
  rw [widest_trim]
  cases hgo : goesOn g with
  | true => exact Glob.matchesPath_text_star _ s (stretch_literal _)
  | false =>
    have hs : s = [] := h.resolve_left (by simp [hgo])
    rw [hs, if_neg Bool.false_ne_true]
    exact (Glob.matchesPath_text _ _ (by rw [List.append_nil]; exact stretch_literal _)).2 rfl

/-- **The widest patterns of a pair that reaches share a path**: the stretch reached. -/
theorem shares_widest {g h : List Char} (hr : Reaches g h) : Shares (widest g) (widest h) := by
  obtain ⟨⟨s, hs⟩, hgo⟩ := hr
  refine ⟨stretch (trimDotSlash h), hs ▸ widest_matches (hgo.imp id fun he => ?_), ?_⟩
  · rw [← hs] at he
    simpa using he.symm
  · have := widest_matches (g := h) (s := []) (Or.inr rfl)
    rwa [List.append_nil] at this

/-! ## Admitted patterns -/

theorem trim_isEmpty_false {s : String} {c : Char} (hc : c ∈ s.toList) (hw : Session.isWhitespace c = false) :
    (Session.trim s).isEmpty = false := by
  have hdrop : ∀ {l : List Char}, c ∈ l → c ∈ l.dropWhile Session.isWhitespace := by
    intro l hl
    rw [← List.takeWhile_append_dropWhile (p := Session.isWhitespace) (l := l), List.mem_append] at hl
    rcases hl with hl | hl
    · have := List.all_eq_true.1 (List.all_takeWhile (l := l) (p := Session.isWhitespace)) c hl
      rw [hw] at this
      cases this
    · exact hl
  have hmem : c ∈ (Session.trim s).toList := by
    unfold Session.trim
    rw [String.toList_ofList, List.mem_reverse]
    exact hdrop (List.mem_reverse.2 (hdrop hc))
  cases he : (Session.trim s).isEmpty with
  | false => rfl
  | true =>
    rw [String.isEmpty_iff.1 he] at hmem
    simp at hmem

theorem validRepoGlob_iff (g : String) : validRepoGlob g = true ↔
    (Session.trim g).isEmpty = false ∧ g.toList.head? ≠ some '/' ∧ g.toList.head? ≠ some '-' ∧
      (∀ c ∈ g.toList, c ≠ '\x00' ∧ c ≠ '\n' ∧ c ≠ '\r') ∧
      ∀ s ∈ g.toList.splitOn '/', s ≠ ['.', '.'] ∧ s ≠ [] := by
  simp [validRepoGlob, and_assoc]

theorem last_component (a : List Char) : '/' ∉ a ∨ ∃ u w, a = u ++ '/' :: w ∧ '/' ∉ w := by
  induction a using List.reverseRecOn with
  | nil => exact Or.inl (by simp)
  | append_singleton a c ih =>
    by_cases hc : c = '/'
    · exact Or.inr ⟨a, [], by rw [hc], by simp⟩
    · rcases ih with h | ⟨u, w, rfl, hw⟩
      · exact Or.inl (by simp [h, Ne.symm hc])
      · exact Or.inr ⟨u, w ++ [c], by simp, by simp [hw, Ne.symm hc]⟩

theorem components_star {a b : List Char} (h : ∀ s ∈ (a ++ b).splitOn '/', s ≠ ['.', '.'] ∧ s ≠ []) :
    ∀ s ∈ (a ++ ['*']).splitOn '/', s ≠ ['.', '.'] ∧ s ≠ [] := by
  have hlast : ∀ w : List Char, '/' ∉ w → ∀ s ∈ (w ++ ['*']).splitOn '/', s ≠ ['.', '.'] ∧ s ≠ [] := by
    intro w hw s hs
    rw [List.splitOn_eq_singleton (by simp [hw]), List.mem_singleton] at hs
    subst hs
    refine ⟨fun he => ?_, by simp⟩
    have : '*' ∈ ['.', '.'] := he ▸ (by simp)
    simp at this
  rcases last_component a with ha | ⟨u, w, rfl, hw⟩
  · exact hlast a ha
  · intro s hs
    rw [List.append_assoc, List.cons_append, List.splitOn_append_cons_self] at hs h
    rcases List.mem_append.1 hs with hs | hs
    · exact h s (List.mem_append.2 (Or.inl hs))
    · exact hlast w hw s hs

theorem valid_widest {g : String} (hv : validRepoGlob g = true) :
    validRepoGlob (String.ofList (widest g.toList)) = true := by
  unfold widest
  cases hgo : goesOn g.toList with
  | false =>
    rw [if_neg Bool.false_ne_true, String.ofList_toList]
    exact hv
  | true =>
    rw [if_pos rfl]
    obtain ⟨-, hslash, hdash, hchars, hcomp⟩ := (validRepoGlob_iff g).1 hv
    rw [validRepoGlob_iff, String.toList_ofList]
    have hhead : ∀ c, g.toList.head? ≠ some c → c ≠ '*' → (stretch g.toList ++ ['*']).head? ≠ some c := by
      intro c hc hne
      have happ := stretch_append g.toList
      cases ha : stretch g.toList with
      | nil => simpa using Ne.symm hne
      | cons d a =>
        rw [ha] at happ
        rw [happ] at hc
        simpa using hc
    refine ⟨trim_isEmpty_false (c := '*') (by simp) (by decide), hhead _ hslash (by decide), hhead _ hdash (by decide),
      fun c hc => ?_, ?_⟩
    · rcases List.mem_append.1 hc with hc | hc
      · exact hchars c ((List.takeWhile_prefix _).subset hc)
      · rw [List.mem_singleton.1 hc]
        decide
    · rw [stretch_append g.toList] at hcomp
      exact components_star hcomp

/-! ## Plans -/

def ForeignPair (tasks : List Packet) (g h : String) : Prop :=
  ∃ t ∈ tasks, ∃ u ∈ tasks, t.taskId ≠ u.taskId ∧ g ∈ t.ownedPaths ∧ h ∈ u.ownedPaths

def Disjoint (tasks : List Packet) : Prop := ∀ g h, ForeignPair tasks g h → ¬ Shares g.toList h.toList

theorem foreignPair_passes {tasks : List Packet} (hc : Checked tasks) {g h : String} (hp : ForeignPair tasks g h) :
    repoGlobsMayOverlap g h = false := by
  obtain ⟨t, ht, u, hu, hne, hg, hh⟩ := hp
  have hsymm : Std.Symm (fun left right : Packet => ∀ g ∈ left.ownedPaths, ∀ h ∈ right.ownedPaths,
      repoGlobsMayOverlap g h = false) := by
    refine ⟨fun left right hlr g hg h hh => ?_⟩
    have := hlr h hh g hg
    unfold repoGlobsMayOverlap at this ⊢
    rw [mayOverlap_comm]
    exact this
  exact hc.custody.forall ht hu (fun he => hne (by rw [he])) g hg h hh

/-- **A validated plan whose foreign pairs are told has disjoint custody**; and among admitted patterns that pass the
test, a pair is told exactly when no admitted patterns with the same leads share a path. -/
theorem validated_custody_disjoint (baseSha : String) (profile : RepositoryProfile) (plan : PacketPlan)
    (h : validatePlan baseSha profile plan = .ok ()) :
    ((∀ g h, ForeignPair plan.tasks g h → Told g.toList h.toList) → Disjoint plan.tasks) ∧
    ∀ g h : String, validRepoGlob g = true → validRepoGlob h = true → '\\' ∉ g.toList → '\\' ∉ h.toList →
      repoGlobsMayOverlap g h = false →
      (Told g.toList h.toList ↔ ∀ g' h' : String, validRepoGlob g' = true → validRepoGlob h' = true →
        SameLead g.toList g'.toList → SameLead h.toList h'.toList → ¬ Shares g'.toList h'.toList) := by
  refine ⟨fun hT g k hp => ?_, fun g h hg hh heg heh ht => ?_⟩
  · exact not_shares_of_told (foreignPair_passes (validateTasks_ok (validatePlan_ok h).1) hp) (hT g k hp)
  · rw [told_iff_not_reaches ht heg heh]
    constructor
    · rintro ⟨h1, h2⟩ g' h' - - hg' hh'
      exact not_shares_of_not_reaches (fun hr => h1 (reaches_of_sameLead hg' hh' hr))
        (fun hr => h2 (reaches_of_sameLead hh' hg' hr))
    · intro hall
      have hwide := hall (String.ofList (widest g.toList)) (String.ofList (widest h.toList)) (valid_widest hg)
        (valid_widest hh) (by rw [String.toList_ofList]; exact sameLead_widest _)
        (by rw [String.toList_ofList]; exact sameLead_widest _)
      rw [String.toList_ofList, String.toList_ofList] at hwide
      exact ⟨fun hr => hwide (shares_widest hr), fun hr => hwide (Lease.shares_symm (shares_widest hr))⟩

def twoPatterns (g h : String) : PacketPlan := slicePlan [packet "A" [] [g], packet "B" [] [h]]

theorem foreignPair_twoPatterns {g h g' h' : String} (hp : ForeignPair (twoPatterns g h).tasks g' h') :
    g' = g ∧ h' = h ∨ g' = h ∧ h' = g := by
  obtain ⟨t, ht, u, hu, hne, hg, hh⟩ := hp
  simp only [twoPatterns, slicePlan, List.mem_cons, List.not_mem_nil, or_false] at ht hu
  rcases ht with rfl | rfl <;> rcases hu with rfl | rfl
  · exact absurd rfl hne
  · exact Or.inl ⟨List.mem_singleton.1 hg, List.mem_singleton.1 hh⟩
  · exact Or.inr ⟨List.mem_singleton.1 hg, List.mem_singleton.1 hh⟩
  · exact absurd rfl hne

theorem told_of_undotted {g h : List Char} (hd : dotted g = false ∧ dotted h = false) (hg : '\\' ∉ g) (hh : '\\' ∉ h)
    (hpre : ¬ stretch g <+: stretch h ∧ ¬ stretch h <+: stretch g) : Told g h := by
  refine ⟨⟨hg, hh⟩, fun _ _ => ⟨fun hi => ?_, fun hi => ?_⟩, fun hor => ?_⟩
  · obtain ⟨-, -, -, c, rest, he, -⟩ := hi
    exact hpre.1 (he ▸ List.prefix_append _ _)
  · obtain ⟨-, -, -, c, rest, he, -⟩ := hi
    exact hpre.2 (he ▸ List.prefix_append _ _)
  · rw [hd.1, hd.2] at hor
    rcases hor with h | h <;> cases h

theorem validated_custody_disjoint_twoPatterns :
    validatePlan "base" rustProfile (twoPatterns "src/*" "docs/a.rs") = .ok () ∧
      Disjoint (twoPatterns "src/*" "docs/a.rs").tasks := by
  have hv : validatePlan "base" rustProfile (twoPatterns "src/*" "docs/a.rs") = .ok () := by decide +kernel
  refine ⟨hv, (validated_custody_disjoint _ _ _ hv).1 (fun g h hp => ?_)⟩
  rcases foreignPair_twoPatterns hp with ⟨rfl, rfl⟩ | ⟨rfl, rfl⟩
  · exact told_of_undotted (by decide +kernel) (by decide +kernel) (by decide +kernel) (by decide +kernel)
  · exact told_of_undotted (by decide +kernel) (by decide +kernel) (by decide +kernel) (by decide +kernel)

theorem not_disjoint_twoPatterns {g h : String} {p : List Char} (hg : matchesPath (trimDotSlash g.toList) p = true)
    (hh : matchesPath (trimDotSlash h.toList) p = true) : ¬ Disjoint (twoPatterns g h).tasks := by
  intro hd
  refine hd g h ⟨packet "A" [] [g], by simp [twoPatterns, slicePlan], packet "B" [] [h], by simp [twoPatterns, slicePlan],
    by simp [packet], ?_, ?_⟩ ⟨p, hg, hh⟩
  · exact List.mem_singleton.2 rfl
  · exact List.mem_singleton.2 rfl

/-- Two validated plans whose tasks both own a path: a `*` inside a component, and a pattern spelled with `./`. -/
theorem validated_custody_shared :
    (validatePlan "base" rustProfile (twoPatterns "src/ab*" "src/abc.rs") = .ok () ∧
      ¬ Disjoint (twoPatterns "src/ab*" "src/abc.rs").tasks) ∧
    (validatePlan "base" rustProfile (twoPatterns "./src/a.rs" "src/a.rs") = .ok () ∧
      ¬ Disjoint (twoPatterns "./src/a.rs" "src/a.rs").tasks) :=
  ⟨⟨by decide +kernel, not_disjoint_twoPatterns (p := "src/abc.rs".toList) (by decide +kernel) (by decide +kernel)⟩,
    ⟨by decide +kernel, not_disjoint_twoPatterns (p := "src/a.rs".toList) (by decide +kernel) (by decide +kernel)⟩⟩

end Plan
end Bildr
