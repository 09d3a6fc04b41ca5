import Bildr.ContextSources
import Bildr.Trace
/-!
# ContextScope — what an investigation reads is in its scope

The compiler admits a candidate by its spelling and reads the file of its normalized path.  Every source it includes is
in the scope exactly when no admitted candidate is read under a path that is out of it (`investigation_reads_in_scope`).
-/
namespace Bildr
namespace Context

open Plan (Packet InvestigationScope)

/-! ## The scope -/

def MatchesAny (newGlob : NewGlob) (patterns : List String) (path : String) : Prop :=
  ∃ pattern ∈ patterns, ∃ glob, newGlob pattern = .ok glob ∧ glob path = true

structure InScope (newGlob : NewGlob) (scope : InvestigationScope) (path : String) : Prop where
  owned : MatchesAny newGlob scope.ownedReadPaths path
  forbidden : ¬ MatchesAny newGlob scope.forbiddenPaths path

/-! ## What is selected -/

theorem mem_selected (admitted : String → Bool) (all : List Candidate) (c : Candidate) :
    c ∈ all.foldl (push admitted) [] ↔ admitted c.path = true ∧ all.find? (fun d => d.path == c.path) = some c := by
  induction all using List.reverseRecOn generalizing c with
  | nil => simp
  | append_singleton all d ih =>
    rw [List.foldl_append, List.foldl_cons, List.foldl_nil, List.find?_append]
    generalize hbefore : all.foldl (push admitted) [] = before at ih ⊢
    unfold push
    cases hfind : all.find? (fun e => e.path == c.path) with
    | some e =>
      -- the path was there, so what `d` adds has another one
      have hpath : e.path = c.path := by
        have hfound := List.find?_some hfind
        exact beq_iff_eq.1 hfound
      rw [Option.some_or]
      split
      · rename_i hnew
        rw [Bool.and_eq_true, Bool.not_eq_true', List.any_eq_false] at hnew
        rw [List.mem_append, List.mem_singleton, ih c, hfind]
        refine ⟨fun h => h.resolve_right (fun hc => ?_), Or.inl⟩
        have he : e ∈ before := by
          rw [ih e, hpath, hc]
          exact ⟨hnew.1, hc ▸ hfind⟩
        refine hnew.2 e he ?_
        rw [hpath, hc]
        exact beq_self_eq_true _
      · rw [ih c, hfind]
    | none =>
      have hother : ∀ e ∈ all, e.path ≠ c.path := fun e he => by simpa using List.find?_eq_none.1 hfind e he
      have hout : c ∉ before := fun hc => by
        rw [ih c, hfind] at hc
        cases hc.2
      rw [Option.none_or]
      by_cases hd : d = c
      · subst hd
        have hnone : before.any (fun e => e.path == d.path) = false := by
          rw [List.any_eq_false]
          intro e he heq
          exact hother e (List.mem_of_find?_eq_some ((ih e).1 he).2) (beq_iff_eq.1 heq)
        rw [hnone]
        simp only [Bool.not_false, Bool.and_true, List.find?_cons, beq_self_eq_true]
        by_cases ha : admitted d.path = true
        · simp [ha]
        · simp [ha, hout]
      · have hfirst : ¬ [d].find? (fun e => e.path == c.path) = some c := fun h =>
          hd (List.mem_singleton.1 (List.mem_of_find?_eq_some h)).symm
        split
        · simp only [List.mem_append, List.mem_singleton, hout, Ne.symm hd, hfirst, or_self, and_false]
        · simp only [hout, hfirst, and_false]

/-! ## What is included -/

section Sources
variable {trackable : String → Bool} {x : Texts} {compiler : ContextCompiler} {profile : RepositoryProfile}
  {repository : Repository trackable} {tracked : List String}

/-- A source is one more, under the path that was read; it is included only if it is tracked and not left out by its
name. -/
structure Added (tracked : List String) (s s' : Compiling) (c : Candidate) (path : String) (source : ContextSource) :
    Prop where
  sources : s'.sources = s.sources ++ [source]
  read : source.path = path
  known : source.included = true → path ∈ tracked ∧ excludedByName path c.promoted = none

theorem addInstruction_keeps (s : Compiling) (c : Candidate) (path sha256 : String) :
    (addInstruction s c path sha256).sources = s.sources ∧
      (addInstruction s c path sha256).includedBytes = s.includedBytes := by
  unfold addInstruction
  split <;> exact ⟨rfl, rfl⟩

theorem addText_added (s : Compiling) (c : Candidate) {path : String} (bytes : Bytes) (ht : path ∈ tracked)
    (hn : excludedByName path c.promoted = none) :
    ∃ source, Added tracked s (addText x compiler profile s c path bytes) c path source := by
  have hsources := (addInstruction_keeps s c path (x.sha256 bytes)).1
  unfold addText
  dsimp only
  split
  · exact ⟨_, congrArg (· ++ _) hsources, rfl, fun _ => ⟨ht, hn⟩⟩
  · split
    · exact ⟨_, congrArg (· ++ _) hsources, rfl, fun _ => ⟨ht, hn⟩⟩
    · exact ⟨_, congrArg (· ++ _) hsources, rfl, fun _ => ⟨ht, hn⟩⟩

theorem addSource_added {s s' : Compiling} {c : Candidate}
    (h : addSource x compiler profile repository tracked s c = .ok s') :
    ∃ path source, normalizeRelative c.path = .ok path ∧ Added tracked s s' c path source := by
  unfold addSource at h
  obtain ⟨path, hpath, h⟩ := bind_ok h
  refine ⟨path, ?_⟩
  have hleft : ∀ reason, ∃ source, normalizeRelative c.path = .ok path ∧
      Added tracked s (s.push (excludedSource path c.kind reason)) c path source :=
    fun reason => ⟨_, hpath, rfl, rfl, fun hi => (by cases hi)⟩
  split at h
  · cases h
    exact hleft _
  · rename_i ht
    have ht : path ∈ tracked := by simpa using ht
    cases hn : excludedByName path c.promoted with
    | some reason =>
      rw [hn] at h
      cases h
      exact hleft _
    | none =>
      rw [hn] at h
      unfold addFile at h
      obtain ⟨entry, -, h⟩ := bind_ok h
      split at h
      · cases h
        exact hleft _
      · split at h
        · cases h
          exact ⟨_, hpath, rfl, rfl, fun hi => (by cases hi)⟩
        · obtain ⟨bytes, -, h⟩ := bind_ok h
          split at h
          · cases h
            exact ⟨_, hpath, rfl, rfl, fun hi => (by cases hi)⟩
          · cases h
            obtain ⟨source, hadded⟩ := addText_added s c bytes ht hn
            exact ⟨source, hpath, hadded⟩

theorem included_selected {selected : List Candidate} {s : Compiling}
    (h : selected.foldlM (addSource x compiler profile repository tracked) ⟨[], 0, []⟩ = .ok s) :
    ∀ source ∈ s.sources, source.included = true → ∃ c ∈ selected,
      normalizeRelative c.path = .ok source.path ∧ source.path ∈ tracked ∧
        excludedByName source.path c.promoted = none := by
  refine Trace.foldlM_invariant (fun s : Compiling => ∀ source ∈ s.sources, source.included = true → ∃ c ∈ selected,
    normalizeRelative c.path = .ok source.path ∧ source.path ∈ tracked ∧ excludedByName source.path c.promoted = none)
    (fun c hc s s' hs hadd => ?_) (fun source hsource => by cases hsource) h
  obtain ⟨path, source, hpath, hadded⟩ := addSource_added hadd
  intro q hq hi
  rw [hadded.sources] at hq
  rcases List.mem_append.1 hq with hq | hq
  · exact hs q hq hi
  · obtain rfl := List.mem_singleton.1 hq
    obtain ⟨ht, hn⟩ := hadded.known hi
    rw [← hadded.read] at ht hn hpath
    exact ⟨c, hc, hpath, ht, hn⟩

theorem foldlM_normalizes {selected : List Candidate} : ∀ {s s' : Compiling},
    selected.foldlM (addSource x compiler profile repository tracked) s = .ok s' →
      ∀ c ∈ selected, ∃ path, normalizeRelative c.path = .ok path := by
  induction selected with
  | nil => exact fun _ c hc => by cases hc
  | cons d selected ih =>
    intro s s' h c hc
    rw [List.foldlM_cons] at h
    obtain ⟨s₁, hstep, h⟩ := bind_ok h
    rcases List.mem_cons.1 hc with rfl | hc
    · obtain ⟨path, -, hpath, -⟩ := addSource_added hstep
      exact ⟨path, hpath⟩
    · exact ih h c hc

end Sources

/-! ## A checkout of one file -/

section Lone
variable {trackable : String → Bool} (x : Texts) (compiler : ContextCompiler) (profile : RepositoryProfile)

def loneFile (path : String) (ht : trackable path = true) : Repository trackable where
  head := .ok ""
  files := .ok [path]
  entry p := if p = path then some ⟨false, 0, .ok []⟩ else none
  tracked h p hp := by
    cases h
    rw [List.mem_singleton.1 hp]
    exact ht

theorem buildRepositoryMap_lone (path : String) (ht : trackable path = true) :
    ∃ map, buildRepositoryMap compiler (loneFile path ht) [path] = .ok map := by
  unfold buildRepositoryMap
  rw [List.foldlM_cons]
  unfold mapFile
  dsimp only
  split
  · exact ⟨_, rfl⟩
  · rw [show (loneFile path ht).entry path = some ⟨false, 0, .ok []⟩ from if_pos rfl]
    exact ⟨_, rfl⟩

theorem addText_empty {s : Compiling} (hs : s.includedBytes = 0) (c : Candidate) (path : String) :
    ∃ source, (addText x compiler profile s c path []).sources = s.sources ++ [source] ∧
      (addText x compiler profile s c path []).includedBytes = 0 ∧ source.path = path ∧ source.included = true := by
  obtain ⟨hsources, hbytes⟩ := addInstruction_keeps s c path (x.sha256 [])
  rw [hs] at hbytes
  unfold addText
  dsimp only
  split
  · exact ⟨_, congrArg (· ++ _) hsources, hbytes, rfl, rfl⟩
  · split
    · rename_i hfull
      rw [hbytes] at hfull
      exact absurd hfull (Nat.not_lt_zero _)
    · exact ⟨_, congrArg (· ++ _) hsources, hbytes, rfl, rfl⟩

theorem addSource_lone {path : String} (ht : trackable path = true) {s : Compiling} (hs : s.includedBytes = 0)
    {c : Candidate} {p : String} (hp : normalizeRelative c.path = .ok p) :
    ∃ s' source, addSource x compiler profile (loneFile path ht) [path] s c = .ok s' ∧ s'.includedBytes = 0 ∧
      s'.sources = s.sources ++ [source] ∧
      (p = path → excludedByName path c.promoted = none → source.path = path ∧ source.included = true) := by
  unfold addSource
  rw [hp, ok_bind]
  by_cases hpath : p = path
  · subst hpath
    rw [if_neg (by simp)]
    cases hn : excludedByName p c.promoted with
    | some reason => exact ⟨_, _, rfl, hs, rfl, fun _ h => (by cases h)⟩
    | none =>
      have hfile : addFile x compiler profile (loneFile p ht) s c p = .ok (addText x compiler profile s c p []) := by
        unfold addFile
        rw [show (loneFile p ht).entry p = some ⟨false, 0, .ok []⟩ from if_pos rfl]
        rfl
      obtain ⟨source, hsources, hbytes, hsource, hin⟩ := addText_empty x compiler profile hs c p
      exact ⟨_, source, hfile, hbytes, hsources, fun _ _ => ⟨hsource, hin⟩⟩
  · rw [if_pos (by simpa using hpath)]
    exact ⟨_, _, rfl, hs, rfl, fun h => absurd h hpath⟩

theorem foldlM_lone {path : String} (ht : trackable path = true) : ∀ (selected : List Candidate) {s : Compiling},
    s.includedBytes = 0 → (∀ c ∈ selected, ∃ p, normalizeRelative c.path = .ok p) →
      ∃ s', selected.foldlM (addSource x compiler profile (loneFile path ht) [path]) s = .ok s' ∧
        s.sources <+: s'.sources ∧ ∀ c ∈ selected, normalizeRelative c.path = .ok path →
          excludedByName path c.promoted = none → ∃ source ∈ s'.sources, source.path = path ∧ source.included = true
  | [], s, _, _ => ⟨s, rfl, List.prefix_refl _, fun c hc => by cases hc⟩
  | d :: selected, s, hs, hall => by
    obtain ⟨p, hp⟩ := hall d List.mem_cons_self
    obtain ⟨s₁, source, hstep, hs₁, hsources, hin⟩ := addSource_lone x compiler profile ht hs hp
    obtain ⟨s', hrun, hlonger, hrest⟩ := foldlM_lone ht selected hs₁ (fun c hc => hall c (List.mem_cons_of_mem d hc))
    rw [hsources] at hlonger
    refine ⟨s', ?_, (List.prefix_append _ _).trans hlonger, fun c hc hread hn => ?_⟩
    · rw [List.foldlM_cons, hstep]
      exact hrun
    · rcases List.mem_cons.1 hc with rfl | hc
      · rw [hp] at hread
        exact ⟨source, hlonger.subset (List.mem_append_right _ (List.mem_singleton_self source)),
          hin (Except.ok.inj hread) hn⟩
      · exact hrest c hc hread hn

end Lone

/-! ## Investigations -/

section Investigation
variable (x : Texts) (compiler : ContextCompiler) (newGlob : NewGlob) (trackable : String → Bool) (task : Packet)
  (scope : InvestigationScope) (profile : RepositoryProfile)

/-- Whatever the checkout is, every source that is included is in the scope. -/
def ReadsInScope : Prop :=
  ∀ (repository : Repository trackable) (expectedSha profileDigest : String) (packet : ContextPacket),
    compile x compiler profile repository newGlob expectedSha task profileDigest = .ok packet →
      ∀ source ∈ packet.sources, source.included = true → InScope newGlob scope source.path

/-- A candidate that is admitted as it is spelled, and read under a path that is out of the scope. -/
structure Escapes (m : Matchers) (c : Candidate) (path : String) : Prop where
  admitted : sourceIsAdmitted (some m) c.path = true
  read : normalizeRelative c.path = .ok path
  tracked : trackable path = true
  named : excludedByName path c.promoted = none
  outside : ¬ InScope newGlob scope path

/-- Where the globs compile and every admitted candidate has a path, no first candidate of its spelling escapes. -/
def SpellingsAgree : Prop :=
  ∀ m all, compileScope newGlob scope = .ok m → candidates newGlob task profile = .ok all →
    (∀ c ∈ all, sourceIsAdmitted (some m) c.path = true → ∃ path, normalizeRelative c.path = .ok path) →
      ∀ c, all.find? (fun d => d.path == c.path) = some c → ∀ path, ¬ Escapes newGlob trackable scope m c path

variable {newGlob task scope profile}

theorem selectSources_ok (profile : RepositoryProfile) {selected : List Candidate} (hscope : task.investigationScope = some scope) :
    selectSources newGlob task profile = .ok selected ↔ ∃ m all, compileScope newGlob scope = .ok m ∧
      candidates newGlob task profile = .ok all ∧ selected = all.foldl (push (sourceIsAdmitted (some m))) [] := by
  unfold selectSources
  rw [hscope]
  constructor
  · intro h
    obtain ⟨matchers, hm, h⟩ := bind_ok h
    obtain ⟨all, hall, h⟩ := bind_ok h
    cases hc : compileScope newGlob scope with
    | error e =>
      simp only [Option.mapM_some, hc] at hm
      cases hm
    | ok m =>
      simp only [Option.mapM_some, hc] at hm
      cases hm
      cases h
      exact ⟨m, all, rfl, hall, rfl⟩
  · rintro ⟨m, all, hm, hall, rfl⟩
    simp only [Option.mapM_some, hm, hall]
    rfl

/-- **What an investigation reads is in its scope exactly when the spellings agree**: no candidate is admitted as it is
spelled and read under a path that the scope does not let it read. -/
theorem investigation_reads_in_scope (hscope : task.investigationScope = some scope) :
    ReadsInScope x compiler newGlob trackable task scope profile ↔ SpellingsAgree newGlob trackable task scope profile := by
  constructor
  · intro h m all hm hall hpaths c hfirst path hescapes
    have hselected := (selectSources_ok profile hscope).2 ⟨m, all, hm, hall, rfl⟩
    have hc := (mem_selected (sourceIsAdmitted (some m)) all c).2 ⟨hescapes.admitted, hfirst⟩
    obtain ⟨map, hmap⟩ := buildRepositoryMap_lone compiler path hescapes.tracked
    obtain ⟨s, hrun, -, hin⟩ := foldlM_lone x compiler profile hescapes.tracked
      (all.foldl (push (sourceIsAdmitted (some m))) []) (s := ⟨[], 0, []⟩) rfl (fun d hd => by
        obtain ⟨ha, hd⟩ := (mem_selected _ all d).1 hd
        exact hpaths d (List.mem_of_find?_eq_some hd) ha)
    obtain ⟨source, hsource, hpath, hincluded⟩ := hin c hc hescapes.read hescapes.named
    have hcompiled : ∃ packet, compile x compiler profile (loneFile path hescapes.tracked) newGlob "" task "" = .ok packet ∧
        packet.sources = s.sources := by
      unfold compile
      rw [show (loneFile path hescapes.tracked).head = .ok "" from rfl,
        show (loneFile path hescapes.tracked).files = .ok [path] from rfl]
      simp only [Except.mapError, ok_bind, hmap, hselected, hrun]
      exact ⟨_, rfl, rfl⟩
    obtain ⟨packet, hpacket, hsources⟩ := hcompiled
    have hread := h _ _ _ packet hpacket source (hsources ▸ hsource) hincluded
    rw [hpath] at hread
    exact hescapes.outside hread
  · intro h repository expectedSha profileDigest packet hpacket source hsource hincluded
    unfold compile at hpacket
    obtain ⟨actual, -, hpacket⟩ := bind_ok hpacket
    obtain ⟨_, -, hpacket⟩ := bind_ok hpacket
    obtain ⟨tracked, htracked, hpacket⟩ := bind_ok hpacket
    obtain ⟨map, -, hpacket⟩ := bind_ok hpacket
    obtain ⟨selected, hselected, hpacket⟩ := bind_ok hpacket
    obtain ⟨s, hrun, hpacket⟩ := bind_ok hpacket
    cases hpacket
    obtain ⟨m, all, hm, hall, rfl⟩ := (selectSources_ok profile hscope).1 hselected
    obtain ⟨c, hc, hread, hmem, hn⟩ := included_selected hrun source hsource hincluded
    obtain ⟨ha, hfirst⟩ := (mem_selected _ all c).1 hc
    have hpaths : ∀ d ∈ all, sourceIsAdmitted (some m) d.path = true → ∃ path, normalizeRelative d.path = .ok path := by
      intro d hd had
      -- the first candidate of the spelling was selected
      have hsome : (all.find? (fun e => e.path == d.path)).isSome = true :=
        List.find?_isSome.2 ⟨d, hd, beq_self_eq_true _⟩
      obtain ⟨e, he⟩ := Option.isSome_iff_exists.1 hsome
      have hfound := List.find?_some he
      have hpath : e.path = d.path := beq_iff_eq.1 hfound
      rw [← hpath] at had he ⊢
      exact foldlM_normalizes hrun e ((mem_selected _ all e).2 ⟨had, he⟩)
    have hfiles : repository.files = .ok tracked := mapError_ok.1 htracked
    by_contra hout
    exact h m all hm hall hpaths c hfirst source.path
      ⟨ha, hread, repository.tracked hfiles _ hmem, hn, hout⟩

end Investigation

/-! ## A second spelling -/

def shellGlob : NewGlob := fun pattern => .ok (fun path => Glob.matchesPath pattern.toList path.toList)

/-- A tracked path is spelled one way, and none is in git's own directory. -/
def gitTracks (path : String) : Bool := decide (normalizeRelative path = .ok path) && !(parts path).contains ".git"

def emptyTexts : Texts := ⟨fun _ => "", fun _ => "", fun _ => ""⟩

def defaultCompiler : ContextCompiler := ⟨524288, 2097152⟩

/-- All but `a.md`. -/
def allButOne : InvestigationScope := ⟨["**"], ["a.md"], 1000, 1000⟩

def investigation (scope : InvestigationScope) : Packet where
  taskId := "T"
  title := ""
  priority := ""
  ownerProfile := ""
  reviewerProfile := ""
  dependencyShas := []
  dependsOn := []
  objective := ""
  details := .null
  schema := ""
  executionMode := ""
  executionKind := .investigation
  investigationScope := some scope
  authorityRefs := []
  baseSha := ""
  ownedPaths := []
  forbiddenPaths := []
  reservedSerialPaths := []
  milestones := []
  successCriteria := []
  requiredEvidence := []
  proofLimits := []
  diffBudget := ⟨0, 0⟩
  tokenBudget := 0
  riskFlags := []

/-- A profile whose instructions are one file, under the spelling it is given. -/
def instructedBy (source : String) : RepositoryProfile := ⟨⟨"p", []⟩, [source], [], [], [], []⟩

theorem gitTracks_file : gitTracks "a.md" = true := by decide

theorem compile_second_spelling : ∃ packet,
    compile emptyTexts defaultCompiler (instructedBy "./a.md") (loneFile "a.md" gitTracks_file) shellGlob ""
      (investigation allButOne) "" = .ok packet ∧
    ⟨"a.md", "instruction", some "", 0, true, false, "selected by repository profile", some ""⟩ ∈ packet.sources :=
  ⟨_, rfl, by decide⟩

theorem second_spelling_agrees_iff :
    ReadsInScope emptyTexts defaultCompiler shellGlob gitTracks (investigation allButOne) allButOne (instructedBy "./a.md") ↔
      SpellingsAgree shellGlob gitTracks (investigation allButOne) allButOne (instructedBy "./a.md") :=
  investigation_reads_in_scope emptyTexts defaultCompiler gitTracks rfl

/-- The instruction `./a.md` is admitted, and the forbidden `a.md` is read. -/
theorem second_spelling_escapes :
    ¬ ReadsInScope emptyTexts defaultCompiler shellGlob gitTracks (investigation allButOne) allButOne
      (instructedBy "./a.md") := by
  intro h
  obtain ⟨packet, hpacket, hsource⟩ := compile_second_spelling
  exact (h _ _ _ packet hpacket _ hsource rfl).forbidden ⟨"a.md", by decide, _, rfl, by decide⟩

end Context
end Bildr
