import Bildr.Glob
import Bildr.Projection
import Bildr.Outcome
import Bildr.SortedSet
import Mathlib.Data.List.Lex
import Mathlib.Data.Fin.Basic
import Mathlib.Data.String.Basic
/-!
# DiffCustody — the paths a verified diff is checked on

`verifyDiff` asks git for the paths that differ from the base and for the untracked ones, and sorts each of them by the
globs of the policy.  With `--find-renames` the first listing names a detected rename by its destination alone.  The
commands and the file system are parameters; the listings are what git prints for a base tree and a worktree.  A diff
that is acceptable has every listed path in custody (`listed_in_custody`), so what can be outside is the source of a
rename (`verified_diff_custody`).
-/
namespace Bildr
namespace Git

abbrev Bytes := List (Fin 256)

/-- `String::from_utf8(..).is_ok()`. -/
def isUtf8 (b : Bytes) : Bool := (ByteArray.mk (b.map UInt8.ofFin).toArray).validateUTF8

def textOf (b : Bytes) : String := (String.fromUTF8? (ByteArray.mk (b.map UInt8.ofFin).toArray)).getD ""

inductive GitError
  | io (why : String)
  | command (stderr : String)
  | policy (why : String)
  | protocol (why : String)
deriving DecidableEq, Repr

/-! ## What git compares -/

structure Blob where
  mode : Nat
  content : Bytes
deriving DecidableEq, Repr

/-- A base tree, the tracked paths as they are in the worktree, the untracked paths that are not ignored, and the pairs
git takes for renames: each from a path that is gone to one that is new. -/
structure Checkout where
  base : List (Bytes × Blob)
  work : List (Bytes × Blob)
  untracked : List Bytes
  renames : List (Bytes × Bytes)
  named : ∀ p ∈ base.map Prod.fst ++ work.map Prod.fst ++ untracked, p ≠ [] ∧ 0 ∉ p
  renamed : ∀ q ∈ renames, (base.lookup q.1).isSome = true ∧ work.lookup q.1 = none ∧
    base.lookup q.2 = none ∧ (work.lookup q.2).isSome = true

def Checkout.changes (c : Checkout) : List Bytes :=
  (c.base.map Prod.fst ++ c.work.map Prod.fst).filter (fun p => decide (c.base.lookup p ≠ c.work.lookup p))

def Checkout.isSource (c : Checkout) (p : Bytes) : Bool := c.renames.any (fun q => q.1 == p)

/-- The paths of `git diff --name-only --find-renames`: a rename is named by its destination. -/
def Checkout.diffNames (c : Checkout) : List Bytes := c.changes.filter (fun p => !c.isSource p)

/-- `-z`: every path is ended by a NUL. -/
def zeroEnded (names : List Bytes) : Bytes := names.flatMap (fun p => p ++ [0])

/-- What the other commands and the file system answer, and whether the two listings run. -/
structure Commands where
  root : Except GitError Unit
  headSha : Except GitError String
  status : Except GitError String
  diffRuns : Except GitError Unit
  lsFilesRuns : Except GitError Unit
  staysIn : Bytes → Except GitError Unit
  numstat : Except GitError String
  textLines : Bytes → Except GitError (Option Nat)
  diffCheck : Except GitError String
  patch : Except GitError Bytes
  untrackedPatch : Bytes → Except GitError Bytes

/-! ## Policies and globs -/

structure DiffPolicy where
  ownedPaths : List String
  forbiddenPaths : List String
  serialPaths : List String
  reservedSerialPaths : List String
  maxFiles : Nat
  maxLines : Nat

/-- `Glob::new`: an error text, or what the pattern matches. -/
abbrev NewGlob := String → Except String (Bytes → Bool)

def compileGlobs (newGlob : NewGlob) (patterns : List String) : Except GitError (List (Bytes → Bool)) :=
  patterns.mapM (fun pattern => (newGlob pattern).mapError GitError.policy)

def isMatch (set : List (Bytes → Bool)) (path : Bytes) : Bool := set.any (fun glob => glob path)

structure VerifiedDiff where
  headSha : String
  changedPaths : List Bytes
  additions : Nat
  deletions : Nat
  binaryFiles : List String
  unexpectedPaths : List Bytes
  forbiddenPaths : List Bytes
  serialPaths : List Bytes
  diffCheck : String
  statusPorcelainV2 : String
  patch : Bytes

def VerifiedDiff.acceptable (v : VerifiedDiff) : Bool :=
  (Session.trim v.diffCheck).isEmpty && v.unexpectedPaths.isEmpty && v.forbiddenPaths.isEmpty && v.serialPaths.isEmpty

/-! ## Reading what git prints -/

def utf8Path (part : Bytes) : Except GitError Bytes :=
  if isUtf8 part then .ok part else .error (.policy "Git returned a non-UTF-8 path")

def splitNul (bytes : Bytes) : Except GitError (List Bytes) :=
  ((bytes.splitOn 0).filter (fun part => !part.isEmpty)).mapM utf8Path

def ensureSha (sha : String) : Except GitError Unit :=
  ensure (Improvement.isLowerHex sha 40) (.policy ("not an exact 40-character Git SHA: " ++ sha))

/-- `str::lines` without the empty ones. -/
def linesOf (value : String) : List (List Char) :=
  ((value.toList.splitOn '\n').map (fun line => if line.getLast? = some '\r' then line.dropLast else line)).filter
    (fun line => !line.isEmpty)

/-- `splitn(n, '\t')`. -/
def splitTabs : Nat → List Char → List (List Char)
  | 0, _ => []
  | 1, line => [line]
  | n + 2, line =>
    match line.dropWhile (fun c => c != '\t') with
    | [] => [line]
    | _ :: rest => line.takeWhile (fun c => c != '\t') :: splitTabs (n + 1) rest

def u64Max : Nat := 18446744073709551615

def saturatingAdd (a b : Nat) : Nat := min (a + b) u64Max

/-- `str::parse::<u64>`. -/
def parseU64 (s : List Char) : Option Nat :=
  let digits := match s with | '+' :: ds => ds | ds => ds
  if !digits.isEmpty && digits.all Char.isDigit then
    let n := digits.foldl (fun n c => 10 * n + (c.toNat - '0'.toNat)) 0
    if n ≤ u64Max then some n else none
  else none

structure Numstat where
  additions : Nat
  deletions : Nat
  binary : List String

def numstatLine (s : Numstat) (line : List Char) : Except GitError Numstat := do
  let fields := splitTabs 3 line
  let added := fields.getD 0 ['0']
  let deleted := fields.getD 1 ['0']
  if added = ['-'] ∨ deleted = ['-'] then
    return { s with binary := s.binary ++ [String.ofList (fields.getD 2 [])] }
  else do
    let a ← okOr (parseU64 added) (.protocol ("invalid numstat additions: " ++ String.ofList line))
    let d ← okOr (parseU64 deleted) (.protocol ("invalid numstat deletions: " ++ String.ofList line))
    return { s with additions := saturatingAdd s.additions a, deletions := saturatingAdd s.deletions d }

def parseNumstat (value : String) : Except GitError Numstat := (linesOf value).foldlM numstatLine ⟨0, 0, []⟩

/-! ## The check -/

/-- A `..` component, or a path from the root. -/
def validateRelativeRepoPath (path : Bytes) : Except GitError Unit :=
  ensure (!(path.head? == some 47 || (path.splitOn 47).contains [46, 46]))
    (.policy ("unsafe changed path: " ++ textOf path))

structure Globs where
  owned : List (Bytes → Bool)
  forbidden : List (Bytes → Bool)
  serial : List (Bytes → Bool)
  reservedSerial : List (Bytes → Bool)

structure Findings where
  unexpected : List Bytes
  forbidden : List Bytes
  serial : List Bytes

def classify (io : Commands) (g : Globs) (f : Findings) (path : Bytes) : Except GitError Findings := do
  validateRelativeRepoPath path
  io.staysIn path
  return {
    unexpected := if !isMatch g.owned path then f.unexpected ++ [path] else f.unexpected
    forbidden := if isMatch g.forbidden path then f.forbidden ++ [path] else f.forbidden
    serial := if isMatch g.serial path && !isMatch g.reservedSerial path then f.serial ++ [path] else f.serial }

def countUntracked (io : Commands) (changed : List Bytes) (s : Numstat) (path : Bytes) : Except GitError Numstat :=
  if changed.contains path then do
    match ← io.textLines path with
    | some lines => return { s with additions := saturatingAdd s.additions lines }
    | none => return { s with binary := s.binary ++ [textOf path] }
  else .ok s

def compilePolicy (newGlob : NewGlob) (policy : DiffPolicy) : Except GitError Globs := do
  let owned ← compileGlobs newGlob policy.ownedPaths
  let forbidden ← compileGlobs newGlob policy.forbiddenPaths
  let serial ← compileGlobs newGlob policy.serialPaths
  let reservedSerial ← compileGlobs newGlob policy.reservedSerialPaths
  return ⟨owned, forbidden, serial, reservedSerial⟩

def verifyDiff (newGlob : NewGlob) (io : Commands) (c : Checkout) (baseSha : String) (policy : DiffPolicy) :
    Except GitError VerifiedDiff := do
  ensureSha baseSha
  io.root
  let headSha ← io.headSha
  let status ← io.status
  io.diffRuns
  let named ← splitNul (zeroEnded c.diffNames)
  io.lsFilesRuns
  let untracked ← splitNul (zeroEnded c.untracked)
  let changed := SortedSet.ofList (named ++ untracked)
  let globs ← compilePolicy newGlob policy
  let found ← changed.foldlM (classify io globs) ⟨[], [], []⟩
  let numstat ← io.numstat
  let counted ← parseNumstat numstat
  let counted ← untracked.foldlM (countUntracked io changed) counted
  ensure (decide (changed.length ≤ policy.maxFiles)) (.policy
    ("diff contains " ++ toString changed.length ++ " files; budget is " ++ toString policy.maxFiles))
  ensure (decide (saturatingAdd counted.additions counted.deletions ≤ policy.maxLines)) (.policy
    ("diff contains " ++ toString (saturatingAdd counted.additions counted.deletions) ++
      " changed lines; budget is " ++ toString policy.maxLines))
  let diffCheck ← io.diffCheck
  let patch ← io.patch
  let untrackedPatches ← untracked.mapM io.untrackedPatch
  return {
    headSha := headSha
    changedPaths := changed
    additions := counted.additions
    deletions := counted.deletions
    binaryFiles := SortedSet.ofList counted.binary
    unexpectedPaths := found.unexpected
    forbiddenPaths := found.forbidden
    serialPaths := found.serial
    diffCheck := diffCheck
    statusPorcelainV2 := status
    patch := patch ++ untrackedPatches.flatten }

/-! ## What the listings read as -/

theorem splitOn_zeroEnded : ∀ (names : List Bytes), (∀ p ∈ names, p ≠ [] ∧ 0 ∉ p) →
    (zeroEnded names).splitOn 0 = names ++ [[]]
  | [], _ => rfl
  | p :: names, h => by
    have hp := h p List.mem_cons_self
    have hz : zeroEnded (p :: names) = p ++ 0 :: zeroEnded names := by simp [zeroEnded]
    rw [hz, List.splitOn_append_cons_self, List.splitOn_eq_singleton hp.2,
      splitOn_zeroEnded names (fun q hq => h q (List.mem_cons_of_mem p hq))]
    rfl

theorem mapM_utf8Path : ∀ {l m : List Bytes}, l.mapM utf8Path = .ok m → m = l
  | [], m, h => by
    cases h
    rfl
  | p :: l, m, h => by
    rw [List.mapM_cons] at h
    obtain ⟨b, hb, h⟩ := bind_ok h
    obtain ⟨m', hm, h⟩ := bind_ok h
    cases h
    have hbp : b = p := by
      unfold utf8Path at hb
      split at hb <;> cases hb
      rfl
    rw [hbp, mapM_utf8Path hm]

theorem splitNul_zeroEnded {names m : List Bytes} (hn : ∀ p ∈ names, p ≠ [] ∧ 0 ∉ p)
    (h : splitNul (zeroEnded names) = .ok m) : m = names := by
  unfold splitNul at h
  rw [splitOn_zeroEnded names hn] at h
  rw [mapM_utf8Path h, List.filter_append]
  have hall : names.filter (fun part => !part.isEmpty) = names :=
    List.filter_eq_self.2 (fun p hp => by simpa using (hn p hp).1)
  rw [hall]
  simp

theorem Checkout.named_diff (c : Checkout) : ∀ p ∈ c.diffNames, p ≠ [] ∧ 0 ∉ p := by
  intro p hp
  have hp := (List.mem_filter.1 (List.mem_filter.1 hp).1).1
  exact c.named p (List.mem_append.2 (Or.inl hp))

/-! ## Custody -/

def MatchesAny (newGlob : NewGlob) (patterns : List String) (p : Bytes) : Prop :=
  ∃ pattern ∈ patterns, ∃ glob, newGlob pattern = .ok glob ∧ glob p = true

/-- The path matches an owned glob, no forbidden one, and a serial one only if reserved. -/
structure InCustody (newGlob : NewGlob) (policy : DiffPolicy) (p : Bytes) : Prop where
  owned : MatchesAny newGlob policy.ownedPaths p
  forbidden : ¬ MatchesAny newGlob policy.forbiddenPaths p
  serial : MatchesAny newGlob policy.serialPaths p → MatchesAny newGlob policy.reservedSerialPaths p

theorem isMatch_iff {newGlob : NewGlob} : ∀ {patterns : List String} {set : List (Bytes → Bool)} {p : Bytes},
    compileGlobs newGlob patterns = .ok set → (isMatch set p = true ↔ MatchesAny newGlob patterns p)
  | [], set, p, h => by
    cases h
    simp [isMatch, MatchesAny]
  | pattern :: patterns, set, p, h => by
    unfold compileGlobs at h
    rw [List.mapM_cons] at h
    obtain ⟨glob, hglob, h⟩ := bind_ok h
    obtain ⟨rest, hrest, h⟩ := bind_ok h
    cases h
    have hnew : newGlob pattern = .ok glob := by
      cases hn : newGlob pattern with
      | error e => rw [hn] at hglob; cases hglob
      | ok g => rw [hn] at hglob; cases hglob; rfl
    have ih := isMatch_iff (p := p) (show compileGlobs newGlob patterns = .ok rest from hrest)
    unfold isMatch at ih ⊢
    rw [List.any_cons, Bool.or_eq_true, ih]
    constructor
    · rintro (hg | ⟨q, hq, g, hg, hm⟩)
      · exact ⟨pattern, List.mem_cons_self, glob, hnew, hg⟩
      · exact ⟨q, List.mem_cons_of_mem pattern hq, g, hg, hm⟩
    · rintro ⟨q, hq, g, hg, hm⟩
      rcases List.mem_cons.1 hq with rfl | hq
      · rw [hnew] at hg
        cases hg
        exact Or.inl hm
      · exact Or.inr ⟨q, hq, g, hg, hm⟩

theorem found_cons (q : Bytes → Bool) (found : List Bytes) (p : Bytes) (l : List Bytes) :
    (if q p then found ++ [p] else found) ++ l.filter q = found ++ (p :: l).filter q := by
  rw [List.filter_cons]
  split <;> simp

theorem classify_all {io : Commands} {g : Globs} : ∀ {l : List Bytes} {f f' : Findings},
    l.foldlM (classify io g) f = .ok f' →
    f'.unexpected = f.unexpected ++ l.filter (fun p => !isMatch g.owned p) ∧
    f'.forbidden = f.forbidden ++ l.filter (fun p => isMatch g.forbidden p) ∧
    f'.serial = f.serial ++ l.filter (fun p => isMatch g.serial p && !isMatch g.reservedSerial p)
  | [], f, f', h => by
    cases h
    simp
  | p :: l, f, f', h => by
    rw [List.foldlM_cons] at h
    obtain ⟨f₁, hp, h⟩ := bind_ok h
    obtain ⟨_, -, hp⟩ := bind_ok hp
    obtain ⟨_, -, hp⟩ := bind_ok hp
    cases hp
    obtain ⟨h1, h2, h3⟩ := classify_all h
    rw [h1, h2, h3]
    exact ⟨found_cons (fun p => !isMatch g.owned p) _ p l, found_cons (fun p => isMatch g.forbidden p) _ p l,
      found_cons (fun p => isMatch g.serial p && !isMatch g.reservedSerial p) _ p l⟩

section Verified
variable {newGlob : NewGlob} {io : Commands} {c : Checkout} {baseSha : String} {policy : DiffPolicy} {v : VerifiedDiff}

theorem verifyDiff_ok (h : verifyDiff newGlob io c baseSha policy = .ok v) :
    ∃ globs, compilePolicy newGlob policy = .ok globs ∧ v.changedPaths = SortedSet.ofList (c.diffNames ++ c.untracked) ∧
      v.unexpectedPaths = v.changedPaths.filter (fun p => !isMatch globs.owned p) ∧
      v.forbiddenPaths = v.changedPaths.filter (fun p => isMatch globs.forbidden p) ∧
      v.serialPaths = v.changedPaths.filter (fun p => isMatch globs.serial p && !isMatch globs.reservedSerial p) := by
  obtain ⟨_, -, h⟩ := bind_ok h
  obtain ⟨_, -, h⟩ := bind_ok h
  obtain ⟨_, -, h⟩ := bind_ok h
  obtain ⟨_, -, h⟩ := bind_ok h
  obtain ⟨_, -, h⟩ := bind_ok h
  obtain ⟨named, hnamed, h⟩ := bind_ok h
  obtain ⟨_, -, h⟩ := bind_ok h
  obtain ⟨untracked, huntracked, h⟩ := bind_ok h
  obtain ⟨globs, hglobs, h⟩ := bind_ok h
  obtain ⟨found, hfound, h⟩ := bind_ok h
  obtain ⟨_, -, h⟩ := bind_ok h
  obtain ⟨_, -, h⟩ := bind_ok h
  obtain ⟨_, -, h⟩ := bind_ok h
  obtain ⟨_, -, h⟩ := bind_ok h
  obtain ⟨_, -, h⟩ := bind_ok h
  obtain ⟨_, -, h⟩ := bind_ok h
  obtain ⟨_, -, h⟩ := bind_ok h
  obtain ⟨_, -, h⟩ := bind_ok h
  cases h
  obtain rfl := splitNul_zeroEnded c.named_diff hnamed
  obtain rfl := splitNul_zeroEnded (fun p hp => c.named p (List.mem_append.2 (Or.inr hp))) huntracked
  obtain ⟨h1, h2, h3⟩ := classify_all hfound
  exact ⟨globs, hglobs, rfl, h1, h2, h3⟩

theorem listed_in_custody (h : verifyDiff newGlob io c baseSha policy = .ok v) (ha : v.acceptable = true) {p : Bytes}
    (hp : p ∈ c.diffNames ∨ p ∈ c.untracked) : InCustody newGlob policy p := by
  obtain ⟨globs, hglobs, hchanged, hun, hfo, hse⟩ := verifyDiff_ok h
  have hmem : p ∈ v.changedPaths := by
    rw [hchanged, SortedSet.mem_ofList, List.mem_append]
    exact hp
  simp only [VerifiedDiff.acceptable, Bool.and_eq_true, List.isEmpty_iff] at ha
  obtain ⟨⟨⟨-, hun0⟩, hfo0⟩, hse0⟩ := ha
  rw [hun, List.filter_eq_nil_iff] at hun0
  rw [hfo, List.filter_eq_nil_iff] at hfo0
  rw [hse, List.filter_eq_nil_iff] at hse0
  obtain ⟨owned, ho, hglobs⟩ := bind_ok hglobs
  obtain ⟨forbidden, hf, hglobs⟩ := bind_ok hglobs
  obtain ⟨serial, hs, hglobs⟩ := bind_ok hglobs
  obtain ⟨reserved, hr, hglobs⟩ := bind_ok hglobs
  cases hglobs
  refine ⟨(isMatch_iff ho).1 (by simpa using hun0 p hmem), fun hm => hfo0 p hmem ((isMatch_iff hf).2 hm), fun hm => ?_⟩
  have hboth := hse0 p hmem
  rw [(isMatch_iff hs).2 hm] at hboth
  exact (isMatch_iff hr).1 (by simpa using hboth)

theorem source_changed {q : Bytes × Bytes} (hq : q ∈ c.renames) : q.1 ∈ c.changes := by
  obtain ⟨hb, hw, -, -⟩ := c.renamed q hq
  obtain ⟨blob, hblob⟩ := Option.isSome_iff_exists.1 hb
  refine List.mem_filter.2 ⟨List.mem_append.2 (Or.inl ?_), ?_⟩
  · obtain ⟨l₁, l₂, hl, -⟩ := List.lookup_eq_some_iff.1 hblob
    rw [hl]
    simp
  · rw [hblob, hw]
    simp

/-- **An acceptable diff has every changed path in custody exactly when the sources of the detected renames are.** -/
theorem verified_diff_custody (h : verifyDiff newGlob io c baseSha policy = .ok v) (ha : v.acceptable = true) :
    (∀ p, p ∈ c.changes ∨ p ∈ c.untracked → InCustody newGlob policy p) ↔
      ∀ q ∈ c.renames, InCustody newGlob policy q.1 := by
  constructor
  · exact fun hall q hq => hall q.1 (Or.inl (source_changed hq))
  · intro hsources p hp
    rcases hp with hp | hp
    · cases hs : c.isSource p with
      | true =>
        obtain ⟨q, hq, he⟩ := List.any_eq_true.1 hs
        exact (beq_iff_eq.1 he) ▸ hsources q hq
      | false => exact listed_in_custody h ha (Or.inl (List.mem_filter.2 ⟨hp, by rw [hs]; rfl⟩))
    · exact listed_in_custody h ha (Or.inr hp)

end Verified

/-! ## Two checkouts -/

def bytesOf (s : String) : Bytes := s.toUTF8.data.toList.map UInt8.toFin

def asciiGlob : NewGlob := fun pattern =>
  match Glob.parse pattern.toList with
  | none      => .error "error parsing glob"
  | some alts => .ok (fun path => alts.any (fun ts => Glob.matchToks ts (path.map (fun b => Char.ofNat b.val))))

/-- Commands that succeed, on a worktree without links and an empty `--check`. -/
def quietCommands : Commands where
  root := .ok ()
  headSha := .ok "head"
  status := .ok ""
  diffRuns := .ok ()
  lsFilesRuns := .ok ()
  staysIn := fun _ => .ok ()
  numstat := .ok "1\t1\tsrc/key"
  textLines := fun _ => .ok (some 1)
  diffCheck := .ok ""
  patch := .ok []
  untrackedPatch := fun _ => .ok []

/-- One file is moved to `src/key`, and git sees the rename. -/
def moved (source : String) (hs : bytesOf source ≠ [] ∧ 0 ∉ bytesOf source) (hne : bytesOf source ≠ bytesOf "src/key") :
    Checkout where
  base := [(bytesOf source, ⟨33188, [1]⟩)]
  work := [(bytesOf "src/key", ⟨33188, [1]⟩)]
  untracked := []
  renames := [(bytesOf source, bytesOf "src/key")]
  named := by
    intro p hp
    simp only [List.map_cons, List.map_nil, List.append_nil, List.cons_append, List.nil_append, List.mem_cons,
      List.not_mem_nil, or_false] at hp
    rcases hp with rfl | rfl
    · exact hs
    · decide
  renamed := by
    intro q hq
    rw [List.mem_singleton.1 hq]
    have h1 : (bytesOf source == bytesOf "src/key") = false := beq_false_of_ne hne
    have h2 : (bytesOf "src/key" == bytesOf source) = false := beq_false_of_ne (Ne.symm hne)
    simp [List.lookup_cons, h1, h2]

def srcPolicy : DiffPolicy := ⟨["src/**"], ["secret/**"], [], [], 10, 100⟩

def baseCommit : String := "0123456789abcdef0123456789abcdef01234567"

def movedInside : Checkout := moved "src/old" (by decide) (by decide)

def movedOut : Checkout := moved "secret/key" (by decide) (by decide)

def accepts (r : Except GitError VerifiedDiff) : Bool :=
  match r with
  | .ok v    => v.acceptable
  | .error _ => false

theorem exists_of_accepts {r : Except GitError VerifiedDiff} (h : accepts r = true) :
    ∃ v, r = .ok v ∧ v.acceptable = true := by
  cases r with
  | ok v => exact ⟨v, rfl, h⟩
  | error e => cases h

def anyMatch (newGlob : NewGlob) (patterns : List String) (p : Bytes) : Bool :=
  patterns.any (fun pattern => (newGlob pattern).toOption.any (fun glob => glob p))

theorem anyMatch_iff {newGlob : NewGlob} {patterns : List String} {p : Bytes} :
    anyMatch newGlob patterns p = true ↔ MatchesAny newGlob patterns p := by
  unfold anyMatch MatchesAny
  rw [List.any_eq_true]
  refine exists_congr (fun pattern => and_congr Iff.rfl ?_)
  cases newGlob pattern with
  | error e => simp [Except.toOption]
  | ok g => simp [Except.toOption]

theorem inCustody_of_anyMatch {newGlob : NewGlob} {policy : DiffPolicy} {p : Bytes}
    (h : anyMatch newGlob policy.ownedPaths p = true ∧ anyMatch newGlob policy.forbiddenPaths p = false ∧
      anyMatch newGlob policy.serialPaths p = false) : InCustody newGlob policy p := by
  refine ⟨anyMatch_iff.1 h.1, fun hm => ?_, fun hm => ?_⟩
  · rw [← anyMatch_iff, h.2.1] at hm
    cases hm
  · rw [← anyMatch_iff, h.2.2] at hm
    cases hm

theorem verified_diff_custody_movedInside :
    ∃ v, verifyDiff asciiGlob quietCommands movedInside baseCommit srcPolicy = .ok v ∧ v.acceptable = true ∧
      ∀ p, p ∈ movedInside.changes ∨ p ∈ movedInside.untracked → InCustody asciiGlob srcPolicy p := by
  obtain ⟨v, hv, ha⟩ := exists_of_accepts (r := verifyDiff asciiGlob quietCommands movedInside baseCommit srcPolicy)
    (by decide)
  refine ⟨v, hv, ha, (verified_diff_custody hv ha).2 (fun q hq => ?_)⟩
  have hold : q.1 = bytesOf "src/old" := by rw [List.mem_singleton.1 hq]
  rw [hold]
  exact inCustody_of_anyMatch (by decide)

/-- `secret/key` is moved to `src/key`: the diff is acceptable, and the path that is gone is forbidden. -/
theorem renamed_source_escapes :
    ∃ v, verifyDiff asciiGlob quietCommands movedOut baseCommit srcPolicy = .ok v ∧ v.acceptable = true ∧
      bytesOf "secret/key" ∈ movedOut.changes ∧ MatchesAny asciiGlob srcPolicy.forbiddenPaths (bytesOf "secret/key") ∧
      ¬ InCustody asciiGlob srcPolicy (bytesOf "secret/key") := by
  obtain ⟨v, hv, ha⟩ := exists_of_accepts (r := verifyDiff asciiGlob quietCommands movedOut baseCommit srcPolicy)
    (by decide)
  have hm : MatchesAny asciiGlob srcPolicy.forbiddenPaths (bytesOf "secret/key") := anyMatch_iff.1 (by decide)
  exact ⟨v, hv, ha, by decide, hm, fun hc => hc.forbidden hm⟩

end Git
end Bildr
