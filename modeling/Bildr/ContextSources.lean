import Bildr.Glob
import Bildr.PlanContract
/-!
# ContextSources — the sources an agent is given to read

`ContextCompiler::compile` collects candidate paths from the profile and the task, admits them, and reads those git
tracks.  An investigation is admitted by the globs of its scope, which see a candidate as it is spelled; what is read is
the candidate's normalized path (`investigation_reads_in_scope`).  git, the file system, the glob compiler and SHA-256
are outside the repository.  The counts by directory and by extension of the repository map are left out.
-/
namespace Bildr
namespace Context

open Plan (Packet InvestigationScope lowercase)

abbrev Bytes : Type := List UInt8

inductive ContextError
  | io (why : String)
  | glob (why : String)
  | wrongHead (expected actual : String)
  | command (why : String)
  | invalid (why : String)
deriving DecidableEq, Repr

structure DomainRule where
  globs : List String
  authorityHints : List String

/-- A profile with the fields the compiler reads beside those a plan is checked against. -/
structure RepositoryProfile extends Plan.RepositoryProfile where
  instructionSources : List String
  requiredGlobalAuthorities : List String
  receiptOnlyAuthorities : List String
  protectedSemantics : List String
  domains : List DomainRule

structure ContextSource where
  path : String
  kind : String
  sha256 : Option String
  bytes : Nat
  included : Bool
  receiptOnly : Bool
  reason : String
  content : Option String
deriving DecidableEq, Repr

structure RepositoryMap where
  trackedFiles : Nat
  textFiles : Nat
  binaryFiles : Nat
  oversizedFiles : Nat
  excludedFiles : Nat
  bytes : Nat
deriving DecidableEq, Repr

structure ContextPacket where
  schema : String
  baseSha : String
  taskId : String
  profileId : String
  profileDigest : String
  instructionDigest : String
  sources : List ContextSource
  repositoryMap : RepositoryMap
  protectedSemantics : List String
  contextBytes : Nat
  estimatedTokens : Nat
  digest : String
deriving DecidableEq, Repr

structure ContextCompiler where
  maxSourceBytes : Nat
  maxContextBytes : Nat

/-- `hex::encode` of SHA-256, `String::from_utf8_lossy`, and the digest of a packet that has none yet. -/
structure Texts where
  sha256 : Bytes → String
  lossy : Bytes → String
  packetDigest : ContextPacket → String

/-- `Glob::new`: an error text, or what the pattern matches. -/
abbrev NewGlob : Type := String → Except String (String → Bool)

/-! ## The repository -/

/-- What `symlink_metadata` says of a file, and what reading it gives. -/
structure Entry where
  symlink : Bool
  len : Nat
  content : Except String Bytes

/-- A checkout: what `git rev-parse HEAD` and `git ls-files` answer, and its files.  git tracks no path it cannot. -/
structure Repository (trackable : String → Bool) where
  head : Except String String
  files : Except String (List String)
  entry : String → Option Entry
  tracked : ∀ {l : List String}, files = .ok l → ∀ path ∈ l, trackable path = true

/-! ## Paths -/

/-- `Path::components`, without those that name the current directory. -/
def components (path : String) : List (List Char) :=
  (path.toList.splitOn '/').filter (fun part => !(part == [] || part == ['.']))

def normalizeRelative (path : String) : Except ContextError String := do
  ensure (!(path.toList.head? == some '/' || (components path).contains ['.', '.']))
    (.invalid ("unsafe repository path: " ++ path))
  ensure (!(components path).isEmpty) (.invalid "empty repository path")
  return String.ofList (['/'].intercalate (components path))

def containsGlob (path : String) : Bool := path.toList.any (fun c => ['*', '?', '[', ']', '\x7b', '\x7d'].contains c)

def parts (path : String) : List String := ((lowercase path).splitOn '/').map String.ofList

def holds (path text : String) : Bool := decide (text.toList <:+: path.toList)

def isArchivePath (path : String) : Bool :=
  (parts path).any (fun part => ["archive", "archives", "archived", "attic"].contains part)

def isBulkExcluded (path : String) : Bool :=
  (parts path).any (fun part => [".git", "target", "node_modules", "vendor", ".cache", "dist"].contains part) ||
    holds path "/generated/" || decide ("generated/".toList <+: path.toList)

def isSecretPath (path : String) : Bool :=
  let lower := String.ofList (lowercase path)
  lower == ".env" || holds lower "/.env" ||
    [".pem", ".key", ".p12", "credentials.json"].any (fun suffix => decide (suffix.toList <:+ lower.toList)) ||
    holds lower "/secrets/"

def looksBinary (bytes : Bytes) : Bool := (bytes.take 8192).contains 0

/-! ## Selection -/

def compileGlobs (newGlob : NewGlob) (patterns : List String) : Except ContextError (List (String → Bool)) :=
  patterns.mapM (fun pattern => (newGlob pattern).mapError ContextError.glob)

def isMatch (set : List (String → Bool)) (path : String) : Bool := set.any (fun glob => glob path)

structure Matchers where
  owned : List (String → Bool)
  forbidden : List (String → Bool)

def compileScope (newGlob : NewGlob) (scope : InvestigationScope) : Except ContextError Matchers := do
  let owned ← compileGlobs newGlob scope.ownedReadPaths
  let forbidden ← compileGlobs newGlob scope.forbiddenPaths
  return ⟨owned, forbidden⟩

/-- An investigation reads what its globs let it; another task has no such limit. -/
def sourceIsAdmitted : Option Matchers → String → Bool
  | some m, path => !containsGlob path && isMatch m.owned path && !isMatch m.forbidden path
  | none, _      => true

structure Candidate where
  path : String
  kind : String
  promoted : Bool
deriving DecidableEq, Repr

def scopedPaths (task : Packet) : List String :=
  match task.investigationScope with
  | some scope => scope.ownedReadPaths
  | none       => task.ownedPaths

def domainCandidates (newGlob : NewGlob) (paths : List String) (domain : DomainRule) :
    Except ContextError (List Candidate) := do
  let globs ← compileGlobs newGlob domain.globs
  return if paths.any (isMatch globs) then domain.authorityHints.map (fun path => ⟨path, "domain_authority", false⟩)
    else []

/-- Every path `select_sources` considers, in its order. -/
def candidates (newGlob : NewGlob) (task : Packet) (profile : RepositoryProfile) : Except ContextError (List Candidate) := do
  let hints ← profile.domains.mapM (domainCandidates newGlob (scopedPaths task))
  return profile.instructionSources.map (fun path => ⟨path, "instruction", false⟩) ++
    profile.requiredGlobalAuthorities.map (fun path => ⟨path, "global_authority", false⟩) ++
    task.authorityRefs.map (fun path => ⟨path, "task_authority", true⟩) ++ hints.flatten ++
    ((scopedPaths task).filter (fun path => !containsGlob path)).map (fun path => ⟨path, "task_file", true⟩)

def push (admitted : String → Bool) (selected : List Candidate) (c : Candidate) : List Candidate :=
  if admitted c.path && !selected.any (fun d => d.path == c.path) then selected ++ [c] else selected

def selectSources (newGlob : NewGlob) (task : Packet) (profile : RepositoryProfile) :
    Except ContextError (List Candidate) := do
  let matchers ← task.investigationScope.mapM (compileScope newGlob)
  let all ← candidates newGlob task profile
  return all.foldl (push (sourceIsAdmitted matchers)) []

/-! ## The sources -/

def excludedByName (path : String) (promoted : Bool) : Option String :=
  if isSecretPath path then some "secret-like path"
  else if isArchivePath path && !promoted then some "archived authority not promoted"
  else if isBulkExcluded path && !promoted then some "vendor/generated/build output"
  else none

def excludedSource (path kind reason : String) : ContextSource := ⟨path, kind, none, 0, false, false, reason, none⟩

structure Compiling where
  sources : List ContextSource
  includedBytes : Nat
  instructions : Bytes

def Compiling.push (s : Compiling) (source : ContextSource) : Compiling := { s with sources := s.sources ++ [source] }

def utf8 (text : String) : Bytes := text.toUTF8.toList

section Compile
variable {trackable : String → Bool} (x : Texts) (compiler : ContextCompiler) (profile : RepositoryProfile)
  (repository : Repository trackable)

def addInstruction (s : Compiling) (c : Candidate) (path sha256 : String) : Compiling :=
  if c.kind == "instruction" then
    { s with instructions := s.instructions ++ utf8 path ++ [0] ++ utf8 sha256 ++ [0] }
  else s

def addText (s : Compiling) (c : Candidate) (path : String) (bytes : Bytes) : Compiling :=
  let profileReceiptOnly := profile.receiptOnlyAuthorities.contains path
  let sha256 := x.sha256 bytes
  let s := addInstruction s c path sha256
  if profileReceiptOnly || decide (65536 < bytes.length) then
    s.push ⟨path, c.kind, some sha256, bytes.length, true, true,
      if profileReceiptOnly then "selected by repository profile; body omitted by receipt-only policy"
      else "source exceeds inline prompt threshold; body omitted by receipt-only policy", none⟩
  else if compiler.maxContextBytes < s.includedBytes + bytes.length then
    s.push ⟨path, c.kind, some sha256, bytes.length, false, false, "context packet byte budget exhausted", none⟩
  else
    { s with includedBytes := s.includedBytes + bytes.length }.push ⟨path, c.kind, some sha256, bytes.length, true, false,
      if c.promoted then "explicit task authority" else "selected by repository profile", some (x.lossy bytes)⟩

def addFile (s : Compiling) (c : Candidate) (path : String) : Except ContextError Compiling := do
  let entry ← okOr (repository.entry path) (.io "No such file or directory")
  if entry.symlink then return s.push (excludedSource path c.kind "symlink source rejected")
  else if compiler.maxSourceBytes < entry.len then
    return s.push ⟨path, c.kind, none, entry.len, false, false, "source exceeds per-file context limit", none⟩
  else do
    let bytes ← entry.content.mapError ContextError.io
    if looksBinary bytes then
      return s.push ⟨path, c.kind, some (x.sha256 bytes), bytes.length, false, false, "binary source", none⟩
    else return addText x compiler profile s c path bytes

def addSource (tracked : List String) (s : Compiling) (c : Candidate) : Except ContextError Compiling := do
  let path ← normalizeRelative c.path
  if !tracked.contains path then return s.push (excludedSource path c.kind "not tracked at pinned SHA")
  else
    match excludedByName path c.promoted with
    | some reason => return s.push (excludedSource path c.kind reason)
    | none        => addFile x compiler profile repository s c path

def mapFile (map : RepositoryMap) (path : String) : Except ContextError RepositoryMap :=
  let map := { map with trackedFiles := map.trackedFiles + 1 }
  if isBulkExcluded path || isSecretPath path then .ok { map with excludedFiles := map.excludedFiles + 1 }
  else
    match repository.entry path with
    | none       => .ok { map with excludedFiles := map.excludedFiles + 1 }
    | some entry => do
      let map := { map with bytes := Usage.satAdd map.bytes entry.len }
      if compiler.maxSourceBytes < entry.len then return { map with oversizedFiles := map.oversizedFiles + 1 }
      else do
        let bytes ← entry.content.mapError ContextError.io
        return if looksBinary bytes then { map with binaryFiles := map.binaryFiles + 1 }
          else { map with textFiles := map.textFiles + 1 }

def buildRepositoryMap (tracked : List String) : Except ContextError RepositoryMap :=
  tracked.foldlM (mapFile compiler repository) ⟨0, 0, 0, 0, 0, 0⟩

def compile (newGlob : NewGlob) (expectedSha : String) (task : Packet) (profileDigest : String) :
    Except ContextError ContextPacket := do
  let actual ← repository.head.mapError ContextError.command
  ensure (actual == expectedSha) (.wrongHead expectedSha actual)
  let tracked ← repository.files.mapError ContextError.command
  let map ← buildRepositoryMap compiler repository tracked
  let selected ← selectSources newGlob task profile
  let s ← selected.foldlM (addSource x compiler profile repository tracked) ⟨[], 0, []⟩
  let packet : ContextPacket := ⟨"harness-context/v1", expectedSha, task.taskId, profile.profileId, profileDigest,
    x.sha256 s.instructions, s.sources, map, profile.protectedSemantics, s.includedBytes, (s.includedBytes + 3) / 4, ""⟩
  return { packet with digest := x.packetDigest packet }

end Compile

end Context
end Bildr
