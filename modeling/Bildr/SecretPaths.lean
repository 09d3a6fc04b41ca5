import Bildr.ContextBudget
import Bildr.Probe
/-!
# SecretPaths — which files are withheld

A path is secret by its last part, by a part below the first that starts with `.env`, or by a directory `secrets` below
the first.  So a directory more makes a path secret exactly when it starts with `.env` or with `secrets/` and is not
secret as it is (`secret_path_depth_iff`); then the compiler inlines a file that it withholds one directory deeper, and
`read_many` reads it.
-/
namespace Bildr
namespace Context

open Plan (Packet lowercase)

/-! ## `read_many` -/

def maxReadManyPaths : Nat := 64

def maxReadManyFileBytes : Nat := 131072

/-- What the file system says of a path: its metadata, whether it leads out of the repository, and its bytes. -/
structure Found where
  isFile : Bool
  symlink : Bool
  len : Nat
  inside : Except String Bool
  content : Except String Bytes

structure Gathered where
  output : Bytes
  truncated : Bool
deriving DecidableEq, Repr

def textOut (text : String) : Bytes := Lossy.encode text.toList

def Gathered.add (g : Gathered) (path : String) (len : Nat) (bytes : Bytes) : Gathered :=
  let output := g.output ++ textOut ("--- " ++ path ++ " ---\n") ++ bytes
  if bytes.length < len then ⟨output ++ textOut "\n[per-file limit reached]" ++ [10], true⟩
  else ⟨output ++ [10], g.truncated⟩

section ReadMany
variable (sha256 : Bytes → String) (found : String → Option Found)

/-- `fs::symlink_metadata` of a regular file. -/
def regular (path : String) : Option Found :=
  (found path).filter (fun file => file.isFile && !file.symlink)

def readOne (maxPerFile : Nat) (g : Gathered) (path : String) : Except ContextError Gathered := do
  let normalized ← normalizeRelative path
  if isSecretPath normalized || isBulkExcluded normalized then return g
  else
    match regular found normalized with
    | none      => return g
    | some file => do
      let inside ← file.inside.mapError ContextError.io
      if !inside then return g
      else do
        let content ← file.content.mapError ContextError.io
        let bytes := content.take maxPerFile
        return if looksBinary bytes then g else g.add normalized file.len bytes

def readMany (root : Except String Unit) (paths : List String) (maxPerFile : Nat) (maxBytes : Option Nat) :
    Except ContextError ProbeOutput := do
  root.mapError ContextError.io
  let g ← (paths.take maxReadManyPaths).foldlM (readOne found (max 1 (min maxPerFile maxReadManyFileBytes)))
    ⟨[], decide (maxReadManyPaths < paths.length)⟩
  let result := boundOutput sha256 g.output (maxBytes.getD defaultProbeBytes) none
  return { result with truncated := result.truncated || g.truncated }

end ReadMany

/-! ## One directory deeper -/

structure Name where
  text : String
  plain : '/' ∉ text.toList
  named : text ≠ "" ∧ text ≠ "." ∧ text ≠ ".."

def under (d : Name) (path : String) : String := d.text ++ "/" ++ path

/-- The path is secret, or it starts with nothing that is secret below a directory. -/
def DepthFree (path : String) : Prop :=
  isSecretPath path = true ∨ ¬(".env".toList <+: lowercase path ∨ "secrets/".toList <+: lowercase path)

theorem infix_under {w d q : List Char} (hd : '/' ∉ d) : '/' :: w <:+: d ++ '/' :: q ↔ w <+: q ∨ '/' :: w <:+: q := by
  induction d with
  | nil => rw [List.nil_append, List.infix_cons_iff, List.cons_prefix_cons, and_iff_right rfl]
  | cons c d ih =>
    rw [List.mem_cons, not_or] at hd
    rw [List.cons_append, List.infix_cons_iff, List.cons_prefix_cons, ih hd.2]
    exact or_iff_right (fun h => hd.1 h.1)

theorem suffix_under {w d q : List Char} (hw : '/' ∉ w) : w <:+ d ++ '/' :: q ↔ w <:+ q := by
  refine ⟨fun h => ?_, fun h => h.trans ((List.suffix_cons _ _).trans (List.suffix_append _ _))⟩
  obtain ⟨front, hfront⟩ := h
  rcases List.append_eq_append_iff.1 hfront with ⟨part, -, hpart⟩ | ⟨part, -, hpart⟩
  · exact absurd (by rw [hpart]; simp) hw
  · cases part with
    | nil => exact absurd (by rw [List.nil_append] at hpart; rw [← hpart]; simp) hw
    | cons c part => exact ⟨part, (List.cons.inj hpart).2.symm⟩

theorem lowercase_under (d : Name) (path : String) :
    lowercase (under d path) = lowercase d.text ++ '/' :: lowercase path := by
  unfold under lowercase
  rw [String.toList_append, String.toList_append, List.append_assoc, List.map_append]
  rfl

theorem lower_plain (d : Name) : '/' ∉ lowercase d.text := by
  intro h
  obtain ⟨c, hc, hlower⟩ := List.mem_map.1 h
  have hslash : c = '/' := by
    unfold Char.toLower at hlower
    split at hlower
    · rename_i hupper
      -- a letter stays a letter
      have hlow : 65 ≤ c.val.toNat := hupper.1
      have hhigh : c.val.toNat ≤ 90 := hupper.2
      have hval : (c.val + 32).toNat = 47 := congrArg (fun c : Char => c.val.toNat) hlower
      rw [UInt32.toNat_add, show (32 : UInt32).toNat = 32 from rfl] at hval
      omega
    · exact hlower
  exact d.plain (hslash ▸ hc)

theorem isSecretPath_iff (path : String) : isSecretPath path = true ↔ lowercase path = ".env".toList ∨
    "/.env".toList <:+: lowercase path ∨ ".pem".toList <:+ lowercase path ∨ ".key".toList <:+ lowercase path ∨
    ".p12".toList <:+ lowercase path ∨ "credentials.json".toList <:+ lowercase path ∨
    "/secrets/".toList <:+: lowercase path := by
  unfold isSecretPath holds
  simp only [Bool.or_eq_true, beq_iff_eq, decide_eq_true_eq, List.any_cons, List.any_nil, String.toList_ofList]
  rw [← String.toList_inj, String.toList_ofList]
  simp only [Bool.false_eq_true, or_false, or_assoc]

theorem deeper_or {bare env env' k₁ k₂ k₃ k₄ dir dir' : Prop} (h : bare → env') :
    (env' ∨ env) ∨ k₁ ∨ k₂ ∨ k₃ ∨ k₄ ∨ (dir' ∨ dir) ↔
      (bare ∨ env ∨ k₁ ∨ k₂ ∨ k₃ ∨ k₄ ∨ dir) ∨ env' ∨ dir' := by
  tauto

theorem isSecretPath_under (d : Name) (path : String) : isSecretPath (under d path) = true ↔
    isSecretPath path = true ∨ ".env".toList <+: lowercase path ∨ "secrets/".toList <+: lowercase path := by
  have hplain := lower_plain d
  rw [isSecretPath_iff, isSecretPath_iff, lowercase_under]
  have henv : "/.env".toList <:+: lowercase d.text ++ '/' :: lowercase path ↔
      ".env".toList <+: lowercase path ∨ "/.env".toList <:+: lowercase path := infix_under hplain
  have hsecrets : "/secrets/".toList <:+: lowercase d.text ++ '/' :: lowercase path ↔
      "secrets/".toList <+: lowercase path ∨ "/secrets/".toList <:+: lowercase path := infix_under hplain
  have hexact : ¬ lowercase d.text ++ '/' :: lowercase path = ".env".toList := by
    intro h
    have hmem : '/' ∈ ".env".toList := by
      rw [← h]
      exact List.mem_append_right _ List.mem_cons_self
    exact absurd hmem (by decide)
  have hbare : lowercase path = ".env".toList → ".env".toList <+: lowercase path := fun h => h ▸ List.prefix_rfl
  rw [or_iff_right hexact, henv, hsecrets, suffix_under (by decide), suffix_under (by decide), suffix_under (by decide),
    suffix_under (by decide)]
  exact deeper_or hbare

theorem secret_under_iff (d : Name) (path : String) :
    isSecretPath (under d path) = isSecretPath path ↔ DepthFree path := by
  unfold DepthFree
  rw [Bool.eq_iff_iff, isSecretPath_under]
  tauto

/-! ## Files in the root -/

theorem splitOn_name (p : Name) : p.text.toList.splitOn '/' = [p.text.toList] := List.splitOn_eq_singleton p.plain

theorem normalize_name (p : Name) : normalizeRelative p.text = .ok p.text := by
  have hempty : p.text.toList ≠ [] := fun h => p.named.1 (String.toList_inj.1 h)
  have hdot : p.text.toList ≠ ['.'] := fun h => p.named.2.1 (String.toList_inj.1 h)
  have hup : p.text.toList ≠ ['.', '.'] := fun h => p.named.2.2 (String.toList_inj.1 h)
  have hcomponents : components p.text = [p.text.toList] := by
    unfold components
    rw [splitOn_name, List.filter_cons_of_pos (by simp [hempty, hdot]), List.filter_nil]
  have hhead : (p.text.toList.head? == some '/') = false := by
    rw [beq_eq_false_iff_ne]
    exact fun h => p.plain (List.mem_of_head? h)
  unfold normalizeRelative
  rw [hcomponents, hhead, List.contains_eq_mem, decide_eq_false (fun h => hup (List.mem_singleton.1 h).symm)]
  simp only [Bool.or_false, Bool.not_false, ensure_true, ok_bind, List.isEmpty_cons, List.intercalate_singleton,
    String.ofList_toList]
  rfl

theorem secrets_name (p : Name) : ¬ "secrets/".toList <+: lowercase p.text :=
  fun h => lower_plain p (h.subset (by decide))

theorem excluded_name {p : Name} (henv : ".env".toList <+: lowercase p.text) (hsecret : isSecretPath p.text = false) :
    excludedByName p.text false = none := by
  have hparts : parts p.text = [String.ofList (lowercase p.text)] := by
    unfold parts
    rw [List.splitOn_eq_singleton (lower_plain p)]
    rfl
  have hother : ∀ {texts : List String}, (∀ t ∈ texts, ¬ ".env".toList <+: t.toList) →
      (parts p.text).any (fun part => texts.contains part) = false := by
    intro texts htexts
    rw [hparts, List.any_cons, List.any_nil, Bool.or_false, List.contains_eq_mem, decide_eq_false_iff_not]
    intro hmem
    have htext : (String.ofList (lowercase p.text)).toList = lowercase p.text := String.toList_ofList
    refine htexts _ hmem ?_
    rw [htext]
    exact henv
  have hslash : ∀ {text : List Char}, '/' ∈ text → ¬ text <:+: p.text.toList :=
    fun hmem h => p.plain (h.subset hmem)
  unfold excludedByName isArchivePath isBulkExcluded holds
  rw [hsecret, hother (by decide), hother (by decide), decide_eq_false (hslash (by decide)),
    decide_eq_false (fun h => hslash (by decide) h.isInfix)]
  rfl

/-- The compiler inlines no file in the root that is secret one directory deeper. -/
def CompileWithholds (d p : Name) : Prop :=
  isSecretPath (under d p.text) = true → ∀ (trackable : String → Bool) (x : Texts) (compiler : ContextCompiler)
    (profile : RepositoryProfile) (repository : Repository trackable) (newGlob : NewGlob) (task : Packet)
    (expectedSha profileDigest : String) (packet : ContextPacket),
    compile x compiler profile repository newGlob expectedSha task profileDigest = .ok packet →
      ∀ source ∈ packet.sources, source.path = p.text → source.content = none

/-- What `read_many` returns does not depend on a file in the root that is secret one directory deeper. -/
def ReadManyWithholds (sha256 : Bytes → String) (d p : Name) : Prop :=
  isSecretPath (under d p.text) = true → ∀ (found found' : String → Option Found),
    (∀ path, path ≠ p.text → found path = found' path) → ∀ root paths maxPerFile maxBytes,
      readMany sha256 found root paths maxPerFile maxBytes = readMany sha256 found' root paths maxPerFile maxBytes

theorem secret_of_depthFree {d : Name} {path : String} (h : DepthFree path) (hdeeper : isSecretPath (under d path) = true) :
    isSecretPath path = true := by
  rw [← (secret_under_iff d path).2 h]
  exact hdeeper

theorem not_depthFree {p : Name} (h : ¬ DepthFree p.text) :
    isSecretPath p.text = false ∧ ".env".toList <+: lowercase p.text := by
  unfold DepthFree at h
  rw [not_or, not_not, Bool.not_eq_true] at h
  exact ⟨h.1, h.2.resolve_right (secrets_name p)⟩

def loneRoot (path : String) : Repository (fun _ => true) := loneFile path rfl

theorem compile_inlines_lone (x : Texts) {p : Name} (hname : excludedByName p.text false = none) : ∃ packet,
    compile x defaultCompiler (instructedBy p.text) (loneRoot p.text) shellGlob ""
      implementation "" = .ok packet ∧ ∃ source ∈ packet.sources, source.path = p.text ∧ source.content.isSome = true := by
  let c : Candidate := ⟨p.text, "instruction", false⟩
  have hselected : selectSources shellGlob implementation (instructedBy p.text) = .ok [c] := rfl
  have hpath : normalizeRelative c.path = .ok p.text := normalize_name p
  have hmapped : ∃ map, buildRepositoryMap defaultCompiler (loneRoot p.text) [p.text] = .ok map :=
    buildRepositoryMap_lone defaultCompiler p.text rfl
  obtain ⟨map, hmap⟩ := hmapped
  have hran : ∃ s, [c].foldlM (addSource x defaultCompiler (instructedBy p.text) (loneRoot p.text) [p.text]) ⟨[], 0, []⟩ =
      .ok s := by
    obtain ⟨s, hrun, -, -⟩ := @foldlM_lone (fun _ => true) x defaultCompiler (instructedBy p.text) p.text rfl [c]
      ⟨[], 0, []⟩ rfl (fun d hd => by
        rw [List.mem_singleton.1 hd]
        exact ⟨p.text, hpath⟩)
    exact ⟨s, hrun⟩
  obtain ⟨s, hrun⟩ := hran
  obtain ⟨new, hnew⟩ := foldlM_sourced hrun
  have hsources : s.sources = new := hnew.sources
  have hfile : Inlinable defaultCompiler (instructedBy p.text) (loneRoot p.text) [p.text]
      c p.text [] :=
    ⟨List.mem_singleton_self _, hname, ⟨⟨false, 0, .ok []⟩, if_pos rfl, rfl, Nat.zero_le _, rfl⟩, rfl, rfl, Nat.zero_le _⟩
  -- the one body is that of the one source
  have hbodies : new.filterMap (fun source => source.content) = [x.lossy []] := by
    rw [hnew.bodies, inlined, hpath]
    dsimp only
    rw [inlineBody_iff.2 hfile]
    rfl
  have hmem : x.lossy [] ∈ new.filterMap (fun source => source.content) := by
    rw [hbodies]
    exact List.mem_singleton_self _
  obtain ⟨source, hsource, hbody⟩ := List.mem_filterMap.1 hmem
  have hsourcePath : source.path = p.text := by
    have hpaths := List.mem_map_of_mem (f := fun source => (Except.ok source.path : Except ContextError String)) hsource
    rw [hnew.paths, List.map_singleton, List.mem_singleton, hpath] at hpaths
    exact Except.ok.inj hpaths
  have hcompiled : ∃ packet, compile x defaultCompiler (instructedBy p.text)
      (loneRoot p.text) shellGlob "" implementation "" = .ok packet ∧
        packet.sources = s.sources := by
    unfold compile
    rw [show (loneRoot p.text).head = .ok "" from rfl,
      show (loneRoot p.text).files = .ok [p.text] from rfl]
    simp only [Except.mapError, ok_bind, hmap, hselected, hrun]
    exact ⟨_, rfl, rfl⟩
  obtain ⟨packet, hpacket, hpacketSources⟩ := hcompiled
  refine ⟨packet, hpacket, source, ?_, hsourcePath, by rw [hbody]; rfl⟩
  rw [hpacketSources, hsources]
  exact hsource

theorem compile_withholds_iff (d p : Name) : CompileWithholds d p ↔ DepthFree p.text := by
  constructor
  · intro h
    by_contra hdepth
    obtain ⟨hsecret, henv⟩ := not_depthFree hdepth
    obtain ⟨packet, hpacket, source, hsource, hpath, hbody⟩ :=
      compile_inlines_lone emptyTexts (excluded_name henv hsecret)
    have hdeeper := (isSecretPath_under d p.text).2 (.inr (.inl henv))
    rw [h hdeeper _ _ _ _ _ _ _ _ _ packet hpacket source hsource hpath] at hbody
    cases hbody
  · intro h hdeeper trackable x compiler profile repository newGlob task expectedSha profileDigest packet hpacket source
      hsource hpath
    have hsecret := secret_of_depthFree h hdeeper
    unfold compile at hpacket
    obtain ⟨actual, -, hpacket⟩ := bind_ok hpacket
    obtain ⟨_, -, hpacket⟩ := bind_ok hpacket
    obtain ⟨tracked, -, hpacket⟩ := bind_ok hpacket
    obtain ⟨map, -, hpacket⟩ := bind_ok hpacket
    obtain ⟨selected, -, hpacket⟩ := bind_ok hpacket
    obtain ⟨s, hrun, hpacket⟩ := bind_ok hpacket
    cases hpacket
    obtain ⟨new, hnew⟩ := foldlM_sourced hrun
    have hsources : s.sources = new := hnew.sources
    rw [← Option.not_isSome_iff_eq_none]
    intro hbody
    obtain ⟨c, bytes, hfile, -⟩ := hnew.files source (hsources ▸ hsource) hbody
    have hnamed := hfile.named
    rw [hpath] at hnamed
    unfold excludedByName at hnamed
    rw [hsecret] at hnamed
    cases hnamed

theorem readOne_congr {found found' : String → Option Found} {p : Name} (hsecret : isSecretPath p.text = true)
    (h : ∀ path, path ≠ p.text → found path = found' path) (maxPerFile : Nat) (g : Gathered) (path : String) :
    readOne found maxPerFile g path = readOne found' maxPerFile g path := by
  unfold readOne
  cases hpath : normalizeRelative path with
  | error e => rfl
  | ok normalized =>
    rw [ok_bind, ok_bind]
    by_cases hsame : normalized = p.text
    · rw [hsame, hsecret]
      rfl
    · unfold regular
      rw [h normalized hsame]

theorem chars_ne_nil (b : UInt8) (bytes : Bytes) : Lossy.chars (b :: bytes) ≠ [] := by
  unfold Lossy.chars
  rw [Lossy.charsFrom]
  split <;> exact List.cons_ne_nil _ _

theorem output_ne_nil (sha256 : Bytes → String) (b : UInt8) (bytes : Bytes) (maxBytes : Nat) :
    (boundOutput sha256 (b :: bytes) maxBytes none).output ≠ [] := by
  unfold boundOutput
  dsimp only
  have hpos : 1 ≤ min (b :: bytes).length (clampProbe maxBytes) := by
    unfold clampProbe
    rw [List.length_cons]
    omega
  obtain ⟨n, hn⟩ := Nat.exists_eq_add_of_le' hpos
  rw [hn, List.take_succ_cons]
  exact chars_ne_nil b _

def emptyFile (path : String) : String → Option Found := fun q => if q = path then some ⟨true, false, 0, .ok true, .ok []⟩
  else none

theorem bulk_of_excluded {path : String} (h : excludedByName path false = none) :
    isSecretPath path = false ∧ isBulkExcluded path = false := by
  unfold excludedByName at h
  cases hsecret : isSecretPath path with
  | true =>
    rw [hsecret] at h
    cases h
  | false =>
    refine ⟨rfl, ?_⟩
    rw [hsecret, if_neg Bool.false_ne_true] at h
    split at h
    · cases h
    · split at h
      · cases h
      · rename_i hbulk
        simpa using hbulk

theorem readMany_lone (sha256 : Bytes → String) {found : String → Option Found} {path : String} {output : Bytes}
    (h : readOne found 1 ⟨[], false⟩ path = .ok ⟨output, false⟩) :
    readMany sha256 found (.ok ()) [path] 1 none = .ok (boundOutput sha256 output defaultProbeBytes none) := by
  have hfold : ([path].take maxReadManyPaths).foldlM (readOne found (max 1 (min 1 maxReadManyFileBytes)))
      ⟨[], decide (maxReadManyPaths < [path].length)⟩ = .ok ⟨output, false⟩ := by
    show (readOne found 1 ⟨[], false⟩ path >>= fun g => pure g) = _
    rw [h]
    rfl
  unfold readMany
  rw [hfold]
  show Except.ok { boundOutput sha256 output defaultProbeBytes none with
    truncated := (boundOutput sha256 output defaultProbeBytes none).truncated || false } = _
  rw [Bool.or_false]

theorem readMany_heads (sha256 : Bytes → String) {p : Name} (hname : excludedByName p.text false = none) :
    ∃ b bytes, readMany sha256 (emptyFile p.text) (.ok ()) [p.text] 1 none =
      .ok (boundOutput sha256 (b :: bytes) defaultProbeBytes none) := by
  obtain ⟨hsecret, hbulk⟩ := bulk_of_excluded hname
  have hregular : regular (emptyFile p.text) p.text = some ⟨true, false, 0, .ok true, .ok []⟩ := by
    unfold regular emptyFile
    rw [if_pos rfl]
    rfl
  have hread : readOne (emptyFile p.text) 1 ⟨[], false⟩ p.text =
      .ok ⟨textOut ("--- " ++ p.text ++ " ---\n") ++ [] ++ [10], false⟩ := by
    unfold readOne
    rw [normalize_name, ok_bind, hsecret, hbulk, hregular]
    rfl
  have hheading : ∃ bytes, textOut ("--- " ++ p.text ++ " ---\n") ++ [] ++ [10] = 45 :: bytes := by
    unfold textOut
    rw [String.toList_append, String.toList_append, Lossy.encode_append, Lossy.encode_append]
    exact ⟨_, rfl⟩
  obtain ⟨bytes, hbytes⟩ := hheading
  exact ⟨45, bytes, readMany_lone sha256 (by rw [hread, hbytes])⟩

theorem read_many_withholds_iff (sha256 : Bytes → String) (d p : Name) :
    ReadManyWithholds sha256 d p ↔ DepthFree p.text := by
  constructor
  · intro h
    by_contra hdepth
    obtain ⟨hsecret, henv⟩ := not_depthFree hdepth
    obtain ⟨b, bytes, hheads⟩ := readMany_heads sha256 (excluded_name henv hsecret)
    have hdeeper := (isSecretPath_under d p.text).2 (.inr (.inl henv))
    have hsame := h hdeeper (emptyFile p.text) (fun _ => none) (fun path hne => if_neg hne) (.ok ()) [p.text] 1 none
    have hnothing : readMany sha256 (fun _ => none) (.ok ()) [p.text] 1 none =
        .ok (boundOutput sha256 [] defaultProbeBytes none) := by
      refine readMany_lone sha256 ?_
      unfold readOne
      rw [normalize_name, ok_bind]
      split <;> rfl
    rw [hheads, hnothing] at hsame
    refine output_ne_nil sha256 b bytes defaultProbeBytes ?_
    rw [Except.ok.inj hsame]
    rfl
  · intro h hdeeper found found' hagree root paths maxPerFile maxBytes
    have hsecret := secret_of_depthFree h hdeeper
    have hread : ∀ k, readOne found k = readOne found' k := by
      intro k
      funext g path
      exact readOne_congr hsecret hagree k g path
    unfold readMany
    rw [hread]

/-- **When a directory more makes no difference**, to what is secret and to what is read in the root. -/
theorem secret_path_depth_iff (sha256 : Bytes → String) (d : Name) :
    (∀ path, (isSecretPath (under d path) = isSecretPath path ↔ DepthFree path)) ∧
      ∀ p : Name, (CompileWithholds d p ↔ DepthFree p.text) ∧ (ReadManyWithholds sha256 d p ↔ DepthFree p.text) :=
  ⟨secret_under_iff d, fun p => ⟨compile_withholds_iff d p, read_many_withholds_iff sha256 d p⟩⟩

def configDirectory : Name := ⟨"config", by decide, by decide⟩

def localEnvironment : Name := ⟨".env.local", by decide, by decide⟩

theorem local_environment_inlined :
    isSecretPath (under configDirectory localEnvironment.text) = true ∧ isSecretPath localEnvironment.text = false ∧
      ∃ packet, compile emptyDecoding defaultCompiler (instructedBy localEnvironment.text)
          (loneRoot localEnvironment.text) shellGlob "" implementation "" = .ok packet ∧
        ∃ source ∈ packet.sources, source.path = localEnvironment.text ∧ source.content.isSome = true :=
  ⟨by decide +kernel, by decide +kernel, compile_inlines_lone emptyDecoding (by decide +kernel)⟩

end Context
end Bildr
