import Bildr.ControlWire
import Bildr.Json
import Bildr.Latest
import Bildr.Outcome
import Bildr.Store
import Bildr.Table
import Mathlib.Data.String.Basic
/-!
# EvidenceBundle — evidence bundles (`harness-evidence/src/lib.rs`)

A bundle is an archive of the evidence of a run under a manifest of paths, lengths and digests.  `verify_bundle` accepts
exactly the archives whose files are those of their manifest, so two with one manifest differ only where digests collide
(`verify_bundle_iff`), and it accepts what `export_bundle` writes (`exported_bundle_verifies`).
-/
namespace Bildr
namespace Evidence

open Json (Value)
open Improvement (isLowerHex)
open Control (isLowerHex_ofList)

structure File where
  path : String
  bytes : List UInt8
deriving DecidableEq

structure ArchiveEntry where
  file : File
  regular : Bool
deriving DecidableEq

structure BundleEntry where
  path : String
  sha256 : String
  bytes : Nat
deriving DecidableEq

structure BundleManifest where
  schema : String
  runId : String
  entries : List BundleEntry
deriving DecidableEq

/-- `StoreError`, the variants that `ArtifactStore::read` returns. -/
inductive ReadError
  | io
  | artifactIntegrity (why : String)
deriving DecidableEq

inductive EvidenceError
  | store (error : ReadError)
  | json
  | invalid (why : String)
deriving DecidableEq

/-- The JSON of a snapshot and of a manifest, and the SHA-256 of bytes in hex. -/
structure Wire where
  snapshot : Value → List UInt8
  toVecPretty : BundleManifest → List UInt8
  fromSlice : List UInt8 → Option BundleManifest
  digest : List UInt8 → String

def bundleSchema : String := "harness-evidence-bundle/v1"

def safeBundlePath (path : String) : Bool :=
  path != "" && path.toList.head? != some '/' &&
    !(path.toList.splitOn '/').any (fun part => part == [] || part == ['.', '.'])

/-! ## `export_bundle` -/

/-- `ArtifactStore::read`. -/
def readArtifact (stored : String → Option (List UInt8)) (digest : String) : Except EvidenceError (List UInt8) := do
  ensure (isLowerHex digest 64) (.store (.artifactIntegrity "artifact digest is not a SHA-256 hex string"))
  okOr (stored digest) (.store .io)

def artifactFile (stored : String → Option (List UInt8)) (artifact : Value) : Except EvidenceError File := do
  let sha ← okOr ((artifact.get "sha256").bind Value.asStr) (.invalid "artifact snapshot lacks sha256")
  let bytes ← readArtifact stored sha
  return ⟨"artifacts/" ++ sha, bytes⟩

/-- The map by path of some inserted files. -/
def payloads (inserted : List File) : List File := Latest.collect File.path inserted

def bundleEntry (w : Wire) (f : File) : BundleEntry := ⟨f.path, w.digest f.bytes, f.bytes.length % 2 ^ 64⟩

def exportBundle (w : Wire) (stored : String → Option (List UInt8)) (runId : String) (snapshot : Value) :
    Except EvidenceError (BundleManifest × List ArchiveEntry) := do
  let artifacts ← (((snapshot.get "artifacts").bind Value.asArray).getD []).mapM (artifactFile stored)
  let files := payloads (⟨"snapshot.json", w.snapshot snapshot⟩ :: artifacts)
  let manifest : BundleManifest := ⟨bundleSchema, runId, files.map (bundleEntry w)⟩
  return (manifest, (⟨"manifest.json", w.toVecPretty manifest⟩ :: files).map (fun f => ⟨f, true⟩))

/-! ## `verify_bundle` -/

def addFile (files : Table File.path) (e : ArchiveEntry) : Except EvidenceError (Table File.path) := do
  ensure e.regular (.invalid "bundle contains a non-regular entry")
  ensure (safeBundlePath e.file.path) (.invalid ("unsafe bundle path: " ++ e.file.path))
  okOr (files.insert e.file) (.invalid ("duplicate bundle path: " ++ e.file.path))

def checkEntry (w : Wire) (files : Table File.path) (e : BundleEntry) : Except EvidenceError Unit := do
  let f ← okOr (files.get e.path) (.invalid ("missing bundle entry " ++ e.path))
  ensure (f.bytes.length % 2 ^ 64 == e.bytes && w.digest f.bytes == e.sha256)
    (.invalid ("bundle entry failed integrity check: " ++ e.path))

def verifyBundle (w : Wire) (archive : List ArchiveEntry) : Except EvidenceError BundleManifest := do
  let all ← archive.foldlM addFile ∅
  let own ← okOr (all.get "manifest.json") (.invalid "bundle has no manifest")
  let files := all.delete (fun f => f.path == "manifest.json")
  let manifest ← okOr (w.fromSlice own.bytes) .json
  let expected := manifest.entries.map BundleEntry.path
  ensure (manifest.schema == bundleSchema) (.invalid ("unsupported bundle schema " ++ manifest.schema))
  ensure (decide expected.Nodup && expected.all (fun path => path != "manifest.json" && safeBundlePath path))
    (.invalid "bundle manifest contains duplicate or unsafe entry paths")
  ensure (SortedSet.ofList expected == SortedSet.ofList (files.rows.map File.path))
    (.invalid "bundle entry set does not match manifest")
  manifest.entries.forM (checkEntry w files)
  return manifest

/-! ## What is accepted -/

/-- The files of the archive are the manifest and those it names, as it says. -/
structure Authentic (w : Wire) (archive : List ArchiveEntry) (m : BundleManifest) : Prop where
  safe : ∀ e ∈ archive, e.regular = true ∧ safeBundlePath e.file.path = true
  distinct : (archive.map (fun e => e.file.path)).Nodup
  own : ∃ e ∈ archive, e.file.path = "manifest.json" ∧ w.fromSlice e.file.bytes = some m
  schema : m.schema = bundleSchema
  once : (m.entries.map BundleEntry.path).Nodup
  named : ∀ path, path ∈ m.entries.map BundleEntry.path ↔
    path ≠ "manifest.json" ∧ path ∈ archive.map (fun e => e.file.path)
  intact : ∀ b ∈ m.entries, ∀ e ∈ archive, e.file.path = b.path → b = bundleEntry w e.file

variable {w : Wire} {archive : List ArchiveEntry} {m : BundleManifest}

theorem addFile_ok {files out : Table File.path} {e : ArchiveEntry} : addFile files e = .ok out ↔
    e.regular = true ∧ safeBundlePath e.file.path = true ∧ files.insert e.file = some out := by
  unfold addFile
  cases e.regular with
  | false => simp
  | true =>
    cases safeBundlePath e.file.path with
    | false => simp
    | true => cases h : files.insert e.file <;> simp [okOr]

/-- The loop takes the files of the archive one after the other. -/
theorem addFiles_ok : ∀ {archive : List ArchiveEntry} {files out : Table File.path},
    archive.foldlM addFile files = .ok out ↔
      (∀ e ∈ archive, e.regular = true ∧ safeBundlePath e.file.path = true) ∧
        out.rows = files.rows ++ archive.map ArchiveEntry.file
  | [], files, out => by
    simp only [List.foldlM_nil, pure_ok, Except.ok.injEq, List.map_nil, List.append_nil, List.not_mem_nil,
      false_implies, implies_true, true_and]
    exact ⟨fun h => by rw [h], fun h => (Table.ext_rows h).symm⟩
  | e :: archive, files, out => by
    rw [List.foldlM_cons]
    constructor
    · intro h
      obtain ⟨next, hnext, h⟩ := bind_ok h
      obtain ⟨hregular, hsafe, hinsert⟩ := addFile_ok.1 hnext
      obtain ⟨hall, hrows⟩ := addFiles_ok.1 h
      refine ⟨fun a ha => ?_, ?_⟩
      · rcases List.mem_cons.1 ha with rfl | ha
        · exact ⟨hregular, hsafe⟩
        · exact hall a ha
      · rw [hrows, (Table.insert_some hinsert).2, List.append_assoc]
        rfl
    · rintro ⟨hall, hrows⟩
      have hfresh : files.get e.file.path = none := by
        refine Table.get_none.2 (fun q hq hk => ?_)
        have hn := out.nodup
        rw [hrows, List.map_append, List.nodup_append'] at hn
        exact hn.2.2 (List.mem_map_of_mem hq) (by rw [hk]; simp)
      obtain ⟨next, hnext⟩ := Table.insert_isSome hfresh
      rw [addFile_ok.2 ⟨(hall e List.mem_cons_self).1, (hall e List.mem_cons_self).2, hnext⟩, ok_bind]
      refine addFiles_ok.2 ⟨fun a ha => hall a (List.mem_cons_of_mem e ha), ?_⟩
      rw [hrows, (Table.insert_some hnext).2, List.append_assoc]
      rfl

theorem checkEntry_ok {files : Table File.path} {b : BundleEntry} :
    checkEntry w files b = .ok () ↔ ∃ f ∈ files.rows, f.path = b.path ∧ b = bundleEntry w f := by
  unfold checkEntry
  cases h : files.get b.path with
  | none =>
    simp only [okOr, error_bind, reduceCtorEq, false_iff, not_exists, not_and]
    exact fun f hf hp _ => Table.get_none.1 h f hf hp
  | some f =>
    obtain ⟨hf, hp⟩ := Table.get_some.1 h
    simp only [okOr, ok_bind]
    constructor
    · intro hok
      have hok := ensure_ok hok
      simp only [Bool.and_eq_true, beq_iff_eq] at hok
      refine ⟨f, hf, hp, ?_⟩
      cases b
      simp only [bundleEntry, BundleEntry.mk.injEq]
      exact ⟨hp.symm, hok.2.symm, hok.1.symm⟩
    · rintro ⟨g, hg, hgp, hb⟩
      obtain rfl : g = f := List.inj_on_of_nodup_map files.nodup hg hf (hgp.trans hp.symm)
      rw [hb]
      simp [bundleEntry]

theorem verifyBundle_ok : verifyBundle w archive = .ok m ↔ Authentic w archive m := by
  have hpaths : ∀ all : Table File.path, all.rows = archive.map ArchiveEntry.file →
      ∀ path, path ∈ (all.delete (fun f => f.path == "manifest.json")).rows.map File.path ↔
        path ≠ "manifest.json" ∧ path ∈ archive.map (fun e => e.file.path) := by
    intro all hrows path
    simp only [List.mem_map, Table.mem_delete, hrows, beq_eq_false_iff_ne]
    constructor
    · rintro ⟨f, ⟨⟨e, he, rfl⟩, hne⟩, rfl⟩
      exact ⟨hne, e, he, rfl⟩
    · rintro ⟨hne, e, he, rfl⟩
      exact ⟨e.file, ⟨⟨e, he, rfl⟩, hne⟩, rfl⟩
  unfold verifyBundle
  constructor
  · intro h
    obtain ⟨all, hall, h⟩ := bind_ok h
    obtain ⟨own, hown, h⟩ := bind_ok h
    obtain ⟨manifest, hmanifest, h⟩ := bind_ok h
    obtain ⟨_, hschema, h⟩ := bind_ok h
    obtain ⟨_, honce, h⟩ := bind_ok h
    obtain ⟨_, hset, h⟩ := bind_ok h
    obtain ⟨u, hchecked, h⟩ := bind_ok h
    cases h
    obtain ⟨hsafe, hrows⟩ := addFiles_ok.1 hall
    have hrows : all.rows = archive.map ArchiveEntry.file := hrows
    have honce := ensure_ok honce
    rw [Bool.and_eq_true, decide_eq_true_eq] at honce
    have hset := beq_iff_eq.1 (ensure_ok hset)
    have hmem : ∀ path, path ∈ m.entries.map BundleEntry.path ↔
        path ≠ "manifest.json" ∧ path ∈ archive.map (fun e => e.file.path) := fun path => by
      rw [← hpaths all hrows, ← SortedSet.mem_ofList, hset, SortedSet.mem_ofList]
    obtain ⟨hmem_own, hpath⟩ := Table.get_some.1 (okOr_ok hown)
    rw [hrows] at hmem_own
    obtain ⟨e, he, rfl⟩ := List.mem_map.1 hmem_own
    refine ⟨hsafe, ?_, ⟨e, he, hpath, okOr_ok hmanifest⟩, beq_iff_eq.1 (ensure_ok hschema), honce.1, hmem, ?_⟩
    · have hn := all.nodup
      rw [hrows, List.map_map] at hn
      exact hn
    · intro b hb a ha hab
      obtain ⟨f, hf, hfp, hb⟩ := checkEntry_ok.1 (forM_ok hchecked hb)
      obtain ⟨hf, -⟩ := Table.mem_delete.1 hf
      have hmem_a : a.file ∈ all.rows := by
        rw [hrows]
        exact List.mem_map_of_mem ha
      rw [hb, List.inj_on_of_nodup_map all.nodup hf hmem_a (hfp.trans hab.symm)]
  · intro h
    have hdistinct : ((archive.map ArchiveEntry.file).map File.path).Nodup := by
      rw [List.map_map]
      exact h.distinct
    obtain ⟨all, hrows⟩ : ∃ all : Table File.path, all.rows = archive.map ArchiveEntry.file := ⟨⟨_, hdistinct⟩, rfl⟩
    obtain ⟨e, he, hpath, hparse⟩ := h.own
    have hown : all.get "manifest.json" = some e.file :=
      Table.get_some.2 ⟨by rw [hrows]; exact List.mem_map_of_mem he, hpath⟩
    have hset : SortedSet.ofList (m.entries.map BundleEntry.path) =
        SortedSet.ofList ((all.delete (fun f => f.path == "manifest.json")).rows.map File.path) :=
      SortedSet.ofList_congr (fun path => (h.named path).trans (hpaths all hrows path).symm)
    have hnamed : (m.entries.map BundleEntry.path).all (fun path => path != "manifest.json" && safeBundlePath path) =
        true := by
      rw [List.all_eq_true]
      intro path hp
      obtain ⟨hne, hmem⟩ := (h.named path).1 hp
      obtain ⟨a, ha, rfl⟩ := List.mem_map.1 hmem
      rw [(h.safe a ha).2, Bool.and_true]
      exact bne_iff_ne.2 hne
    have hchecked : m.entries.forM (checkEntry w (all.delete (fun f => f.path == "manifest.json"))) = .ok () := by
      rcases forM_cases (f := checkEntry w (all.delete (fun f => f.path == "manifest.json"))) m.entries with
        ⟨hok, -⟩ | ⟨b, hb, x, hx, -⟩
      · exact hok
      · obtain ⟨hne, hmem⟩ := (h.named b.path).1 (List.mem_map_of_mem hb)
        obtain ⟨a, ha, hab⟩ := List.mem_map.1 hmem
        have hkept : (a.file.path == "manifest.json") = false := beq_eq_false_iff_ne.2 (by rw [hab]; exact hne)
        have hfile : a.file ∈ all.rows := by
          rw [hrows]
          exact List.mem_map_of_mem ha
        have hmem_a : a.file ∈ (all.delete (fun f => f.path == "manifest.json")).rows := Table.mem_delete.2 ⟨hfile, hkept⟩
        have hb' := checkEntry_ok.2 ⟨a.file, hmem_a, hab, h.intact b hb a ha hab⟩
        rw [hx] at hb'
        cases hb'
    rw [addFiles_ok.2 ⟨h.safe, hrows⟩, ok_bind, hown]
    simp only [okOr, ok_bind, hparse]
    rw [h.schema, beq_self_eq_true, ensure_true, ok_bind, hnamed, decide_eq_true h.once, Bool.and_self, ensure_true, ok_bind,
      hset, beq_self_eq_true, ensure_true, ok_bind, hchecked]
    rfl

/-- **What `verify_bundle` accepts**: exactly the archives whose files are those of their manifest, as it says; so two archives
accepted under one manifest have the same files, but for colliding digests. -/
theorem verify_bundle_iff (w : Wire) (archive : List ArchiveEntry) (m : BundleManifest) :
    (verifyBundle w archive = .ok m ↔ Authentic w archive m) ∧
    ∀ archive', verifyBundle w archive = .ok m → verifyBundle w archive' = .ok m → ∀ e ∈ archive,
      e.file.path ≠ "manifest.json" → ∃ e' ∈ archive', e'.file.path = e.file.path ∧
        w.digest e'.file.bytes = w.digest e.file.bytes ∧
          e'.file.bytes.length % 2 ^ 64 = e.file.bytes.length % 2 ^ 64 := by
  refine ⟨verifyBundle_ok, fun archive' h h' e he hne => ?_⟩
  have ha := verifyBundle_ok.1 h
  have ha' := verifyBundle_ok.1 h'
  have hpath := (ha.named e.file.path).2 ⟨hne, List.mem_map_of_mem he⟩
  obtain ⟨e', he', hsame⟩ := List.mem_map.1 ((ha'.named _).1 hpath).2
  obtain ⟨b, hb, hbe⟩ := List.mem_map.1 hpath
  have hentry := ha.intact b hb e he hbe.symm
  rw [ha'.intact b hb e' he' (hsame.trans hbe.symm)] at hentry
  exact ⟨e', he', hsame, congrArg BundleEntry.sha256 hentry, congrArg BundleEntry.bytes hentry⟩

/-! ## What is exported -/

theorem safe_artifact {sha : String} (h : isLowerHex sha 64 = true) : safeBundlePath ("artifacts/" ++ sha) = true := by
  simp only [isLowerHex, Bool.and_eq_true, decide_eq_true_eq, List.all_eq_true] at h
  have hslash : '/' ∉ sha.toList := fun hmem => absurd (h.2 '/' hmem) (by decide)
  have hlist : ("artifacts/" ++ sha).toList = "artifacts".toList ++ '/' :: sha.toList := by
    rw [String.toList_append]
    rfl
  have hlong : sha.toList ≠ [] ∧ sha.toList ≠ ['.', '.'] := by
    constructor
    · intro hnil
      rw [hnil] at h
      exact absurd h.1 (by decide)
    · intro hdots
      rw [hdots] at h
      exact absurd h.1 (by decide)
  have hne : ("artifacts/" ++ sha != "") = true := by
    rw [bne_iff_ne]
    intro hempty
    have := congrArg String.toList hempty
    rw [hlist] at this
    cases this
  unfold safeBundlePath
  rw [hne, hlist, List.splitOn_append_cons_self, List.splitOn_eq_singleton (by decide), List.splitOn_eq_singleton hslash]
  simp [hlong]

theorem artifactFile_ok {stored : String → Option (List UInt8)} {artifact : Value} {f : File}
    (h : artifactFile stored artifact = .ok f) : ∃ sha, (artifact.get "sha256").bind Value.asStr = some sha ∧
      isLowerHex sha 64 = true ∧ stored sha = some f.bytes ∧ f.path = "artifacts/" ++ sha := by
  unfold artifactFile readArtifact at h
  obtain ⟨sha, hsha, h⟩ := bind_ok h
  obtain ⟨bytes, hread, h⟩ := bind_ok h
  obtain ⟨_, hhex, hread⟩ := bind_ok hread
  cases h
  exact ⟨sha, okOr_ok hsha, ensure_ok hhex, okOr_ok hread, rfl⟩

theorem artifact_path {sha : String} (h : isLowerHex sha 64 = true) : safeBundlePath ("artifacts/" ++ sha) = true ∧
    "artifacts/" ++ sha ≠ "manifest.json" ∧ "artifacts/" ++ sha ≠ "snapshot.json" := by
  have hfirst : ∀ s : String, "artifacts/" ++ sha = s → s.toList.head? = some 'a' := by
    rintro s rfl
    rw [String.toList_append]
    rfl
  exact ⟨safe_artifact h, fun heq => absurd (hfirst _ heq) (by decide), fun heq => absurd (hfirst _ heq) (by decide)⟩

theorem mem_payloads {inserted : List File} {f : File} (hf : f ∈ inserted)
    (hone : ∀ g ∈ inserted, g.path = f.path → g = f) : f ∈ payloads inserted :=
  Latest.mem_collect.2 (Latest.find_of_mem hf hone)

theorem authentic_payloads {runId : String} {inserted : List File}
    (hsafe : ∀ f ∈ inserted, safeBundlePath f.path = true ∧ f.path ≠ "manifest.json")
    (hm : m = ⟨bundleSchema, runId, (payloads inserted).map (bundleEntry w)⟩)
    (hjson : w.fromSlice (w.toVecPretty m) = some m) :
    Authentic w ((⟨"manifest.json", w.toVecPretty m⟩ :: payloads inserted).map (fun f => ⟨f, true⟩)) m := by
  have hpath : ∀ path ∈ (payloads inserted).map File.path, safeBundlePath path = true ∧ path ≠ "manifest.json" := by
    intro path hp
    rw [payloads, Latest.map_collect, SortedSet.mem_ofList] at hp
    obtain ⟨f, hf, rfl⟩ := List.mem_map.1 hp
    exact hsafe f hf
  have hnodup : ((payloads inserted).map File.path).Nodup := by
    rw [payloads, Latest.map_collect]
    exact SortedSet.nodup_ofList _
  have hentries : m.entries.map BundleEntry.path = (payloads inserted).map File.path := by
    rw [hm, List.map_map]
    rfl
  have hfiles : ((⟨"manifest.json", w.toVecPretty m⟩ :: payloads inserted).map
      (fun f => (⟨f, true⟩ : ArchiveEntry))).map (fun e => e.file.path) =
        "manifest.json" :: (payloads inserted).map File.path := by
    rw [List.map_map]
    rfl
  refine ⟨fun e he => ?_, ?_, ⟨_, List.mem_map_of_mem List.mem_cons_self, rfl, hjson⟩, by rw [hm], ?_, fun path => ?_, ?_⟩
  · obtain ⟨f, hf, rfl⟩ := List.mem_map.1 he
    rcases List.mem_cons.1 hf with rfl | hf
    · exact ⟨rfl, show safeBundlePath "manifest.json" = true by decide⟩
    · exact ⟨rfl, (hpath _ (List.mem_map_of_mem hf)).1⟩
  · rw [hfiles, List.nodup_cons]
    exact ⟨fun hmem => (hpath _ hmem).2 rfl, hnodup⟩
  · rw [hentries]
    exact hnodup
  · rw [hentries, hfiles, List.mem_cons]
    exact ⟨fun hp => ⟨(hpath path hp).2, Or.inr hp⟩, fun hp => hp.2.resolve_left hp.1⟩
  · intro b hb e he heb
    rw [hm] at hb
    obtain ⟨f, hf, rfl⟩ := List.mem_map.1 hb
    obtain ⟨g, hg, rfl⟩ := List.mem_map.1 he
    rcases List.mem_cons.1 hg with rfl | hg
    · exact absurd heb.symm (hpath f.path (List.mem_map_of_mem hf)).2
    · rw [List.inj_on_of_nodup_map hnodup hg hf heb]

/-- **An exported bundle verifies**, and holds the snapshot and every artifact the snapshot names as it is stored. -/
theorem exported_bundle_verifies {stored : String → Option (List UInt8)} {runId : String} {snapshot : Value}
    (h : exportBundle w stored runId snapshot = .ok (m, archive)) (hjson : w.fromSlice (w.toVecPretty m) = some m) :
    verifyBundle w archive = .ok m ∧ ⟨⟨"snapshot.json", w.snapshot snapshot⟩, true⟩ ∈ archive ∧
      ∀ a ∈ ((snapshot.get "artifacts").bind Value.asArray).getD [], ∃ sha bytes,
        (a.get "sha256").bind Value.asStr = some sha ∧ stored sha = some bytes ∧
          (⟨⟨"artifacts/" ++ sha, bytes⟩, true⟩ : ArchiveEntry) ∈ archive := by
  unfold exportBundle at h
  obtain ⟨artifacts, hartifacts, h⟩ := bind_ok h
  obtain ⟨hm, rfl⟩ := Prod.mk.inj (Except.ok.inj h)
  have hartifact : ∀ f ∈ artifacts, ∃ sha, isLowerHex sha 64 = true ∧ stored sha = some f.bytes ∧
      f.path = "artifacts/" ++ sha := by
    intro f hf
    obtain ⟨a, -, hf⟩ := (mem_mapM hartifacts).1 hf
    obtain ⟨sha, -, hhex, hread, hpath⟩ := artifactFile_ok hf
    exact ⟨sha, hhex, hread, hpath⟩
  have hsafe : ∀ f ∈ (⟨"snapshot.json", w.snapshot snapshot⟩ :: artifacts : List File),
      safeBundlePath f.path = true ∧ f.path ≠ "manifest.json" := by
    intro f hf
    rcases List.mem_cons.1 hf with rfl | hf
    · exact ⟨show safeBundlePath "snapshot.json" = true by decide, show "snapshot.json" ≠ "manifest.json" by decide⟩
    · obtain ⟨sha, hhex, -, hpath⟩ := hartifact f hf
      rw [hpath]
      exact ⟨(artifact_path hhex).1, (artifact_path hhex).2.1⟩
  have hin : ∀ f ∈ payloads (⟨"snapshot.json", w.snapshot snapshot⟩ :: artifacts), (⟨f, true⟩ : ArchiveEntry) ∈
      (⟨"manifest.json", w.toVecPretty m⟩ :: payloads (⟨"snapshot.json", w.snapshot snapshot⟩ :: artifacts)).map
        (fun f => ⟨f, true⟩) := fun f hf => List.mem_map_of_mem (List.mem_cons_of_mem _ hf)
  rw [hm]
  refine ⟨verifyBundle_ok.2 (authentic_payloads hsafe hm.symm hjson), hin _ (mem_payloads List.mem_cons_self ?_), ?_⟩
  · intro g hg hpath
    rcases List.mem_cons.1 hg with rfl | hg
    · rfl
    · obtain ⟨sha, hhex, -, hg⟩ := hartifact g hg
      exact absurd (hg.symm.trans hpath) (artifact_path hhex).2.2
  · intro a ha
    obtain ⟨f, hf⟩ := mapM_ok hartifacts ha
    obtain ⟨sha, hsha, hhex, hread, hpath⟩ := artifactFile_ok hf
    refine ⟨sha, f.bytes, hsha, hread, ?_⟩
    rw [← hpath]
    refine hin f (mem_payloads (List.mem_cons_of_mem _ ((mem_mapM hartifacts).2 ⟨a, ha, hf⟩)) (fun g hg hgf => ?_))
    rcases List.mem_cons.1 hg with rfl | hg
    · exact absurd (hpath.symm.trans hgf.symm) (artifact_path hhex).2.2
    · obtain ⟨sha', -, hread', hg⟩ := hartifact g hg
      have hsame : sha' = sha := by
        have hlist := congrArg String.toList (hg.symm.trans (hgf.trans hpath))
        rw [String.toList_append, String.toList_append] at hlist
        exact String.toList_inj.1 (List.append_cancel_left hlist)
      rw [hsame, hread] at hread'
      cases g
      cases f
      rw [File.mk.injEq]
      exact ⟨hgf, (Option.some.inj hread').symm⟩

section Validator

def sourceSha : String := "5d0f3c1a2b4e69788796a5b4c3d2e1f00f1e2d3c"

def stdoutSha : String := "d367a494a1f42c203ab4f4e02edb39df73e9ce42729a079f1dd3200e341b42a5"

def stderrSha : String := "e3b0c44298fc1c149afbf4c8996fb92427ae41e4649b934ca495991b7852b855"

def snapshotSha : String := "4b4ab728ae524f76671655437bad61734733984be1bcf79bbbf92f77391f847e"

def stdoutArtifact : Value :=
  .obj [("byte_length", .num (.pos 10)), ("id", .str "01JQ3V9A"), ("kind", .str "command_stdout"),
    ("logical_name", .str "tests-stdout.log"), ("media_type", .str "text/plain; charset=utf-8"), ("sha256", .str stdoutSha),
    ("storage_path", .str "/data/artifacts/d3/67/d367a494a1f42c203ab4f4e02edb39df73e9ce42729a079f1dd3200e341b42a5")]

def stderrArtifact : Value :=
  .obj [("byte_length", .num (.pos 0)), ("id", .str "01JQ3V9B"), ("kind", .str "command_stderr"),
    ("logical_name", .str "tests-stderr.log"), ("media_type", .str "text/plain; charset=utf-8"), ("sha256", .str stderrSha),
    ("storage_path", .str "/data/artifacts/e3/b0/e3b0c44298fc1c149afbf4c8996fb92427ae41e4649b934ca495991b7852b855")]

def testsEvidence : Value :=
  .obj [("artifact_ids", .arr [.str "01JQ3V9A", .str "01JQ3V9B"]), ("claim_id", .str "tests"),
    ("details", .obj [("exit_code", .num (.pos 0))]), ("proof_tier", .str "T2"), ("result_class", .str "success"),
    ("schema", .str "harness-evidence/v1"), ("source_sha", .str sourceSha)]

def testsRecord : Value :=
  .obj [("checklist_rows", .arr [.str "unit tests"]), ("claim_id", .str "tests"), ("created_at", .num (.pos 1714521700000)),
    ("evidence", testsEvidence),
    ("evidence_sha256", .str "2d73b76c50f478971efa7531cf29d4a9caa010de5d2b79c428914ae0d8486d8e"), ("id", .str "01JQ3V9C"),
    ("invalidated_at", .null), ("invalidated_reason", .null), ("proof_tier", .str "T2"), ("result_class", .str "success"),
    ("source_sha", .str sourceSha), ("task_attempt_id", .null), ("unproved_claims", .arr []),
    ("validation_id", .str "01JQ3V99")]

def validatedRun : Value :=
  .obj [("authority_digest", .str "8f76fd501bb68ef71f4e276bc28f29bce1003b0c2c9d9478de81b5bfc0cde1e9"),
    ("base_ref", .str "main"), ("base_sha", .str sourceSha), ("completed_at", .null),
    ("created_at", .str "2024-05-01T00:00:00Z"), ("failure_reason", .null), ("id", .str "01JQ3V8Z6T9K4M2N7P5R1S0A3B"),
    ("integration_branch", .null), ("integration_sha", .null), ("mode", .str "standard"), ("objective", .str "Add a retry"),
    ("phase", .str "executing"), ("pinned", .bool false), ("publication_mode", .str "none"),
    ("repository_id", .str "01JQ3V80"), ("run_token_budget", .null), ("scheduler_paused", .bool false),
    ("started_at", .str "2024-05-01T00:00:00Z"), ("state", .str "EXECUTING"), ("title", .str "Retry"),
    ("version", .num (.pos 3))]

/-- What `evidence_snapshot` returns for a run with one validator, which wrote a line to its standard output. -/
def validatorSnapshot : Value :=
  .obj [("agents", .arr []), ("artifacts", .arr [stdoutArtifact, stderrArtifact]), ("evidence", .arr [testsRecord]),
    ("run", validatedRun), ("schema", .str "harness-evidence-snapshot/v1"), ("tasks", .arr [])]

/-- `to_vec_pretty` of it. -/
def validatorText : List String :=
  ["\x7b\n  \"agents\": [],\n  \"artifacts\": [\n    \x7b\n      \"byte_length\": 10,\n      \"id\": \"01JQ3V9A\",\n",
    "      \"kind\": \"command_stdout\",\n      \"logical_name\": \"tests-stdout.log\",\n",
    "      \"media_type\": \"text/plain; charset=utf-8\",\n",
    "      \"sha256\": \"d367a494a1f42c203ab4f4e02edb39df73e9ce42729a079f1dd3200e341b42a5\",\n",
    "      \"storage_path\": \"/data/artifacts/d3/67/d367a494a1f42c203ab4f4e02edb39df73e9ce42729a079f1dd3200e341b42a5\"\n",
    "    \x7d,\n    \x7b\n      \"byte_length\": 0,\n      \"id\": \"01JQ3V9B\",\n      \"kind\": \"command_stderr\",\n",
    "      \"logical_name\": \"tests-stderr.log\",\n      \"media_type\": \"text/plain; charset=utf-8\",\n",
    "      \"sha256\": \"e3b0c44298fc1c149afbf4c8996fb92427ae41e4649b934ca495991b7852b855\",\n",
    "      \"storage_path\": \"/data/artifacts/e3/b0/e3b0c44298fc1c149afbf4c8996fb92427ae41e4649b934ca495991b7852b855\"\n",
    "    \x7d\n  ],\n  \"evidence\": [\n    \x7b\n      \"checklist_rows\": [\n        \"unit tests\"\n      ],\n",
    "      \"claim_id\": \"tests\",\n      \"created_at\": 1714521700000,\n      \"evidence\": \x7b\n",
    "        \"artifact_ids\": [\n          \"01JQ3V9A\",\n          \"01JQ3V9B\"\n        ],\n",
    "        \"claim_id\": \"tests\",\n        \"details\": \x7b\n          \"exit_code\": 0\n        \x7d,\n",
    "        \"proof_tier\": \"T2\",\n        \"result_class\": \"success\",\n",
    "        \"schema\": \"harness-evidence/v1\",\n        \"source_sha\": \"5d0f3c1a2b4e69788796a5b4c3d2e1f00f1e2d3c\"\n",
    "      \x7d,\n      \"evidence_sha256\": \"2d73b76c50f478971efa7531cf29d4a9caa010de5d2b79c428914ae0d8486d8e\",\n",
    "      \"id\": \"01JQ3V9C\",\n      \"invalidated_at\": null,\n      \"invalidated_reason\": null,\n",
    "      \"proof_tier\": \"T2\",\n      \"result_class\": \"success\",\n",
    "      \"source_sha\": \"5d0f3c1a2b4e69788796a5b4c3d2e1f00f1e2d3c\",\n      \"task_attempt_id\": null,\n",
    "      \"unproved_claims\": [],\n      \"validation_id\": \"01JQ3V99\"\n    \x7d\n  ],\n  \"run\": \x7b\n",
    "    \"authority_digest\": \"8f76fd501bb68ef71f4e276bc28f29bce1003b0c2c9d9478de81b5bfc0cde1e9\",\n",
    "    \"base_ref\": \"main\",\n    \"base_sha\": \"5d0f3c1a2b4e69788796a5b4c3d2e1f00f1e2d3c\",\n",
    "    \"completed_at\": null,\n    \"created_at\": \"2024-05-01T00:00:00Z\",\n    \"failure_reason\": null,\n",
    "    \"id\": \"01JQ3V8Z6T9K4M2N7P5R1S0A3B\",\n    \"integration_branch\": null,\n    \"integration_sha\": null,\n",
    "    \"mode\": \"standard\",\n    \"objective\": \"Add a retry\",\n    \"phase\": \"executing\",\n",
    "    \"pinned\": false,\n    \"publication_mode\": \"none\",\n    \"repository_id\": \"01JQ3V80\",\n",
    "    \"run_token_budget\": null,\n    \"scheduler_paused\": false,\n    \"started_at\": \"2024-05-01T00:00:00Z\",\n",
    "    \"state\": \"EXECUTING\",\n    \"title\": \"Retry\",\n    \"version\": 3\n  \x7d,\n",
    "  \"schema\": \"harness-evidence-snapshot/v1\",\n  \"tasks\": []\n\x7d"]

/-- The bytes of an ASCII text. -/
def ascii (parts : List String) : List UInt8 := parts.flatMap (fun part => part.toList.map Char.toUInt8)

def validatorStored (digest : String) : Option (List UInt8) :=
  if digest = stdoutSha then some (ascii ["12 passed\n"]) else if digest = stderrSha then some [] else none

def validatorManifest : BundleManifest :=
  ⟨bundleSchema, "01JQ3V8Z6T9K4M2N7P5R1S0A3B", [⟨"artifacts/" ++ stdoutSha, stdoutSha, 10⟩,
    ⟨"artifacts/" ++ stderrSha, stderrSha, 0⟩, ⟨"snapshot.json", snapshotSha, 2495⟩]⟩

def validatorManifestText : List String :=
  ["\x7b\n  \"schema\": \"harness-evidence-bundle/v1\",\n  \"run_id\": \"01JQ3V8Z6T9K4M2N7P5R1S0A3B\",\n",
    "  \"entries\": [\n    \x7b\n",
    "      \"path\": \"artifacts/d367a494a1f42c203ab4f4e02edb39df73e9ce42729a079f1dd3200e341b42a5\",\n",
    "      \"sha256\": \"d367a494a1f42c203ab4f4e02edb39df73e9ce42729a079f1dd3200e341b42a5\",\n      \"bytes\": 10\n",
    "    \x7d,\n    \x7b\n",
    "      \"path\": \"artifacts/e3b0c44298fc1c149afbf4c8996fb92427ae41e4649b934ca495991b7852b855\",\n",
    "      \"sha256\": \"e3b0c44298fc1c149afbf4c8996fb92427ae41e4649b934ca495991b7852b855\",\n      \"bytes\": 0\n",
    "    \x7d,\n    \x7b\n      \"path\": \"snapshot.json\",\n",
    "      \"sha256\": \"4b4ab728ae524f76671655437bad61734733984be1bcf79bbbf92f77391f847e\",\n      \"bytes\": 2495\n",
    "    \x7d\n  ]\n\x7d"]

/-- The JSON texts and the SHA-256 of these bytes. -/
def validatorWire : Wire where
  snapshot := fun _ => ascii validatorText
  toVecPretty := fun _ => ascii validatorManifestText
  fromSlice := fun _ => some validatorManifest
  digest := fun bytes =>
    if bytes.length = 0 then stderrSha else if bytes.length = 10 then stdoutSha else snapshotSha

def validatorArchive : List ArchiveEntry :=
  [⟨⟨"manifest.json", ascii validatorManifestText⟩, true⟩, ⟨⟨"artifacts/" ++ stdoutSha, ascii ["12 passed\n"]⟩, true⟩,
    ⟨⟨"artifacts/" ++ stderrSha, []⟩, true⟩, ⟨⟨"snapshot.json", ascii validatorText⟩, true⟩]

theorem length_ascii_cons {l : List Char} {parts : List String} {n : Nat} (h : l.length ≤ n)
    (hparts : (ascii parts).length = n - l.length) : (ascii (String.ofList l :: parts)).length = n := by
  rw [ascii, List.flatMap_cons, List.length_append, List.length_map, String.toList_ofList]
  rw [ascii] at hparts
  omega

theorem length_validatorText : (ascii validatorText).length = 2495 := by
  repeat refine length_ascii_cons (Nat.le_of_ble_eq_true rfl) ?_
  exact Nat.eq_of_beq_eq_true rfl

theorem readArtifact_validator : readArtifact validatorStored stdoutSha = .ok (ascii ["12 passed\n"]) ∧
    readArtifact validatorStored stderrSha = .ok [] := by
  have hout : isLowerHex stdoutSha 64 = true := isLowerHex_ofList (by decide)
  have herr : isLowerHex stderrSha 64 = true := isLowerHex_ofList (by decide)
  unfold readArtifact
  rw [hout, herr]
  exact ⟨rfl, rfl⟩

theorem exported_bundle_verifies_validator :
    verifyBundle validatorWire validatorArchive = .ok validatorManifest ∧
      ⟨⟨"snapshot.json", ascii validatorText⟩, true⟩ ∈ validatorArchive ∧
      ∀ a ∈ [stdoutArtifact, stderrArtifact], ∃ sha bytes, (a.get "sha256").bind Value.asStr = some sha ∧
        validatorStored sha = some bytes ∧ (⟨⟨"artifacts/" ++ sha, bytes⟩, true⟩ : ArchiveEntry) ∈ validatorArchive := by
  have hnamed : ((validatorSnapshot.get "artifacts").bind Value.asArray).getD [] = [stdoutArtifact, stderrArtifact] := by
    simp [validatorSnapshot, Value.get, Value.asArray, List.lookup_cons]
  have hexport : exportBundle validatorWire validatorStored "01JQ3V8Z6T9K4M2N7P5R1S0A3B" validatorSnapshot =
      .ok (validatorManifest, validatorArchive) := by
    have hfiles : payloads [⟨"snapshot.json", ascii validatorText⟩, ⟨"artifacts/" ++ stdoutSha, ascii ["12 passed\n"]⟩,
        ⟨"artifacts/" ++ stderrSha, []⟩] = [⟨"artifacts/" ++ stdoutSha, ascii ["12 passed\n"]⟩,
          ⟨"artifacts/" ++ stderrSha, []⟩, ⟨"snapshot.json", ascii validatorText⟩] := by
      simp [payloads, Latest.collect, Latest.find, SortedSet.ofList, stdoutSha, stderrSha]
    have hartifacts : [stdoutArtifact, stderrArtifact].mapM (artifactFile validatorStored) =
        .ok [⟨"artifacts/" ++ stdoutSha, ascii ["12 passed\n"]⟩, ⟨"artifacts/" ++ stderrSha, []⟩] := by
      have hout : (stdoutArtifact.get "sha256").bind Value.asStr = some stdoutSha := by
        simp [stdoutArtifact, Value.get, Value.asStr, List.lookup_cons]
      have herr : (stderrArtifact.get "sha256").bind Value.asStr = some stderrSha := by
        simp [stderrArtifact, Value.get, Value.asStr, List.lookup_cons]
      simp only [List.mapM_cons, List.mapM_nil, artifactFile, hout, herr, okOr, ok_bind, readArtifact_validator.1,
        readArtifact_validator.2, pure_ok]
    have hentries : [⟨"artifacts/" ++ stdoutSha, ascii ["12 passed\n"]⟩, ⟨"artifacts/" ++ stderrSha, []⟩,
        ⟨"snapshot.json", ascii validatorText⟩].map (bundleEntry validatorWire) = validatorManifest.entries := by
      have hline : (ascii ["12 passed\n"]).length = 10 := length_ascii_cons (by decide) rfl
      simp only [List.map_cons, List.map_nil, bundleEntry, validatorWire, length_validatorText, hline]
      rfl
    unfold exportBundle
    rw [hnamed, hartifacts, ok_bind, show validatorWire.snapshot validatorSnapshot = ascii validatorText from rfl, hfiles]
    simp only [hentries]
    rfl
  have h := exported_bundle_verifies hexport rfl
  rw [hnamed] at h
  exact h

end Validator

end Evidence
end Bildr
