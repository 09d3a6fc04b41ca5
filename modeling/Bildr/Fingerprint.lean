import Bildr.DiffCustody
import Bildr.Framing
import Bildr.Lossy
/-!
# Fingerprint — what the fingerprint of a worktree is taken of

`worktree_snapshot` hashes one stream: HEAD, the status, the diff of what is tracked, and every untracked entry in the
order of the paths.  All parts are frames except the bytes of a file, which follow the frame of its length.  The stream
is read back part by part (`worktree_streams_separate`).  git, the file system and SHA-256 are outside the repository.
-/
namespace Bildr
namespace Git

open Framing (frame bigEndian Fits frame_append_inj bigEndian_inj fits_bigEndian)

/-- A `Vec<u8>`: no more bytes than an `isize` counts. -/
@[ext] structure Vec where
  bytes : Bytes
  fits : bytes.length < 9223372036854775808

inductive FileType
  | symlink
  | file
  | other
deriving DecidableEq, Repr

structure Metadata where
  mode : UInt32
  len : UInt64
  fileType : FileType
deriving DecidableEq, Repr

/-- What git and the file system answer of a worktree; `others` is the listing of the untracked paths. -/
structure Worktree where
  head : Except GitError String
  status : Except GitError Vec
  trackedDiff : Except GitError Vec
  others : Except GitError Vec
  staysIn : Bytes → Except GitError Unit
  symlinkMetadata : Bytes → Except GitError Metadata
  readLink : Bytes → Except GitError Vec
  read : Bytes → Except GitError Bytes

def addUntracked (w : Worktree) (stream : Bytes) (relative : Bytes) : Except GitError Bytes := do
  validateRelativeRepoPath relative
  w.staysIn relative
  let metadata ← w.symlinkMetadata relative
  let stream := stream ++ frame relative ++ frame (bigEndian 8 metadata.mode.toNat) ++
    frame (bigEndian 8 metadata.len.toNat)
  match metadata.fileType with
  | .symlink => do
    let target ← w.readLink relative
    return stream ++ frame (bytesOf "symlink") ++ frame target.bytes
  | .file => do
    let body ← w.read relative
    return stream ++ frame (bytesOf "file") ++ body
  | .other => .error (.policy ("unsupported untracked filesystem entry: " ++ textOf relative))

/-- What `worktree_snapshot` feeds to the hash. -/
def worktreeStream (w : Worktree) : Except GitError Bytes := do
  let head ← w.head
  ensureSha head
  let status ← w.status
  let trackedDiff ← w.trackedDiff
  let others ← w.others
  let names ← splitNul others.bytes
  let untracked := SortedSet.ofList names
  untracked.foldlM (addUntracked w) (frame (bytesOf "harness-worktree-fingerprint-v1") ++ frame (bytesOf head) ++
    frame status.bytes ++ frame trackedDiff.bytes)

def worktreeSnapshot (sha256 : Bytes → String) (w : Worktree) : Except GitError String := do
  let stream ← worktreeStream w
  return sha256 stream

/-! ## Untracked entries -/

inductive Content
  | symlink (target : Bytes)
  | file (body : Bytes)
deriving DecidableEq, Repr

structure Entry where
  path : Bytes
  mode : UInt32
  len : UInt64
  content : Content
deriving DecidableEq, Repr

def Content.stream : Content → Bytes
  | symlink target => frame (bytesOf "symlink") ++ frame target
  | file body      => frame (bytesOf "file") ++ body

def Entry.stream (e : Entry) : Bytes :=
  frame e.path ++ (frame (bigEndian 8 e.mode.toNat) ++ (frame (bigEndian 8 e.len.toNat) ++ e.content.stream))

/-- A path and a target fit a frame, and a file has as many bytes as its length says. -/
structure Entry.Sound (e : Entry) : Prop where
  path : Fits e.path
  target : ∀ target, e.content = .symlink target → Fits target
  body : ∀ body, e.content = .file body → body.length = e.len.toNat

theorem content_append_inj {len : Nat} {c d : Content} {s t : Bytes} (hc : ∀ target, c = .symlink target → Fits target)
    (hd : ∀ target, d = .symlink target → Fits target) (hcb : ∀ body, c = .file body → body.length = len)
    (hdb : ∀ body, d = .file body → body.length = len) (h : c.stream ++ s = d.stream ++ t) : c = d ∧ s = t := by
  have hlink : Fits (bytesOf "symlink") := by decide +kernel
  have hfile : Fits (bytesOf "file") := by decide +kernel
  cases c with
  | symlink target =>
    cases d with
    | symlink target' =>
      rw [Content.stream, Content.stream, List.append_assoc, List.append_assoc] at h
      obtain ⟨heq, hrest⟩ := frame_append_inj (hc target rfl) (hd target' rfl) (frame_append_inj hlink hlink h).2
      exact ⟨by rw [heq], hrest⟩
    | file body =>
      rw [Content.stream, Content.stream, List.append_assoc, List.append_assoc] at h
      exact absurd (frame_append_inj hlink hfile h).1 (by decide +kernel)
  | file body =>
    cases d with
    | symlink target =>
      rw [Content.stream, Content.stream, List.append_assoc, List.append_assoc] at h
      exact absurd (frame_append_inj hfile hlink h).1 (by decide +kernel)
    | file body' =>
      rw [Content.stream, Content.stream, List.append_assoc, List.append_assoc] at h
      have hbodies := (frame_append_inj hfile hfile h).2
      obtain ⟨heq, hrest⟩ := List.append_inj hbodies (by rw [hcb body rfl, hdb body' rfl])
      exact ⟨by rw [heq], hrest⟩

/-- **An entry is read back, and so is what follows it**: the length comes before the bytes it counts. -/
theorem entry_append_inj {d e : Entry} {s t : Bytes} (hd : d.Sound) (he : e.Sound)
    (h : d.stream ++ s = e.stream ++ t) : d = e ∧ s = t := by
  unfold Entry.stream at h
  simp only [List.append_assoc] at h
  obtain ⟨hpath, h⟩ := frame_append_inj hd.path he.path h
  obtain ⟨hmode, h⟩ := frame_append_inj (fits_bigEndian _) (fits_bigEndian _) h
  obtain ⟨hlen, h⟩ := frame_append_inj (fits_bigEndian _) (fits_bigEndian _) h
  have hmode := UInt32.toNat_inj.1
    (bigEndian_inj (Nat.lt_trans (UInt32.toNat_lt _) (by decide)) (Nat.lt_trans (UInt32.toNat_lt _) (by decide)) hmode)
  have hlen := UInt64.toNat_inj.1 (bigEndian_inj (UInt64.toNat_lt _) (UInt64.toNat_lt _) hlen)
  obtain ⟨hcontent, h⟩ := content_append_inj hd.target he.target hd.body (by rw [hlen]; exact he.body) h
  refine ⟨?_, h⟩
  cases d
  cases e
  dsimp only at hpath hmode hlen hcontent
  rw [hpath, hmode, hlen, hcontent]

theorem stream_ne_nil (e : Entry) : e.stream ≠ [] := by
  unfold Entry.stream
  exact List.append_ne_nil_of_left_ne_nil (Framing.frame_ne_nil e.path) _

theorem entries_inj : ∀ {l m : List Entry}, (∀ e ∈ l, e.Sound) → (∀ e ∈ m, e.Sound) →
    l.flatMap Entry.stream = m.flatMap Entry.stream → l = m
  | [], [], _, _, _         => rfl
  | [], e :: m, _, _, h     => by
    rw [List.flatMap_nil, List.flatMap_cons] at h
    exact absurd (List.append_eq_nil_iff.1 h.symm).1 (stream_ne_nil e)
  | d :: l, [], _, _, h     => by
    rw [List.flatMap_nil, List.flatMap_cons] at h
    exact absurd (List.append_eq_nil_iff.1 h).1 (stream_ne_nil d)
  | d :: l, e :: m, hl, hm, h => by
    rw [List.flatMap_cons, List.flatMap_cons] at h
    obtain ⟨rfl, hrest⟩ := entry_append_inj (hl d List.mem_cons_self) (hm e List.mem_cons_self) h
    rw [entries_inj (fun x hx => hl x (List.mem_cons_of_mem d hx)) (fun x hx => hm x (List.mem_cons_of_mem d hx)) hrest]

/-! ## Worktrees -/

def Worktree.entry (w : Worktree) (path : Bytes) : Except GitError Entry := do
  let metadata ← w.symlinkMetadata path
  match metadata.fileType with
  | .symlink => do
    let target ← w.readLink path
    return ⟨path, metadata.mode, metadata.len, .symlink target.bytes⟩
  | .file => do
    let body ← w.read path
    return ⟨path, metadata.mode, metadata.len, .file body⟩
  | .other => .error (.policy ("unsupported untracked filesystem entry: " ++ textOf path))

def Worktree.Untracked (w : Worktree) (e : Entry) : Prop :=
  ∃ others names, w.others = .ok others ∧ splitNul others.bytes = .ok names ∧ ∃ path ∈ names, w.entry path = .ok e

def Worktree.ReadsWhole (w : Worktree) : Prop :=
  ∀ path metadata body, w.symlinkMetadata path = .ok metadata → metadata.fileType = .file → w.read path = .ok body →
    body.length = metadata.len.toNat

theorem addUntracked_ok {w : Worktree} {stream relative stream' : Bytes}
    (h : addUntracked w stream relative = .ok stream') :
    ∃ e, w.entry relative = .ok e ∧ stream' = stream ++ e.stream := by
  unfold addUntracked at h
  obtain ⟨-, -, h⟩ := bind_ok h
  obtain ⟨-, -, h⟩ := bind_ok h
  obtain ⟨metadata, hmetadata, h⟩ := bind_ok h
  dsimp only at h
  unfold Worktree.entry
  rw [hmetadata, ok_bind]
  cases htype : metadata.fileType with
  | symlink =>
    rw [htype] at h
    obtain ⟨target, htarget, h⟩ := bind_ok h
    cases h
    refine ⟨⟨relative, metadata.mode, metadata.len, .symlink target.bytes⟩, ?_, ?_⟩
    · dsimp only
      rw [htarget, ok_bind]
      rfl
    · unfold Entry.stream Content.stream
      simp only [List.append_assoc]
  | file =>
    rw [htype] at h
    obtain ⟨body, hbody, h⟩ := bind_ok h
    cases h
    refine ⟨⟨relative, metadata.mode, metadata.len, .file body⟩, ?_, ?_⟩
    · dsimp only
      rw [hbody, ok_bind]
      rfl
    · unfold Entry.stream Content.stream
      simp only [List.append_assoc]
  | other =>
    rw [htype] at h
    cases h

theorem foldlM_addUntracked_ok {w : Worktree} : ∀ {paths : List Bytes} {stream stream' : Bytes},
    paths.foldlM (addUntracked w) stream = .ok stream' →
    ∃ entries, paths.mapM w.entry = .ok entries ∧ stream' = stream ++ entries.flatMap Entry.stream
  | [], stream, stream', h => by
    rw [List.foldlM_nil] at h
    cases h
    exact ⟨[], rfl, by rw [List.flatMap_nil, List.append_nil]⟩
  | path :: paths, stream, stream', h => by
    rw [List.foldlM_cons] at h
    obtain ⟨next, hnext, h⟩ := bind_ok h
    obtain ⟨e, he, rfl⟩ := addUntracked_ok hnext
    obtain ⟨entries, hentries, rfl⟩ := foldlM_addUntracked_ok h
    refine ⟨e :: entries, ?_, by rw [List.flatMap_cons, List.append_assoc]⟩
    rw [List.mapM_cons, he, ok_bind, hentries]
    rfl

theorem length_le_of_mem_intercalate {part : Bytes} : ∀ {parts : List Bytes}, part ∈ parts →
    part.length ≤ ([0].intercalate parts).length
  | [p], h            => by
    rw [List.mem_singleton.1 h, List.intercalate_singleton]
  | p :: q :: parts, h => by
    rw [List.intercalate_cons_cons, List.length_append, List.length_append]
    rcases List.mem_cons.1 h with rfl | h
    · omega
    · have hle := length_le_of_mem_intercalate h
      omega

theorem length_le_of_mem_splitNul {bytes path : Bytes} {names : List Bytes} (h : splitNul bytes = .ok names)
    (hp : path ∈ names) : path.length ≤ bytes.length := by
  unfold splitNul at h
  rw [mapM_utf8Path h] at hp
  have hle := length_le_of_mem_intercalate (List.mem_filter.1 hp).1
  rwa [List.intercalate_splitOn] at hle

theorem entry_sound {w : Worktree} {path : Bytes} {e : Entry} (hw : w.ReadsWhole) (hp : Fits path)
    (h : w.entry path = .ok e) : e.Sound := by
  unfold Worktree.entry at h
  obtain ⟨metadata, hmetadata, h⟩ := bind_ok h
  cases htype : metadata.fileType with
  | symlink =>
    rw [htype] at h
    obtain ⟨target, -, h⟩ := bind_ok h
    cases h
    refine ⟨hp, fun t ht => ?_, fun body hb => (by cases hb)⟩
    cases ht
    exact Nat.lt_trans target.fits (by decide)
  | file =>
    rw [htype] at h
    obtain ⟨body, hbody, h⟩ := bind_ok h
    cases h
    refine ⟨hp, fun t ht => (by cases ht), fun b hb => ?_⟩
    cases hb
    exact hw path metadata body hmetadata htype hbody
  | other =>
    rw [htype] at h
    cases h

structure Hashed (w : Worktree) (stream : Bytes) (head : String) (status trackedDiff : Vec) (entries : List Entry) :
    Prop where
  atHead : w.head = .ok head
  inStatus : w.status = .ok status
  inDiff : w.trackedDiff = .ok trackedDiff
  sha : Fits (bytesOf head)
  untracked : ∀ e, e ∈ entries ↔ w.Untracked e
  sound : w.ReadsWhole → ∀ e ∈ entries, e.Sound
  hashed : stream = frame (bytesOf "harness-worktree-fingerprint-v1") ++ (frame (bytesOf head) ++
    (frame status.bytes ++ (frame trackedDiff.bytes ++ entries.flatMap Entry.stream)))

theorem bytesOf_eq (s : String) : bytesOf s = (Lossy.encode s.toList).map UInt8.toFin := by
  unfold bytesOf
  rw [show s.toUTF8 = s.toList.utf8Encode from String.utf8Encode_toList.symm]
  unfold List.utf8Encode
  rw [List.toList_data_toByteArray]
  rfl

theorem bytesOf_inj {s t : String} (h : bytesOf s = bytesOf t) : s = t := by
  rw [bytesOf_eq, bytesOf_eq] at h
  exact String.toList_inj.1 (Lossy.encode_inj (List.map_injective_iff.2 (fun a b hab => UInt8.toFin_inj.1 hab) h))

theorem fits_sha {sha : String} (h : ensureSha sha = .ok ()) : Fits (bytesOf sha) := by
  have hhex := ensure_ok h
  unfold Improvement.isLowerHex at hhex
  rw [Bool.and_eq_true, decide_eq_true_eq] at hhex
  have hlength := Lossy.length_encode_le sha.toList
  rw [hhex.1] at hlength
  unfold Fits
  rw [bytesOf_eq, List.length_map]
  exact Nat.lt_of_le_of_lt hlength (by decide)

theorem worktreeStream_ok {w : Worktree} {stream : Bytes} (h : worktreeStream w = .ok stream) :
    ∃ head status trackedDiff entries, Hashed w stream head status trackedDiff entries := by
  unfold worktreeStream at h
  obtain ⟨head, hhead, h⟩ := bind_ok h
  obtain ⟨⟨⟩, hsha, h⟩ := bind_ok h
  obtain ⟨status, hstatus, h⟩ := bind_ok h
  obtain ⟨trackedDiff, hdiff, h⟩ := bind_ok h
  obtain ⟨others, hothers, h⟩ := bind_ok h
  obtain ⟨names, hnames, h⟩ := bind_ok h
  obtain ⟨entries, hentries, rfl⟩ := foldlM_addUntracked_ok h
  have hmem : ∀ e, e ∈ entries ↔ ∃ path ∈ names, w.entry path = .ok e := by
    intro e
    rw [mem_mapM hentries]
    simp only [SortedSet.mem_ofList]
  refine ⟨head, status, trackedDiff, entries, hhead, hstatus, hdiff, fits_sha hsha, fun e => ?_, fun hw e he => ?_, ?_⟩
  · rw [hmem]
    constructor
    · intro hpath
      exact ⟨others, names, hothers, hnames, hpath⟩
    · rintro ⟨others', names', hothers', hnames', hpath⟩
      rw [hothers] at hothers'
      cases hothers'
      rw [hnames] at hnames'
      cases hnames'
      exact hpath
  · obtain ⟨path, hp, hentry⟩ := (hmem e).1 he
    have hlength := length_le_of_mem_splitNul hnames hp
    have hfits := others.fits
    refine entry_sound hw ?_ hentry
    unfold Fits
    omega
  · simp only [List.append_assoc]

/-- **Two worktrees that differ are hashed as different streams.** -/
theorem worktree_streams_separate {w w' : Worktree} {stream stream' : Bytes} (hw : w.ReadsWhole) (hw' : w'.ReadsWhole)
    (h : worktreeStream w = .ok stream) (h' : worktreeStream w' = .ok stream')
    (hdiffer : w.head ≠ w'.head ∨ w.status ≠ w'.status ∨ w.trackedDiff ≠ w'.trackedDiff ∨
      ∃ e, ¬(w.Untracked e ↔ w'.Untracked e)) : stream ≠ stream' := by
  obtain ⟨head, status, trackedDiff, entries, hs⟩ := worktreeStream_ok h
  obtain ⟨head', status', trackedDiff', entries', hs'⟩ := worktreeStream_ok h'
  have hvec : ∀ v : Vec, Fits v.bytes := fun v => Nat.lt_trans v.fits (by decide)
  intro heq
  rw [hs.hashed, hs'.hashed] at heq
  obtain ⟨hhead, heq⟩ := frame_append_inj hs.sha hs'.sha (List.append_cancel_left heq)
  obtain ⟨hstatus, heq⟩ := frame_append_inj (hvec status) (hvec status') heq
  obtain ⟨htracked, heq⟩ := frame_append_inj (hvec trackedDiff) (hvec trackedDiff') heq
  have hentries := entries_inj (hs.sound hw) (hs'.sound hw') heq
  rcases hdiffer with hne | hne | hne | ⟨e, hne⟩
  · rw [hs.atHead, hs'.atHead, bytesOf_inj hhead] at hne
    exact hne rfl
  · rw [hs.inStatus, hs'.inStatus, Vec.ext hstatus] at hne
    exact hne rfl
  · rw [hs.inDiff, hs'.inDiff, Vec.ext htracked] at hne
    exact hne rfl
  · rw [← hs.untracked, ← hs'.untracked, hentries] at hne
    exact hne Iff.rfl

def worktreeWith (name body : Bytes) (hname : name.length < 9223372036854775808) : Worktree where
  head := .ok "0123456789012345678901234567890123456789"
  status := .ok ⟨[], by decide⟩
  trackedDiff := .ok ⟨[], by decide⟩
  others := .ok ⟨name, hname⟩
  staysIn := fun _ => .ok ()
  symlinkMetadata := fun _ => .ok ⟨33188, UInt64.ofNat body.length, .file⟩
  readLink := fun _ => .error (.io "Invalid argument")
  read := fun _ => .ok body

theorem worktreeWith_readsWhole (byte : Fin 256) : (worktreeWith [97] [byte] (by decide)).ReadsWhole := by
  intro path metadata body hmetadata _ hbody
  cases hmetadata
  cases hbody
  rfl

/-- Two worktrees whose untracked file differs in its one byte. -/
theorem two_bodies_separate :
    ∃ stream stream', worktreeStream (worktreeWith [97] [1] (by decide)) = .ok stream ∧
      worktreeStream (worktreeWith [97] [2] (by decide)) = .ok stream' ∧ stream ≠ stream' := by
  refine ⟨_, _, rfl, rfl, worktree_streams_separate (worktreeWith_readsWhole 1) (worktreeWith_readsWhole 2) rfl rfl
    (.inr (.inr (.inr ⟨⟨[97], 33188, 1, .file [1]⟩, fun hiff => ?_⟩)))⟩
  obtain ⟨others, names, -, -, path, -, hentry⟩ := hiff.1 ⟨_, _, rfl, rfl, [97], by decide, rfl⟩
  have hcontent := congrArg Entry.content (Except.ok.inj hentry)
  exact absurd hcontent (by decide : Content.file [2] ≠ Content.file [1])

end Git
end Bildr
