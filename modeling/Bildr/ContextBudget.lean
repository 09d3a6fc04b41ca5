import Bildr.ContextScope
import Bildr.Lossy
/-!
# ContextBudget — what is inlined, and what it counts for

A candidate is inlined when its file may be and still fits the budget of the packet; the others leave their digest or
less.  A packet has one source for each spelling that was selected, and counts the bytes of the files it inlines.  So
its paths are distinct when no path is spelled twice, and it counts the bodies when each is as long as its file
(`packet_accounts_iff`).
-/
namespace Bildr
namespace Context

open Plan (Packet)

/-- A checkout at rest: reading a file gives as many bytes as its metadata says. -/
structure Tree (trackable : String → Bool) extends Repository trackable where
  whole : ∀ {path : String} {e : Entry} {bytes : Bytes}, entry path = some e → e.content = .ok bytes →
    bytes.length = e.len

/-- SHA-256 and the digest of a packet as they are given, and the texts that UTF-8 reads. -/
def decoding (sha256 : Bytes → String) (packetDigest : ContextPacket → String) : Texts :=
  ⟨sha256, fun bytes => String.ofList (Lossy.chars bytes), packetDigest⟩

def textBytes (text : String) : Nat := (Lossy.encode text.toList).length

section Bodies
variable {trackable : String → Bool} (compiler : ContextCompiler) (profile : RepositoryProfile)
  (repository : Repository trackable) (tracked : List String)

def inlineBody (c : Candidate) (path : String) : Option Bytes :=
  match repository.entry path with
  | none       => none
  | some entry =>
    match entry.content with
    | .error _  => none
    | .ok bytes =>
      if tracked.contains path && (excludedByName path c.promoted).isNone && !entry.symlink &&
          decide (entry.len ≤ compiler.maxSourceBytes) && !looksBinary bytes &&
          !profile.receiptOnlyAuthorities.contains path && decide (bytes.length ≤ 65536) then some bytes
      else none

/-- The files that are inlined of the selected candidates, in their order and after so many bytes: those that may be
and still fit. -/
def inlined : Nat → List Candidate → List (String × Bytes)
  | _, []               => []
  | used, c :: selected =>
    match normalizeRelative c.path with
    | .error _ => inlined used selected
    | .ok path =>
      match inlineBody compiler profile repository tracked c path with
      | none       => inlined used selected
      | some bytes =>
        if used + bytes.length ≤ compiler.maxContextBytes then
          (path, bytes) :: inlined (used + bytes.length) selected
        else inlined used selected

structure Inlinable (c : Candidate) (path : String) (bytes : Bytes) : Prop where
  tracked : path ∈ tracked
  named : excludedByName path c.promoted = none
  file : ∃ entry, repository.entry path = some entry ∧ entry.symlink = false ∧ entry.len ≤ compiler.maxSourceBytes ∧
    entry.content = .ok bytes
  text : looksBinary bytes = false
  body : profile.receiptOnlyAuthorities.contains path = false
  short : bytes.length ≤ 65536

variable {compiler profile repository tracked}

theorem inlineBody_iff {c : Candidate} {path : String} {bytes : Bytes} :
    inlineBody compiler profile repository tracked c path = some bytes ↔
      Inlinable compiler profile repository tracked c path bytes := by
  unfold inlineBody
  constructor
  · intro h
    cases hentry : repository.entry path with
    | none =>
      rw [hentry] at h
      cases h
    | some entry =>
      rw [hentry] at h
      dsimp only at h
      cases hcontent : entry.content with
      | error why =>
        rw [hcontent] at h
        cases h
      | ok read =>
        rw [hcontent] at h
        dsimp only at h
        split at h
        · rename_i hall
          cases h
          simp only [Bool.and_eq_true, Bool.not_eq_true', decide_eq_true_eq, Option.isNone_iff_eq_none,
            List.contains_iff_mem] at hall
          obtain ⟨⟨⟨⟨⟨⟨htracked, hnamed⟩, hlink⟩, hlen⟩, htext⟩, hbody⟩, hshort⟩ := hall
          exact ⟨htracked, hnamed, ⟨entry, hentry, hlink, hlen, hcontent⟩, htext, hbody, hshort⟩
        · cases h
  · rintro ⟨htracked, hnamed, ⟨entry, hentry, hlink, hlen, hcontent⟩, htext, hbody, hshort⟩
    rw [hentry]
    dsimp only
    rw [hcontent]
    dsimp only
    rw [if_pos]
    rw [hnamed, hlink, htext, hbody, decide_eq_true hlen, decide_eq_true hshort, List.contains_iff_mem.2 htracked]
    rfl

end Bodies

/-! ## One source -/

section Sources
variable {trackable : String → Bool} {x : Texts} {compiler : ContextCompiler} {profile : RepositoryProfile}
  {repository : Repository trackable} {tracked : List String}

variable (x compiler profile repository tracked) in
/-- What becomes of a candidate: its file is inlined, or its source has no body. -/
inductive Treated (s s' : Compiling) (c : Candidate) (path : String) (source : ContextSource) : Prop
  | inlined (bytes : Bytes) (file : Inlinable compiler profile repository tracked c path bytes)
    (fits : s.includedBytes + bytes.length ≤ compiler.maxContextBytes)
    (counted : s'.includedBytes = s.includedBytes + bytes.length) (length : source.bytes = bytes.length)
    (receipt : source.receiptOnly = false) (body : source.content = some (x.lossy bytes))
  | left (unfit : ∀ bytes, Inlinable compiler profile repository tracked c path bytes →
      compiler.maxContextBytes < s.includedBytes + bytes.length) (counted : s'.includedBytes = s.includedBytes)
    (receipt : source.receiptOnly = true → source.sha256.isSome = true) (body : source.content = none)

theorem addText_treated (s : Compiling) {c : Candidate} {path : String} {bytes : Bytes} {entry : Entry}
    (htracked : path ∈ tracked) (hnamed : excludedByName path c.promoted = none)
    (hentry : repository.entry path = some entry) (hlink : entry.symlink = false)
    (hlen : entry.len ≤ compiler.maxSourceBytes) (hcontent : entry.content = .ok bytes)
    (htext : looksBinary bytes = false) :
    ∃ source, (addText x compiler profile s c path bytes).sources = s.sources ++ [source] ∧ source.path = path ∧
      Treated x compiler profile repository tracked s (addText x compiler profile s c path bytes) c path source := by
  obtain ⟨hsources, hbytes⟩ := addInstruction_keeps s c path (x.sha256 bytes)
  have hread : ∀ other, Inlinable compiler profile repository tracked c path other → other = bytes := by
    intro other hother
    obtain ⟨entry', hentry', -, -, hcontent'⟩ := hother.file
    rw [hentry] at hentry'
    cases hentry'
    rw [hcontent] at hcontent'
    exact (Except.ok.inj hcontent').symm
  unfold addText
  dsimp only
  split
  · rename_i hreceipt
    refine ⟨_, congrArg (· ++ _) hsources, rfl, .left (fun other hother => ?_) hbytes (fun _ => rfl) rfl⟩
    rw [hread other hother] at hother
    rw [hother.body, Bool.false_or, decide_eq_true_eq] at hreceipt
    exact absurd hother.short (by omega)
  · rename_i hreceipt
    rw [Bool.or_eq_true, not_or, decide_eq_true_eq, Bool.not_eq_true] at hreceipt
    split
    · rename_i hfull
      rw [hbytes] at hfull
      refine ⟨_, congrArg (· ++ _) hsources, rfl, .left (fun other hother => ?_) hbytes (fun h => (by cases h)) rfl⟩
      rwa [hread other hother]
    · rename_i hfits
      rw [hbytes] at hfits ⊢
      exact ⟨_, congrArg (· ++ _) hsources, rfl, .inlined bytes
        ⟨htracked, hnamed, ⟨entry, hentry, hlink, hlen, hcontent⟩, htext, hreceipt.1, Nat.le_of_not_lt hreceipt.2⟩
        (Nat.le_of_not_lt hfits) rfl rfl rfl rfl⟩

/-- **A selected candidate adds one source**, under its path, and is treated as its file allows. -/
theorem addSource_treated {s s' : Compiling} {c : Candidate}
    (h : addSource x compiler profile repository tracked s c = .ok s') :
    ∃ path source, normalizeRelative c.path = .ok path ∧ s'.sources = s.sources ++ [source] ∧ source.path = path ∧
      Treated x compiler profile repository tracked s s' c path source := by
  unfold addSource at h
  obtain ⟨path, hpath, h⟩ := bind_ok h
  refine ⟨path, ?_⟩
  have hnone : ∀ source : ContextSource, source.path = path → source.content = none → source.receiptOnly = false →
      (∀ bytes, ¬ Inlinable compiler profile repository tracked c path bytes) →
      ∃ source', normalizeRelative c.path = .ok path ∧ (s.push source).sources = s.sources ++ [source'] ∧
        source'.path = path ∧ Treated x compiler profile repository tracked s (s.push source) c path source' := by
    intro source hsource hbody hreceipt hno
    refine ⟨source, hpath, rfl, hsource, .left (fun bytes hfile => absurd hfile (hno bytes)) rfl (fun hr => ?_) hbody⟩
    rw [hreceipt] at hr
    cases hr
  split at h
  · rename_i ht
    cases h
    refine hnone _ rfl rfl rfl (fun bytes hfile => ?_)
    rw [List.contains_iff_mem.2 hfile.tracked] at ht
    cases ht
  · rename_i ht
    have htracked : path ∈ tracked := by simpa using ht
    cases hn : excludedByName path c.promoted with
    | some reason =>
      rw [hn] at h
      cases h
      refine hnone _ rfl rfl rfl (fun bytes hfile => ?_)
      rw [hfile.named] at hn
      cases hn
    | none =>
      rw [hn] at h
      unfold addFile at h
      obtain ⟨entry, hentry, h⟩ := bind_ok h
      have hentry := okOr_ok hentry
      have hsame : ∀ bytes, Inlinable compiler profile repository tracked c path bytes →
          entry.symlink = false ∧ entry.len ≤ compiler.maxSourceBytes ∧ entry.content = .ok bytes := by
        intro bytes hfile
        obtain ⟨entry', hentry', hrest⟩ := hfile.file
        rw [hentry] at hentry'
        cases hentry'
        exact hrest
      split at h
      · rename_i hlink
        cases h
        refine hnone _ rfl rfl rfl (fun bytes hfile => ?_)
        rw [(hsame bytes hfile).1] at hlink
        cases hlink
      · rename_i hlink
        split at h
        · rename_i hlong
          cases h
          exact hnone _ rfl rfl rfl (fun bytes hfile => absurd (hsame bytes hfile).2.1 (by omega))
        · rename_i hlen
          obtain ⟨bytes, hread, h⟩ := bind_ok h
          have hcontent := mapError_ok.1 hread
          split at h
          · rename_i hbinary
            cases h
            refine hnone _ rfl rfl rfl (fun other hfile => ?_)
            have hother := (hsame other hfile).2.2
            rw [hcontent] at hother
            cases hother
            rw [hfile.text] at hbinary
            cases hbinary
          · rename_i hbinary
            cases h
            obtain ⟨source, hsources, hsource, htreated⟩ := @addText_treated _ x _ profile _ _ s _ _ _ _ htracked hn
              hentry (Bool.not_eq_true _ ▸ hlink) (Nat.le_of_not_lt hlen) hcontent (Bool.not_eq_true _ ▸ hbinary)
            exact ⟨source, hpath, hsources, hsource, htreated⟩

/-! ## All sources -/

variable (x compiler profile repository tracked) in
structure Sourced (s s' : Compiling) (selected : List Candidate) (new : List ContextSource) : Prop where
  sources : s'.sources = s.sources ++ new
  paths : new.map (fun source => Except.ok source.path) = selected.map (fun c => normalizeRelative c.path)
  bodies : new.filterMap (fun source => source.content) =
    (inlined compiler profile repository tracked s.includedBytes selected).map (fun file => x.lossy file.2)
  counted : s'.includedBytes = s.includedBytes +
    ((inlined compiler profile repository tracked s.includedBytes selected).map (fun file => file.2.length)).sum
  within : s.includedBytes ≤ compiler.maxContextBytes → s'.includedBytes ≤ compiler.maxContextBytes
  files : ∀ source ∈ new, source.content.isSome = true → ∃ c bytes,
    Inlinable compiler profile repository tracked c source.path bytes ∧ source.bytes = bytes.length
  receipts : ∀ source ∈ new, source.receiptOnly = true → source.sha256.isSome = true ∧ source.content = none

theorem Sourced.cons {s s₁ s' : Compiling} {c : Candidate} {selected : List Candidate} {path : String}
    {source : ContextSource} {new : List ContextSource} (hpath : normalizeRelative c.path = .ok path)
    (hsources : s₁.sources = s.sources ++ [source]) (hsource : source.path = path)
    (htreated : Treated x compiler profile repository tracked s s₁ c path source)
    (h : Sourced x compiler profile repository tracked s₁ s' selected new) :
    Sourced x compiler profile repository tracked s s' (c :: selected) (source :: new) := by
  have hall : s'.sources = s.sources ++ source :: new := by
    rw [h.sources, hsources, List.append_assoc]
    rfl
  have hpaths : (source :: new).map (fun source => Except.ok source.path) =
      (c :: selected).map (fun c => normalizeRelative c.path) := by
    rw [List.map_cons, List.map_cons, h.paths, hsource, hpath]
  cases htreated with
  | inlined bytes file fits counted length receipt body =>
    have hinlined : inlined compiler profile repository tracked s.includedBytes (c :: selected) =
        (path, bytes) :: inlined compiler profile repository tracked s₁.includedBytes selected := by
      rw [inlined, hpath]
      dsimp only
      rw [inlineBody_iff.2 file]
      dsimp only
      rw [if_pos fits, counted]
    refine ⟨hall, hpaths, ?_, ?_, fun _ => h.within (by omega), ?_, ?_⟩
    · rw [hinlined, List.filterMap_cons_some body, List.map_cons, h.bodies]
    · rw [hinlined, List.map_cons, List.sum_cons, h.counted, counted, Nat.add_assoc]
    · intro q hq hbody
      rcases List.mem_cons.1 hq with rfl | hq
      · exact ⟨c, bytes, hsource ▸ file, length⟩
      · exact h.files q hq hbody
    · intro q hq hreceipt
      rcases List.mem_cons.1 hq with rfl | hq
      · rw [receipt] at hreceipt
        cases hreceipt
      · exact h.receipts q hq hreceipt
  | left unfit counted receipt body =>
    have hinlined : inlined compiler profile repository tracked s.includedBytes (c :: selected) =
        inlined compiler profile repository tracked s₁.includedBytes selected := by
      rw [inlined, hpath, counted]
      dsimp only
      cases hfile : inlineBody compiler profile repository tracked c path with
      | none => rfl
      | some bytes =>
        have hlarge := unfit bytes (inlineBody_iff.1 hfile)
        dsimp only
        rw [if_neg (by omega)]
    refine ⟨hall, hpaths, ?_, ?_, fun hle => h.within (by omega), ?_, ?_⟩
    · rw [hinlined, List.filterMap_cons_none body, h.bodies]
    · rw [hinlined, h.counted, counted]
    · intro q hq hbody
      rcases List.mem_cons.1 hq with rfl | hq
      · rw [body] at hbody
        cases hbody
      · exact h.files q hq hbody
    · intro q hq hreceipt
      rcases List.mem_cons.1 hq with rfl | hq
      · exact ⟨receipt hreceipt, body⟩
      · exact h.receipts q hq hreceipt

theorem foldlM_sourced : ∀ {selected : List Candidate} {s s' : Compiling},
    selected.foldlM (addSource x compiler profile repository tracked) s = .ok s' →
      ∃ new, Sourced x compiler profile repository tracked s s' selected new
  | [], s, s', h => by
    rw [List.foldlM_nil] at h
    cases h
    refine ⟨[], (List.append_nil _).symm, rfl, rfl, rfl, id, ?_, ?_⟩
    · intro q hq
      cases hq
    · intro q hq
      cases hq
  | c :: selected, s, s', h => by
    rw [List.foldlM_cons] at h
    obtain ⟨s₁, hstep, h⟩ := bind_ok h
    obtain ⟨path, source, hpath, hsources, hsource, htreated⟩ := addSource_treated hstep
    obtain ⟨new, hnew⟩ := foldlM_sourced h
    exact ⟨source :: new, hnew.cons hpath hsources hsource htreated⟩

end Sources

/-! ## The packet -/

theorem selectSources_eq {newGlob : NewGlob} {task : Packet} {profile : RepositoryProfile} {selected : List Candidate} :
    selectSources newGlob task profile = .ok selected ↔
      ∃ matchers all, task.investigationScope.mapM (compileScope newGlob) = .ok matchers ∧
        candidates newGlob task profile = .ok all ∧ selected = all.foldl (push (sourceIsAdmitted matchers)) [] := by
  unfold selectSources
  constructor
  · intro h
    obtain ⟨matchers, hm, h⟩ := bind_ok h
    obtain ⟨all, hall, h⟩ := bind_ok h
    cases h
    exact ⟨matchers, all, hm, hall, rfl⟩
  · rintro ⟨matchers, all, hm, hall, rfl⟩
    rw [hm, ok_bind, hall]
    rfl

theorem nodup_selected (admitted : String → Bool) (all : List Candidate) :
    ((all.foldl (push admitted) []).map (fun c => c.path)).Nodup := by
  induction all using List.reverseRecOn with
  | nil => exact List.nodup_nil
  | append_singleton all d ih =>
    rw [List.foldl_append, List.foldl_cons, List.foldl_nil]
    generalize all.foldl (push admitted) [] = before at ih ⊢
    unfold push
    split
    · rename_i hnew
      rw [Bool.and_eq_true, Bool.not_eq_true', List.any_eq_false] at hnew
      rw [List.map_append, List.map_singleton, List.nodup_append]
      refine ⟨ih, List.nodup_singleton _, fun path hpath other hother => ?_⟩
      obtain ⟨c, hc, rfl⟩ := List.mem_map.1 hpath
      obtain rfl := List.mem_singleton.1 hother
      intro heq
      exact hnew.2 c hc (beq_iff_eq.2 heq)
    · exact ih

section Packets
variable {trackable : String → Bool} (sha256 : Bytes → String) (packetDigest : ContextPacket → String)
  (compiler : ContextCompiler) (profile : RepositoryProfile) (tree : Tree trackable) (newGlob : NewGlob) (task : Packet)

/-- A packet has a path once, counts the bodies it holds, and holds none that it may not. -/
structure Accounts (packet : ContextPacket) : Prop where
  distinct : (packet.sources.map (fun source => source.path)).Nodup
  counted : ((packet.sources.filterMap (fun source => source.content)).map textBytes).sum = packet.contextBytes
  within : packet.contextBytes ≤ compiler.maxContextBytes
  inlined : ∀ source ∈ packet.sources, source.content.isSome = true →
    (∃ tracked, tree.files = .ok tracked ∧ source.path ∈ tracked) ∧ isSecretPath source.path = false ∧
      (∃ entry, tree.entry source.path = some entry ∧ entry.symlink = false ∧ entry.len = source.bytes) ∧
      source.bytes ≤ compiler.maxSourceBytes ∧ source.bytes ≤ 65536
  receipts : ∀ source ∈ packet.sources, source.receiptOnly = true → source.sha256.isSome = true ∧ source.content = none

def SpelledOnce : Prop :=
  ∀ matchers all, task.investigationScope.mapM (compileScope newGlob) = .ok matchers →
    candidates newGlob task profile = .ok all → ∀ c ∈ all, ∀ d ∈ all, sourceIsAdmitted matchers c.path = true →
      sourceIsAdmitted matchers d.path = true → normalizeRelative c.path = normalizeRelative d.path → c.path = d.path

def ReadsAsLong : Prop :=
  ∀ tracked selected, tree.files = .ok tracked → selectSources newGlob task profile = .ok selected →
    ∀ file ∈ inlined compiler profile tree.toRepository tracked 0 selected,
      (Lossy.encode (Lossy.chars file.2)).length = file.2.length

variable {profile newGlob task}

theorem distinct_iff {selected : List Candidate} {new : List ContextSource}
    (hselected : selectSources newGlob task profile = .ok selected)
    (hpaths : new.map (fun source => Except.ok source.path) = selected.map (fun c => normalizeRelative c.path)) :
    (new.map (fun source => source.path)).Nodup ↔ SpelledOnce profile newGlob task := by
  obtain ⟨matchers, all, hm, hall, rfl⟩ := selectSources_eq.1 hselected
  have hnodup := nodup_selected (sourceIsAdmitted matchers) all
  have hok : (new.map (fun source => source.path)).Nodup ↔
      (new.map (fun source => (Except.ok source.path : Except ContextError String))).Nodup := by
    rw [← List.nodup_map_iff (f := (Except.ok : String → Except ContextError String)) (fun a b h => Except.ok.inj h),
      List.map_map]
    rfl
  rw [hok, hpaths, List.nodup_map_iff_inj_on (List.Nodup.of_map _ hnodup)]
  constructor
  · intro h matchers' all' hm' hall' c hc d hd hca hda heq
    rw [hm] at hm'
    cases hm'
    rw [hall] at hall'
    cases hall'
    -- the first candidates of the two spellings were selected
    have hfirst : ∀ e ∈ all, sourceIsAdmitted matchers e.path = true →
        ∃ f ∈ all.foldl (push (sourceIsAdmitted matchers)) [], f.path = e.path := by
      intro e he hadmitted
      have hsome : (all.find? (fun g => g.path == e.path)).isSome = true :=
        List.find?_isSome.2 ⟨e, he, beq_self_eq_true _⟩
      obtain ⟨f, hf⟩ := Option.isSome_iff_exists.1 hsome
      have hfound := List.find?_some hf
      have hpath : f.path = e.path := beq_iff_eq.1 hfound
      exact ⟨f, (mem_selected _ all f).2 ⟨hpath ▸ hadmitted, hpath ▸ hf⟩, hpath⟩
    obtain ⟨f, hf, hfc⟩ := hfirst c hc hca
    obtain ⟨g, hg, hgd⟩ := hfirst d hd hda
    have hsame := h f hf g hg (by rw [hfc, hgd]; exact heq)
    rw [← hfc, hsame, hgd]
  · intro h c hc d hd heq
    obtain ⟨hca, hcf⟩ := (mem_selected _ all c).1 hc
    obtain ⟨hda, hdf⟩ := (mem_selected _ all d).1 hd
    have hpath := h matchers all hm hall c (List.mem_of_find?_eq_some hcf) d (List.mem_of_find?_eq_some hdf) hca hda heq
    exact List.inj_on_of_nodup_map hnodup hc hd hpath

theorem textBytes_chars (bytes : Bytes) :
    textBytes (String.ofList (Lossy.chars bytes)) = (Lossy.encode (Lossy.chars bytes)).length := by
  unfold textBytes
  rw [String.toList_ofList]

theorem length_sum_le : ∀ files : List (String × Bytes), (files.map (fun file => file.2.length)).sum ≤
    ((files.map (fun file => String.ofList (Lossy.chars file.2))).map textBytes).sum
  | []            => Nat.le_refl 0
  | file :: files => by
    have ih := length_sum_le files
    have hle := Lossy.length_le file.2
    rw [List.map_cons, List.map_cons, List.map_cons, List.sum_cons, List.sum_cons, textBytes_chars]
    omega

theorem counted_iff : ∀ files : List (String × Bytes),
    ((files.map (fun file => String.ofList (Lossy.chars file.2))).map textBytes).sum =
        (files.map (fun file => file.2.length)).sum ↔
      ∀ file ∈ files, (Lossy.encode (Lossy.chars file.2)).length = file.2.length
  | []            => by simp
  | file :: files => by
    have ih := counted_iff files
    have hle := Lossy.length_le file.2
    have hsum := length_sum_le files
    rw [List.map_cons, List.map_cons, List.map_cons, List.sum_cons, List.sum_cons, textBytes_chars,
      List.forall_mem_cons, ← ih]
    omega

/-- **When a packet accounts for its files once**: no path is spelled two ways, and no file it inlines reads as a longer
text. -/
theorem packet_accounts_iff {expectedSha profileDigest : String} {packet : ContextPacket}
    (h : compile (decoding sha256 packetDigest) compiler profile tree.toRepository newGlob expectedSha task profileDigest =
      .ok packet) :
    Accounts compiler tree packet ↔ SpelledOnce profile newGlob task ∧ ReadsAsLong compiler profile tree newGlob task := by
  unfold compile at h
  obtain ⟨actual, -, h⟩ := bind_ok h
  obtain ⟨_, -, h⟩ := bind_ok h
  obtain ⟨tracked, htracked, h⟩ := bind_ok h
  obtain ⟨map, -, h⟩ := bind_ok h
  obtain ⟨selected, hselected, h⟩ := bind_ok h
  obtain ⟨s, hrun, h⟩ := bind_ok h
  cases h
  have hfiles := mapError_ok.1 htracked
  obtain ⟨new, hnew⟩ := foldlM_sourced hrun
  have hsources : s.sources = new := hnew.sources
  have hbytes := hnew.counted
  dsimp only at hbytes
  rw [Nat.zero_add] at hbytes
  have hcounted : ((new.filterMap (fun source => source.content)).map textBytes).sum = s.includedBytes ↔
      ReadsAsLong compiler profile tree newGlob task := by
    rw [hnew.bodies, hbytes]
    refine (counted_iff _).trans ⟨fun hlong tracked' selected' htracked' hselected' => ?_, fun hlong => ?_⟩
    · rw [hfiles] at htracked'
      cases htracked'
      rw [hselected] at hselected'
      cases hselected'
      exact hlong
    · exact hlong tracked selected hfiles hselected
  rw [← distinct_iff hselected hnew.paths, ← hcounted, ← hsources]
  refine ⟨fun haccounts => ⟨haccounts.distinct, haccounts.counted⟩, fun hboth => ⟨hboth.1, hboth.2, ?_, ?_, ?_⟩⟩
  · exact hnew.within (Nat.zero_le _)
  · intro source hsource hbody
    obtain ⟨c, bytes, hfile, hlength⟩ := hnew.files source (hsources ▸ hsource) hbody
    obtain ⟨entry, hentry, hlink, hlen, hcontent⟩ := hfile.file
    have hwhole := tree.whole hentry hcontent
    refine ⟨⟨tracked, hfiles, hfile.tracked⟩, ?_, ⟨entry, hentry, hlink, by omega⟩, by omega, ?_⟩
    · have hnamed := hfile.named
      unfold excludedByName at hnamed
      split at hnamed
      · cases hnamed
      · rename_i hsecret
        exact Bool.not_eq_true _ ▸ hsecret
    · rw [hlength]
      exact hfile.short
  · exact fun source hsource => hnew.receipts source (hsources ▸ hsource)

end Packets

/-! ## Two files -/

def implementation : Packet :=
  { investigation allButOne with
    executionKind := .implementation
    investigationScope := none }

def greeting : Bytes := [72, 105, 10]

def accented : Bytes := [195, 169, 10]

/-- A checkout of `a.md` and `b.md`. -/
def pairTree : Tree gitTracks where
  head := .ok "5f0c1e9b7a3d42860c9e8d7f6a5b4c3d2e1f0a9b"
  files := .ok ["a.md", "b.md"]
  entry path :=
    if path = "a.md" then some ⟨false, 3, .ok greeting⟩
    else if path = "b.md" then some ⟨false, 3, .ok accented⟩
    else none
  tracked h path hpath := by
    cases h
    revert path
    decide
  whole := by
    intro path e bytes hentry hcontent
    split at hentry
    · cases hentry
      cases hcontent
      rfl
    · split at hentry
      · cases hentry
        cases hcontent
        rfl
      · cases hentry

def pairInstructed : RepositoryProfile := ⟨⟨"p", []⟩, ["a.md", "b.md"], [], [], [], []⟩

/-- SHA-256 of the two files, and of the instructions that name them with it. -/
def pairSha256 (bytes : Bytes) : String :=
  let greetingSha256 := "c01a4cfa25cb895cdd0bb25181ba9c1622e93895a6de6f533a7299f70d6b0cfb"
  let accentedSha256 := "edd3a863872a04239eb29ad4bc12fc892b3d4ae57cc7e786a3697816f8e141c2"
  if bytes = greeting then greetingSha256
  else if bytes = accented then accentedSha256
  else if bytes = utf8 "a.md" ++ [0] ++ utf8 greetingSha256 ++ [0] ++ utf8 "b.md" ++ [0] ++ utf8 accentedSha256 ++ [0] then
    "f86e884c35feda79a7a21ccbdfb9a8f45bc42aecc916510e825729fb78027c21"
  else ""

/-- The digest of their packet. -/
def pairDigest (_ : ContextPacket) : String := "a03ff45daefca9dfb71a26054aa919e992b60fa6b19f23d2754e7176d4881e1a"

theorem candidates_pair : candidates shellGlob implementation pairInstructed =
    .ok [⟨"a.md", "instruction", false⟩, ⟨"b.md", "instruction", false⟩] := rfl

theorem pair_spelled_once : SpelledOnce pairInstructed shellGlob implementation := by
  intro matchers all _ hall c hc d hd _ _ hsame
  rw [candidates_pair] at hall
  cases hall
  have hdistinct : normalizeRelative "a.md" ≠ normalizeRelative "b.md" := by decide
  simp only [List.mem_cons, List.not_mem_nil, or_false] at hc hd
  rcases hc with rfl | rfl <;> rcases hd with rfl | rfl
  · rfl
  · exact absurd hsame hdistinct
  · exact absurd hsame.symm hdistinct
  · rfl

theorem pair_reads_as_long : ReadsAsLong defaultCompiler pairInstructed pairTree shellGlob implementation := by
  intro tracked selected hfiles hselected
  cases hfiles
  obtain ⟨matchers, all, hmatchers, hall, rfl⟩ := selectSources_eq.1 hselected
  cases hmatchers
  rw [candidates_pair] at hall
  cases hall
  have hinlined : inlined defaultCompiler pairInstructed pairTree.toRepository ["a.md", "b.md"] 0
      ([⟨"a.md", "instruction", false⟩, ⟨"b.md", "instruction", false⟩].foldl (push (sourceIsAdmitted none)) []) =
      [("a.md", greeting), ("b.md", accented)] := rfl
  rw [hinlined]
  decide

theorem pair_accounts : ∃ packet,
    compile (decoding pairSha256 pairDigest) defaultCompiler pairInstructed pairTree.toRepository shellGlob
      "5f0c1e9b7a3d42860c9e8d7f6a5b4c3d2e1f0a9b" implementation "" = .ok packet ∧
    Accounts defaultCompiler pairTree packet := by
  have hcompiled : ∃ packet, compile (decoding pairSha256 pairDigest) defaultCompiler pairInstructed pairTree.toRepository
      shellGlob "5f0c1e9b7a3d42860c9e8d7f6a5b4c3d2e1f0a9b" implementation "" = .ok packet := ⟨_, rfl⟩
  obtain ⟨packet, hpacket⟩ := hcompiled
  exact ⟨packet, hpacket, (packet_accounts_iff pairSha256 pairDigest defaultCompiler pairTree hpacket).2
    ⟨pair_spelled_once, pair_reads_as_long⟩⟩

/-! ## A file under two spellings -/

def loneTree (path : String) (ht : trackable path = true) : Tree trackable where
  toRepository := loneFile path ht
  whole := by
    intro p e bytes hentry hcontent
    change (if p = path then some ⟨false, 0, .ok []⟩ else none) = some e at hentry
    split at hentry
    · cases hentry
      cases hcontent
      rfl
    · cases hentry

def emptyDecoding : Texts := decoding (fun _ => "") (fun _ => "")

def twiceInstructed : RepositoryProfile := ⟨⟨"p", []⟩, ["a.md", "./a.md"], [], [], [], []⟩

/-- The packet has `a.md` twice. -/
theorem twice_spelled_twice_listed : ∃ packet,
    compile emptyDecoding defaultCompiler twiceInstructed (loneTree "a.md" gitTracks_file).toRepository shellGlob ""
      implementation "" = .ok packet ∧
    ¬ Accounts defaultCompiler (loneTree "a.md" gitTracks_file) packet := by
  refine ⟨_, rfl, fun h => ?_⟩
  have hdistinct := h.distinct
  exact absurd hdistinct (by decide)

end Context
end Bildr
