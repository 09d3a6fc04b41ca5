import Bildr.ContextSources
import Bildr.Decimal
import Bildr.Lossy
import Bildr.SortedSet
import Bildr.Word
import Mathlib.Data.Char
/-!
# Probe — what a probe returns of a text

The text is cut after so many bytes and so many lines.  `bound_reader` cuts what it reads as it arrives, `bound_output`
what is there as a whole; both keep the same (`bound_reader_agrees`).  A summary of a log puts its lines, each after its
number, in the order of texts: that is the order of the lines when of any two numbers the lower is less than the leading
digits of the higher (`summarize_log_ordered_iff`).  SHA-256 is outside the repository.
-/
namespace Bildr
namespace Context

structure ProbeOutput where
  output : List Char
  totalBytes : UInt64
  sha256 : String
  truncated : Bool
deriving DecidableEq, Repr

def defaultProbeBytes : Nat := 262144

def maxProbeBytes : Nat := 4194304

/-- Bytes in memory are no more than an `isize` counts. -/
structure InMemory where
  bytes : Bytes
  fits : bytes.length < 9223372036854775808

/-! ## Lines -/

/-- `split_inclusive('\n')`. -/
def splitInclusive : List Char → List (List Char)
  | []        => []
  | c :: rest =>
    if c == '\n' then [c] :: splitInclusive rest
    else
      match splitInclusive rest with
      | []            => [[c]]
      | piece :: more => (c :: piece) :: more

def stripEnding (piece : List Char) : List Char :=
  if piece.getLast? == some '\n' then
    if piece.dropLast.getLast? == some '\r' then piece.dropLast.dropLast else piece.dropLast
  else piece

def lines (text : List Char) : List (List Char) := (splitInclusive text).map stripEnding

def joinLines (ls : List (List Char)) : List Char := ['\n'].intercalate ls

example : lines "a\r\n\nb\r".toList = ["a".toList, [], "b\r".toList] := by decide +kernel

theorem newline_not_mem_piece : ∀ {text piece : List Char}, piece ∈ splitInclusive text →
    '\n' ∉ piece ∨ ∃ body, '\n' ∉ body ∧ piece = body ++ ['\n']
  | [], _, h            => absurd h (by rw [splitInclusive]; exact List.not_mem_nil)
  | c :: rest, piece, h => by
    rw [splitInclusive] at h
    by_cases hc : (c == '\n') = true
    · rw [if_pos hc, List.mem_cons] at h
      rcases h with rfl | h
      · rw [beq_iff_eq] at hc
        exact .inr ⟨[], List.not_mem_nil, by rw [hc]; rfl⟩
      · exact newline_not_mem_piece h
    · rw [if_neg hc] at h
      rw [beq_iff_eq] at hc
      have hfree : ∀ {body : List Char}, '\n' ∉ body → '\n' ∉ c :: body := by
        intro body hbody hmem
        rcases List.mem_cons.1 hmem with rfl | hmem
        · exact hc rfl
        · exact hbody hmem
      cases hpieces : splitInclusive rest with
      | nil =>
        rw [hpieces] at h
        rw [List.mem_singleton.1 h]
        exact .inl (hfree List.not_mem_nil)
      | cons first more =>
        rw [hpieces] at h
        rcases List.mem_cons.1 h with rfl | h
        · have hfirst : first ∈ splitInclusive rest := by rw [hpieces]; exact List.mem_cons_self
          rcases newline_not_mem_piece hfirst with hno | ⟨body, hno, rfl⟩
          · exact .inl (hfree hno)
          · exact .inr ⟨c :: body, hfree hno, rfl⟩
        · exact newline_not_mem_piece (by rw [hpieces]; exact List.mem_cons_of_mem first h)

theorem newline_not_mem_line {text line : List Char} (h : line ∈ lines text) : '\n' ∉ line := by
  obtain ⟨piece, hpiece, rfl⟩ := List.mem_map.1 h
  unfold stripEnding
  rcases newline_not_mem_piece hpiece with hno | ⟨body, hno, rfl⟩
  · rw [if_neg]
    · exact hno
    · intro hlast
      rw [beq_iff_eq] at hlast
      exact hno (List.mem_of_getLast? hlast)
  · rw [if_pos (by rw [List.getLast?_concat]; rfl), List.dropLast_concat]
    split
    · exact fun hmem => hno (List.dropLast_subset body hmem)
    · exact hno

theorem joinLines_inj {ls ls' : List (List Char)} (h : ls ≠ []) (h' : ls' ≠ []) (hno : ∀ l ∈ ls, '\n' ∉ l)
    (hno' : ∀ l ∈ ls', '\n' ∉ l) (hjoin : joinLines ls = joinLines ls') : ls = ls' := by
  rw [← List.splitOn_intercalate '\n' hno h, ← List.splitOn_intercalate '\n' hno' h']
  exact congrArg (List.splitOn '\n') hjoin

/-! ## Cutting -/

section Bounds
variable (sha256 : Bytes → String)

def clampProbe (maxBytes : Nat) : Nat := max 1 (min maxBytes maxProbeBytes)

/-- What `bound_reader` carries from one read to the next. -/
structure Reading where
  digested : Bytes
  totalBytes : UInt64
  retained : Bytes

def Reading.read (maxBytes : Nat) (r : Reading) (chunk : Bytes) : Reading :=
  let available := maxBytes - r.retained.length
  ⟨r.digested ++ chunk, Word.saturatingAdd r.totalBytes (UInt64.ofNat chunk.length),
    r.retained ++ chunk.take (min chunk.length available)⟩

def readAll (maxBytes : Nat) : Reading → List (Except String Bytes) → Except ContextError Reading
  | r, []                => .ok r
  | _, .error why :: _   => .error (.io why)
  | r, .ok chunk :: rest => if chunk.isEmpty then .ok r else readAll maxBytes (r.read maxBytes chunk) rest

def boundReader (reads : List (Except String Bytes)) (maxBytes : Nat) (maxLines : Option Nat) :
    Except ContextError ProbeOutput := do
  let r ← readAll maxBytes ⟨[], 0, []⟩ reads
  let output := Lossy.chars r.retained
  let truncated := decide (UInt64.ofNat r.retained.length < r.totalBytes)
  return match maxLines with
    | some n => ⟨joinLines ((lines output).take n), r.totalBytes, sha256 r.digested,
        truncated || decide (n < (lines output).length)⟩
    | none   => ⟨output, r.totalBytes, sha256 r.digested, truncated⟩

def boundOutput (bytes : Bytes) (maxBytes : Nat) (maxLines : Option Nat) : ProbeOutput :=
  let byteEnd := min bytes.length (clampProbe maxBytes)
  let output := Lossy.chars (bytes.take byteEnd)
  let truncated := decide (byteEnd < bytes.length)
  match maxLines with
  | some n => ⟨joinLines ((lines output).take n), UInt64.ofNat bytes.length, sha256 bytes,
      if ((lines output).take n).length < (lines output).length then true else truncated⟩
  | none   => ⟨output, UInt64.ofNat bytes.length, sha256 bytes, truncated⟩

/-- The output leaves nothing out: it is the text, or all lines of it when those are limited. -/
def Complete (text : List Char) : Option Nat → List Char → Prop
  | none, output   => output = text
  | some n, output => (lines text).length ≤ n ∧ output = joinLines (lines text)

/-! ### One pass -/

def Reading.Of (maxBytes : Nat) (bytes : Bytes) (r : Reading) : Prop :=
  r.digested = bytes ∧ r.totalBytes.toNat = bytes.length ∧ r.retained = bytes.take maxBytes

theorem read_of {maxBytes : Nat} {bytes chunk : Bytes} {r : Reading} (h : r.Of maxBytes bytes)
    (hfits : (bytes ++ chunk).length < 9223372036854775808) : (r.read maxBytes chunk).Of maxBytes (bytes ++ chunk) := by
  obtain ⟨hdigested, htotal, hretained⟩ := h
  rw [List.length_append] at hfits
  refine ⟨by rw [← hdigested]; rfl, ?_, ?_⟩
  · show (Word.saturatingAdd r.totalBytes (UInt64.ofNat chunk.length)).toNat = _
    rw [Word.toNat_saturatingAdd, htotal, UInt64.toNat_ofNat_of_lt' (by simp only [UInt64.size]; omega),
      List.length_append]
    omega
  · show r.retained ++ chunk.take (min chunk.length (maxBytes - r.retained.length)) = _
    rw [hretained, List.take_append, List.length_take]
    congr 1
    by_cases hmax : bytes.length ≤ maxBytes
    · rw [Nat.min_eq_right hmax, Nat.min_comm, ← List.take_eq_take_min]
    · rw [show maxBytes - min maxBytes bytes.length = 0 by omega, show maxBytes - bytes.length = 0 by omega,
        Nat.min_zero]

theorem readAll_of {maxBytes : Nat} : ∀ {chunks : List Bytes} {bytes : Bytes} {r : Reading}, r.Of maxBytes bytes →
    (∀ chunk ∈ chunks, chunk ≠ []) → (bytes ++ chunks.flatten).length < 9223372036854775808 →
    ∃ s, readAll maxBytes r (chunks.map .ok) = .ok s ∧ s.Of maxBytes (bytes ++ chunks.flatten)
  | [], bytes, r, h, _, _ => ⟨r, rfl, by rw [List.flatten_nil, List.append_nil]; exact h⟩
  | chunk :: chunks, bytes, r, h, hread, hfits => by
    rw [List.flatten_cons, ← List.append_assoc] at hfits ⊢
    have hstep : (r.read maxBytes chunk).Of maxBytes (bytes ++ chunk) :=
      read_of h (by rw [List.length_append] at hfits; omega)
    obtain ⟨s, hs, hof⟩ := readAll_of hstep (fun c hc => hread c (List.mem_cons_of_mem chunk hc)) hfits
    refine ⟨s, ?_, hof⟩
    rw [List.map_cons, readAll, if_neg]
    · exact hs
    · rw [List.isEmpty_iff]
      exact hread chunk List.mem_cons_self

theorem take_length_lt (ls : List (List Char)) (n : Nat) : (ls.take n).length < ls.length ↔ n < ls.length := by
  rw [List.length_take]
  omega

theorem untruncated_iff {bytes : Bytes} {maxBytes : Nat} :
    (boundOutput sha256 bytes maxBytes none).truncated = false ↔ bytes.length ≤ clampProbe maxBytes := by
  unfold boundOutput
  dsimp only
  rw [decide_eq_false_iff_not]
  omega

theorem complete_of_untruncated {bytes : Bytes} {maxBytes : Nat} {maxLines : Option Nat}
    (h : (boundOutput sha256 bytes maxBytes maxLines).truncated = false) :
    Complete (Lossy.chars bytes) maxLines (boundOutput sha256 bytes maxBytes maxLines).output := by
  have hall : ∀ {n : Nat}, ¬ min bytes.length n < bytes.length → bytes.take (min bytes.length n) = bytes := by
    intro n hn
    exact List.take_of_length_le (by omega)
  unfold boundOutput at h ⊢
  cases maxLines with
  | none =>
    dsimp only at h ⊢
    rw [hall (of_decide_eq_false h)]
    exact rfl
  | some n =>
    dsimp only at h ⊢
    split at h
    · cases h
    · rename_i hlines
      rw [hall (of_decide_eq_false h)] at hlines ⊢
      rw [take_length_lt, Nat.not_lt] at hlines
      exact ⟨hlines, by rw [List.take_of_length_le hlines]⟩

/-- **Cutting what is read and cutting the whole give the same**, and nothing is left out unless it says so. -/
theorem bound_reader_agrees (bytes : InMemory) (chunks : List Bytes) (maxBytes : Nat) (maxLines : Option Nat)
    (hsplit : chunks.flatten = bytes.bytes) (hread : ∀ chunk ∈ chunks, chunk ≠ []) (hmin : 1 ≤ maxBytes)
    (hmax : maxBytes ≤ maxProbeBytes) :
    boundReader sha256 (chunks.map .ok) maxBytes maxLines = .ok (boundOutput sha256 bytes.bytes maxBytes maxLines) ∧
      ((boundOutput sha256 bytes.bytes maxBytes maxLines).truncated = false →
        Complete (Lossy.chars bytes.bytes) maxLines (boundOutput sha256 bytes.bytes maxBytes maxLines).output) := by
  refine ⟨?_, complete_of_untruncated sha256⟩
  have hfits := bytes.fits
  have hstart : Reading.Of maxBytes [] ⟨[], 0, []⟩ := ⟨rfl, rfl, List.take_nil.symm⟩
  obtain ⟨r, hr, hdigested, htotal, hretained⟩ := readAll_of hstart hread (by rw [List.nil_append, hsplit]; exact hfits)
  rw [List.nil_append, hsplit] at hdigested htotal hretained
  have hclamp : clampProbe maxBytes = maxBytes := by
    unfold clampProbe
    omega
  have hword : r.totalBytes = UInt64.ofNat bytes.bytes.length := by
    rw [← UInt64.toNat_inj, htotal, UInt64.toNat_ofNat_of_lt' (by simp only [UInt64.size]; omega)]
  have htaken : r.retained = bytes.bytes.take (min bytes.bytes.length maxBytes) := by
    rw [hretained, Nat.min_comm, List.take_eq_take_min]
  have hcut : decide (UInt64.ofNat r.retained.length < r.totalBytes) =
      decide (min bytes.bytes.length maxBytes < bytes.bytes.length) := by
    refine decide_eq_decide.2 ?_
    rw [UInt64.lt_iff_toNat_lt, htotal, htaken, List.length_take,
      UInt64.toNat_ofNat_of_lt' (by simp only [UInt64.size]; omega)]
    omega
  unfold boundReader boundOutput
  rw [hr, ok_bind, hclamp]
  dsimp only
  rw [hcut, hdigested, hword, htaken]
  cases maxLines with
  | none => rfl
  | some n =>
    dsimp only
    congr 2
    by_cases hlines : n < (lines (Lossy.chars (bytes.bytes.take (min bytes.bytes.length maxBytes)))).length
    · rw [if_pos ((take_length_lt _ n).2 hlines), decide_eq_true hlines, Bool.or_true]
    · rw [if_neg (fun h => hlines ((take_length_lt _ n).1 h)), decide_eq_false hlines, Bool.or_false]

end Bounds

/-- A text of two lines, whose last character is more than five bytes hold. -/
def accents : InMemory := ⟨[0x61, 0x0A, 0xC3, 0xA9, 0xC3, 0xA9], by decide⟩

def accentReads : List Bytes := [[0x61, 0x0A, 0xC3], [0xA9, 0xC3, 0xA9]]

theorem accent_reads_agree :
    boundReader (fun _ => "digest") (accentReads.map .ok) 5 (some 2) =
        .ok (boundOutput (fun _ => "digest") accents.bytes 5 (some 2)) ∧
      ((boundOutput (fun _ => "digest") accents.bytes 5 (some 2)).truncated = false →
        Complete (Lossy.chars accents.bytes) (some 2)
          (boundOutput (fun _ => "digest") accents.bytes 5 (some 2)).output) :=
  bound_reader_agrees (fun _ => "digest") accents accentReads 5 (some 2) rfl (by decide) (by decide) (by decide)

/-! ## The summary of a log -/

abbrev Counted : Type := List Char × Nat

def needles : List (List Char) :=
  ["error".toList, "failed".toList, "panic".toList, "warning".toList, "timeout".toList, "denied".toList]

def marked (line : Counted) : Bool := needles.any (Plan.contains (line.1.map Char.toLower))

/-- `"{}: {}"`. -/
def entry (line : Counted) : List Char := Nat.toDigits 10 (line.2 + 1) ++ ':' :: ' ' :: line.1

def summarized (ls : List (List Char)) : List (List Char) :=
  (ls.zipIdx.filter marked).map entry ++ (ls.zipIdx.drop (ls.length - 80)).map entry

def summarizeLog (sha256 : Bytes → String) (file : Except String Bytes) (maxBytes : Option Nat) :
    Except ContextError ProbeOutput := do
  let bytes ← file.mapError ContextError.io
  let selected := SortedSet.ofList (summarized (lines (Lossy.chars bytes)))
  return boundOutput sha256 (Lossy.encode (joinLines selected)) (maxBytes.getD defaultProbeBytes) none

/-! ### In the order of the log -/

def listed (ls : List (List Char)) : List Counted :=
  ls.zipIdx.filter (fun line => marked line || decide (ls.length ≤ line.2 + 80))

def listing (bytes : Bytes) : List (List Char) := (listed (lines (Lossy.chars bytes))).map entry

/-- Of two numbers the lower is less than the leading digits of the higher. -/
def Leads (l l' : Counted) : Prop := l.2 + 1 < Decimal.leading (l.2 + 1) (l'.2 + 1)

instance (l l' : Counted) : Decidable (Leads l l') := inferInstanceAs (Decidable (_ < _))

theorem drop_zipIdx (ls : List (List Char)) (n : Nat) (line : Counted) :
    line ∈ ls.zipIdx.drop n ↔ line ∈ ls.zipIdx ∧ n ≤ line.2 := by
  obtain ⟨text, i⟩ := line
  rw [List.mem_drop_iff_getElem]
  constructor
  · rintro ⟨j, hj, heq⟩
    rw [List.getElem_zipIdx, Prod.mk.injEq] at heq
    refine ⟨?_, by omega⟩
    rw [List.mem_zipIdx_iff_getElem?]
    rw [← heq.2, ← heq.1, Nat.zero_add]
    exact List.getElem?_eq_getElem _
  · rintro ⟨hmem, hn⟩
    rw [List.mem_zipIdx_iff_getElem?] at hmem
    obtain ⟨hi, htext⟩ := List.getElem?_eq_some_iff.1 hmem
    dsimp only at hi htext hn
    refine ⟨i - n, by rw [List.length_zipIdx]; omega, ?_⟩
    rw [List.getElem_zipIdx, Prod.mk.injEq]
    refine ⟨?_, by omega⟩
    rw [← htext]
    congr 1
    omega

theorem mem_summarized (ls : List (List Char)) (text : List Char) :
    text ∈ summarized ls ↔ text ∈ (listed ls).map entry := by
  unfold summarized listed
  rw [List.mem_append, List.mem_map, List.mem_map, List.mem_map]
  constructor
  · rintro (⟨line, hline, rfl⟩ | ⟨line, hline, rfl⟩)
    · rw [List.mem_filter] at hline
      exact ⟨line, List.mem_filter.2 ⟨hline.1, by rw [hline.2]; rfl⟩, rfl⟩
    · rw [drop_zipIdx] at hline
      refine ⟨line, List.mem_filter.2 ⟨hline.1, ?_⟩, rfl⟩
      rw [decide_eq_true (show ls.length ≤ line.2 + 80 by omega), Bool.or_true]
  · rintro ⟨line, hline, rfl⟩
    rw [List.mem_filter, Bool.or_eq_true, decide_eq_true_eq] at hline
    rcases hline.2 with hmark | hlast
    · exact .inl ⟨line, List.mem_filter.2 ⟨hline.1, hmark⟩, rfl⟩
    · exact .inr ⟨line, (drop_zipIdx ls _ line).2 ⟨hline.1, by omega⟩, rfl⟩

theorem listed_ordered (ls : List (List Char)) : (listed ls).Pairwise (fun l l' => l.2 < l'.2) := by
  refine List.Pairwise.filter _ ?_
  rw [List.pairwise_iff_getElem]
  intro i j hi hj hij
  rw [List.getElem_zipIdx, List.getElem_zipIdx]
  dsimp only
  omega

theorem entry_lt_iff {l l' : Counted} (h : l.2 < l'.2) : entry l < entry l' ↔ Leads l l' := by
  refine Decimal.before_iff (Nat.succ_lt_succ h) (fun d hd => ?_) _ _
  unfold Char.isDigit at hd
  rw [Bool.and_eq_true, decide_eq_true_eq, decide_eq_true_eq] at hd
  exact UInt32.lt_of_le_of_lt hd.2 (by decide)

theorem entry_ne {l l' : Counted} (h : l.2 < l'.2) : entry l ≠ entry l' := by
  intro heq
  have hnumber := Decimal.number_inj (by decide) heq
  omega

theorem nodup_entries (ls : List (List Char)) : ((listed ls).map entry).Nodup := by
  refine List.pairwise_map.2 ((listed_ordered ls).imp ?_)
  intro l l' h
  exact entry_ne h

theorem perm_listing (ls : List (List Char)) : (SortedSet.ofList (summarized ls)).Perm ((listed ls).map entry) := by
  refine (List.perm_ext_iff_of_nodup (SortedSet.nodup_ofList _) (nodup_entries ls)).2 (fun text => ?_)
  rw [SortedSet.mem_ofList]
  exact mem_summarized ls text

theorem sorted_iff (ls : List (List Char)) :
    SortedSet.ofList (summarized ls) = (listed ls).map entry ↔ (listed ls).Pairwise Leads := by
  have hsorted : (SortedSet.ofList (summarized ls)).Pairwise (fun a b => a ≤ b) := List.pairwise_insertionSort _ _
  constructor
  · intro heq
    rw [heq, List.pairwise_map] at hsorted
    refine (hsorted.and (listed_ordered ls)).imp ?_
    rintro l l' ⟨hle, hlt⟩
    exact (entry_lt_iff hlt).1 (lt_of_le_of_ne hle (entry_ne hlt))
  · intro hleads
    refine List.Perm.eq_of_pairwise (fun a b _ _ => le_antisymm) hsorted ?_ (perm_listing ls)
    rw [List.pairwise_map]
    refine (hleads.and (listed_ordered ls)).imp ?_
    rintro l l' ⟨hl, hlt⟩
    exact le_of_lt ((entry_lt_iff hlt).2 hl)
theorem length_joinLines : ∀ {ls : List (List Char)}, ls ≠ [] →
    (Lossy.encode (joinLines ls)).length + 1 = (ls.map (fun l => (Lossy.encode l).length + 1)).sum
  | [], h           => absurd rfl h
  | [l], _          => by
    rw [joinLines, List.intercalate_singleton]
    rfl
  | l :: l' :: ls, _ => by
    have ih := @length_joinLines (l' :: ls) (List.cons_ne_nil _ _)
    unfold joinLines at ih ⊢
    rw [List.intercalate_cons_cons, Lossy.encode_append, Lossy.encode_append, List.length_append, List.length_append,
      List.map_cons, List.sum_cons, ← ih, show (Lossy.encode ['\n']).length = 1 by decide]
    omega

theorem length_joinLines_perm {ls ls' : List (List Char)} (h : ls.Perm ls') :
    (Lossy.encode (joinLines ls)).length = (Lossy.encode (joinLines ls')).length := by
  by_cases hnil : ls = []
  · subst hnil
    rw [List.nil_perm.1 h]
  · have hnil' : ls' ≠ [] := fun hn => hnil (List.perm_nil.1 (hn ▸ h))
    have hls := length_joinLines hnil
    have hls' := length_joinLines hnil'
    rw [(h.map (fun l => (Lossy.encode l).length + 1)).sum_eq] at hls
    omega

theorem newline_not_mem_entry {bytes : Bytes} {text : List Char} (h : text ∈ listing bytes) : '\n' ∉ text := by
  obtain ⟨line, hline, rfl⟩ := List.mem_map.1 h
  have hmem := (List.mem_filter.1 hline).1
  have hno := newline_not_mem_line (List.fst_mem_of_mem_zipIdx hmem)
  unfold entry
  rw [List.mem_append, List.mem_cons, List.mem_cons]
  rintro (hdigit | hcolon | hspace | htext)
  · exact absurd (Nat.isDigit_of_mem_toDigits (by omega) (by omega) hdigit) (by decide)
  · exact absurd hcolon (by decide)
  · exact absurd hspace (by decide)
  · exact hno htext

theorem joinLines_perm_inj {ls ls' : List (List Char)} (h : ls.Perm ls') (hno : ∀ l ∈ ls', '\n' ∉ l) :
    joinLines ls = joinLines ls' ↔ ls = ls' := by
  refine ⟨fun hjoin => ?_, congrArg joinLines⟩
  by_cases hnil : ls = []
  · subst hnil
    exact (List.nil_perm.1 h).symm
  · exact joinLines_inj hnil (fun hn => hnil (List.perm_nil.1 (hn ▸ h))) (fun l hl => hno l (h.mem_iff.1 hl)) hno hjoin

/-- **A summary that is not cut is in the order of the log exactly when its numbers lead one another.** -/
theorem summarize_log_ordered_iff (sha256 : Bytes → String) (bytes : Bytes) (maxBytes : Option Nat) :
    (∀ out, summarizeLog sha256 (.ok bytes) maxBytes = .ok out → out.truncated = false →
        out.output = joinLines (listing bytes)) ↔
      ((Lossy.encode (joinLines (listing bytes))).length ≤ clampProbe (maxBytes.getD defaultProbeBytes) →
        (listed (lines (Lossy.chars bytes))).Pairwise Leads) := by
  have hperm := perm_listing (lines (Lossy.chars bytes))
  have hrun : summarizeLog sha256 (.ok bytes) maxBytes =
      .ok (boundOutput sha256 (Lossy.encode (joinLines (SortedSet.ofList (summarized (lines (Lossy.chars bytes))))))
        (maxBytes.getD defaultProbeBytes) none) := rfl
  have hlength : (Lossy.encode (joinLines (SortedSet.ofList (summarized (lines (Lossy.chars bytes)))))).length =
      (Lossy.encode (joinLines (listing bytes))).length := length_joinLines_perm hperm
  rw [← sorted_iff, ← joinLines_perm_inj hperm (fun text h => newline_not_mem_entry h)]
  constructor
  · intro h hfits
    have huntruncated : (boundOutput sha256 (Lossy.encode (joinLines (SortedSet.ofList (summarized
        (lines (Lossy.chars bytes)))))) (maxBytes.getD defaultProbeBytes) none).truncated = false :=
      (untruncated_iff sha256).2 (by omega)
    have hout := h _ hrun huntruncated
    have hall : _ = Lossy.chars _ := complete_of_untruncated sha256 huntruncated
    rw [hall, Lossy.chars_encode] at hout
    exact hout
  · intro h out hout huntruncated
    rw [hrun] at hout
    have heq := (Except.ok.inj hout).symm
    rw [heq] at huntruncated ⊢
    have hcut := (untruncated_iff sha256).1 huntruncated
    have hall : _ = Lossy.chars _ := complete_of_untruncated sha256 huntruncated
    rw [hall, Lossy.chars_encode]
    exact h (by omega)

def tenLines : Bytes := List.replicate 10 10

/-- The tenth line comes first. -/
theorem ten_lines_disordered :
    ∃ out, summarizeLog (fun _ => "digest") (.ok tenLines) none = .ok out ∧ out.truncated = false ∧
      out.output = "10: \n1: \n2: \n3: \n4: \n5: \n6: \n7: \n8: \n9: ".toList ∧
      out.output ≠ joinLines (listing tenLines) := by
  refine ⟨_, rfl, ?_⟩
  decide +kernel

end Context
end Bildr
