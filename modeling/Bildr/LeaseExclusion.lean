import Bildr.Lease
/-!
# LeaseExclusion — when two active leases share no path

Acquisition compares literal prefixes, and a prefix is sound for globs that open no brace before their first `*`, `?`
or `[`: two such globs that match one path have comparable prefixes (`overlaps_of_shares`), so the `LIKE` query finds
the rival.  Heartbeats compare nothing: they also move the expiry of a lease that has already run out, and its paths
may have been leased to another attempt in between.  Along runs that avoid both, active leases of different attempts
share no path (`leases_share_no_path`); without it they may (`leases_may_share_a_path`).
-/
namespace Bildr
namespace Lease

open Glob Trace

/-! ## Globs that match a common path

A leading `./` denotes the repository root, as `normalized_prefix` reads it. -/

def Shares (g h : List Char) : Prop :=
  ∃ p, matchesPath (trimDotSlash g) p = true ∧ matchesPath (trimDotSlash h) p = true

def Exclusive (leases : List PathLease) (now : Int) : Prop :=
  ∀ l ∈ leases, ∀ l' ∈ leases, l.runId = l'.runId → l.taskAttemptId ≠ l'.taskAttemptId →
    l.active now = true → l'.active now = true → ¬ Shares l.pathGlob l'.pathGlob

/-- No brace before the first `*`, `?` or `[`. -/
def braceFree (g : List Char) : Bool := !(lead g).contains '{'

theorem lead_append (g : List Char) :
    trimDotSlash g = lead g ++ (trimDotSlash g).dropWhile (fun c => !splits c) :=
  List.takeWhile_append_dropWhile.symm

theorem lead_plain (g : List Char) (h : braceFree g = true) : (lead g).all plain = true := by
  rw [List.all_eq_true]
  intro c hc
  have hs : splits c = false := by
    have := List.all_eq_true.1 (List.all_takeWhile (l := trimDotSlash g) (p := fun c => !splits c)) c hc
    simpa using this
  have hb : c ≠ '{' := by
    intro he
    subst he
    simp only [braceFree, Bool.not_eq_true', List.contains_eq_mem, decide_eq_false_iff_not] at h
    exact h hc
  simp only [splits, Bool.or_eq_false_iff, beq_eq_false_iff_ne] at hs
  simp [plain, hs.1.1, hs.1.2, hs.2, hb]

theorem prefix_of_matches (g p : List Char) (hg : braceFree g = true) (h : matchesPath (trimDotSlash g) p = true) :
    normalizedPrefix g <+: p := by
  rw [lead_append] at h
  exact (List.rdropWhile_prefix _ (lead g)).trans (matchesPath_lead (lead g) _ p (lead_plain g hg) h)

theorem overlaps_of_prefix {p q : List Char} (h : p <+: q) : overlaps p q = true := by
  obtain ⟨s, rfl⟩ := h
  simp [overlaps, like_of_starts]

theorem overlaps_comm (p q : List Char) : overlaps p q = overlaps q p := Bool.or_comm _ _

/-- **Two brace-free globs that match one path have overlapping prefixes.** -/
theorem overlaps_of_shares {g h : List Char} (hg : braceFree g = true) (hh : braceFree h = true) (hs : Shares g h) :
    overlaps (normalizedPrefix g) (normalizedPrefix h) = true := by
  obtain ⟨p, hp, hp'⟩ := hs
  rcases List.prefix_or_prefix_of_prefix (prefix_of_matches g p hg hp) (prefix_of_matches h p hh hp') with h1 | h1
  · exact overlaps_of_prefix h1
  · rw [overlaps_comm]; exact overlaps_of_prefix h1

/-! ## The condition on a step

An acquisition names brace-free globs; a heartbeat that reaches past `now` revives no lease that has run out while the
acquisition query would report a rival: a lease of another attempt that is active, or that the heartbeat extends too. -/

def NoRival (t : Tables) (touched : PathLease → Bool) (now : Int) : Prop :=
  ∀ l ∈ t.leases.rows, touched l = true → l.releasedAt = none → l.expiresAt ≤ now →
    ∀ l' ∈ t.leases.rows, l'.runId = l.runId → l'.taskAttemptId ≠ l.taskAttemptId → l'.releasedAt = none →
      now < l'.expiresAt ∨ touched l' = true → overlaps l.normalizedPrefix l'.normalizedPrefix = false

def hasRival (t : Tables) (touched : PathLease → Bool) (now : Int) : Bool :=
  t.leases.rows.any (fun l => touched l && l.releasedAt.isNone && decide (l.expiresAt ≤ now) &&
    t.leases.rows.any (fun l' => l'.runId == l.runId && l'.taskAttemptId != l.taskAttemptId && l'.releasedAt.isNone &&
      (decide (now < l'.expiresAt) || touched l') && overlaps l.normalizedPrefix l'.normalizedPrefix))

theorem hasRival_eq_false (t : Tables) (touched : PathLease → Bool) (now : Int) :
    hasRival t touched now = false ↔ NoRival t touched now := by
  unfold hasRival NoRival
  simp only [List.any_eq_false, Bool.and_eq_true, decide_eq_true_eq, Bool.or_eq_true, Option.isNone_iff_eq_none,
    List.any_eq_true, beq_iff_eq, bne_iff_ne, not_and, not_exists, Bool.not_eq_true]
  constructor
  · intro h l hl ht hr he l' hl' hrun hne hr' hnow
    exact h l hl ⟨⟨ht, hr⟩, he⟩ l' hl' ⟨⟨⟨hrun, hne⟩, hr'⟩, hnow⟩
  · rintro h l hl ⟨⟨ht, hr⟩, he⟩ l' hl' ⟨⟨⟨hrun, hne⟩, hr'⟩, hnow⟩
    exact h l hl ht hr he l' hl' hrun hne hr' hnow

instance (t : Tables) (touched : PathLease → Bool) (now : Int) : Decidable (NoRival t touched now) :=
  decidable_of_iff (hasRival t touched now = false) (hasRival_eq_false t touched now)

def extended (ttl : Nat) (now : Int) : Int := satI64 (now + satI64 (clampI64 ttl * 1000))

def Admissible (t : Tables) (now : Int) : Op → Prop
  | .acquire _ _ _ paths _ => ∀ q ∈ paths, braceFree q.2 = true
  | .heartbeat attempt ttl => now < extended ttl now → NoRival t (fun l => l.taskAttemptId == attempt) now
  | .heartbeatRun run ttl =>
    now < extended ttl now → NoRival t (fun l => l.runId == run && currentAttempt t run l.taskAttemptId) now
  | _ => True

instance (t : Tables) (now : Int) (op : Op) : Decidable (Admissible t now op) := by
  cases op <;> unfold Admissible <;> infer_instance

def clockOk (s : State) (i : Int × Op) : Prop := s.now ≤ i.1

def StepOk (s : State) (i : Int × Op) : Prop := clockOk s i ∧ Admissible s.tables i.1 i.2

instance (s : State) (i : Int × Op) : Decidable (clockOk s i) := by unfold clockOk; infer_instance
instance (s : State) (i : Int × Op) : Decidable (StepOk s i) := by unfold StepOk; infer_instance

/-! ## The invariant -/

def wellFormed (l : PathLease) : Prop := l.normalizedPrefix = normalizedPrefix l.pathGlob ∧ braceFree l.pathGlob = true

structure Inv (leases : List PathLease) (now : Int) : Prop where
  wf : ∀ l ∈ leases, wellFormed l
  exclusive : Exclusive leases now

theorem not_shares_of_not_overlaps {l l' : PathLease} (hl : wellFormed l) (hl' : wellFormed l')
    (h : overlaps l.normalizedPrefix l'.normalizedPrefix = false) : ¬ Shares l.pathGlob l'.pathGlob := by
  intro hs
  have := overlaps_of_shares hl.2 hl'.2 hs
  rw [← hl.1, ← hl'.1, h] at this
  cases this

theorem shares_symm {g h : List Char} (hs : Shares g h) : Shares h g := by
  obtain ⟨p, hp, hp'⟩ := hs
  exact ⟨p, hp', hp⟩

theorem active_of_later {l : PathLease} {now t : Int} (hle : now ≤ t) (h : l.active t = true) : l.active now = true := by
  simp only [PathLease.active, Bool.and_eq_true, decide_eq_true_eq] at h ⊢
  exact ⟨h.1, by omega⟩

theorem Inv.later {leases : List PathLease} {now t : Int} (hle : now ≤ t) (h : Inv leases now) : Inv leases t :=
  ⟨h.wf, fun l hl l' hl' hr ha h1 h2 =>
    h.exclusive l hl l' hl' hr ha (active_of_later hle h1) (active_of_later hle h2)⟩

/-- **What a granted path did**: no active lease of another attempt overlapped it, and its lease is the last row. -/
theorem acquirePath_ok {run attempt base : String} {now expires : Int} {t t' : Tables} {q : String × List Char}
    (h : acquirePath run attempt base now expires t q = .ok t') :
    conflicting t.leases.rows run attempt now (normalizedPrefix q.2) = none ∧ t'.leases.rows = t.leases.rows ++
      [⟨q.1, run, attempt, q.2, normalizedPrefix q.2, base, now, now, expires, none, none⟩] := by
  unfold acquirePath at h
  cases hc : conflicting t.leases.rows run attempt now (normalizedPrefix q.2) with
  | some l => rw [hc] at h; cases h
  | none =>
    rw [hc] at h
    obtain ⟨_, -, h⟩ := bind_ok h
    obtain ⟨leases, hins, h⟩ := bind_ok h
    cases h
    exact ⟨rfl, (Table.insert_some (insertRow_ok hins)).2⟩

theorem inv_acquirePath {run attempt base : String} {now expires : Int} {t t' : Tables} {q : String × List Char}
    (hq : braceFree q.2 = true) (hi : Inv t.leases.rows now)
    (h : acquirePath run attempt base now expires t q = .ok t') : Inv t'.leases.rows now := by
  obtain ⟨hc, hrows⟩ := acquirePath_ok h
  rw [hrows]
  -- the new row against an old one of another attempt of the run
  have hnew : ∀ l ∈ t.leases.rows, l.runId = run → l.taskAttemptId ≠ attempt → l.active now = true →
      ¬ Shares q.2 l.pathGlob := by
    intro l hl hr ha hact hs
    have hn := List.find?_eq_none.1 hc l hl
    have hov := overlaps_of_shares hq (hi.wf l hl).2 hs
    rw [← (hi.wf l hl).1] at hov
    exact hn (by simp [hr, ha, hact, hov])
  refine ⟨fun l hl => ?_, fun l hl l' hl' hr ha h1 h2 => ?_⟩
  · rcases List.mem_append.1 hl with hl | hl
    · exact hi.wf l hl
    · obtain rfl := List.mem_singleton.1 hl
      exact ⟨rfl, hq⟩
  · rcases List.mem_append.1 hl with hl | hl <;> rcases List.mem_append.1 hl' with hl' | hl'
    · exact hi.exclusive l hl l' hl' hr ha h1 h2
    · obtain rfl := List.mem_singleton.1 hl'
      exact fun hs => hnew l hl hr ha h1 (shares_symm hs)
    · obtain rfl := List.mem_singleton.1 hl
      exact hnew l' hl' hr.symm (Ne.symm ha) h2
    · obtain rfl := List.mem_singleton.1 hl
      obtain rfl := List.mem_singleton.1 hl'
      exact absurd rfl ha

theorem inv_acquire {run attempt base : String} {paths : List (String × List Char)} {ttl : Nat} {now : Int} {t : Tables}
    (hp : ∀ q ∈ paths, braceFree q.2 = true) (hi : Inv t.leases.rows now) :
    Inv (acquirePathLeases run attempt base paths ttl now t).2.leases.rows now := by
  unfold acquirePathLeases
  rcases transaction_cases (fun t => do
      let t' ← paths.foldlM (acquirePath run attempt base now (satI64 (now + satI64 (asI64 ttl * 1000)))) t
      return ((), t')) t with ⟨e, -, ht⟩ | ⟨a, t', hb, ht⟩
  · rw [ht]; exact hi
  · rw [ht]
    cases hf : paths.foldlM (acquirePath run attempt base now (satI64 (now + satI64 (asI64 ttl * 1000)))) t with
    | error e => rw [hf] at hb; cases hb
    | ok u =>
      rw [hf] at hb
      cases hb
      exact foldlM_invariant (fun t => Inv t.leases.rows now)
        (fun q hq a a' ha h => inv_acquirePath (hp q hq) ha h) hi hf

theorem inv_heartbeat {touched : PathLease → Bool} {ttl : Nat} {now : Int} {t : Tables}
    (hr : now < extended ttl now → NoRival t touched now) (hi : Inv t.leases.rows now) :
    Inv (heartbeat touched ttl now t).2.leases.rows now := by
  have hrow : ∀ l ∈ (heartbeat touched ttl now t).2.leases.rows, ∃ q ∈ t.leases.rows, l.pathGlob = q.pathGlob ∧
      l.normalizedPrefix = q.normalizedPrefix ∧ l.runId = q.runId ∧ l.taskAttemptId = q.taskAttemptId ∧
      (l.active now = true → q.releasedAt = none ∧
        (now < q.expiresAt ∨ now < extended ttl now ∧ touched q = true)) := by
    intro l hl
    simp only [heartbeat, Table.mem_update] at hl
    obtain ⟨q, hq, rfl⟩ := hl
    refine ⟨q, hq, ?_⟩
    by_cases hit : (touched q && q.releasedAt.isNone) = true
    · simp only [hit, if_true]
      rw [Bool.and_eq_true, Option.isNone_iff_eq_none] at hit
      refine ⟨trivial, trivial, trivial, trivial, fun ha => ⟨hit.2, Or.inr ⟨?_, hit.1⟩⟩⟩
      simp only [PathLease.active, Bool.and_eq_true, decide_eq_true_eq] at ha
      exact ha.2
    · simp only [hit, if_false, Bool.false_eq_true]
      refine ⟨trivial, trivial, trivial, trivial, fun ha => ?_⟩
      simp only [PathLease.active, Bool.and_eq_true, decide_eq_true_eq, Option.isNone_iff_eq_none] at ha
      exact ⟨ha.1, Or.inl ha.2⟩
  refine ⟨fun l hl => ?_, fun l hl l' hl' hrun ha h1 h2 => ?_⟩
  · obtain ⟨q, hq, hg, hp, -⟩ := hrow l hl
    have hw := hi.wf q hq
    exact ⟨by rw [hp, hg]; exact hw.1, by rw [hg]; exact hw.2⟩
  · obtain ⟨q, hq, hg, -, hqr, hqa, hact⟩ := hrow l hl
    obtain ⟨q', hq', hg', -, hqr', hqa', hact'⟩ := hrow l' hl'
    obtain ⟨hn, hlive⟩ := hact h1
    obtain ⟨hn', hlive'⟩ := hact' h2
    rw [hqr, hqr'] at hrun
    rw [hqa, hqa'] at ha
    rw [hg, hg']
    -- both ran already, or one of the two is revived
    by_cases hq1 : now < q.expiresAt
    · by_cases hq2 : now < q'.expiresAt
      · exact hi.exclusive q hq q' hq' hrun ha (by simp [PathLease.active, hn, hq1])
          (by simp [PathLease.active, hn', hq2])
      · have hlive' := hlive'.resolve_left hq2
        intro hs
        refine not_shares_of_not_overlaps (hi.wf q' hq') (hi.wf q hq) ?_ (shares_symm hs)
        exact hr hlive'.1 q' hq' hlive'.2 hn' (by omega) q hq hrun ha hn (Or.inl hq1)
    · have hlive := hlive.resolve_left hq1
      refine not_shares_of_not_overlaps (hi.wf q hq) (hi.wf q' hq') ?_
      refine hr hlive.1 q hq hlive.2 hn (by omega) q' hq' hrun.symm (Ne.symm ha) hn' ?_
      exact hlive'.imp id And.right

theorem inv_release {touched : PathLease → Bool} {reason : String} {now : Int} {t : Tables}
    (hi : Inv t.leases.rows now) : Inv (release touched reason now t).2.leases.rows now := by
  have hrow : ∀ l ∈ (release touched reason now t).2.leases.rows,
      ∃ q ∈ t.leases.rows, l.pathGlob = q.pathGlob ∧ l.normalizedPrefix = q.normalizedPrefix ∧ l.runId = q.runId ∧
        l.taskAttemptId = q.taskAttemptId ∧ (l.active now = true → q.active now = true) := by
    intro l hl
    simp only [release, Table.mem_update] at hl
    obtain ⟨q, hq, rfl⟩ := hl
    refine ⟨q, hq, ?_⟩
    split
    · exact ⟨rfl, rfl, rfl, rfl, fun ha => by simp [PathLease.active] at ha⟩
    · exact ⟨rfl, rfl, rfl, rfl, id⟩
  refine ⟨fun l hl => ?_, fun l hl l' hl' hrun ha h1 h2 => ?_⟩
  · obtain ⟨q, hq, hg, hp, -⟩ := hrow l hl
    have hw := hi.wf q hq
    exact ⟨by rw [hp, hg]; exact hw.1, by rw [hg]; exact hw.2⟩
  · obtain ⟨q, hq, hg, -, hqr, hqa, hact⟩ := hrow l hl
    obtain ⟨q', hq', hg', -, hqr', hqa', hact'⟩ := hrow l' hl'
    rw [hg, hg']
    exact hi.exclusive q hq q' hq' (hqr ▸ hqr' ▸ hrun) (hqa ▸ hqa' ▸ ha) (hact h1) (hact' h2)

theorem inv_step (s : State) (i : Int × Op) (hi : Inv s.tables.leases.rows s.now) (hok : StepOk s i) :
    Inv (step s i).tables.leases.rows (step s i).now := by
  obtain ⟨now, op⟩ := i
  obtain ⟨hclock, hadm⟩ := hok
  have hi : Inv s.tables.leases.rows now := hi.later hclock
  cases op with
  | acquire run attempt base paths ttl => exact inv_acquire hadm hi
  | heartbeat attempt ttl => exact inv_heartbeat hadm hi
  | heartbeatRun run ttl => exact inv_heartbeat hadm hi
  | release attempt reason => exact inv_release hi
  | releaseRun run reason => exact inv_release hi
  | world runs tasks attempts => exact hi

def fresh (now : Int) (runs : List String) (tasks : List Task) (attempts : List Attempt) : State :=
  ⟨now, ⟨runs, tasks, attempts, Table.empty⟩⟩

/-- **Along admissible runs active leases of different attempts of a run share no path**, at the last call and at every
later instant, and an acquisition that fails leaves the leases as they were. -/
theorem leases_share_no_path (now : Int) (runs : List String) (tasks : List Task) (attempts : List Attempt)
    (ops : List (Int × Op)) (h : Along step StepOk (fresh now runs tasks attempts) ops) :
    let s := run step (fresh now runs tasks attempts) ops
    (∀ t, s.now ≤ t → Exclusive s.tables.leases.rows t) ∧
    ∀ r attempt base paths ttl t e, (acquirePathLeases r attempt base paths ttl t s.tables).1 = .error e →
      (acquirePathLeases r attempt base paths ttl t s.tables).2.leases = s.tables.leases := by
  intro s
  have hi : Inv s.tables.leases.rows s.now :=
    invariant_of_step (fun s => Inv s.tables.leases.rows s.now) inv_step
      ⟨fun l hl => (by cases hl), fun l hl => (by cases hl)⟩ h
  refine ⟨fun t ht => (hi.later ht).exclusive, fun r attempt base paths ttl t e he => ?_⟩
  unfold acquirePathLeases at he ⊢
  rw [transaction_error he]

def twoAttempts : State := fresh 0 ["run"] [] [⟨"a", "task-a", 1⟩, ⟨"b", "task-b", 1⟩]

/-- Attempt `a` leases `src`, `b` leases `docs`; both are extended, `a` after its rival's request for `src` failed. -/
def disjointRun : List (Int × Op) :=
  [(0, .acquire "run" "a" "sha" [("1", "src/*".toList)] 60), (1, .acquire "run" "b" "sha" [("2", "docs/**".toList)] 60),
   (2, .acquire "run" "b" "sha" [("3", "src/x.rs".toList)] 60), (3, .heartbeat "a" 60), (4, .heartbeat "b" 60)]

theorem leases_share_no_path_disjointRun :
    Exclusive (run step twoAttempts disjointRun).tables.leases.rows 5 ∧
      ((run step twoAttempts disjointRun).tables.leases.rows.map PathLease.id) = ["1", "2"] :=
  ⟨(leases_share_no_path 0 ["run"] [] [⟨"a", "task-a", 1⟩, ⟨"b", "task-b", 1⟩] disjointRun (by decide +kernel)).1 5
    (by decide +kernel), by decide +kernel⟩

/-! ## Two ways to share a path -/

def clash (leases : List PathLease) (now : Int) (p : List Char) : Bool :=
  leases.any (fun l => leases.any (fun l' => l.runId == l'.runId && l.taskAttemptId != l'.taskAttemptId &&
    l.active now && l'.active now && matchesPath (trimDotSlash l.pathGlob) p && matchesPath (trimDotSlash l'.pathGlob) p))

theorem not_exclusive_of_clash {leases : List PathLease} {now : Int} {p : List Char} (h : clash leases now p = true) :
    ¬ Exclusive leases now := by
  intro he
  obtain ⟨l, hl, h⟩ := List.any_eq_true.1 h
  obtain ⟨l', hl', h⟩ := List.any_eq_true.1 h
  simp only [Bool.and_eq_true, beq_iff_eq, bne_iff_ne] at h
  obtain ⟨⟨⟨⟨⟨hr, ha⟩, h1⟩, h2⟩, h3⟩, h4⟩ := h
  exact he l hl l' hl' hr ha h1 h2 ⟨p, h3, h4⟩

/-- The prefix of `{src,lib}/x.rs` is the glob itself, which is not comparable with `src/x.rs`. -/
def braceRun : List (Int × Op) :=
  [(0, .acquire "run" "a" "sha" [("1", "{src,lib}/x.rs".toList)] 60),
   (1, .acquire "run" "b" "sha" [("2", "src/x.rs".toList)] 60)]

/-- The lease of `a` runs out, `b` leases the same glob, and a late heartbeat of `a` extends both. -/
def reviveRun : List (Int × Op) :=
  [(0, .acquire "run" "a" "sha" [("1", "src/*".toList)] 1), (2000, .acquire "run" "b" "sha" [("2", "src/*".toList)] 60),
   (2001, .heartbeat "a" 60)]

theorem leases_may_share_a_path :
    (Along step clockOk twoAttempts braceRun ∧ ¬ Exclusive (run step twoAttempts braceRun).tables.leases.rows 1) ∧
    (Along step clockOk twoAttempts reviveRun ∧
      ¬ Exclusive (run step twoAttempts reviveRun).tables.leases.rows 2001) :=
  ⟨⟨by decide +kernel, not_exclusive_of_clash (p := "src/x.rs".toList) (by decide +kernel)⟩,
    ⟨by decide +kernel, not_exclusive_of_clash (p := "src/x".toList) (by decide +kernel)⟩⟩

end Lease
end Bildr
