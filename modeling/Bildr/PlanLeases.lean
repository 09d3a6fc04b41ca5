import Bildr.PlanCustody
/-!
# PlanLeases — plan custody against lease custody

Two tests decide whether two tasks may hold their patterns at once: the plan's `mayOverlap`, and the `LIKE` query of
`acquirePathLeases`.  They cut a pattern at different characters (the plan's also at braces and `]`, the lease's after
dropping a leading `./`) and compare the cuts differently (component by component, or by `LIKE` with its wildcards and
without case).  Where both cut the same text, what the plan's test refuses the query refuses (`overlaps_of_mayOverlap`),
and they agree exactly when the texts compare alike (`agree_iff_aligned`).  Along every run of lease calls within such a
plan no request meets a lease of another task (`not_conflict_of_foreign`).
-/
namespace Bildr
namespace Plan

open Lease (overlaps normalizedPrefix acquirePath acquirePathLeases conflicting PathLease)
open Trace

/-! ## Two tests -/

def CutAlike (g : List Char) : Prop := normalizedPrefix g = globPrefix g

/-- When one cut, read as a `LIKE` pattern, fits the start of the other, they compare by components too. -/
def Aligned (g h : List Char) : Prop :=
  overlaps (globPrefix g) (globPrefix h) = true →
    globPrefix g = [] ∨ globPrefix h = [] ∨ globPrefix g = globPrefix h ∨
      below (globPrefix g) (globPrefix h) = true ∨ below (globPrefix h) (globPrefix g) = true

theorem mayOverlap_iff (g h : List Char) : mayOverlap g h = true ↔
    globPrefix g = [] ∨ globPrefix h = [] ∨ globPrefix g = globPrefix h ∨
      below (globPrefix g) (globPrefix h) = true ∨ below (globPrefix h) (globPrefix g) = true := by
  simp [mayOverlap, or_assoc]

theorem prefix_of_below {p q : List Char} (h : below q p = true) : p <+: q := by
  unfold below at h
  rw [Bool.and_eq_true] at h
  exact List.isPrefixOf_iff_prefix.1 h.1

/-- **What the plan's test refuses, the query on the same texts refuses.** -/
theorem overlaps_of_mayOverlap {g h : List Char} (ht : mayOverlap g h = true) :
    overlaps (globPrefix g) (globPrefix h) = true := by
  rcases (mayOverlap_iff g h).1 ht with he | he | he | hb | hb
  · exact Lease.overlaps_of_prefix (he ▸ List.nil_prefix)
  · rw [Lease.overlaps_comm]
    exact Lease.overlaps_of_prefix (he ▸ List.nil_prefix)
  · exact Lease.overlaps_of_prefix (he ▸ List.prefix_refl _)
  · rw [Lease.overlaps_comm]
    exact Lease.overlaps_of_prefix (prefix_of_below hb)
  · exact Lease.overlaps_of_prefix (prefix_of_below hb)

theorem overlaps_eq_mayOverlap {g h : List Char} (hg : CutAlike g) (hh : CutAlike h) (ha : Aligned g h) :
    overlaps (normalizedPrefix g) (normalizedPrefix h) = mayOverlap g h := by
  rw [hg, hh, Bool.eq_iff_iff]
  exact ⟨fun ho => (mayOverlap_iff g h).2 (ha ho), overlaps_of_mayOverlap⟩

/-! ## Two leases at once -/

def leaseRow (id run attempt base : String) (g : List Char) (now expires : Int) : PathLease :=
  ⟨id, run, attempt, g, normalizedPrefix g, base, now, now, expires, none, none⟩

def Holds (t : Lease.Tables) (id : String) (now : Int) : Prop :=
  ∃ l ∈ t.leases.rows, l.id = id ∧ l.active now = true

/-- `acquire_path_leases` lets two attempts of one run hold the two patterns at once. -/
def HoldBoth (g h : List Char) : Prop :=
  ∃ (t : Lease.Tables) (run a b base base' i j : String) (ttl ttl' : Nat) (now now' : Int), a ≠ b ∧
    (acquirePathLeases run a base [(i, g)] ttl now t).1 = .ok () ∧
    (acquirePathLeases run b base' [(j, h)] ttl' now' (acquirePathLeases run a base [(i, g)] ttl now t).2).1 = .ok () ∧
    Holds (acquirePathLeases run b base' [(j, h)] ttl' now' (acquirePathLeases run a base [(i, g)] ttl now t).2).2 i now' ∧
    Holds (acquirePathLeases run b base' [(j, h)] ttl' now' (acquirePathLeases run a base [(i, g)] ttl now t).2).2 j now'

def expiry (ttl : Nat) (now : Int) : Int := satI64 (now + satI64 (asI64 ttl * 1000))

theorem acquire_eq (run attempt base : String) (paths : List (String × List Char)) (ttl : Nat) (now : Int) :
    acquirePathLeases run attempt base paths ttl now =
      commit (fun t => paths.foldlM (acquirePath run attempt base now (expiry ttl now)) t) := rfl

theorem acquireOne_ok {run attempt base id : String} {g : List Char} {ttl : Nat} {now : Int} {t : Lease.Tables}
    (h : (acquirePathLeases run attempt base [(id, g)] ttl now t).1 = .ok ()) :
    conflicting t.leases.rows run attempt now (normalizedPrefix g) = none ∧
      (acquirePathLeases run attempt base [(id, g)] ttl now t).2.leases.rows =
        t.leases.rows ++ [leaseRow id run attempt base g now (expiry ttl now)] := by
  rw [acquire_eq] at h ⊢
  rcases commit_cases _ t with ⟨e, -, he⟩ | ⟨t', hb, ht⟩
  · rw [he] at h
    cases h
  · rw [ht]
    rw [List.foldlM_cons] at hb
    obtain ⟨v, hv, hb⟩ := bind_ok hb
    cases hb
    exact Lease.acquirePath_ok hv

theorem acquireOne_of_free {run attempt base id : String} {g : List Char} {ttl : Nat} {now : Int} {t : Lease.Tables}
    (hc : conflicting t.leases.rows run attempt now (normalizedPrefix g) = none)
    (hr : (t.runs.contains run && t.attempts.any (fun a => a.id == attempt)) = true)
    (hid : id ∉ t.leases.rows.map PathLease.id) :
    ∃ leases, acquirePathLeases run attempt base [(id, g)] ttl now t = (.ok (), { t with leases := leases }) ∧
      leases.rows = t.leases.rows ++ [leaseRow id run attempt base g now (expiry ttl now)] := by
  obtain ⟨leases, hins⟩ := insertRow_isOk (t := t.leases)
    (r := leaseRow id run attempt base g now (expiry ttl now)) hid
  refine ⟨leases, ?_, (insertRow_ok_iff.1 hins).2⟩
  have hpath : acquirePath run attempt base now (expiry ttl now) t (id, g) = .ok { t with leases := leases } := by
    unfold acquirePath
    simp only [hc, hr]
    show (insertRow t.leases (leaseRow id run attempt base g now (expiry ttl now)) >>= _) = _
    rw [hins]
    rfl
  rw [acquire_eq]
  apply commit_ok
  rw [List.foldlM_cons, hpath]
  rfl

theorem active_leaseRow {id run attempt base : String} {g : List Char} {now expires t : Int} (h : t < expires) :
    (leaseRow id run attempt base g now expires).active t = true := by
  simp [leaseRow, PathLease.active, h]

/-- **Two attempts can hold two patterns at once exactly when the query does not relate their prefixes.** -/
theorem holdBoth_iff (g h : List Char) : HoldBoth g h ↔ overlaps (normalizedPrefix g) (normalizedPrefix h) = false := by
  constructor
  · rintro ⟨t, run, a, b, base, base', i, j, ttl, ttl', now, now', hab, h1, h2, ⟨l, hl, hli, hact⟩, -⟩
    obtain ⟨-, hrows⟩ := acquireOne_ok h1
    obtain ⟨hnone, hrows'⟩ := acquireOne_ok h2
    -- the active lease under the first id is the one the first call wrote
    generalize ht : (acquirePathLeases run a base [(i, g)] ttl now t).2 = u at hrows hnone hrows' hl h2
    generalize hu : (acquirePathLeases run b base' [(j, h)] ttl' now' u).2 = v at hrows' hl
    have hfirst : leaseRow i run a base g now (expiry ttl now) ∈ u.leases.rows := by
      rw [hrows]
      simp
    have hsame : l = leaseRow i run a base g now (expiry ttl now) := by
      have hin : leaseRow i run a base g now (expiry ttl now) ∈ v.leases.rows := by
        rw [hrows']
        exact List.mem_append.2 (Or.inl hfirst)
      exact List.inj_on_of_nodup_map v.leases.nodup hl hin hli
    rw [hsame] at hact
    have hn := List.find?_eq_none.1 hnone _ hfirst
    have hl1 : (leaseRow i run a base g now (expiry ttl now)).runId = run := rfl
    have hl2 : (leaseRow i run a base g now (expiry ttl now)).taskAttemptId = a := rfl
    have hl3 : (leaseRow i run a base g now (expiry ttl now)).normalizedPrefix = normalizedPrefix g := rfl
    simp only [hl1, hl2, hl3, hact, beq_self_eq_true, bne_iff_ne.2 hab, Bool.true_and, Bool.not_eq_true] at hn
    rw [Lease.overlaps_comm]
    exact hn
  · intro ho
    let t : Lease.Tables := ⟨["run"], [], [⟨"a", "A", 1⟩, ⟨"b", "B", 1⟩], Table.empty⟩
    obtain ⟨l1, h1, hr1⟩ : ∃ leases, acquirePathLeases "run" "a" "base" [("i", g)] 60 0 t =
        (.ok (), { t with leases := leases }) ∧ leases.rows = [leaseRow "i" "run" "a" "base" g 0 60000] :=
      acquireOne_of_free rfl (by decide) (by simp [t, Table.empty])
    have hfree : conflicting l1.rows "run" "b" 0 (normalizedPrefix h) = none := by
      rw [hr1]
      refine List.find?_eq_none.2 (fun l hl => ?_)
      rw [List.mem_singleton.1 hl]
      rw [Lease.overlaps_comm] at ho
      simp [leaseRow, ho]
    have hid : "j" ∉ l1.rows.map PathLease.id := by
      rw [hr1]
      simp [leaseRow]
    obtain ⟨l2, h2, hr2⟩ : ∃ leases, acquirePathLeases "run" "b" "base" [("j", h)] 60 0 { t with leases := l1 } =
        (.ok (), { t with leases := leases }) ∧ leases.rows = l1.rows ++ [leaseRow "j" "run" "b" "base" h 0 60000] :=
      acquireOne_of_free hfree (by simp [t]) hid
    refine ⟨t, "run", "a", "b", "base", "base", "i", "j", 60, 60, 0, 0, by decide, by rw [h1], by rw [h1, h2], ?_, ?_⟩
    · rw [h1, h2]
      refine ⟨leaseRow "i" "run" "a" "base" g 0 60000, ?_, rfl, active_leaseRow (by decide)⟩
      show _ ∈ l2.rows
      rw [hr2, hr1]
      simp
    · rw [h1, h2]
      refine ⟨leaseRow "j" "run" "b" "base" h 0 60000, ?_, rfl, active_leaseRow (by decide)⟩
      show _ ∈ l2.rows
      rw [hr2]
      simp

/-- The two tests say the same of a pair: patterns the plan lets pass can be held at once, and the other way round. -/
def Agree (g h : List Char) : Prop := mayOverlap g h = false ↔ HoldBoth g h

/-- **Where both tests cut the same text, they agree exactly when the texts compare alike.** -/
theorem agree_iff_aligned {g h : List Char} (hg : CutAlike g) (hh : CutAlike h) : Agree g h ↔ Aligned g h := by
  unfold Agree
  rw [holdBoth_iff, hg, hh]
  constructor
  · intro ha ho
    rw [← mayOverlap_iff]
    cases hm : mayOverlap g h with
    | true => rfl
    | false => rw [ha.1 hm] at ho; cases ho
  · intro ha
    have := overlaps_eq_mayOverlap hg hh ha
    rw [hg, hh] at this
    rw [this]

/-! ## What a lease call does to the rows, and when it is refused -/

theorem acquire_row {run attempt base : String} {paths : List (String × List Char)} {ttl : Nat} {now : Int}
    {t : Lease.Tables} {l : PathLease} (h : l ∈ (acquirePathLeases run attempt base paths ttl now t).2.leases.rows) :
    l ∈ t.leases.rows ∨ l.runId = run ∧ l.taskAttemptId = attempt ∧ l.normalizedPrefix = normalizedPrefix l.pathGlob ∧
      ∃ q ∈ paths, l.pathGlob = q.2 := by
  rw [acquire_eq] at h
  rcases commit_cases _ t with ⟨e, -, he⟩ | ⟨u, hu, ht⟩
  · rw [he] at h
    exact Or.inl h
  · rw [ht] at h
    refine foldlM_invariant (fun u : Lease.Tables => ∀ l ∈ u.leases.rows, l ∈ t.leases.rows ∨ l.runId = run ∧
      l.taskAttemptId = attempt ∧ l.normalizedPrefix = normalizedPrefix l.pathGlob ∧ ∃ q ∈ paths, l.pathGlob = q.2)
      (fun q hq a a' ha hstep l hl => ?_) (fun l hl => Or.inl hl) hu l h
    rw [(Lease.acquirePath_ok hstep).2, List.mem_append] at hl
    rcases hl with hl | hl
    · exact ha l hl
    · obtain rfl := List.mem_singleton.1 hl
      exact Or.inr ⟨rfl, rfl, rfl, q, hq, rfl⟩

def SameLease (q l : PathLease) : Prop :=
  l.runId = q.runId ∧ l.taskAttemptId = q.taskAttemptId ∧ l.pathGlob = q.pathGlob ∧
    l.normalizedPrefix = q.normalizedPrefix

theorem heartbeat_row {touched : PathLease → Bool} {ttl : Nat} {now : Int} {t : Lease.Tables} {l : PathLease}
    (h : l ∈ (Lease.heartbeat touched ttl now t).2.leases.rows) : ∃ q ∈ t.leases.rows, SameLease q l := by
  simp only [Lease.heartbeat, Table.mem_update] at h
  obtain ⟨q, hq, rfl⟩ := h
  refine ⟨q, hq, ?_⟩
  split <;> exact ⟨rfl, rfl, rfl, rfl⟩

theorem release_row {touched : PathLease → Bool} {reason : String} {now : Int} {t : Lease.Tables} {l : PathLease}
    (h : l ∈ (Lease.release touched reason now t).2.leases.rows) : ∃ q ∈ t.leases.rows, SameLease q l := by
  simp only [Lease.release, Table.mem_update] at h
  obtain ⟨q, hq, rfl⟩ := h
  refine ⟨q, hq, ?_⟩
  split <;> exact ⟨rfl, rfl, rfl, rfl⟩

/-- **A row after a call is a row before it with other times, or the row of a granted path.** -/
theorem effect_row {t : Lease.Tables} {now : Int} {op : Lease.Op} {l : PathLease}
    (h : l ∈ (Lease.effect t now op).leases.rows) :
    (∃ q ∈ t.leases.rows, SameLease q l) ∨
    ∃ base paths ttl q, op = .acquire l.runId l.taskAttemptId base paths ttl ∧ q ∈ paths ∧ l.pathGlob = q.2 ∧
      l.normalizedPrefix = normalizedPrefix l.pathGlob := by
  cases op with
  | acquire run attempt base paths ttl =>
    rcases acquire_row h with hl | ⟨hr, ha, hn, q, hq, hg⟩
    · exact Or.inl ⟨l, hl, rfl, rfl, rfl, rfl⟩
    · exact Or.inr ⟨base, paths, ttl, q, by rw [hr, ha], hq, hg, hn⟩
  | heartbeat attempt ttl => exact Or.inl (heartbeat_row h)
  | heartbeatRun run ttl => exact Or.inl (heartbeat_row h)
  | release attempt reason => exact Or.inl (release_row h)
  | releaseRun run reason => exact Or.inl (release_row h)
  | world runs tasks attempts => exact Or.inl ⟨l, h, rfl, rfl, rfl, rfl⟩

theorem acquirePath_conflict {run attempt base : String} {now expires : Int} {t : Lease.Tables} {q : String × List Char}
    {m : String} (h : acquirePath run attempt base now expires t q = .error (.conflict m)) :
    ∃ l, conflicting t.leases.rows run attempt now (normalizedPrefix q.2) = some l := by
  cases hc : conflicting t.leases.rows run attempt now (normalizedPrefix q.2) with
  | some l => exact ⟨l, rfl⟩
  | none =>
    unfold acquirePath at h
    simp only [hc] at h
    exfalso
    cases hr : (t.runs.contains run && t.attempts.any (fun a => a.id == attempt)) with
    | false =>
      rw [hr] at h
      cases h
    | true =>
      rw [hr] at h
      change (insertRow t.leases _ >>= fun leases => pure _) = _ at h
      unfold insertRow at h
      split at h <;> cases h

/-- **A request is refused for an active lease of another attempt of the run that the query relates to a path.** -/
theorem acquire_conflict {run attempt base : String} {paths : List (String × List Char)} {ttl : Nat} {now : Int}
    {t : Lease.Tables} {m : String} (h : (acquirePathLeases run attempt base paths ttl now t).1 = .error (.conflict m)) :
    ∃ q ∈ paths, ∃ l ∈ t.leases.rows, l.runId = run ∧ l.taskAttemptId ≠ attempt ∧ l.active now = true ∧
      overlaps (normalizedPrefix q.2) l.normalizedPrefix = true := by
  have hfold : paths.foldlM (acquirePath run attempt base now (expiry ttl now)) t = .error (.conflict m) := by
    rw [acquire_eq] at h
    rcases commit_cases _ t with ⟨e, hb, he⟩ | ⟨u, -, he⟩
    · rw [he] at h
      cases h
      exact hb
    · rw [he] at h
      cases h
  -- the rows met on the way are the rows before the call and this attempt's own
  obtain ⟨q, hq, u, hu, hfail⟩ := foldlM_error (fun u : Lease.Tables =>
    ∀ l ∈ u.leases.rows, l ∈ t.leases.rows ∨ l.taskAttemptId = attempt) (fun q _ a a' ha hstep l hl => by
      rw [(Lease.acquirePath_ok hstep).2, List.mem_append] at hl
      rcases hl with hl | hl
      · exact ha l hl
      · exact Or.inr (by rw [List.mem_singleton.1 hl])) (fun l hl => Or.inl hl) hfold
  obtain ⟨l, hc⟩ := acquirePath_conflict hfail
  have hl := List.mem_of_find?_eq_some hc
  have hp := List.find?_some hc
  simp only [Bool.and_eq_true, beq_iff_eq, bne_iff_ne] at hp
  obtain ⟨⟨⟨hr, ha⟩, hact⟩, hov⟩ := hp
  exact ⟨q, hq, l, (hu l hl).resolve_right ha, hr, ha, hact, hov⟩

/-! ## Runs within the custody of a plan -/

def Owned (tasks : List Packet) (owner : String → String) (attempt : String) (g : List Char) : Prop :=
  ∃ t ∈ tasks, t.taskId = owner attempt ∧ ∃ p ∈ t.ownedPaths, p.toList = g

/-- The request asks for patterns its own task owns; `owner` gives the task of an attempt. -/
def InCustody (tasks : List Packet) (run : String) (owner : String → String) : Lease.Op → Prop
  | .acquire r attempt _ paths _ => r = run → ∀ q ∈ paths, Owned tasks owner attempt q.2
  | _ => True

def CustodyInv (tasks : List Packet) (run : String) (owner : String → String) (s : Lease.State) : Prop :=
  ∀ l ∈ s.tables.leases.rows, l.runId = run →
    l.normalizedPrefix = normalizedPrefix l.pathGlob ∧ Owned tasks owner l.taskAttemptId l.pathGlob

section Runs
variable {tasks : List Packet} {run : String} {owner : String → String}

theorem custody_step (s : Lease.State) (i : Int × Lease.Op) (hi : CustodyInv tasks run owner s)
    (hc : InCustody tasks run owner i.2) : CustodyInv tasks run owner (Lease.step s i) := by
  intro l hl hr
  rcases effect_row hl with ⟨q, hq, hrun, hatt, hglob, hpre⟩ | ⟨base, paths, ttl, q, hop, hq, hglob, hpre⟩
  · obtain ⟨hn, ho⟩ := hi q hq (hrun.symm.trans hr)
    rw [hpre, hglob, hatt]
    exact ⟨hn, ho⟩
  · rw [hop] at hc
    refine ⟨hpre, ?_⟩
    rw [hglob]
    exact hc hr q hq

/-- **Within a validated plan whose pairs agree, a request meets no lease of another task.** -/
theorem not_conflict_of_foreign (hchecked : Checked tasks)
    (hagree : ∀ g h, ForeignPair tasks g h → CutAlike g.toList ∧ CutAlike h.toList ∧ Aligned g.toList h.toList)
    {s : Lease.State} (hi : CustodyInv tasks run owner s) {attempt base : String} {paths : List (String × List Char)}
    {ttl : Nat} {now : Int} (hc : InCustody tasks run owner (.acquire run attempt base paths ttl))
    (hrival : ∀ l ∈ s.tables.leases.rows, l.runId = run → l.taskAttemptId ≠ attempt → l.active now = true →
      owner l.taskAttemptId ≠ owner attempt) (m : String) :
    (acquirePathLeases run attempt base paths ttl now s.tables).1 ≠ .error (.conflict m) := by
  intro h
  obtain ⟨q, hq, l, hl, hr, ha, hact, hov⟩ := acquire_conflict h
  obtain ⟨hn, u, hu, huid, g, hg, hgl⟩ := hi l hl hr
  obtain ⟨t, ht, htid, p, hp, hpq⟩ := hc rfl q hq
  have hne : t.taskId ≠ u.taskId := by
    rw [htid, huid]
    exact fun he => hrival l hl hr ha hact he.symm
  have hpair : ForeignPair tasks p g := ⟨t, ht, u, hu, hne, hp, hg⟩
  obtain ⟨hcp, hcg, hal⟩ := hagree p g hpair
  have hpass : mayOverlap p.toList g.toList = false := foreignPair_passes hchecked hpair
  rw [hn, ← hpq, ← hgl, overlaps_eq_mayOverlap hcp hcg hal, hpass] at hov
  cases hov

end Runs

/-- **Plan custody and lease custody agree** within validated plans whose foreign pairs are cut alike and aligned: along
every run of lease calls within the plan's custody, no request is refused for a lease of another task.  And for
patterns that both tests cut alike, the tests agree exactly when the pair is aligned. -/
theorem plan_custody_leasable (baseSha : String) (profile : RepositoryProfile) (plan : PacketPlan)
    (h : validatePlan baseSha profile plan = .ok ()) :
    ((∀ g h, ForeignPair plan.tasks g h → CutAlike g.toList ∧ CutAlike h.toList ∧ Aligned g.toList h.toList) →
      ∀ run owner now runs tasks attempts ops,
        Along Lease.step (fun _ i => InCustody plan.tasks run owner i.2) (Lease.fresh now runs tasks attempts) ops →
        let s := Trace.run Lease.step (Lease.fresh now runs tasks attempts) ops
        ∀ attempt base paths ttl t, InCustody plan.tasks run owner (.acquire run attempt base paths ttl) →
          (∀ l ∈ s.tables.leases.rows, l.runId = run → l.taskAttemptId ≠ attempt → l.active t = true →
            owner l.taskAttemptId ≠ owner attempt) →
          ∀ m, (acquirePathLeases run attempt base paths ttl t s.tables).1 ≠ .error (.conflict m)) ∧
    ∀ g h : List Char, CutAlike g → CutAlike h → (Agree g h ↔ Aligned g h) := by
  refine ⟨fun hagree run owner now runs tasks attempts ops hops => ?_,
    fun g h hg hh => agree_iff_aligned hg hh⟩
  intro s attempt base paths ttl t hc hrival m
  have hinit : CustodyInv plan.tasks run owner (Lease.fresh now runs tasks attempts) := fun l hl => by cases hl
  have hi : CustodyInv plan.tasks run owner s := invariant_of_step _ custody_step hinit hops
  exact not_conflict_of_foreign (validateTasks_ok (validatePlan_ok h).1) hagree hi hc hrival m

/-- Attempt `a` is of task `A`, every other of task `B`. -/
def ownerOf (attempt : String) : String := if attempt = "a" then "A" else "B"

def twoAttempts : Lease.State := Lease.fresh 0 ["run"] [] [⟨"a", "task-a", 1⟩, ⟨"b", "task-b", 1⟩]

/-- Attempt `a` leases the pattern of its task. -/
def firstLease (g : String) : List (Int × Lease.Op) := [(0, .acquire "run" "a" "base" [("1", g.toList)] 60)]

theorem aligned_of_apart {g h : List Char} (ho : overlaps (globPrefix g) (globPrefix h) = false) : Aligned g h := by
  intro h'
  rw [ho] at h'
  cases h'

theorem plan_custody_leasable_twoPatterns :
    validatePlan "base" rustProfile (twoPatterns "src/a.rs" "docs/b.rs") = .ok () ∧
    ∀ m, (acquirePathLeases "run" "b" "base" [("2", "docs/b.rs".toList)] 60 1
      (Trace.run Lease.step twoAttempts (firstLease "src/a.rs")).tables).1 ≠ .error (.conflict m) := by
  have hv : validatePlan "base" rustProfile (twoPatterns "src/a.rs" "docs/b.rs") = .ok () := by decide +kernel
  have hcut : CutAlike "src/a.rs".toList ∧ CutAlike "docs/b.rs".toList := by
    unfold CutAlike
    decide +kernel
  have hapart : overlaps (globPrefix "src/a.rs".toList) (globPrefix "docs/b.rs".toList) = false := by decide +kernel
  have hmem : ∀ t ∈ [packet "A" [] ["src/a.rs"], packet "B" [] ["docs/b.rs"]],
      t ∈ (twoPatterns "src/a.rs" "docs/b.rs").tasks := fun t ht => ht
  refine ⟨hv, (plan_custody_leasable "base" rustProfile _ hv).1 (fun g h hp => ?_) "run" ownerOf 0 ["run"] []
    [⟨"a", "task-a", 1⟩, ⟨"b", "task-b", 1⟩] (firstLease "src/a.rs") ⟨fun _ q hq => ?_, trivial⟩ "b" "base" _ 60 1
    (fun _ q hq => ?_) (by decide +kernel)⟩
  · rcases foreignPair_twoPatterns hp with ⟨rfl, rfl⟩ | ⟨rfl, rfl⟩
    · exact ⟨hcut.1, hcut.2, aligned_of_apart hapart⟩
    · exact ⟨hcut.2, hcut.1, aligned_of_apart (by rw [Lease.overlaps_comm]; exact hapart)⟩
  · rw [List.mem_singleton.1 hq]
    exact ⟨_, hmem _ List.mem_cons_self, rfl, "src/a.rs", List.mem_cons_self, rfl⟩
  · rw [List.mem_singleton.1 hq]
    exact ⟨_, hmem _ (List.mem_cons_of_mem _ List.mem_cons_self), rfl, "docs/b.rs", List.mem_cons_self, rfl⟩

/-- A validated plan whose second task cannot be leased beside the first; and patterns that can be leased at once and
that the plan's test refuses. -/
theorem plan_and_lease_tests_differ :
    (validatePlan "base" rustProfile (twoPatterns "src/a.rs" "src/a.rs.bak") = .ok () ∧
      (acquirePathLeases "run" "b" "base" [("2", "src/a.rs.bak".toList)] 60 1
        (Trace.run Lease.step twoAttempts (firstLease "src/a.rs")).tables).1 =
        .error (.conflict "path lease src/a.rs.bak overlaps active lease src/a.rs")) ∧
    (validRepoGlob "src/\x7ba,b\x7d" = true ∧ validRepoGlob "src/c" = true ∧
      HoldBoth "src/\x7ba,b\x7d".toList "src/c".toList ∧ repoGlobsMayOverlap "src/\x7ba,b\x7d" "src/c" = true) :=
  ⟨⟨by decide +kernel, by decide +kernel⟩, by decide +kernel, by decide +kernel,
    (holdBoth_iff _ _).2 (by decide +kernel), by decide +kernel⟩

end Plan
end Bildr
