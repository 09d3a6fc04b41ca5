import Bildr.FailureStore
import Bildr.Lockstep
import Bildr.Trace
/-!
# FailureRefinement — the store's ledger against the one in memory

The two ledgers hold the same clusters, versions and membership log (`Rel`).  Their operations accept the same requests
and keep the relation, except in two places: the store refuses cluster identifiers that are no plain tokens, and it
refuses a merge or a split whose edit row is already there, because the row's key is a digest of the edit alone.
-/
namespace Bildr
namespace Failure

open Lockstep Trace

structure Rel (repo : String) (t : Tables) (l : FailureLedger) : Prop where
  repository : t.repositories.contains repo = true
  occurrences : ∀ id, (t.occurrences.get id).isSome = (l.occurrences.get id).isSome
  occurrenceRepo : ∀ id o, t.occurrences.get id = some o → o.repositoryId = repo
  counts : ∀ id o, l.occurrences.get id = some o →
    t.classifications.rows.countP (fun c => c.occurrenceId == id) = o.revision
  numbered : ∀ c ∈ t.classifications.rows,
    c.revision ≤ t.classifications.rows.countP (fun d => d.occurrenceId == c.occurrenceId)
  clusters : ∀ id, (t.clusters.get id).map ClusterRow.version = (l.clusters.get id).map FailureCluster.revision
  clusterRow : ∀ id c, t.clusters.get id = some c → c.repositoryId = repo ∧ validIdentifier id = true
  log : t.memberships.rows.map (fun m => (m.occurrenceId, m.clusterId)) =
    l.memberships.map (fun m => (m.occurrenceId, m.clusterId))
  ordered : t.memberships.rows.Pairwise (fun m m' => m.revision < m'.revision)
  known : ∀ m ∈ t.memberships.rows, (t.occurrences.get m.occurrenceId).isSome = true

/-! ## The members of a cluster -/

theorem lastRevision_append (rows : List MembershipRow) (m : MembershipRow) (o : String) :
    lastRevision (rows ++ [m]) o =
      if m.occurrenceId = o then max (lastRevision rows o) m.revision else lastRevision rows o := by
  unfold lastRevision
  rw [List.filter_append]
  by_cases h : m.occurrenceId = o
  · have : [m].filter (fun x => x.occurrenceId == o) = [m] := by simp [h]
    rw [this, Table.maxOf_append, if_pos h]
  · have : [m].filter (fun x => x.occurrenceId == o) = [] := by simp [h]
    rw [this, List.append_nil, if_neg h]

theorem currentCluster_append (log : List MembershipRevision) (m : MembershipRevision) (o : String) :
    FailureLedger.currentCluster (log ++ [m]) o =
      if m.occurrenceId = o then some m.clusterId else FailureLedger.currentCluster log o := by
  unfold FailureLedger.currentCluster
  rw [List.foldl_append]
  simp

/-- **The row with the largest revision is the last entry of the log.** -/
theorem current_iff (o c : String) : ∀ (rows : List MembershipRow) (log : List MembershipRevision),
    rows.map (fun m => (m.occurrenceId, m.clusterId)) = log.map (fun m => (m.occurrenceId, m.clusterId)) →
    rows.Pairwise (fun m m' => m.revision < m'.revision) →
    ((∃ m ∈ rows, m.occurrenceId = o ∧ m.clusterId = c ∧ m.revision = lastRevision rows o) ↔
      FailureLedger.currentCluster log o = some c) := by
  intro rows
  induction rows using List.reverseRecOn with
  | nil =>
    intro log hlog _
    have : log = [] := by
      cases log with
      | nil => rfl
      | cons m log => cases hlog
    subst this
    simp [FailureLedger.currentCluster]
  | append_singleton rows m ih =>
    intro log hlog hord
    -- the log ends with the same entry
    obtain ⟨log', e, rfl⟩ : ∃ log' e, log = log' ++ [e] := by
      rcases List.eq_nil_or_concat log with rfl | ⟨log', e, he⟩
      · simp at hlog
      · exact ⟨log', e, by simpa using he⟩
    rw [List.map_append, List.map_append] at hlog
    obtain ⟨hlog, hlast⟩ := List.append_inj' hlog rfl
    simp only [List.map_cons, List.map_nil, List.cons.injEq, Prod.mk.injEq, and_true] at hlast
    obtain ⟨hord, -, hlt⟩ := List.pairwise_append.1 hord
    have hlt : ∀ q ∈ rows, q.revision < m.revision := fun q hq => hlt q hq m List.mem_cons_self
    rw [currentCluster_append, lastRevision_append, ← hlast.1, ← hlast.2]
    by_cases hm : m.occurrenceId = o
    · have hle : lastRevision rows o ≤ m.revision :=
        Table.maxOf_le _ (fun q hq => Nat.le_of_lt (hlt q (List.mem_filter.1 hq).1))
      rw [if_pos hm, if_pos hm, Nat.max_eq_right hle, Option.some.injEq]
      refine ⟨fun ⟨q, hq, _, hqc, hqr⟩ => ?_, fun h => ⟨m, by simp, hm, h, rfl⟩⟩
      rcases List.mem_append.1 hq with hq | hq
      · have := hlt q hq
        omega
      · obtain rfl := List.mem_singleton.1 hq
        exact hqc
    · rw [if_neg hm, if_neg hm, ← ih log' hlog hord]
      refine ⟨fun ⟨q, hq, hqo, hqc, hqr⟩ => ?_, fun ⟨q, hq, hqo, hqc, hqr⟩ => ?_⟩
      · rcases List.mem_append.1 hq with hq | hq
        · exact ⟨q, hq, hqo, hqc, hqr⟩
        · obtain rfl := List.mem_singleton.1 hq
          exact absurd hqo hm
      · exact ⟨q, List.mem_append_left _ hq, hqo, hqc, hqr⟩

section Rel
variable {repo : String} {t : Tables} {l : FailureLedger}

theorem Rel.members (hr : Rel repo t l) (c : String) : currentFailureMembers t c = l.currentMembers c := by
  refine SortedSet.ofList_congr (fun o => ?_)
  have hcur := current_iff o c _ _ hr.log hr.ordered
  rw [List.mem_map, List.mem_filter, decide_eq_true_eq, ← hcur]
  constructor
  · rintro ⟨m, hm, rfl⟩
    simp only [List.mem_filter, Bool.and_eq_true, beq_iff_eq] at hm
    obtain ⟨hm, hc, hrev⟩ := hm
    refine ⟨?_, m, hm, rfl, hc, hrev⟩
    have : (m.occurrenceId, m.clusterId) ∈ l.memberships.map (fun m => (m.occurrenceId, m.clusterId)) := by
      rw [← hr.log]
      exact List.mem_map.2 ⟨m, hm, rfl⟩
    obtain ⟨e, he, heq⟩ := List.mem_map.1 this
    simp only [Prod.mk.injEq] at heq
    exact List.mem_map.2 ⟨e, he, heq.1⟩
  · rintro ⟨-, m, hm, rfl, hc, hrev⟩
    exact ⟨m, List.mem_filter.2 ⟨hm, by simp [hc, hrev]⟩, rfl⟩

theorem Rel.member_known (hr : Rel repo t l) {c o : String} (h : o ∈ currentFailureMembers t c) :
    (t.occurrences.get o).isSome = true := by
  unfold currentFailureMembers at h
  rw [SortedSet.mem_ofList] at h
  obtain ⟨m, hm, rfl⟩ := List.mem_map.1 h
  exact hr.known m (List.mem_filter.1 hm).1

/-! ## Checks -/

theorem Rel.get_cluster (hr : Rel repo t l) (c : String) :
    (t.clusters.get c = none ∧ l.clusters.get c = none) ∨
      ∃ row k, t.clusters.get c = some row ∧ l.clusters.get c = some k ∧ row.version = k.revision ∧
        row.repositoryId = repo := by
  have h := hr.clusters c
  cases ht : t.clusters.get c with
  | none =>
    rw [ht, Option.map_none] at h
    exact Or.inl ⟨rfl, Option.map_eq_none_iff.1 h.symm⟩
  | some row =>
    rw [ht, Option.map_some] at h
    obtain ⟨k, hk, hv⟩ := Option.map_eq_some_iff.1 h.symm
    exact Or.inr ⟨row, k, rfl, hk, hv.symm, (hr.clusterRow c row ht).1⟩

theorem Rel.both_version (hr : Rel repo t l) (c : String) (v : Nat) :
    Both (fun _ _ => (t.clusters.get c).isSome = true) (requireFailureClusterVersion t c v)
      (l.requireClusterRevision c v) := by
  unfold requireFailureClusterVersion FailureLedger.requireClusterRevision
  rcases hr.get_cluster c with ⟨h1, h2⟩ | ⟨row, k, h1, h2, hv, -⟩
  · rw [h1, h2]; exact trivial
  · rw [h1, h2]
    simp only [okOr, ok_bind, hv]
    by_cases h : k.revision = v
    · rw [h, beq_self_eq_true]; exact rfl
    · rw [beq_eq_false_iff_ne.2 h]; exact trivial

theorem Rel.repository_of (hr : Rel repo t l) {c : String} (h : (t.clusters.get c).isSome = true) :
    failureClusterRepository t c = .ok repo := by
  obtain ⟨row, hrow⟩ := Option.isSome_iff_exists.1 h
  unfold failureClusterRepository
  rw [hrow]
  exact congrArg Except.ok (hr.clusterRow c row hrow).1

/-! ## Steps that both ledgers take -/

theorem Rel.edits (hr : Rel repo t l) (edits : Table EditRow.id) (ces : List ClusterEdit) :
    Rel repo { t with edits := edits } { l with clusterEdits := ces } :=
  ⟨hr.repository, hr.occurrences, hr.occurrenceRepo, hr.counts, hr.numbered, hr.clusters, hr.clusterRow, hr.log,
    hr.ordered, hr.known⟩

theorem Rel.append (hr : Rel repo t l) {o c : String} (ho : (t.occurrences.get o).isSome = true)
    (hc : (t.clusters.get c).isSome = true) (action : MembershipAction) (actor : String) (reason : EditReason)
    (now : Int) :
    ∃ t', appendFailureMembershipTx o c action actor reason now t = .ok t' ∧
      Rel repo t' (l.appendMembership o c action actor reason) ∧
      t'.edits = t.edits ∧ t'.clusters = t.clusters ∧ t'.occurrences = t.occurrences := by
  have hfresh : t.memberships.get (nextRevision t.memberships.rows) = none := by
    rw [Table.get_none]
    intro m hm
    have := Table.le_maxOf MembershipRow.revision hm
    unfold nextRevision
    omega
  obtain ⟨u, hu⟩ := Table.insert_isSome (t := t.memberships)
    (r := ⟨nextRevision t.memberships.rows, o, c, action, actor, reason, now⟩) hfresh
  have hrows := (Table.insert_some hu).2
  refine ⟨{ t with memberships := u }, ?_, ?_, rfl, rfl, rfl⟩
  · simp [appendFailureMembershipTx, require, ho, hc, insertRow, hu]
  · refine ⟨hr.repository, hr.occurrences, hr.occurrenceRepo, hr.counts, hr.numbered, hr.clusters, hr.clusterRow,
      ?_, ?_, ?_⟩
    · simp only [hrows, FailureLedger.appendMembership, List.map_append, hr.log, List.map_cons, List.map_nil]
    · simp only [hrows]
      refine List.pairwise_append.2 ⟨hr.ordered, List.pairwise_singleton _ _, fun m hm m' hm' => ?_⟩
      obtain rfl := List.mem_singleton.1 hm'
      exact Nat.lt_succ_of_le (Table.le_maxOf MembershipRow.revision hm)
    · intro m hm
      simp only [hrows] at hm
      rcases List.mem_append.1 hm with hm | hm
      · exact hr.known m hm
      · obtain rfl := List.mem_singleton.1 hm
        exact ho

theorem countP_key {c : String} {row : ClusterRow} (h : t.clusters.get c = some row) :
    t.clusters.rows.countP (fun r => r.id == c) = 1 := by
  have hnodup := t.clusters.nodup
  have hmem : c ∈ t.clusters.rows.map ClusterRow.id :=
    List.mem_map.2 ⟨row, Table.mem_of_get h, Table.key_of_get h⟩
  have := List.count_eq_one_of_mem hnodup hmem
  rw [List.count_eq_countP, List.countP_map] at this
  exact this

theorem Rel.bump (hr : Rel repo t l) {c : String} (hc : (t.clusters.get c).isSome = true) :
    ∃ t', bumpFailureCluster t c = .ok t' ∧ Rel repo t' (l.bumpCluster c) ∧
      ∀ k, (t'.clusters.get k).isSome = (t.clusters.get k).isSome := by
  obtain ⟨row, hrow⟩ := Option.isSome_iff_exists.1 hc
  refine ⟨{ t with clusters := t.clusters.update (fun r => r.id == c) bumpedRow bumpedRow_id }, ?_, ?_, fun k => ?_⟩
  · simp [bumpFailureCluster, countP_key hrow]
  · refine ⟨hr.repository, hr.occurrences, hr.occurrenceRepo, hr.counts, hr.numbered, fun id => ?_, fun id r hid => ?_,
      hr.log, hr.ordered, hr.known⟩
    · simp only [FailureLedger.bumpCluster, Table.get_update, Option.map_map]
      rcases hr.get_cluster id with ⟨h1, h2⟩ | ⟨r, k, h1, h2, hv, -⟩
      · rw [h1, h2]; rfl
      · rw [h1, h2]
        have hid : r.id = id := Table.key_of_get h1
        have hid' : k.clusterId = id := Table.key_of_get h2
        simp only [Option.map_some, Function.comp, hid, hid']
        by_cases h : id = c
        · simp [h, bumpedRow, FailureLedger.bumped, hv]
        · simp [h, hv]
    · rw [Table.get_update] at hid
      obtain ⟨r₀, hr₀, rfl⟩ := Option.map_eq_some_iff.1 hid
      have := hr.clusterRow id r₀ hr₀
      split
      · exact this
      · exact this
  · simp only [Table.get_update, Option.isSome_map]

theorem Rel.bumps (hr : Rel repo t l) (cs : List String) (hcs : ∀ c ∈ cs, (t.clusters.get c).isSome = true) :
    ∃ t', cs.foldlM bumpFailureCluster t = .ok t' ∧ Rel repo t' (cs.foldl FailureLedger.bumpCluster l) := by
  have := foldlM_next_to (R := fun t' l' => Rel repo t' l' ∧ ∀ k, (t'.clusters.get k).isSome = (t.clusters.get k).isSome)
    (f := bumpFailureCluster) (g := FailureLedger.bumpCluster) cs (a := t) (b := l) (fun c hc t' l' h => ?_)
    ⟨hr, fun _ => rfl⟩
  · obtain ⟨t', h1, h2, -⟩ := this
    exact ⟨t', h1, h2⟩
  · obtain ⟨t'', h1, h2, h3⟩ := h.1.bump (c := c) (by rw [h.2]; exact hcs c hc)
    exact ⟨t'', h1, h2, fun k => by rw [h3, h.2]⟩

theorem Rel.edit (hr : Rel repo t l) (sha256 : String → String) (source : String) (target : Option String)
    (action : EditAction) (actor : String) (reason : EditReason) (targets : List String) (now : Int)
    (hs : (t.clusters.get source).isSome = true) (hne : targets ≠ [])
    (ht : ∀ k ∈ targets, (t.clusters.get k).isSome = true) (htgt : ∀ k ∈ target, k ∈ targets) :
    ((t.edits.get (editId sha256 source target action actor reason (SortedSet.ofList targets))).isSome = true →
      ∃ e, appendFailureClusterEdit sha256 source target action actor reason targets now t = .error e) ∧
    (t.edits.get (editId sha256 source target action actor reason (SortedSet.ofList targets)) = none →
      ∃ u, appendFailureClusterEdit sha256 source target action actor reason targets now t =
        .ok { t with edits := u }) := by
  have hvalid : (!(SortedSet.ofList targets).isEmpty && (SortedSet.ofList targets).all validIdentifier) = true := by
    rw [Bool.and_eq_true]
    constructor
    · cases htargets : targets with
      | nil => exact absurd htargets hne
      | cons k ks =>
        have hk : k ∈ SortedSet.ofList (k :: ks) := SortedSet.mem_ofList.2 List.mem_cons_self
        cases h : SortedSet.ofList (k :: ks) with
        | nil => rw [h] at hk; cases hk
        | cons _ _ => rfl
    · rw [List.all_eq_true]
      intro k hk
      obtain ⟨row, hrow⟩ := Option.isSome_iff_exists.1 (ht k (SortedSet.mem_ofList.1 hk))
      exact (hr.clusterRow k row hrow).2
  have hfk : ((t.clusters.get source).isSome && target.all (fun k => (t.clusters.get k).isSome)) = true := by
    rw [hs, Bool.true_and]
    cases htarget : target with
    | none => rfl
    | some k => exact ht k (htgt k (by simp [htarget]))
  unfold appendFailureClusterEdit
  simp only [hvalid, hfk, require, ensure_true, ok_bind]
  refine ⟨fun hdup => ?_, fun hfresh => ?_⟩
  · unfold insertRow
    rw [Table.insert_none.2 hdup]
    exact ⟨_, rfl⟩
  · obtain ⟨u, hu⟩ := Table.insert_isSome (t := t.edits) (r := ⟨editId sha256 source target action actor reason
      (SortedSet.ofList targets), source, target, action, actor, reason, SortedSet.ofList targets, now⟩) hfresh
    unfold insertRow
    rw [hu]
    exact ⟨u, rfl⟩

/-! ## The operations side by side -/

theorem validateFailureActor_ok {actor : String} (h : validIdentifier actor = true) :
    validateFailureActor actor = .ok () := by
  simp [validateFailureActor, validateFailureIdentifier, h]

theorem both_create (hr : Rel repo t l) {c : String} (now : Int) (hc : c = "" ∨ validIdentifier c = true) :
    Both (Rel repo) (createFailureCluster repo c now t) (l.createCluster c) := by
  unfold createFailureCluster FailureLedger.createCluster validateFailureIdentifier
  by_cases hv : validIdentifier c = true
  · have hne : (c != "") = true := by
      simp only [validIdentifier, Bool.and_eq_true] at hv
      exact hv.1.1
    simp only [hv, hne, hr.repository, require, ensure_true, ok_bind]
    rcases hr.get_cluster c with ⟨h1, h2⟩ | ⟨row, k, h1, h2, -⟩
    · obtain ⟨u, hu⟩ := Table.insert_isSome (t := t.clusters) (r := ⟨c, repo, 0, now⟩) h1
      obtain ⟨v, hv'⟩ := Table.insert_isSome (t := l.clusters) (r := ⟨c, 0⟩) h2
      rw [insertRow, hu, hv']
      refine ⟨hr.repository, hr.occurrences, hr.occurrenceRepo, hr.counts, hr.numbered, fun id => ?_,
        fun id r hid => ?_, hr.log, hr.ordered, hr.known⟩
      · rw [Table.get_insert hu, Table.get_insert hv']
        by_cases h : id = c
        · rw [if_pos h, if_pos h]; rfl
        · rw [if_neg h, if_neg h]; exact hr.clusters id
      · rw [Table.get_insert hu] at hid
        by_cases h : id = c
        · rw [if_pos h] at hid
          cases hid
          exact ⟨rfl, h ▸ hv⟩
        · rw [if_neg h] at hid
          exact hr.clusterRow id r hid
    · have hu : t.clusters.insert ⟨c, repo, 0, now⟩ = none := Table.insert_none.2 (by simp [h1])
      have hv' : l.clusters.insert ⟨c, 0⟩ = none := Table.insert_none.2 (by simp [h2])
      rw [insertRow, hu, hv']
      exact trivial
  · have he : c = "" := hc.resolve_right hv
    rw [Bool.not_eq_true] at hv
    simp only [he, bne_self_eq_false, ensure_false, error_bind]
    exact trivial

theorem both_reclassify (hr : Rel repo t l) (o : String) (v : Nat) (k : FailureClass) {actor : String}
    (ha : validIdentifier actor = true) (reason : EditReason) (now : Int) :
    Both (Rel repo) (reclassifyFailure o v k actor reason now t) (l.reclassify o v k actor reason) := by
  unfold reclassifyFailure FailureLedger.reclassify
  rw [validateFailureActor_ok ha, ok_bind]
  have hsome := hr.occurrences o
  cases ho : l.occurrences.get o with
  | none =>
    rw [ho, Option.isSome_none] at hsome
    simp only [hsome, okOr, ensure_false, error_bind]
    cases (t.classifications.rows.countP (fun c => c.occurrenceId == o) == v) <;> exact trivial
  | some occ =>
    rw [ho, Option.isSome_some] at hsome
    have hcount := hr.counts o occ ho
    simp only [hsome, hcount, okOr, ensure_true, ok_bind]
    by_cases hv : occ.revision = v
    · rw [hv, beq_self_eq_true, ensure_true, ensure_true, ok_bind, ok_bind, ← hv]
      have hfresh : t.classifications.get (o, occ.revision + 1) = none := by
        rw [Table.get_none]
        intro c hc hkey
        have hle := hr.numbered c hc
        simp only [ClassificationRow.key, Prod.mk.injEq] at hkey
        rw [hkey.1, hcount] at hle
        omega
      obtain ⟨u, hu⟩ := Table.insert_isSome (t := t.classifications)
        (r := ⟨o, occ.revision + 1, k, actor, reason, now⟩) hfresh
      have hrows := (Table.insert_some hu).2
      rw [insertRow, hu]
      have hkey : occ.occurrenceId = o := Table.key_of_get ho
      refine ⟨hr.repository, fun id => ?_, hr.occurrenceRepo, fun id q hq => ?_, fun c hc => ?_, hr.clusters,
        hr.clusterRow, hr.log, hr.ordered, hr.known⟩
      · rw [hr.occurrences, Table.get_update, Option.isSome_map]
      · rw [Table.get_update] at hq
        obtain ⟨q₀, hq₀, rfl⟩ := Option.map_eq_some_iff.1 hq
        simp only [hrows, List.countP_append, hr.counts id q₀ hq₀]
        have hid : q₀.occurrenceId = id := Table.key_of_get hq₀
        by_cases h : id = o
        · simp [hid, h, FailureLedger.reclassified, FailureOccurrence.revision]
        · simp [hid, h, Ne.symm h]
      · simp only [hrows] at hc ⊢
        rw [List.countP_append]
        rcases List.mem_append.1 hc with hc | hc
        · exact Nat.le_trans (hr.numbered c hc) (Nat.le_add_right _ _)
        · obtain rfl := List.mem_singleton.1 hc
          simp [hcount]
    · rw [beq_eq_false_iff_ne.2 hv]
      exact trivial

theorem both_assign (hr : Rel repo t l) (o c : String) (v : Nat) {actor : String} (ha : validIdentifier actor = true)
    (reason : EditReason) (now : Int) :
    Both (Rel repo) (assignFailureToCluster o c v actor reason now t) (l.assign o c v actor reason) := by
  unfold assignFailureToCluster appendFailureMembership FailureLedger.assign FailureLedger.requireOccurrence
  rw [validateFailureActor_ok ha, ok_bind, ← hr.occurrences]
  cases ho : t.occurrences.get o with
  | none => exact trivial
  | some occ =>
    simp only [okOr, Option.isSome_some, ensure_true, ok_bind, hr.occurrenceRepo o occ ho]
    -- both look for an earlier membership
    have hany : l.memberships.any (fun m => m.occurrenceId == o) =
        t.memberships.rows.any (fun m => m.occurrenceId == o) := by
      have := congrArg (List.any · (fun q : String × String => q.1 == o)) hr.log
      simp only [List.any_map, Function.comp_def] at this
      exact this.symm
    rw [hany]
    rcases hr.get_cluster c with ⟨h1, h2⟩ | ⟨row, k, h1, h2, hv, hrepo⟩
    · have hleft : failureClusterRepository t c = .error (.notFound ("failure cluster " ++ c)) := by
        simp [failureClusterRepository, h1, okOr]
      have hright : l.requireClusterRevision c v = .error (.unknownCluster c) := by
        simp [FailureLedger.requireClusterRevision, h2, okOr]
      rw [hleft, hright]
      cases (t.memberships.rows.any (fun m => m.occurrenceId == o)) <;> exact trivial
    · have hsome : (t.clusters.get c).isSome = true := by simp [h1]
      rw [hr.repository_of hsome, ok_bind, beq_self_eq_true, ensure_true, ok_bind]
      cases hprior : t.memberships.rows.any (fun m => m.occurrenceId == o) with
      | true =>
        simp only [Bool.not_true, ensure_false, error_bind]
        cases requireFailureClusterVersion t c v <;> exact trivial
      | false =>
        simp only [Bool.not_false, ensure_true, ok_bind]
        refine (hr.both_version c v).bind (fun _ _ _ => ?_)
        obtain ⟨t₁, h₁, hr₁, -, hcl, -⟩ := hr.append (o := o) (c := c) (by simp [ho]) hsome .assigned actor reason now
        obtain ⟨t₂, h₂, hr₂, -⟩ := hr₁.bump (c := c) (by rw [hcl]; exact hsome)
        rw [h₁, ok_bind, h₂]
        exact hr₂

def mergeMoved (l : FailureLedger) (source target actor : String) (reason : EditReason) : FailureLedger :=
  (l.currentMembers source).foldl (fun l o => l.appendMembership o target .merged actor reason) l

/-- **A merge**: refused by the checks of both, or left to the edit row and the versions. -/
theorem merge_steps (hr : Rel repo t l) (sha256 : String → String) (source : String) (es : Nat) (target : String)
    (et : Nat) {actor : String} (ha : validIdentifier actor = true) (reason : EditReason) (now : Int) :
    (∃ e d, mergeFailureClusters sha256 source es target et actor reason now t = .error e ∧
      l.mergeChecks source es target et = .error d) ∨
    (l.mergeChecks source es target et = .ok () ∧ (t.clusters.get source).isSome = true ∧
      (t.clusters.get target).isSome = true ∧ ∃ t₁, Rel repo t₁ (mergeMoved l source target actor reason) ∧
        t₁.edits = t.edits ∧ t₁.clusters = t.clusters ∧
        mergeFailureClusters sha256 source es target et actor reason now t =
          (appendFailureClusterEdit sha256 source (some target) .merged actor reason [target] now t₁ >>= fun t =>
            bumpFailureCluster t source >>= fun t => bumpFailureCluster t target)) := by
  unfold mergeFailureClusters FailureLedger.mergeChecks
  rw [validateFailureActor_ok ha]
  by_cases hst : source = target
  · rw [hst, bne_self_eq_false]
    exact Or.inl ⟨_, _, rfl, rfl⟩
  have hne : (source != target) = true := by simp [hst]
  simp only [hne, ensure_true, ok_bind]
  rcases hr.get_cluster source with ⟨h1, h2⟩ | ⟨row, k, h1, h2, -⟩
  · simp only [failureClusterRepository, FailureLedger.requireClusterRevision, h1, h2, okOr, error_bind]
    exact Or.inl ⟨_, _, rfl, rfl⟩
  have hsome : (t.clusters.get source).isSome = true := by simp [h1]
  rw [hr.repository_of hsome, ok_bind]
  rcases hr.get_cluster target with ⟨h3, h4⟩ | ⟨row', k', h3, h4, -⟩
  · -- the target is unknown, whatever the source's version is
    have hright : ∃ d, (l.requireClusterRevision source es >>= fun _ => l.requireClusterRevision target et) = .error d := by
      cases l.requireClusterRevision source es with
      | error d => exact ⟨d, rfl⟩
      | ok _ => simp [FailureLedger.requireClusterRevision, h4, okOr]
    obtain ⟨d, hd⟩ := hright
    refine Or.inl ⟨.notFound ("failure cluster " ++ target), d, ?_, hd⟩
    simp only [failureClusterRepository, h3, okOr, error_bind]
  have hsome' : (t.clusters.get target).isSome = true := by simp [h3]
  rw [hr.repository_of hsome', ok_bind, beq_self_eq_true, ensure_true, ok_bind]
  rcases (hr.both_version source es).cases with ⟨e, d, he, hd⟩ | ⟨_, _, he, hd, -⟩
  · rw [he, hd]; exact Or.inl ⟨_, _, rfl, rfl⟩
  rw [he, hd, ok_bind, ok_bind]
  rcases (hr.both_version target et).cases with ⟨e, d, he, hd⟩ | ⟨_, _, he, hd, -⟩
  · rw [he, hd]; exact Or.inl ⟨_, _, rfl, rfl⟩
  rw [he, hd, ok_bind]
  obtain ⟨t₁, h₁, hr₁, hed, hcl, -⟩ := foldlM_next_to
    (R := fun t' l' => Rel repo t' l' ∧ t'.edits = t.edits ∧ t'.clusters = t.clusters ∧ t'.occurrences = t.occurrences)
    (f := fun t o => appendFailureMembershipTx o target .merged actor reason now t)
    (g := fun l o => l.appendMembership o target .merged actor reason)
    (currentFailureMembers t source) (a := t) (b := l) (fun o ho t' l' h => by
      obtain ⟨hrel, hed, hcl, hoc⟩ := h
      obtain ⟨t'', h1, h2, h3, h4, h5⟩ := hrel.append (o := o) (c := target) (by rw [hoc]; exact hr.member_known ho)
        (by rw [hcl]; exact hsome') .merged actor reason now
      exact ⟨t'', h1, h2, h3.trans hed, h4.trans hcl, h5.trans hoc⟩) ⟨hr, rfl, rfl, rfl⟩
  rw [hr.members] at hr₁
  refine Or.inr ⟨rfl, hsome, hsome', t₁, hr₁, hed, hcl, ?_⟩
  rw [h₁, ok_bind]

theorem merge_eq (l : FailureLedger) {source : String} {es : Nat} {target : String} {et : Nat} (actor : String)
    (reason : EditReason) (h : l.mergeChecks source es target et = .ok ()) :
    ∃ ces, l.merge source es target et actor reason =
      .ok (({ mergeMoved l source target actor reason with clusterEdits := ces } : FailureLedger).bumpCluster
        source |>.bumpCluster target) := by
  unfold FailureLedger.merge
  rw [h, ok_bind]
  exact ⟨_, rfl⟩

theorem both_merge (hr : Rel repo t l) (sha256 : String → String) (source : String) (es : Nat) (target : String)
    (et : Nat) {actor : String} (ha : validIdentifier actor = true) (reason : EditReason) (now : Int) :
    let new := (l.mergeChecks source es target et).isOk = true →
      t.edits.get (editId sha256 source (some target) .merged actor reason [target]) = none
    let left := mergeFailureClusters sha256 source es target et actor reason now t
    let right := l.merge source es target et actor reason
    (new → Both (Rel repo) left right) ∧ (left.isOk = right.isOk → new) := by
  intro new left right
  unfold new left right
  rcases merge_steps hr sha256 source es target et ha reason now with
    ⟨e, d, he, hd⟩ | ⟨hok, hs, htgt, t₁, hr₁, hed, hcl, hrun⟩
  · have : l.merge source es target et actor reason = .error d := by unfold FailureLedger.merge; rw [hd]; rfl
    rw [he, this, hd]
    exact ⟨fun _ => trivial, fun _ h => by cases h⟩
  · obtain ⟨ces, hmem⟩ := merge_eq l actor reason hok
    obtain ⟨hdup, hnew⟩ := hr₁.edit sha256 source (some target) .merged actor reason [target]
      now (by rw [hcl]; exact hs) (by simp) (by simpa [hcl] using htgt) (by simp)
    have hone : SortedSet.ofList [target] = [target] := by simp [SortedSet.ofList]
    rw [hone, hed] at hdup hnew
    rw [hok, hrun, hmem]
    cases hkey : t.edits.get (editId sha256 source (some target) .merged actor reason [target]) with
    | some row =>
      obtain ⟨e, he⟩ := hdup (by simp [hkey])
      rw [he]
      exact ⟨fun h => (by cases h rfl), fun h => (by cases h)⟩
    | none =>
      obtain ⟨u, hu⟩ := hnew hkey
      refine ⟨fun _ => ?_, fun _ _ => rfl⟩
      obtain ⟨t₂, h₂, hr₂, hsome₂⟩ := (hr₁.edits u ces).bump (c := source) (by rw [hcl]; exact hs)
      obtain ⟨t₃, h₃, hr₃, -⟩ := hr₂.bump (c := target) (by rw [hsome₂]; simp only [hcl]; exact htgt)
      rw [hu, ok_bind, h₂, ok_bind, h₃]
      exact hr₃

theorem both_checkMove (hr : Rel repo t l) (source : String) (members : List String) (acc : List String × List String)
    (m : SplitMove) :
    Both (fun a b => a = b) (checkMove t source repo members acc m) (l.checkMove source members acc m) := by
  unfold checkMove FailureLedger.checkMove
  cases h1 : (m.targetClusterId != source && !acc.1.contains m.occurrenceId) with
  | false =>
    simp only [Bool.false_and, ensure_false, error_bind]
    exact trivial
  | true =>
    cases h2 : members.contains m.occurrenceId with
    | false =>
      simp only [Bool.and_false, ensure_false, error_bind, ensure_true, ok_bind]
      exact trivial
    | true =>
      simp only [Bool.and_true, ensure_true, ok_bind]
      rcases hr.get_cluster m.targetClusterId with ⟨h3, h4⟩ | ⟨row, k, h3, -⟩
      · simp only [failureClusterRepository, FailureLedger.requireClusterRevision, h3, h4, okOr, error_bind]
        exact trivial
      · rw [hr.repository_of (by simp [h3]), ok_bind, beq_self_eq_true, ensure_true, ok_bind]
        exact (hr.both_version m.targetClusterId m.expectedTargetVersion).bind (fun _ _ _ => rfl)

theorem checkMove_ok {source : String} {members : List String} {acc acc' : List String × List String} {m : SplitMove}
    (h : checkMove t source repo members acc m = .ok acc') :
    m.occurrenceId ∈ members ∧ (t.clusters.get m.targetClusterId).isSome = true ∧
      acc' = (m.occurrenceId :: acc.1, m.targetClusterId :: acc.2) := by
  unfold checkMove at h
  obtain ⟨_, h1, h⟩ := bind_ok h
  obtain ⟨r, h2, h⟩ := bind_ok h
  obtain ⟨_, -, h⟩ := bind_ok h
  obtain ⟨_, -, h⟩ := bind_ok h
  cases h
  have h1 := ensure_ok h1
  rw [Bool.and_eq_true, List.contains_iff_mem] at h1
  unfold failureClusterRepository at h2
  obtain ⟨row, hrow, -⟩ := bind_ok h2
  exact ⟨h1.2, by simp [okOr_ok hrow], rfl⟩

theorem checkMoves_ok {source : String} {members : List String} :
    ∀ (moves : List SplitMove) {acc acc' : List String × List String},
      moves.foldlM (checkMove t source repo members) acc = .ok acc' →
      (∀ m ∈ moves, m.occurrenceId ∈ members ∧ (t.clusters.get m.targetClusterId).isSome = true) ∧
        ∀ k, k ∈ acc'.2 ↔ k ∈ acc.2 ∨ ∃ m ∈ moves, m.targetClusterId = k
  | [], acc, acc', h => by
    simp only [List.foldlM_nil] at h
    cases h
    exact ⟨fun m hm => (by cases hm), fun k => (by simp)⟩
  | m :: moves, acc, acc', h => by
    rw [List.foldlM_cons] at h
    obtain ⟨acc₁, h1, h⟩ := bind_ok h
    obtain ⟨hmem, hcl, rfl⟩ := checkMove_ok h1
    obtain ⟨h2, h3⟩ := checkMoves_ok moves h
    refine ⟨fun m' hm' => ?_, fun k => ?_⟩
    · rcases List.mem_cons.1 hm' with rfl | hm'
      · exact ⟨hmem, hcl⟩
      · exact h2 m' hm'
    · rw [h3]
      simp only [List.mem_cons, exists_eq_or_imp]
      constructor
      · rintro ((rfl | h) | h)
        · exact Or.inr (Or.inl rfl)
        · exact Or.inl h
        · exact Or.inr (Or.inr h)
      · rintro (h | rfl | h)
        · exact Or.inl (Or.inr h)
        · exact Or.inl (Or.inl rfl)
        · exact Or.inr h

def splitMoved (l : FailureLedger) (moves : List SplitMove) (actor : String) (reason : EditReason) : FailureLedger :=
  moves.foldl (fun l m => l.appendMembership m.occurrenceId m.targetClusterId .split actor reason) l

/-- **A split**: refused by the checks of both, or left to the edit row and the versions. -/
theorem split_steps (hr : Rel repo t l) (sha256 : String → String) (source : String) (es : Nat) (moves : List SplitMove)
    {actor : String} (ha : validIdentifier actor = true) (reason : EditReason) (now : Int) :
    (∃ e d, splitFailureCluster sha256 source es moves actor reason now t = .error e ∧
      l.splitChecks source es moves = .error d) ∨
    ∃ targets, l.splitChecks source es moves = .ok targets ∧ SortedSet.ofList targets = targets ∧
      (t.clusters.get source).isSome = true ∧ targets ≠ [] ∧ (∀ k ∈ targets, (t.clusters.get k).isSome = true) ∧
      ∃ t₁, Rel repo t₁ (splitMoved l moves actor reason) ∧ t₁.edits = t.edits ∧ t₁.clusters = t.clusters ∧
        splitFailureCluster sha256 source es moves actor reason now t =
          (appendFailureClusterEdit sha256 source none .split actor reason targets now t₁ >>= fun t =>
            bumpFailureCluster t source >>= fun t => targets.foldlM bumpFailureCluster t) := by
  unfold splitFailureCluster FailureLedger.splitChecks
  rw [validateFailureActor_ok ha]
  cases hmoves : moves.isEmpty with
  | true =>
    simp only [Bool.not_true, ensure_false, error_bind]
    cases l.requireClusterRevision source es <;> exact Or.inl ⟨_, _, rfl, rfl⟩
  | false =>
    simp only [Bool.not_false, ensure_true, ok_bind]
    rcases (hr.both_version source es).cases with ⟨e, d, he, hd⟩ | ⟨_, _, he, hd, hsome⟩
    · rw [he, hd]; exact Or.inl ⟨_, _, rfl, rfl⟩
    rw [he, hd, ok_bind, ok_bind, hr.repository_of hsome, ok_bind, ← hr.members]
    rcases (both_foldlM (R := fun a b => a = b) moves
        (f := checkMove t source repo (currentFailureMembers t source))
        (g := l.checkMove source (currentFailureMembers t source)) (a := ([], [])) (b := ([], []))
        (fun m _ a b hab => by subst hab; exact both_checkMove hr source _ a m) rfl).cases with
      ⟨e, d, he, hd⟩ | ⟨acc, acc', he, hd, rfl⟩
    · rw [he, hd]; exact Or.inl ⟨_, _, rfl, rfl⟩
    rw [he, hd, ok_bind, ok_bind]
    obtain ⟨hall, htargets⟩ := checkMoves_ok moves he
    have hmem : ∀ k, k ∈ SortedSet.ofList acc.2 ↔ ∃ m ∈ moves, m.targetClusterId = k := by
      intro k
      rw [SortedSet.mem_ofList, htargets]
      simp
    obtain ⟨t₁, h₁, hr₁, hed, hcl, -⟩ := foldlM_next_to
      (R := fun t' l' => Rel repo t' l' ∧ t'.edits = t.edits ∧ t'.clusters = t.clusters ∧
        t'.occurrences = t.occurrences)
      (f := fun t (m : SplitMove) =>
        appendFailureMembershipTx m.occurrenceId m.targetClusterId .split actor reason now t)
      (g := fun l (m : SplitMove) => l.appendMembership m.occurrenceId m.targetClusterId .split actor reason)
      moves (a := t) (b := l) (fun m hm t' l' h => by
        obtain ⟨hrel, hed, hcl, hoc⟩ := h
        obtain ⟨hocc, htgt⟩ := hall m hm
        obtain ⟨t'', h1, h2, h3, h4, h5⟩ := hrel.append (o := m.occurrenceId) (c := m.targetClusterId)
          (by rw [hoc]; exact hr.member_known hocc) (by rw [hcl]; exact htgt) .split actor reason now
        exact ⟨t'', h1, h2, h3.trans hed, h4.trans hcl, h5.trans hoc⟩) ⟨hr, rfl, rfl, rfl⟩
    refine Or.inr ⟨SortedSet.ofList acc.2, rfl, SortedSet.ofList_congr (fun _ => SortedSet.mem_ofList), hsome, ?_, ?_,
      t₁, hr₁, hed, hcl, ?_⟩
    · intro hnil
      cases moves with
      | nil => cases hmoves
      | cons m ms =>
        have := (hmem m.targetClusterId).2 ⟨m, List.mem_cons_self, rfl⟩
        rw [hnil] at this
        cases this
    · intro k hk
      obtain ⟨m, hm, rfl⟩ := (hmem k).1 hk
      exact (hall m hm).2
    · rw [h₁, ok_bind]

theorem both_split (hr : Rel repo t l) (sha256 : String → String) (source : String) (es : Nat) (moves : List SplitMove)
    {actor : String} (ha : validIdentifier actor = true) (reason : EditReason) (now : Int) :
    let new := ∀ targets, l.splitChecks source es moves = .ok targets →
      t.edits.get (editId sha256 source none .split actor reason targets) = none
    let left := splitFailureCluster sha256 source es moves actor reason now t
    let right := l.split source es moves actor reason
    (new → Both (Rel repo) left right) ∧ (left.isOk = right.isOk → new) := by
  intro new left right
  unfold new left right
  rcases split_steps hr sha256 source es moves ha reason now with
    ⟨e, d, he, hd⟩ | ⟨targets, hok, hsorted, hs, hne, htgt, t₁, hr₁, hed, hcl, hrun⟩
  · have : l.split source es moves actor reason = .error d := by unfold FailureLedger.split; rw [hd]; rfl
    rw [he, this, hd]
    exact ⟨fun _ => trivial, fun _ _ h => by cases h⟩
  · have hmem : ∃ ces, l.split source es moves actor reason = .ok { targets.foldl FailureLedger.bumpCluster
        ((splitMoved l moves actor reason).bumpCluster source) with clusterEdits := ces } := by
      unfold FailureLedger.split
      rw [hok, ok_bind]
      exact ⟨_, rfl⟩
    obtain ⟨ces, hmem⟩ := hmem
    obtain ⟨hdup, hnew⟩ := hr₁.edit sha256 source none .split actor reason targets now
      (by rw [hcl]; exact hs) hne (by rw [hcl]; exact htgt) (by simp)
    rw [hsorted, hed] at hdup hnew
    rw [hok, hrun, hmem]
    cases hkey : t.edits.get (editId sha256 source none .split actor reason targets) with
    | some row =>
      obtain ⟨e, he⟩ := hdup (by simp [hkey])
      rw [he]
      refine ⟨fun h => ?_, fun h => (by cases h)⟩
      have := h targets rfl
      rw [hkey] at this
      cases this
    | none =>
      obtain ⟨u, hu⟩ := hnew hkey
      refine ⟨fun _ => ?_, fun _ targets' h => by cases h; exact hkey⟩
      obtain ⟨t₂, h₂, hr₂, hsome₂⟩ := (hr₁.edits u (splitMoved l moves actor reason).clusterEdits).bump (c := source)
        (by rw [hcl]; exact hs)
      obtain ⟨t₃, h₃, hr₃⟩ := hr₂.bumps targets (fun k hk => by rw [hsome₂]; simp only [hcl]; exact htgt k hk)
      rw [hu, ok_bind, h₂, ok_bind, h₃]
      exact hr₃.edits t₃.edits ces

end Rel

/-! ## Histories -/

inductive Request
  | create (cluster : String)
  | assign (occurrence cluster : String) (expected : Nat) (actor : String) (reason : EditReason)
  | reclassify (occurrence : String) (expected : Nat) (failureClass : FailureClass) (actor : String)
      (reason : EditReason)
  | merge (source : String) (expectedSource : Nat) (target : String) (expectedTarget : Nat) (actor : String)
      (reason : EditReason)
  | split (source : String) (expectedSource : Nat) (moves : List SplitMove) (actor : String) (reason : EditReason)

def Request.actor : Request → Option String
  | .create _             => none
  | .assign _ _ _ a _     => some a
  | .reclassify _ _ _ a _ => some a
  | .merge _ _ _ _ a _    => some a
  | .split _ _ _ a _      => some a

def storeCall (sha256 : String → String) (repo : String) (now : Int) : Request → Tables → Except StoreError Tables
  | .create c           => createFailureCluster repo c now
  | .assign o c v a r   => assignFailureToCluster o c v a r now
  | .reclassify o v k a r => reclassifyFailure o v k a r now
  | .merge s es t et a r  => mergeFailureClusters sha256 s es t et a r now
  | .split s es ms a r    => splitFailureCluster sha256 s es ms a r now

def ledgerCall (l : FailureLedger) : Request → Except LearningError FailureLedger
  | .create c           => l.createCluster c
  | .assign o c v a r   => l.assign o c v a r
  | .reclassify o v k a r => l.reclassify o v k a r
  | .merge s es t et a r  => l.merge s es t et a r
  | .split s es ms a r    => l.split s es ms a r

structure Ledgers where
  store : Tables
  memory : FailureLedger

/-- Both ledgers take a request; one that is refused leaves its ledger as it was. -/
def step (sha256 : String → String) (repo : String) (s : Ledgers) (i : Int × Request) : Ledgers :=
  ⟨(commit (storeCall sha256 repo i.1 i.2) s.store).2,
    match ledgerCall s.memory i.2 with
    | .ok l    => l
    | .error _ => s.memory⟩

/-- The request succeeds on both or on neither, and afterwards every cluster has the same members and version. -/
structure Agree (sha256 : String → String) (repo : String) (s : Ledgers) (i : Int × Request) : Prop where
  outcome : (storeCall sha256 repo i.1 i.2 s.store).isOk = (ledgerCall s.memory i.2).isOk
  members : ∀ c, currentFailureMembers (step sha256 repo s i).store c = (step sha256 repo s i).memory.currentMembers c
  versions : ∀ c, ((step sha256 repo s i).store.clusters.get c).map ClusterRow.version =
    ((step sha256 repo s i).memory.clusters.get c).map FailureCluster.revision

/-- A created cluster is named by a token or refused as empty, and a merge or split that passes the checks of the
ledger is not recorded yet. -/
def Unrepeated (sha256 : String → String) (s : Ledgers) : Request → Prop
  | .create c => c = "" ∨ validIdentifier c = true
  | .merge src es tgt et a r => (s.memory.mergeChecks src es tgt et).isOk = true →
      s.store.edits.get (editId sha256 src (some tgt) .merged a r [tgt]) = none
  | .split src es ms a r => ∀ targets, s.memory.splitChecks src es ms = .ok targets →
      s.store.edits.get (editId sha256 src none .split a r targets) = none
  | _ => True

section Histories
variable (sha256 : String → String) {repo : String}

/-- **A request agrees if it repeats nothing, and has the same outcome only if it does.** -/
theorem both_call {s : Ledgers} {i : Int × Request} (hr : Rel repo s.store s.memory)
    (ha : i.2.actor.all validIdentifier = true) :
    (Unrepeated sha256 s i.2 → Both (Rel repo) (storeCall sha256 repo i.1 i.2 s.store) (ledgerCall s.memory i.2)) ∧
    ((storeCall sha256 repo i.1 i.2 s.store).isOk = (ledgerCall s.memory i.2).isOk → Unrepeated sha256 s i.2) := by
  obtain ⟨now, q⟩ := i
  cases q with
  | create c =>
    refine ⟨both_create hr now, fun h => ?_⟩
    by_cases hv : validIdentifier c = true
    · exact Or.inr hv
    · -- the store refuses the name, so it is one the ledger refuses
      left
      by_contra hne
      have hnone : s.memory.clusters.get c = none := by
        rcases hr.get_cluster c with ⟨-, h2⟩ | ⟨row, k, h1, -⟩
        · exact h2
        · exact absurd (hr.clusterRow c row h1).2 hv
      obtain ⟨u, hu⟩ := Table.insert_isSome (t := s.memory.clusters) (r := ⟨c, 0⟩) hnone
      have hbne : (c != "") = true := by simp [hne]
      rw [Bool.not_eq_true] at hv
      simp only [storeCall, ledgerCall, createFailureCluster, validateFailureIdentifier, hv,
        FailureLedger.createCluster, hbne, hu, okOr, ensure_true, ensure_false, ok_bind, error_bind] at h
      cases h
  | assign o c v a r => exact ⟨fun _ => both_assign hr o c v ha r now, fun _ => trivial⟩
  | reclassify o v k a r => exact ⟨fun _ => both_reclassify hr o v k ha r now, fun _ => trivial⟩
  | merge src es tgt et a r => exact both_merge hr sha256 src es tgt et ha r now
  | split src es ms a r => exact both_split hr sha256 src es ms ha r now

theorem rel_step {s : Ledgers} {i : Int × Request} (hr : Rel repo s.store s.memory)
    (h : Both (Rel repo) (storeCall sha256 repo i.1 i.2 s.store) (ledgerCall s.memory i.2)) :
    Rel repo (step sha256 repo s i).store (step sha256 repo s i).memory := by
  unfold step
  rcases h.cases with ⟨e, d, he, hd⟩ | ⟨t', l', he, hd, hrel⟩
  · rw [commit_error he, hd]; exact hr
  · rw [commit_ok he, hd]; exact hrel

theorem agree_iff {s : Ledgers} {i : Int × Request} (hr : Rel repo s.store s.memory)
    (ha : i.2.actor.all validIdentifier = true) : Unrepeated sha256 s i.2 ↔ Agree sha256 repo s i := by
  obtain ⟨hboth, hout⟩ := both_call sha256 hr ha
  refine ⟨fun h => ?_, fun h => hout h.outcome⟩
  have hrel := rel_step sha256 hr (hboth h)
  exact ⟨(hboth h).isOk, hrel.members, hrel.clusters⟩

end Histories

/-- The two ledgers of a repository with recorded occurrences and no clusters. -/
def recorded (repo : String) (ids : List String) (h : ids.Nodup) : Ledgers where
  store := ⟨[repo], ⟨ids.map (fun id => ⟨id, repo⟩), by simpa [Function.comp_def] using h⟩, Table.empty, Table.empty,
    Table.empty, Table.empty⟩
  memory := ⟨⟨ids.map (fun id => ⟨id, []⟩), by simpa [Function.comp_def] using h⟩, Table.empty, [], []⟩

theorem rel_recorded (repo : String) (ids : List String) (h : ids.Nodup) :
    Rel repo (recorded repo ids h).store (recorded repo ids h).memory := by
  refine ⟨by simp [recorded], fun id => ?_, fun id o ho => ?_, fun id o ho => ?_, fun c hc => (by cases hc),
    fun id => rfl, fun id c hc => (by cases hc), rfl, List.Pairwise.nil, fun m hm => (by cases hm)⟩
  · rw [Bool.eq_iff_iff, Table.get_isSome, Table.get_isSome]
    simp [recorded, Function.comp_def]
  · obtain ⟨k, -, rfl⟩ := List.mem_map.1 (Table.mem_of_get ho)
    rfl
  · obtain ⟨k, -, rfl⟩ := List.mem_map.1 (Table.mem_of_get ho)
    rfl

/-- **The store's ledger agrees with the one in memory along exactly the histories that repeat no edit** and name no
cluster by something other than a token. -/
theorem failure_ledgers_agree (sha256 : String → String) (repo : String) (ids : List String) (h : ids.Nodup)
    (is : List (Int × Request)) (ha : ∀ i ∈ is, i.2.actor.all validIdentifier = true) :
    Along (step sha256 repo) (fun s i => Unrepeated sha256 s i.2) (recorded repo ids h) is ↔
      Along (step sha256 repo) (Agree sha256 repo) (recorded repo ids h) is :=
  along_congr (V := fun i : Int × Request => i.2.actor.all validIdentifier = true)
    (fun s => Rel repo s.store s.memory) (fun _ _ hr hv => agree_iff sha256 hr hv)
    (fun _ _ hr hv hu => rel_step sha256 hr ((both_call sha256 hr hv).1 hu)) (rel_recorded repo ids h) ha

def twoClusters : List (Int × Request) :=
  [(1, .create "a"), (2, .create "b"), (3, .assign "f" "a" 0 "operator" .operatorCorrection)]

/-- `f` is merged into `b`, split back to `a`, and merged again. -/
def mergedTwice : List (Int × Request) :=
  twoClusters ++ [(4, .merge "a" 1 "b" 0 "operator" .duplicateCluster),
    (5, .split "b" 1 [⟨"f", "a", 2⟩] "operator" .distinctFailureMode),
    (6, .merge "a" 3 "b" 2 "operator" .duplicateCluster)]

def editDigest (text : String) : String :=
  if text = "failure.cluster.edit.v1\x00a\x00b\x00merged\x00operator\x00duplicate_cluster\x00[\"b\"]" then
    "c36062e212f56764823a899e6e18e2dfdbf631352fda0a93a4bc2d1407330b73"
  else if text = "failure.cluster.edit.v1\x00b\x00\x00split\x00operator\x00distinct_failure_mode\x00[\"a\"]" then
    "a382b1798581f60d4d3eabbc722c6830b6a6058884302a7973d59815b690b788"
  else ""

theorem failure_ledgers_agree_twoClusters :
    Along (step editDigest "repo") (Agree editDigest "repo") (recorded "repo" ["f"] (by simp)) twoClusters ∧
      (run (step editDigest "repo") (recorded "repo" ["f"] (by simp)) twoClusters).memory.currentMembers "a" = ["f"] :=
  ⟨(failure_ledgers_agree editDigest "repo" ["f"] (by simp) twoClusters (by decide)).1
      ⟨Or.inr (by decide), Or.inr (by decide), trivial, trivial⟩, by decide⟩

/-- **The second merge is refused by the store and accepted in memory.** -/
theorem repeated_merge_refused :
    ¬ Along (step editDigest "repo") (Agree editDigest "repo") (recorded "repo" ["f"] (by simp)) mergedTwice := by
  intro h
  have hlast := ((along_iff _ _ _ _).1 h (mergedTwice.take 5) (6, .merge "a" 3 "b" 2 "operator" .duplicateCluster) []
    rfl).outcome
  have hstore : (storeCall editDigest "repo" 6 (.merge "a" 3 "b" 2 "operator" .duplicateCluster)
      (run (step editDigest "repo") (recorded "repo" ["f"] (by simp)) (mergedTwice.take 5)).store).isOk = false := by
    decide
  have hmemory : (ledgerCall (run (step editDigest "repo") (recorded "repo" ["f"] (by simp)) (mergedTwice.take 5)).memory
      (.merge "a" 3 "b" 2 "operator" .duplicateCluster)).isOk = true := by
    decide
  rw [hstore, hmemory] at hlast
  cases hlast

end Failure
end Bildr
