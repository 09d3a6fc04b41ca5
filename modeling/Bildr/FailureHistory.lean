import Bildr.FailureMethods
import Bildr.SortedSet
/-!
# FailureHistory — what every history of the ledger keeps

The last membership of an occurrence names its cluster, so the members of the clusters are apart; a merge appends a
membership for every member of its source and a split one for every occurrence it lists.  A cluster counts the edits that
touch it.
-/
namespace Bildr
namespace Failure

open FailureLedger
open Trace (run)

/-! ## The cluster of an occurrence -/

section Current
variable {log : List MembershipRevision} {o c : String}

theorem currentCluster_snoc (log : List MembershipRevision) (m : MembershipRevision) (o : String) :
    currentCluster (log ++ [m]) o = if m.occurrenceId = o then some m.clusterId else currentCluster log o := by
  unfold currentCluster
  rw [List.foldl_append]
  simp

theorem currentCluster_some (h : currentCluster log o = some c) : ∃ m ∈ log, m.occurrenceId = o ∧ m.clusterId = c := by
  induction log using List.reverseRecOn with
  | nil => cases h
  | append_singleton log m ih =>
    rw [currentCluster_snoc] at h
    by_cases hm : m.occurrenceId = o
    · rw [if_pos hm] at h
      exact ⟨m, by simp, hm, Option.some.inj h⟩
    · rw [if_neg hm] at h
      obtain ⟨q, hq, hqo⟩ := ih h
      exact ⟨q, List.mem_append_left _ hq, hqo⟩

theorem currentCluster_isSome : (currentCluster log o).isSome = true ↔ ∃ m ∈ log, m.occurrenceId = o := by
  constructor
  · intro h
    obtain ⟨c, hc⟩ := Option.isSome_iff_exists.1 h
    obtain ⟨m, hm, hmo, -⟩ := currentCluster_some hc
    exact ⟨m, hm, hmo⟩
  · induction log using List.reverseRecOn with
    | nil =>
      rintro ⟨m, hm, -⟩
      cases hm
    | append_singleton log q ih =>
      rintro ⟨m, hm, hmo⟩
      rw [currentCluster_snoc]
      by_cases hq : q.occurrenceId = o
      · rw [if_pos hq]
        rfl
      · rw [if_neg hq]
        refine ih ⟨m, ?_, hmo⟩
        rcases List.mem_append.1 hm with hm | hm
        · exact hm
        · exact absurd (List.mem_singleton.1 hm ▸ hmo) hq

theorem currentCluster_append_nodup (log : List MembershipRevision) {ms : List MembershipRevision}
    (h : (ms.map MembershipRevision.occurrenceId).Nodup) (m : MembershipRevision) (hm : m ∈ ms) :
    currentCluster (log ++ ms) m.occurrenceId = some m.clusterId := by
  induction ms using List.reverseRecOn with
  | nil => cases hm
  | append_singleton ms q ih =>
    rw [List.map_append, List.map_singleton] at h
    obtain ⟨hms, -, hdisjoint⟩ := List.nodup_append.1 h
    rw [← List.append_assoc, currentCluster_snoc]
    rcases List.mem_append.1 hm with hm | hm
    · have hne : q.occurrenceId ≠ m.occurrenceId :=
        (hdisjoint _ (List.mem_map.2 ⟨m, hm, rfl⟩) _ List.mem_cons_self).symm
      rw [if_neg hne]
      exact ih hms hm
    · rw [List.mem_singleton.1 hm, if_pos rfl]

theorem currentCluster_append_none {ms : List MembershipRevision} (h : ∀ m ∈ ms, m.occurrenceId ≠ o) :
    currentCluster (log ++ ms) o = currentCluster log o := by
  induction ms using List.reverseRecOn with
  | nil => rw [List.append_nil]
  | append_singleton ms q ih =>
    rw [← List.append_assoc, currentCluster_snoc, if_neg (h q (by simp))]
    exact ih (fun m hm => h m (List.mem_append_left _ hm))

theorem mem_currentMembers {l : FailureLedger} : o ∈ l.currentMembers c ↔ currentCluster l.memberships o = some c := by
  unfold currentMembers
  rw [SortedSet.mem_ofList, List.mem_filter, decide_eq_true_eq]
  refine ⟨fun h => h.2, fun h => ⟨?_, h⟩⟩
  obtain ⟨m, hm, hmo, -⟩ := currentCluster_some h
  exact List.mem_map.2 ⟨m, hm, hmo⟩

end Current

/-! ## Memberships appended one after another -/

/-- The memberships are those before and one for each of a list, numbered on. -/
structure Appended {α : Type} (occurrence cluster : α → String) (as : List α) (l l' : FailureLedger)
    (ms : List MembershipRevision) : Prop where
  log : l'.memberships = l.memberships ++ ms
  pairs : ms.map (fun m => (m.occurrenceId, m.clusterId)) = as.map (fun a => (occurrence a, cluster a))
  numbers : ms.map MembershipRevision.revision = List.range' (l.memberships.length + 1) ms.length
  occurrences : l'.occurrences = l.occurrences
  clusters : l'.clusters = l.clusters
  edits : l'.clusterEdits = l.clusterEdits

theorem appended_fold {α : Type} (occurrence cluster : α → String) (action : MembershipAction) (actor : String)
    (reason : EditReason) (as : List α) (l : FailureLedger) :
    ∃ ms, Appended occurrence cluster as l
      (as.foldl (fun l a => l.appendMembership (occurrence a) (cluster a) action actor reason) l) ms := by
  induction as using List.reverseRecOn with
  | nil => exact ⟨[], ⟨(List.append_nil _).symm, rfl, rfl, rfl, rfl, rfl⟩⟩
  | append_singleton as a ih =>
    obtain ⟨ms, h⟩ := ih
    rw [List.foldl_append]
    generalize as.foldl (fun l a => l.appendMembership (occurrence a) (cluster a) action actor reason) l = l' at h
    refine ⟨ms ++ [⟨occurrence a, cluster a, l'.memberships.length + 1, action, actor, reason⟩],
      ⟨?_, ?_, ?_, h.occurrences, h.clusters, h.edits⟩⟩
    · show l'.memberships ++ _ = _
      rw [← List.append_assoc, ← h.log]
    · rw [List.map_append, List.map_append, h.pairs]
      rfl
    · rw [List.map_append, h.numbers, List.length_append, List.length_singleton, List.range'_concat, h.log,
        List.length_append, List.map_singleton, Nat.one_mul]
      congr 2
      show l.memberships.length + ms.length + 1 = l.memberships.length + 1 + ms.length
      omega

section Appended
variable {α : Type} {occurrence cluster : α → String} {as : List α} {l l' : FailureLedger} {ms : List MembershipRevision}

theorem Appended.occ (h : Appended occurrence cluster as l l' ms) :
    ms.map MembershipRevision.occurrenceId = as.map occurrence := by
  have := congrArg (List.map Prod.fst) h.pairs
  rw [List.map_map, List.map_map] at this
  exact this

theorem Appended.mem (h : Appended occurrence cluster as l l' ms) {m : MembershipRevision} (hm : m ∈ ms) :
    ∃ a ∈ as, occurrence a = m.occurrenceId ∧ cluster a = m.clusterId := by
  have hpair : (m.occurrenceId, m.clusterId) ∈ as.map (fun a => (occurrence a, cluster a)) := by
    rw [← h.pairs]
    exact List.mem_map.2 ⟨m, hm, rfl⟩
  obtain ⟨a, ha, heq⟩ := List.mem_map.1 hpair
  simp only [Prod.mk.injEq] at heq
  exact ⟨a, ha, heq.1, heq.2⟩

theorem Appended.current (h : Appended occurrence cluster as l l' ms) (hnodup : (as.map occurrence).Nodup) {a : α}
    (ha : a ∈ as) : currentCluster l'.memberships (occurrence a) = some (cluster a) := by
  have hpair : (occurrence a, cluster a) ∈ ms.map (fun m => (m.occurrenceId, m.clusterId)) := by
    rw [h.pairs]
    exact List.mem_map.2 ⟨a, ha, rfl⟩
  obtain ⟨m, hm, heq⟩ := List.mem_map.1 hpair
  simp only [Prod.mk.injEq] at heq
  have hcurrent := currentCluster_append_nodup l.memberships (by rw [h.occ]; exact hnodup) m hm
  rw [h.log, ← heq.1, ← heq.2]
  exact hcurrent

theorem Appended.other (h : Appended occurrence cluster as l l' ms) {o : String} (ho : ∀ a ∈ as, occurrence a ≠ o) :
    currentCluster l'.memberships o = currentCluster l.memberships o := by
  rw [h.log]
  refine currentCluster_append_none (fun m hm heq => ?_)
  obtain ⟨a, ha, hoa, -⟩ := h.mem hm
  exact ho a ha (hoa.trans heq)

end Appended

/-! ## Revisions of the clusters -/

def revisionOf (l : FailureLedger) (id : String) : Option Nat := (l.clusters.get id).map FailureCluster.revision

theorem revisionOf_bump (l : FailureLedger) (id k : String) :
    revisionOf (l.bumpCluster id) k = if k = id then (revisionOf l k).map (· + 1) else revisionOf l k := by
  unfold revisionOf FailureLedger.bumpCluster
  rw [Table.get_update]
  cases hg : l.clusters.get k with
  | none => simp
  | some c =>
    have hk := Table.key_of_get hg
    by_cases hid : k = id
    · simp [hid, hk, bumped]
    · simp [hid, hk]

theorem revisionOf_bumps : ∀ (ids : List String) (l : FailureLedger) (k : String), ids.Nodup →
    revisionOf (ids.foldl FailureLedger.bumpCluster l) k = if k ∈ ids then (revisionOf l k).map (· + 1) else revisionOf l k
  | [], _, _, _ => by simp
  | id :: ids, l, k, h => by
    rw [List.nodup_cons] at h
    rw [List.foldl_cons, revisionOf_bumps ids _ k h.2, revisionOf_bump]
    by_cases hk : k = id
    · subst hk
      simp [h.1]
    · simp [hk]

theorem bumps_rest : ∀ (ids : List String) (l : FailureLedger),
    (ids.foldl FailureLedger.bumpCluster l).memberships = l.memberships ∧
    (ids.foldl FailureLedger.bumpCluster l).occurrences = l.occurrences ∧
    (ids.foldl FailureLedger.bumpCluster l).clusterEdits = l.clusterEdits
  | [], _ => ⟨rfl, rfl, rfl⟩
  | id :: ids, l => bumps_rest ids (l.bumpCluster id)

/-! ## What an accepted call does -/

def LedgerRequest.touches : LedgerRequest → String → Bool
  | .assign _ cluster _ _ _, k        => cluster == k
  | .merge source _ target _ _ _, k   => source == k || target == k
  | .split source _ moves _ _, k      => source == k || moves.any (fun m => m.targetClusterId == k)
  | _, _                              => false

structure LedgerGrows (l l' : FailureLedger) : Prop where
  log : l.memberships <+: l'.memberships
  edits : l.clusterEdits <+: l'.clusterEdits
  occurrences : ∀ id o, l.occurrences.get id = some o → ∃ o', l'.occurrences.get id = some o' ∧
    o.classificationRevisions <+: o'.classificationRevisions

/-- Every membership is of a recorded occurrence and an existing cluster, and they are numbered from one. -/
structure LedgerKept (l : FailureLedger) : Prop where
  recorded : ∀ m ∈ l.memberships, (l.occurrences.get m.occurrenceId).isSome = true
  known : ∀ m ∈ l.memberships, (l.clusters.get m.clusterId).isSome = true
  numbered : l.memberships.map MembershipRevision.revision = List.range' 1 l.memberships.length

structure Effect (l : FailureLedger) (r : LedgerRequest) (l' : FailureLedger) : Prop where
  grows : LedgerGrows l l'
  kept : LedgerKept l → LedgerKept l'
  touched : ∀ k, r.touches k = true → (revisionOf l k).isSome = true ∧ revisionOf l' k = (revisionOf l k).map (· + 1)
  untouched : ∀ k, r.touches k = false → revisionOf l' k = revisionOf l k ∨ revisionOf l k = none ∧ revisionOf l' k = some 0
  written : ∀ k, r.touches k = true →
    l.memberships.length + l.clusterEdits.length < l'.memberships.length + l'.clusterEdits.length

theorem isSome_revisionOf {l : FailureLedger} {k : String} : (revisionOf l k).isSome = (l.clusters.get k).isSome := by
  unfold revisionOf
  rw [Option.isSome_map]

theorem sameOccurrences {l l' : FailureLedger} (h : l'.occurrences = l.occurrences) (id : String) (o : FailureOccurrence)
    (ho : l.occurrences.get id = some o) : ∃ o', l'.occurrences.get id = some o' ∧
      o.classificationRevisions <+: o'.classificationRevisions := ⟨o, by rw [h]; exact ho, List.prefix_rfl⟩

/-! ## What the checks of a merge and of a split establish -/

section Checks
variable {l : FailureLedger} {source : String}

theorem mergeChecks_ne {target : String} {es et : Nat} (h : l.mergeChecks source es target et = .ok ()) :
    source ≠ target := by
  unfold FailureLedger.mergeChecks at h
  obtain ⟨u, hne, -⟩ := bind_ok h
  exact bne_iff_ne.1 (ensure_ok hne)

theorem passedMoves_ok {members : List String} : ∀ {moves : List SplitMove} {acc acc' : List String × List String},
    moves.foldlM (l.checkMove source members) acc = .ok acc' → acc.1.Nodup →
      acc'.1.Nodup ∧ acc'.1 = (moves.map SplitMove.occurrenceId).reverse ++ acc.1 ∧
      acc'.2 = (moves.map SplitMove.targetClusterId).reverse ++ acc.2 ∧
      ∀ m ∈ moves, m.targetClusterId ≠ source ∧ m.occurrenceId ∈ members
  | [], acc, acc', h, hn => by
    cases h
    exact ⟨hn, rfl, rfl, fun m hm => by cases hm⟩
  | m :: moves, acc, acc', h, hn => by
    rw [List.foldlM_cons] at h
    obtain ⟨next, hnext, h⟩ := bind_ok h
    unfold FailureLedger.checkMove at hnext
    obtain ⟨u, hensured, hnext⟩ := bind_ok hnext
    have hfresh := ensure_ok hensured
    obtain ⟨u, hmember, hnext⟩ := bind_ok hnext
    have hmember := ensure_ok hmember
    obtain ⟨u, -, hnext⟩ := bind_ok hnext
    cases hnext
    simp only [Bool.and_eq_true, bne_iff_ne, Bool.not_eq_true', List.contains_eq_mem, decide_eq_false_iff_not] at hfresh
    obtain ⟨hnodup, hocc, htargets, hmoves⟩ := passedMoves_ok h (List.nodup_cons.2 ⟨hfresh.2, hn⟩)
    refine ⟨hnodup, ?_, ?_, fun q hq => ?_⟩
    · rw [hocc, List.map_cons, List.reverse_cons, List.append_assoc]
      rfl
    · rw [htargets, List.map_cons, List.reverse_cons, List.append_assoc]
      rfl
    · rcases List.mem_cons.1 hq with rfl | hq
      · exact ⟨hfresh.1, by simpa using hmember⟩
      · exact hmoves q hq

/-- The moves of a split are of different members of the source, each to another cluster. -/
structure Moves (l : FailureLedger) (source : String) (moves : List SplitMove) (targets : List String) : Prop where
  nodup : (moves.map SplitMove.occurrenceId).Nodup
  members : ∀ m ∈ moves, m.targetClusterId ≠ source ∧ m.occurrenceId ∈ l.currentMembers source
  nonempty : moves ≠ []
  named : ∀ k, k ∈ targets ↔ ∃ m ∈ moves, m.targetClusterId = k
  distinct : targets.Nodup

theorem splitChecks_moves {es : Nat} {moves : List SplitMove} {targets : List String}
    (h : l.splitChecks source es moves = .ok targets) : Moves l source moves targets := by
  unfold FailureLedger.splitChecks at h
  obtain ⟨u, -, h⟩ := bind_ok h
  obtain ⟨u, hsome, h⟩ := bind_ok h
  have hsome := ensure_ok hsome
  obtain ⟨acc, hacc, h⟩ := bind_ok h
  cases h
  obtain ⟨hnodup, hocc, htargets, hmoves⟩ := passedMoves_ok hacc List.nodup_nil
  refine ⟨?_, hmoves, fun hnil => ?_, fun k => ?_, SortedSet.nodup_ofList _⟩
  · rw [hocc, List.append_nil, List.nodup_reverse] at hnodup
    exact hnodup
  · rw [hnil] at hsome
    cases hsome
  · rw [SortedSet.mem_ofList, htargets]
    simp

end Checks

section Calls
variable {l l' : FailureLedger}

theorem record_effect {o : FailureOccurrence} (h : l.insertOccurrence o = .ok l') : Effect l (.record o) l' := by
  unfold insertOccurrence at h
  obtain ⟨occurrences, hinsert, h⟩ := bind_ok h
  cases h
  have hrows := (Table.insert_some (okOr_ok hinsert)).2
  have hget : ∀ id q, l.occurrences.get id = some q → occurrences.get id = some q :=
    fun id q hq => Table.get_extends (by rw [hrows]; exact List.prefix_append _ _) hq
  refine ⟨⟨List.prefix_rfl, List.prefix_rfl, fun id q hq => ⟨q, hget id q hq, List.prefix_rfl⟩⟩,
    fun hk => ⟨fun m hm => ?_, hk.known, hk.numbered⟩, fun k hk => (by cases hk), fun k _ => Or.inl rfl, fun k hk => (by cases hk)⟩
  obtain ⟨q, hq⟩ := Option.isSome_iff_exists.1 (hk.recorded m hm)
  show (occurrences.get m.occurrenceId).isSome = true
  rw [hget _ q hq]
  rfl

theorem create_effect {id : String} (h : l.createCluster id = .ok l') : Effect l (.createCluster id) l' := by
  unfold createCluster at h
  obtain ⟨u, -, h⟩ := bind_ok h
  obtain ⟨clusters, hinsert, h⟩ := bind_ok h
  cases h
  have hget : ∀ k, clusters.get k = if k = id then some ⟨id, 0⟩ else l.clusters.get k :=
    fun k => Table.get_insert (okOr_ok hinsert) k
  have hfresh : l.clusters.get id = none := (Table.insert_some (okOr_ok hinsert)).1
  refine ⟨⟨List.prefix_rfl, List.prefix_rfl, sameOccurrences rfl⟩, fun hk => ⟨hk.recorded, fun m hm => ?_, hk.numbered⟩,
    fun k hk => (by cases hk), fun k _ => ?_, fun k hk => (by cases hk)⟩
  · show (clusters.get m.clusterId).isSome = true
    rw [hget]
    by_cases heq : m.clusterId = id
    · rw [if_pos heq]
      rfl
    · rw [if_neg heq]
      exact hk.known m hm
  · show (clusters.get k).map FailureCluster.revision = _ ∨ _ ∧ (clusters.get k).map FailureCluster.revision = _
    rw [hget]
    by_cases heq : k = id
    · subst heq
      rw [if_pos rfl]
      exact Or.inr ⟨by unfold revisionOf; rw [hfresh]; rfl, rfl⟩
    · rw [if_neg heq]
      exact Or.inl rfl

theorem reclassify_effect {o : String} {v : Nat} {k : FailureClass} {a : String} {r : EditReason}
    (h : l.reclassify o v k a r = .ok l') : Effect l (.reclassify o v k a r) l' := by
  unfold FailureLedger.reclassify at h
  obtain ⟨q, -, h⟩ := bind_ok h
  obtain ⟨u, -, h⟩ := bind_ok h
  cases h
  refine ⟨⟨List.prefix_rfl, List.prefix_rfl, fun id p hp => ?_⟩, fun hk => ⟨fun m hm => ?_, hk.known, hk.numbered⟩,
    fun k hk => (by cases hk), fun k _ => Or.inl rfl, fun k hk => (by cases hk)⟩
  · refine ⟨if p.occurrenceId == o then reclassified k a r p else p, ?_, ?_⟩
    · rw [Table.get_update, hp]
      rfl
    · split
      · exact List.prefix_append _ _
      · exact List.prefix_rfl
  · rw [Table.get_update, Option.isSome_map]
    exact hk.recorded m hm

theorem LedgerKept.appended {α : Type} {occurrence cluster : α → String} {as : List α} {ms : List MembershipRevision}
    (hk : LedgerKept l) (h : Appended occurrence cluster as l l' ms)
    (hoccurrences : ∀ a ∈ as, (l.occurrences.get (occurrence a)).isSome = true)
    (hclusters : ∀ a ∈ as, (l.clusters.get (cluster a)).isSome = true) : LedgerKept l' := by
  refine ⟨fun m hm => ?_, fun m hm => ?_, ?_⟩
  · rw [h.occurrences]
    rw [h.log, List.mem_append] at hm
    rcases hm with hm | hm
    · exact hk.recorded m hm
    · obtain ⟨a, ha, heq, -⟩ := h.mem hm
      exact heq ▸ hoccurrences a ha
  · rw [h.clusters]
    rw [h.log, List.mem_append] at hm
    rcases hm with hm | hm
    · exact hk.known m hm
    · obtain ⟨a, ha, -, heq⟩ := h.mem hm
      exact heq ▸ hclusters a ha
  · rw [h.log, List.map_append, hk.numbered, h.numbers, List.length_append, Nat.add_comm l.memberships.length 1,
      List.range'_append_1]

theorem LedgerKept.of_same (hk : LedgerKept l) (hlog : l'.memberships = l.memberships)
    (hoccurrences : l'.occurrences = l.occurrences) (hclusters : ∀ k, (l'.clusters.get k).isSome = (l.clusters.get k).isSome) :
    LedgerKept l' := by
  refine ⟨fun m hm => ?_, fun m hm => ?_, ?_⟩
  · rw [hoccurrences]
    exact hk.recorded m (hlog ▸ hm)
  · rw [hclusters]
    exact hk.known m (hlog ▸ hm)
  · rw [hlog]
    exact hk.numbered

theorem LedgerGrows.appended {α : Type} {occurrence cluster : α → String} {as : List α} {ms : List MembershipRevision}
    (h : Appended occurrence cluster as l l' ms) : LedgerGrows l l' :=
  ⟨h.log ▸ List.prefix_append _ _, h.edits ▸ List.prefix_rfl, sameOccurrences h.occurrences⟩

theorem revisionOf_same (h : l'.clusters = l.clusters) (k : String) : revisionOf l' k = revisionOf l k := by
  unfold revisionOf
  rw [h]

theorem requireOccurrence_ok {o : String} (h : l.requireOccurrence o = .ok ()) : (l.occurrences.get o).isSome = true := by
  unfold requireOccurrence at h
  by_contra hn
  simp only [Bool.not_eq_true] at hn
  rw [hn] at h
  cases h

theorem assign_effect {o c : String} {v : Nat} {a : String} {r : EditReason} (h : l.assign o c v a r = .ok l') :
    Effect l (.assign o c v a r) l' := by
  unfold FailureLedger.assign at h
  obtain ⟨u, hrecorded, h⟩ := bind_ok h
  obtain ⟨u, -, h⟩ := bind_ok h
  obtain ⟨u, hrevision, h⟩ := bind_ok h
  cases h
  have hknown := requireClusterRevision_ok hrevision
  obtain ⟨ms, happended⟩ := appended_fold (fun o : String => o) (fun _ => c) .assigned a r [o] l
  generalize hl : [o].foldl (fun l o => l.appendMembership o c .assigned a r) l = moved at happended
  have hmoved : l.appendMembership o c .assigned a r = moved := hl
  rw [hmoved]
  have hgrows := LedgerGrows.appended happended
  have hlength : moved.memberships.length = l.memberships.length + 1 := by
    rw [← hmoved]
    exact List.length_append
  refine ⟨⟨hgrows.log, hgrows.edits, hgrows.occurrences⟩, fun hk => ?_, fun k hk => ?_, fun k hk => Or.inl ?_,
    fun k _ => ?_⟩
  · refine LedgerKept.of_same (hk.appended happended ?_ ?_) rfl rfl (fun k => get_bump moved c k)
    · intro q hq
      rw [List.mem_singleton.1 hq]
      exact requireOccurrence_ok hrecorded
    · intro _ _
      exact hknown
  · have hck : c = k := beq_iff_eq.1 hk
    subst hck
    refine ⟨by rw [isSome_revisionOf]; exact hknown, ?_⟩
    rw [revisionOf_bump, if_pos rfl, revisionOf_same happended.clusters]
  · have hck : k ≠ c := (beq_eq_false_iff_ne.1 hk).symm
    rw [revisionOf_bump, if_neg hck, revisionOf_same happended.clusters]
  · show _ < moved.memberships.length + moved.clusterEdits.length
    rw [happended.edits, hlength]
    omega

theorem merge_effect {source target : String} {es et : Nat} {a : String} {r : EditReason}
    (h : l.merge source es target et a r = .ok l') : Effect l (.merge source es target et a r) l' := by
  unfold FailureLedger.merge at h
  obtain ⟨u, hchecks, h⟩ := bind_ok h
  cases h
  obtain ⟨hsource, htarget⟩ := mergeChecks_known hchecks
  have hne := mergeChecks_ne hchecks
  obtain ⟨ms, happended⟩ := appended_fold (fun o : String => o) (fun _ => target) .merged a r (l.currentMembers source) l
  generalize (l.currentMembers source).foldl (fun l o => l.appendMembership o target .merged a r) l = moved at happended
  have hgrows := LedgerGrows.appended happended
  refine ⟨⟨hgrows.log, hgrows.edits.trans (List.prefix_append _ _), hgrows.occurrences⟩, fun hk => ?_, fun k hk => ?_,
    fun k hk => Or.inl ?_, fun k _ => ?_⟩
  · refine LedgerKept.of_same (hk.appended happended ?_ ?_) rfl rfl (fun k => ?_)
    · intro q hq
      obtain ⟨m, hm, hmq, -⟩ := currentCluster_some (mem_currentMembers.1 hq)
      exact hmq ▸ hk.recorded m hm
    · intro _ _
      exact htarget
    · rw [get_bump, get_bump]
  · rw [revisionOf_bump, revisionOf_bump]
    have hsame : revisionOf { moved with clusterEdits := moved.clusterEdits ++ [ClusterEdit.merged source target a r] } k =
      revisionOf l k := revisionOf_same happended.clusters k
    rw [hsame]
    simp only [LedgerRequest.touches, Bool.or_eq_true, beq_iff_eq] at hk
    rcases hk with rfl | rfl
    · exact ⟨by rw [isSome_revisionOf]; exact hsource, by rw [if_neg hne, if_pos rfl]⟩
    · exact ⟨by rw [isSome_revisionOf]; exact htarget, by rw [if_pos rfl, if_neg (Ne.symm hne)]⟩
  · simp only [LedgerRequest.touches, Bool.or_eq_false_iff, beq_eq_false_iff_ne] at hk
    rw [revisionOf_bump, revisionOf_bump, if_neg (Ne.symm hk.2), if_neg (Ne.symm hk.1)]
    exact revisionOf_same happended.clusters k
  · show _ < moved.memberships.length + (moved.clusterEdits ++ [_]).length
    have hlength := hgrows.log.length_le
    rw [List.length_append, List.length_singleton, happended.edits]
    omega

theorem split_effect {source : String} {es : Nat} {moves : List SplitMove} {a : String} {r : EditReason}
    (h : l.split source es moves a r = .ok l') : Effect l (.split source es moves a r) l' := by
  unfold FailureLedger.split at h
  obtain ⟨targets, hchecks, h⟩ := bind_ok h
  cases h
  obtain ⟨hsource, htargets⟩ := splitChecks_known hchecks
  have hmoves := splitChecks_moves hchecks
  obtain ⟨ms, happended⟩ := appended_fold SplitMove.occurrenceId SplitMove.targetClusterId .split a r moves l
  generalize moves.foldl (fun l m => l.appendMembership m.occurrenceId m.targetClusterId .split a r) l = moved
    at happended
  obtain ⟨hlog, hoccurrences, hedits⟩ := bumps_rest targets (moved.bumpCluster source)
  have hgrows := LedgerGrows.appended happended
  have hrevision : ∀ k, revisionOf (targets.foldl FailureLedger.bumpCluster (moved.bumpCluster source)) k =
      if k ∈ targets then (if k = source then (revisionOf l k).map (· + 1) else revisionOf l k).map (· + 1)
      else if k = source then (revisionOf l k).map (· + 1) else revisionOf l k := by
    intro k
    rw [revisionOf_bumps targets _ k hmoves.distinct, revisionOf_bump, revisionOf_same happended.clusters]
  generalize targets.foldl FailureLedger.bumpCluster (moved.bumpCluster source) = bumped at *
  have hother : source ∉ targets := by
    intro hmem
    obtain ⟨m, hm, heq⟩ := (hmoves.named source).1 hmem
    exact (hmoves.members m hm).1 heq
  refine ⟨⟨?_, ?_, ?_⟩, fun hk => ?_, fun k hk => ?_, fun k hk => Or.inl ?_, fun k _ => ?_⟩
  · exact hlog ▸ hgrows.log
  · exact (hedits ▸ hgrows.edits).trans (List.prefix_append _ _)
  · exact hoccurrences ▸ hgrows.occurrences
  · refine LedgerKept.of_same (hk.appended happended ?_ ?_) hlog hoccurrences (fun k => ?_)
    · intro m hm
      obtain ⟨q, hq, hqm, -⟩ := currentCluster_some (mem_currentMembers.1 (hmoves.members m hm).2)
      exact hqm ▸ hk.recorded q hq
    · intro m hm
      exact htargets m.targetClusterId ((hmoves.named _).2 ⟨m, hm, rfl⟩)
    · rw [← isSome_revisionOf, ← isSome_revisionOf]
      show (revisionOf bumped k).isSome = _
      rw [hrevision, revisionOf_same happended.clusters]
      by_cases hkt : k ∈ targets <;> by_cases hks : k = source <;> simp [hkt, hks, hother]
  · show (revisionOf l k).isSome = true ∧ revisionOf bumped k = _
    rw [hrevision, isSome_revisionOf]
    simp only [LedgerRequest.touches, Bool.or_eq_true, beq_iff_eq, List.any_eq_true] at hk
    rcases hk with rfl | hk
    · exact ⟨hsource, by rw [if_neg hother, if_pos rfl]⟩
    · have hkt := (hmoves.named k).2 hk
      have hks : k ≠ source := fun heq => hother (heq ▸ hkt)
      exact ⟨htargets k hkt, by rw [if_pos hkt, if_neg hks]⟩
  · show revisionOf bumped k = _
    simp only [LedgerRequest.touches, Bool.or_eq_false_iff, beq_eq_false_iff_ne] at hk
    have hkt : k ∉ targets := by
      intro hmem
      obtain ⟨m, hm, heq⟩ := (hmoves.named k).1 hmem
      have hfalse := List.any_eq_false.1 hk.2 m hm
      exact hfalse (beq_iff_eq.2 heq)
    rw [hrevision, if_neg hkt, if_neg (Ne.symm hk.1)]
  · show _ < bumped.memberships.length + (bumped.clusterEdits ++ [_]).length
    have hlength : l.memberships.length ≤ bumped.memberships.length := (hlog ▸ hgrows.log).length_le
    have hkept : l.clusterEdits.length ≤ bumped.clusterEdits.length := (hedits ▸ hgrows.edits).length_le
    rw [List.length_append, List.length_singleton]
    omega

/-- **Every accepted call keeps the log in order and counts at exactly the clusters it touches.** -/
theorem answer_effect {r : LedgerRequest} (h : answer l r = .ok l') : Effect l r l' := by
  cases r with
  | record o => exact record_effect h
  | createCluster c => exact create_effect h
  | reclassify o v k a r => exact reclassify_effect h
  | assign o c v a r => exact assign_effect h
  | merge s es t et a r => exact merge_effect h
  | split s es moves a r => exact split_effect h

end Calls

/-! ## What a merge and a split do to the members -/

section Members
variable {l l' : FailureLedger} {source : String} {es : Nat} {a : String} {r : EditReason}

def clustered (l : FailureLedger) (o : String) : Prop := ∃ m ∈ l.memberships, m.occurrenceId = o

theorem clustered_iff {o : String} : clustered l o ↔ (currentCluster l.memberships o).isSome = true :=
  currentCluster_isSome.symm

theorem merge_current {target : String} {et : Nat} (h : l.merge source es target et a r = .ok l') (o : String) :
    currentCluster l'.memberships o =
      if o ∈ l.currentMembers source then some target else currentCluster l.memberships o := by
  unfold FailureLedger.merge at h
  obtain ⟨u, -, h⟩ := bind_ok h
  cases h
  obtain ⟨ms, happended⟩ := appended_fold (fun o : String => o) (fun _ => target) .merged a r (l.currentMembers source) l
  generalize (l.currentMembers source).foldl (fun l o => l.appendMembership o target .merged a r) l = moved at happended
  show currentCluster moved.memberships o = _
  by_cases ho : o ∈ l.currentMembers source
  · rw [if_pos ho]
    exact happended.current (by rw [List.map_id']; exact SortedSet.nodup_ofList _) ho
  · rw [if_neg ho]
    exact happended.other (fun q hq heq => ho (heq ▸ hq))

theorem split_current {moves : List SplitMove} (h : l.split source es moves a r = .ok l') :
    (∀ m ∈ moves, m.targetClusterId ≠ source ∧ m.occurrenceId ∈ l.currentMembers source ∧
      currentCluster l'.memberships m.occurrenceId = some m.targetClusterId) ∧
    ∀ o, (∀ m ∈ moves, m.occurrenceId ≠ o) → currentCluster l'.memberships o = currentCluster l.memberships o := by
  unfold FailureLedger.split at h
  obtain ⟨targets, hchecks, h⟩ := bind_ok h
  cases h
  have hmoves := splitChecks_moves hchecks
  obtain ⟨ms, happended⟩ := appended_fold SplitMove.occurrenceId SplitMove.targetClusterId .split a r moves l
  generalize moves.foldl (fun l m => l.appendMembership m.occurrenceId m.targetClusterId .split a r) l = moved
    at happended
  show (∀ m ∈ moves, _ ∧ _ ∧ currentCluster (targets.foldl FailureLedger.bumpCluster _).memberships _ = _) ∧
    ∀ o, _ → currentCluster (targets.foldl FailureLedger.bumpCluster _).memberships o = _
  rw [(bumps_rest targets (moved.bumpCluster source)).1]
  refine ⟨fun m hm => ?_, fun o ho => happended.other ho⟩
  have hmember := hmoves.members m hm
  exact ⟨hmember.1, hmember.2, happended.current hmoves.nodup hm⟩

end Members

/-! ## Every history -/

def ledgerStep (l : FailureLedger) (r : LedgerRequest) : FailureLedger :=
  match perform r l with
  | some (_, l') => l'
  | none         => l

def ledgerAfter (rs : List LedgerRequest) : FailureLedger := run ledgerStep ⟨.empty, .empty, [], []⟩ rs

def succeeds (l : FailureLedger) (r : LedgerRequest) : Bool :=
  match perform r l with
  | some (.ok _, _) => true
  | _               => false

def edited (k : String) : FailureLedger → List LedgerRequest → Nat
  | _, []      => 0
  | l, r :: rs => (if succeeds l r && r.touches k then 1 else 0) + edited k (ledgerStep l r) rs

theorem step_answer (l : FailureLedger) (r : LedgerRequest) :
    succeeds l r = true ∧ answer l r = .ok (ledgerStep l r) ∨ succeeds l r = false ∧ ledgerStep l r = l := by
  have h := perform_eq (l := l) r
  unfold Atomic at h
  unfold succeeds ledgerStep
  cases ha : answer l r with
  | ok l' =>
    rw [ha] at h
    rw [h]
    exact Or.inl ⟨rfl, rfl⟩
  | error e =>
    rw [ha] at h
    rw [h]
    exact Or.inr ⟨rfl, rfl⟩

structure LedgerOrder (l : FailureLedger) : Prop where
  kept : LedgerKept l
  bounded : ∀ k, (revisionOf l k).getD 0 ≤ l.memberships.length + l.clusterEdits.length

theorem ledgerStep_order {l : FailureLedger} {r : LedgerRequest} (h : LedgerOrder l) : LedgerOrder (ledgerStep l r) := by
  rcases step_answer l r with ⟨-, ha⟩ | ⟨-, heq⟩
  · have he := answer_effect ha
    refine ⟨he.kept h.kept, fun k => ?_⟩
    have hk := h.bounded k
    have hlog := he.grows.log.length_le
    have hedits := he.grows.edits.length_le
    cases ht : r.touches k with
    | false =>
      rcases he.untouched k ht with heq | ⟨-, heq⟩
      · rw [heq]
        omega
      · rw [heq]
        exact Nat.zero_le _
    | true =>
      have hwritten := he.written k ht
      obtain ⟨hsome, heq⟩ := he.touched k ht
      obtain ⟨v, hv⟩ := Option.isSome_iff_exists.1 hsome
      rw [heq, hv]
      rw [hv] at hk
      simp only [Option.map_some, Option.getD_some] at hk ⊢
      omega
  · rw [heq]
    exact h

theorem ledgerAfter_order (rs : List LedgerRequest) : LedgerOrder (ledgerAfter rs) := by
  refine Trace.invariant_of_step (P := fun _ _ => True) LedgerOrder (fun _ _ h _ => ledgerStep_order h) ?_
    ((Trace.along_iff ledgerStep (fun _ _ => True) _ rs).2 (fun _ _ _ _ => trivial))
  exact ⟨⟨fun m hm => (by cases hm), fun m hm => (by cases hm), rfl⟩, fun k => Nat.le_refl 0⟩

theorem revisionOf_run (k : String) : ∀ (rs : List LedgerRequest) (l : FailureLedger),
    (revisionOf (run ledgerStep l rs) k).getD 0 = (revisionOf l k).getD 0 + edited k l rs
  | [], l => rfl
  | r :: rs, l => by
    rw [Trace.run_cons, revisionOf_run k rs, edited]
    rcases step_answer l r with ⟨hs, ha⟩ | ⟨hs, heq⟩
    · rw [hs, Bool.true_and]
      have he := answer_effect ha
      cases ht : r.touches k with
      | false =>
        rcases he.untouched k ht with heq | ⟨hnone, heq⟩
        · rw [heq]
          simp
        · rw [heq, hnone]
          simp
      | true =>
        obtain ⟨hsome, heq⟩ := he.touched k ht
        obtain ⟨v, hv⟩ := Option.isSome_iff_exists.1 hsome
        rw [heq, hv]
        simp only [Option.map_some, Option.getD_some, if_true]
        omega
    · rw [hs, heq]
      simp

theorem ledgerAfter_snoc (rs : List LedgerRequest) (r : LedgerRequest) :
    ledgerAfter (rs ++ [r]) = ledgerStep (ledgerAfter rs) r := Trace.run_append _ _ _ _

theorem step_grows (l : FailureLedger) (r : LedgerRequest) : LedgerGrows l (ledgerStep l r) := by
  rcases step_answer l r with ⟨-, ha⟩ | ⟨-, heq⟩
  · exact (answer_effect ha).grows
  · rw [heq]
    exact ⟨List.prefix_rfl, List.prefix_rfl, sameOccurrences rfl⟩

/-- The ledger a history leaves: every clustered occurrence is recorded and in one existing cluster, the memberships are
numbered from one, and a cluster's revision is the number of edits that touched it. -/
structure FailureOrder (rs : List LedgerRequest) : Prop where
  member : ∀ o, clustered (ledgerAfter rs) o → ((ledgerAfter rs).occurrences.get o).isSome = true ∧
    ∃ c, ((ledgerAfter rs).clusters.get c).isSome = true ∧ o ∈ (ledgerAfter rs).currentMembers c ∧
      ∀ c', o ∈ (ledgerAfter rs).currentMembers c' → c' = c
  numbered : (ledgerAfter rs).memberships.map MembershipRevision.revision =
    List.range' 1 (ledgerAfter rs).memberships.length
  counted : ∀ k c, (ledgerAfter rs).clusters.get k = some c → c.revision = edited k ⟨.empty, .empty, [], []⟩ rs
  -- the lengths of two vectors, so the `u64` does not wrap
  bounded : ∀ k c, (ledgerAfter rs).clusters.get k = some c →
    c.revision ≤ (ledgerAfter rs).memberships.length + (ledgerAfter rs).clusterEdits.length

/-- One more call: it returns, an error leaves the ledger as it was, and nothing written goes away. -/
structure FailureCall (l : FailureLedger) (r : LedgerRequest) : Prop where
  returned : succeeds l r = true ∧ perform r l = some (.ok (), ledgerStep l r) ∨
    succeeds l r = false ∧ ∃ e, perform r l = some (.error e, l)
  grows : LedgerGrows l (ledgerStep l r)

/-- A merge that succeeds leaves its source empty and its target with the members of both. -/
structure FailureMerge (l : FailureLedger) (source : String) (target : String) (l' : FailureLedger) : Prop where
  emptied : l'.currentMembers source = []
  union : l'.currentMembers target = SortedSet.ofList (l.currentMembers source ++ l.currentMembers target)
  others : ∀ c, c ≠ source → c ≠ target → l'.currentMembers c = l.currentMembers c
  preserved : ∀ o, clustered l' o ↔ clustered l o

/-- A split that succeeds moves the occurrences it lists, each from the source to the cluster it names, and no other. -/
structure FailureSplit (l : FailureLedger) (source : String) (moves : List SplitMove) (l' : FailureLedger) : Prop where
  moved : ∀ m ∈ moves, m.occurrenceId ∈ l.currentMembers source ∧ m.occurrenceId ∉ l'.currentMembers source ∧
    m.occurrenceId ∈ l'.currentMembers m.targetClusterId
  others : ∀ o, (∀ m ∈ moves, m.occurrenceId ≠ o) → ∀ c, o ∈ l'.currentMembers c ↔ o ∈ l.currentMembers c
  preserved : ∀ o, clustered l' o ↔ clustered l o

theorem currentMembers_sorted (l : FailureLedger) (c : String) :
    SortedSet.ofList (l.currentMembers c) = l.currentMembers c := by
  unfold currentMembers
  exact SortedSet.ofList_congr (fun o => SortedSet.mem_ofList)

theorem currentMembers_congr {l l' : FailureLedger} {c c' : String}
    (h : ∀ o, currentCluster l'.memberships o = some c' ↔ currentCluster l.memberships o = some c) :
    l'.currentMembers c' = l.currentMembers c := by
  have hmem : ∀ o, o ∈ l'.currentMembers c' ↔ o ∈ l.currentMembers c := by
    intro o
    rw [mem_currentMembers, mem_currentMembers]
    exact h o
  have hsame := SortedSet.ofList_congr hmem
  rwa [currentMembers_sorted, currentMembers_sorted] at hsame

theorem failureMerge {l l' : FailureLedger} {source target : String} {es et : Nat} {a : String} {r : EditReason}
    (h : l.merge source es target et a r = .ok l') : FailureMerge l source target l' := by
  have hcurrent := merge_current h
  have hne : source ≠ target := by
    unfold FailureLedger.merge at h
    obtain ⟨u, hchecks, -⟩ := bind_ok h
    exact mergeChecks_ne hchecks
  refine ⟨?_, ?_, fun c hs ht => ?_, fun o => ?_⟩
  · rw [List.eq_nil_iff_forall_not_mem]
    intro o ho
    rw [mem_currentMembers, hcurrent] at ho
    by_cases hm : o ∈ l.currentMembers source
    · rw [if_pos hm] at ho
      exact hne (Option.some.inj ho).symm
    · rw [if_neg hm] at ho
      exact hm (mem_currentMembers.2 ho)
  · rw [← currentMembers_sorted]
    refine SortedSet.ofList_congr (fun o => ?_)
    rw [mem_currentMembers, hcurrent, List.mem_append]
    by_cases hm : o ∈ l.currentMembers source
    · rw [if_pos hm]
      simp [hm]
    · rw [if_neg hm, mem_currentMembers (c := target)]
      simp [hm]
  · refine currentMembers_congr (fun o => ?_)
    rw [hcurrent]
    by_cases hm : o ∈ l.currentMembers source
    · rw [if_pos hm, mem_currentMembers.1 hm]
      simp [Ne.symm hs, Ne.symm ht]
    · rw [if_neg hm]
  · rw [clustered_iff, clustered_iff, hcurrent]
    by_cases hm : o ∈ l.currentMembers source
    · rw [if_pos hm, mem_currentMembers.1 hm]
      simp
    · rw [if_neg hm]

theorem failureSplit {l l' : FailureLedger} {source : String} {es : Nat} {moves : List SplitMove} {a : String}
    {r : EditReason} (h : l.split source es moves a r = .ok l') : FailureSplit l source moves l' := by
  obtain ⟨hmoved, hothers⟩ := split_current h
  refine ⟨fun m hm => ?_, fun o ho c => ?_, fun o => ?_⟩
  · obtain ⟨hne, hmember, hcurrent⟩ := hmoved m hm
    refine ⟨hmember, fun hstill => ?_, mem_currentMembers.2 hcurrent⟩
    rw [mem_currentMembers, hcurrent] at hstill
    exact hne (Option.some.inj hstill)
  · rw [mem_currentMembers, mem_currentMembers, hothers o ho]
  · rw [clustered_iff, clustered_iff]
    by_cases hm : ∃ m ∈ moves, m.occurrenceId = o
    · obtain ⟨m, hm, rfl⟩ := hm
      obtain ⟨-, hmember, hcurrent⟩ := hmoved m hm
      rw [hcurrent, mem_currentMembers.1 hmember]
      simp
    · rw [hothers o (fun m hmem heq => hm ⟨m, hmem, heq⟩)]

theorem failureOrder (rs : List LedgerRequest) : FailureOrder rs := by
  have h := ledgerAfter_order rs
  have hrevision : ∀ k c, (ledgerAfter rs).clusters.get k = some c →
      (revisionOf (ledgerAfter rs) k).getD 0 = c.revision := by
    intro k c hc
    unfold revisionOf
    rw [hc]
    rfl
  refine ⟨fun o ho => ?_, h.kept.numbered, fun k c hc => ?_, fun k c hc => ?_⟩
  · obtain ⟨c, hc⟩ := Option.isSome_iff_exists.1 (clustered_iff.1 ho)
    obtain ⟨m, hm, hmo, hmc⟩ := currentCluster_some hc
    refine ⟨hmo ▸ h.kept.recorded m hm, c, hmc ▸ h.kept.known m hm, mem_currentMembers.2 hc, fun c' hc' => ?_⟩
    rw [mem_currentMembers, hc] at hc'
    exact (Option.some.inj hc').symm
  · rw [← hrevision k c hc]
    have hrun := revisionOf_run k rs ⟨.empty, .empty, [], []⟩
    rw [show revisionOf ⟨.empty, .empty, [], []⟩ k = none from rfl, Option.getD_none, Nat.zero_add] at hrun
    exact hrun
  · rw [← hrevision k c hc]
    exact h.bounded k

theorem failureCall (l : FailureLedger) (r : LedgerRequest) : FailureCall l r := by
  refine ⟨?_, step_grows l r⟩
  have h := perform_eq (l := l) r
  unfold Atomic at h
  rcases step_answer l r with ⟨hs, ha⟩ | ⟨hs, heq⟩
  · rw [ha] at h
    exact Or.inl ⟨hs, h⟩
  · cases ha : answer l r with
    | ok l' =>
      rw [ha] at h
      unfold succeeds at hs
      rw [h] at hs
      cases hs
    | error e =>
      rw [ha] at h
      exact Or.inr ⟨hs, e, h⟩

/-- **Every history of calls on the ledger.** -/
theorem failure_ledger (rs : List LedgerRequest) :
    FailureOrder rs ∧ (∀ r, FailureCall (ledgerAfter rs) r) ∧
    (∀ source es target et a why, succeeds (ledgerAfter rs) (.merge source es target et a why) = true →
      FailureMerge (ledgerAfter rs) source target (ledgerAfter (rs ++ [.merge source es target et a why]))) ∧
    ∀ source es moves a why, succeeds (ledgerAfter rs) (.split source es moves a why) = true →
      FailureSplit (ledgerAfter rs) source moves (ledgerAfter (rs ++ [.split source es moves a why])) := by
  refine ⟨failureOrder rs, failureCall (ledgerAfter rs), fun source es target et a why hs => ?_,
    fun source es moves a why hs => ?_⟩
  · rw [ledgerAfter_snoc]
    rcases step_answer (ledgerAfter rs) (.merge source es target et a why) with ⟨-, ha⟩ | ⟨hfalse, -⟩
    · exact failureMerge ha
    · rw [hs] at hfalse
      cases hfalse
  · rw [ledgerAfter_snoc]
    rcases step_answer (ledgerAfter rs) (.split source es moves a why) with ⟨-, ha⟩ | ⟨hfalse, -⟩
    · exact failureSplit ha
    · rw [hs] at hfalse
      cases hfalse

end Failure
end Bildr
