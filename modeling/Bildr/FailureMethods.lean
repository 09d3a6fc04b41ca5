import Bildr.FailureLedger
import Bildr.Trace
/-!
# FailureMethods — the operations of the ledger, statement by statement

The operations change the ledger they are called on: an error leaves behind whatever was changed before it, and the
lookup of a cluster to count an edit of it panics when the cluster is not there.  `Method` has both.  Every operation
makes its checks before its first change and changes only clusters it has checked, so it answers what the operation of
`FailureLedger` answers, an error changes nothing and none panics (`perform_eq`).
-/
namespace Bildr
namespace Failure

/-- A `&mut self` method: what it returns and the ledger it leaves, or a panic. -/
def Method (α : Type) : Type := FailureLedger → Option (Except LearningError α × FailureLedger)

namespace Method

def bind {α β : Type} (m : Method α) (f : α → Method β) : Method β := fun l =>
  match m l with
  | none                => none
  | some (.error e, l') => some (.error e, l')
  | some (.ok a, l')    => f a l'

instance : Monad Method where
  pure := fun a l => some (.ok a, l)
  bind := bind

def self : Method FailureLedger := fun l => some (.ok l, l)

def modify (f : FailureLedger → FailureLedger) : Method Unit := fun l => some (.ok (), f l)

/-- `?` on a check that changes nothing. -/
def check {α : Type} (x : Except LearningError α) : Method α := fun l => some (x, l)

def expect {α : Type} (o : Option α) : Method α := fun l => o.map (fun a => (.ok a, l))

end Method

namespace FailureLedger

/-! ## The operations -/

def insertOccurrence (l : FailureLedger) (o : FailureOccurrence) : Except LearningError FailureLedger := do
  let occurrences ← okOr (l.occurrences.insert o) (.duplicateOccurrence o.occurrenceId)
  return { l with occurrences := occurrences }

end FailureLedger

namespace Method

open FailureLedger

def appendMembership (occurrence cluster : String) (action : MembershipAction) (actor : String) (reason : EditReason) :
    Method Unit :=
  modify (fun l => l.appendMembership occurrence cluster action actor reason)

def bumpCluster (id : String) : Method Unit := do
  let l ← self
  let _ ← expect (l.clusters.get id)
  modify (fun l => l.bumpCluster id)

/-- `insert` of a map, after the lookup that found nothing. -/
def replaceWith (x : Except LearningError FailureLedger) : Method Unit := do
  let l ← check x
  modify (fun _ => l)

def record (o : FailureOccurrence) : Method Unit := do
  let l ← self
  replaceWith (l.insertOccurrence o)

def createCluster (id : String) : Method Unit := do
  let l ← self
  replaceWith (l.createCluster id)

/-- The occurrence is found, its revision compared, and then the revision is pushed. -/
def reclassify (occurrence : String) (expected : Nat) (failureClass : FailureClass) (actor : String)
    (reason : EditReason) : Method Unit := do
  let l ← self
  let o ← check (okOr (l.occurrences.get occurrence) (.unknownOccurrence occurrence))
  check (ensure (o.revision == expected) (.staleOccurrence occurrence expected o.revision))
  modify (fun l => { l with
    occurrences := l.occurrences.update (fun o => o.occurrenceId == occurrence) (reclassified failureClass actor reason)
      (reclassified_id failureClass actor reason) })

def assign (occurrence cluster : String) (expected : Nat) (actor : String) (reason : EditReason) : Method Unit := do
  let l ← self
  check (l.requireOccurrence occurrence)
  check (ensure (!l.memberships.any (fun m => m.occurrenceId == occurrence)) (.alreadyClustered occurrence))
  check (l.requireClusterRevision cluster expected)
  appendMembership occurrence cluster .assigned actor reason
  bumpCluster cluster

def merge (source : String) (expectedSource : Nat) (target : String) (expectedTarget : Nat) (actor : String)
    (reason : EditReason) : Method Unit := do
  let l ← self
  check (l.mergeChecks source expectedSource target expectedTarget)
  (l.currentMembers source).forM (fun o => appendMembership o target .merged actor reason)
  modify (fun l => { l with clusterEdits := l.clusterEdits ++ [ClusterEdit.merged source target actor reason] })
  bumpCluster source
  bumpCluster target

def split (source : String) (expectedSource : Nat) (moves : List SplitMove) (actor : String) (reason : EditReason) :
    Method Unit := do
  let l ← self
  let targets ← check (l.splitChecks source expectedSource moves)
  moves.forM (fun m => appendMembership m.occurrenceId m.targetClusterId .split actor reason)
  bumpCluster source
  targets.forM bumpCluster
  modify (fun l => { l with clusterEdits := l.clusterEdits ++ [ClusterEdit.split source targets actor reason] })

end Method

inductive LedgerRequest
  | record (o : FailureOccurrence)
  | createCluster (cluster : String)
  | reclassify (occurrence : String) (expected : Nat) (failureClass : FailureClass) (actor : String)
      (reason : EditReason)
  | assign (occurrence cluster : String) (expected : Nat) (actor : String) (reason : EditReason)
  | merge (source : String) (expectedSource : Nat) (target : String) (expectedTarget : Nat) (actor : String)
      (reason : EditReason)
  | split (source : String) (expectedSource : Nat) (moves : List SplitMove) (actor : String) (reason : EditReason)

def perform : LedgerRequest → Method Unit
  | .record o              => Method.record o
  | .createCluster c       => Method.createCluster c
  | .reclassify o v k a r  => Method.reclassify o v k a r
  | .assign o c v a r      => Method.assign o c v a r
  | .merge s es t et a r   => Method.merge s es t et a r
  | .split s es moves a r  => Method.split s es moves a r

def answer (l : FailureLedger) : LedgerRequest → Except LearningError FailureLedger
  | .record o              => l.insertOccurrence o
  | .createCluster c       => l.createCluster c
  | .reclassify o v k a r  => l.reclassify o v k a r
  | .assign o c v a r      => l.assign o c v a r
  | .merge s es t et a r   => l.merge s es t et a r
  | .split s es moves a r  => l.split s es moves a r

/-! ## No call panics, and an error changes nothing -/

def Atomic (m : Method Unit) (l : FailureLedger) (x : Except LearningError FailureLedger) : Prop :=
  m l = some (match x with
    | .ok l'   => (.ok (), l')
    | .error e => (.error e, l))

section Steps
variable {α β : Type} {l : FailureLedger}

theorem bind_check (x : Except LearningError α) (f : α → Method β) :
    (Method.check x >>= f) l = match x with
      | .ok a    => f a l
      | .error e => some (.error e, l) := by
  cases x with
  | ok a => rfl
  | error e => rfl

theorem bind_modify (g : FailureLedger → FailureLedger) (f : Unit → Method β) : (Method.modify g >>= f) l = f () (g l) :=
  rfl

theorem bind_self (f : FailureLedger → Method β) : (Method.self >>= f) l = f l l := rfl

theorem bumpCluster_eq (id : String) (h : (l.clusters.get id).isSome = true) :
    Method.bumpCluster id l = some (.ok (), l.bumpCluster id) := by
  obtain ⟨c, hc⟩ := Option.isSome_iff_exists.1 h
  unfold Method.bumpCluster
  rw [bind_self]
  show Method.bind (Method.expect (l.clusters.get id)) _ l = _
  rw [hc]
  rfl

theorem bind_ok_method {m : Method α} {f : α → Method β} {a : α} {l' : FailureLedger} (h : m l = some (.ok a, l')) :
    (m >>= f) l = f a l' := by
  show Method.bind m f l = _
  unfold Method.bind
  rw [h]

theorem get_bump (l : FailureLedger) (id k : String) :
    ((l.bumpCluster id).clusters.get k).isSome = (l.clusters.get k).isSome := by
  unfold FailureLedger.bumpCluster
  rw [Table.get_update, Option.isSome_map]

theorem forM_eq {f : α → Method Unit} {g : FailureLedger → α → FailureLedger} (P : FailureLedger → Prop) :
    ∀ (as : List α) {l : FailureLedger}, (∀ a ∈ as, ∀ l, P l → f a l = some (.ok (), g l a) ∧ P (g l a)) → P l →
      as.forM f l = some (.ok (), as.foldl g l)
  | [], _, _, _ => rfl
  | a :: as, l, h, hl => by
    obtain ⟨ha, hg⟩ := h a List.mem_cons_self l hl
    have hcons : (a :: as).forM f = f a >>= fun _ => as.forM f := rfl
    rw [hcons, bind_ok_method ha]
    exact forM_eq P as (fun b hb => h b (List.mem_cons_of_mem a hb)) hg

theorem replaceWith_eq (x : Except LearningError FailureLedger) : Atomic (Method.replaceWith x) l x := by
  cases x with
  | ok l' => rfl
  | error e => rfl

theorem reclassify_eq (o : String) (v : Nat) (k : FailureClass) (actor : String) (reason : EditReason) :
    Atomic (Method.reclassify o v k actor reason) l (l.reclassify o v k actor reason) := by
  unfold Atomic Method.reclassify FailureLedger.reclassify
  rw [bind_self, bind_check]
  cases okOr (l.occurrences.get o) (LearningError.unknownOccurrence o) with
  | error e => rfl
  | ok r =>
    simp only [ok_bind]
    rw [bind_check]
    cases ensure (r.revision == v) (LearningError.staleOccurrence o v r.revision) with
    | error e => rfl
    | ok u => rfl

theorem requireClusterRevision_ok {id : String} {v : Nat} (h : l.requireClusterRevision id v = .ok ()) :
    (l.clusters.get id).isSome = true := by
  unfold FailureLedger.requireClusterRevision at h
  obtain ⟨c, hc, -⟩ := bind_ok h
  rw [okOr_ok hc]
  rfl

theorem assign_eq (o c : String) (v : Nat) (actor : String) (reason : EditReason) :
    Atomic (Method.assign o c v actor reason) l (l.assign o c v actor reason) := by
  unfold Atomic Method.assign FailureLedger.assign
  rw [bind_self, bind_check]
  cases l.requireOccurrence o with
  | error e => rfl
  | ok u =>
    simp only [ok_bind]
    rw [bind_check]
    cases ensure (!l.memberships.any (fun m => m.occurrenceId == o)) (LearningError.alreadyClustered o) with
    | error e => rfl
    | ok u =>
      simp only [ok_bind]
      rw [bind_check]
      cases hc : l.requireClusterRevision c v with
      | error e => rfl
      | ok u =>
        show Method.bumpCluster c (l.appendMembership o c .assigned actor reason) = _
        exact bumpCluster_eq c (requireClusterRevision_ok hc)

theorem mergeChecks_known {source target : String} {es et : Nat} (h : l.mergeChecks source es target et = .ok ()) :
    (l.clusters.get source).isSome = true ∧ (l.clusters.get target).isSome = true := by
  unfold FailureLedger.mergeChecks at h
  obtain ⟨u, -, h⟩ := bind_ok h
  obtain ⟨v, hsource, h⟩ := bind_ok h
  exact ⟨requireClusterRevision_ok hsource, requireClusterRevision_ok h⟩

theorem appends_eq {α : Type} (occurrence cluster : α → String) (action : MembershipAction) (actor : String)
    (reason : EditReason) (as : List α) :
    as.forM (fun a => Method.appendMembership (occurrence a) (cluster a) action actor reason) l =
      some (.ok (), as.foldl (fun l a => l.appendMembership (occurrence a) (cluster a) action actor reason) l) :=
  forM_eq (fun _ => True) as (fun _ _ _ _ => ⟨rfl, trivial⟩) trivial

theorem clusters_appends {α : Type} (occurrence cluster : α → String) (action : MembershipAction) (actor : String)
    (reason : EditReason) : ∀ (as : List α) (l : FailureLedger),
    (as.foldl (fun l a => l.appendMembership (occurrence a) (cluster a) action actor reason) l).clusters = l.clusters
  | [], _ => rfl
  | _ :: as, l => by
    rw [List.foldl_cons, clusters_appends occurrence cluster action actor reason as]
    rfl

theorem merge_method (source : String) (es : Nat) (target : String) (et : Nat) (actor : String) (reason : EditReason) :
    Atomic (Method.merge source es target et actor reason) l (l.merge source es target et actor reason) := by
  unfold Atomic Method.merge FailureLedger.merge
  rw [bind_self, bind_check]
  cases hc : l.mergeChecks source es target et with
  | error e => rfl
  | ok u =>
    obtain ⟨hsource, htarget⟩ := mergeChecks_known hc
    simp only [ok_bind, pure_ok]
    rw [bind_ok_method (appends_eq (fun o => o) (fun _ => target) .merged actor reason (l.currentMembers source)),
      bind_modify]
    have hclusters := clusters_appends (fun o => o) (fun _ => target) .merged actor reason (l.currentMembers source) l
    generalize (l.currentMembers source).foldl (fun l o => l.appendMembership o target .merged actor reason) l = moved
      at hclusters
    rw [bind_ok_method (bumpCluster_eq source (by rw [hclusters]; exact hsource))]
    exact bumpCluster_eq target (by rw [get_bump, hclusters]; exact htarget)

theorem splitChecks_known {source : String} {es : Nat} {moves : List SplitMove} {targets : List String}
    (h : l.splitChecks source es moves = .ok targets) :
    (l.clusters.get source).isSome = true ∧ ∀ k ∈ targets, (l.clusters.get k).isSome = true := by
  unfold FailureLedger.splitChecks at h
  obtain ⟨u, hsource, h⟩ := bind_ok h
  obtain ⟨v, -, h⟩ := bind_ok h
  obtain ⟨acc, hacc, h⟩ := bind_ok h
  cases h
  refine ⟨requireClusterRevision_ok hsource, fun k hk => ?_⟩
  have hknown := Trace.foldlM_invariant (fun a : List String × List String => ∀ k ∈ a.2, (l.clusters.get k).isSome = true)
    (fun m _ a a' ha hstep => by
      unfold FailureLedger.checkMove at hstep
      obtain ⟨u, -, hstep⟩ := bind_ok hstep
      obtain ⟨u, -, hstep⟩ := bind_ok hstep
      obtain ⟨u, hrevision, hstep⟩ := bind_ok hstep
      cases hstep
      intro k hk
      rcases List.mem_cons.1 hk with rfl | hk
      · exact requireClusterRevision_ok hrevision
      · exact ha k hk) (fun k hk => by cases hk) hacc
  exact hknown k (SortedSet.mem_ofList.1 hk)

theorem split_method (source : String) (es : Nat) (moves : List SplitMove) (actor : String) (reason : EditReason) :
    Atomic (Method.split source es moves actor reason) l (l.split source es moves actor reason) := by
  unfold Atomic Method.split FailureLedger.split
  rw [bind_self, bind_check]
  cases hc : l.splitChecks source es moves with
  | error e => rfl
  | ok targets =>
    obtain ⟨hsource, htargets⟩ := splitChecks_known hc
    simp only [ok_bind, pure_ok]
    rw [bind_ok_method (appends_eq SplitMove.occurrenceId SplitMove.targetClusterId .split actor reason moves)]
    have hclusters := clusters_appends SplitMove.occurrenceId SplitMove.targetClusterId .split actor reason moves l
    generalize moves.foldl (fun l m => l.appendMembership m.occurrenceId m.targetClusterId .split actor reason) l = moved
      at hclusters
    rw [bind_ok_method (bumpCluster_eq source (by rw [hclusters]; exact hsource))]
    have hbumps : targets.forM Method.bumpCluster (moved.bumpCluster source) =
        some (.ok (), targets.foldl FailureLedger.bumpCluster (moved.bumpCluster source)) := by
      refine forM_eq (fun l' => ∀ k ∈ targets, (l'.clusters.get k).isSome = true) targets (fun k hk l' hl' => ?_)
        (fun k hk => ?_)
      · exact ⟨bumpCluster_eq k (hl' k hk), fun j hj => by rw [get_bump]; exact hl' j hj⟩
      · rw [get_bump, hclusters]
        exact htargets k hk
    rw [bind_ok_method hbumps]
    rfl

theorem perform_eq (r : LedgerRequest) : Atomic (perform r) l (answer l r) := by
  cases r with
  | record o => exact replaceWith_eq (l.insertOccurrence o)
  | createCluster c => exact replaceWith_eq (l.createCluster c)
  | reclassify o v k a r => exact reclassify_eq o v k a r
  | assign o c v a r => exact assign_eq o c v a r
  | merge s es t et a r => exact merge_method s es t et a r
  | split s es moves a r => exact split_method s es moves a r

end Steps

end Failure
end Bildr
