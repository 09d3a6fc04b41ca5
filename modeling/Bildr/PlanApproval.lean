import Bildr.Plan
/-!
# PlanApproval — which plan revisions become approved

`approve_latest_plan` reads the latest revision and later approves it by its id.  In between the revision may have been
superseded, reopened or sent back; the write does not look.  A schedule approves only certified current revisions
exactly when no approval is written to a revision that has left `CERTIFIED` for anything but `APPROVED`
(`only_certified_current_plan_approved`).
-/
namespace Bildr
namespace Plan

open Calls Trace

def Highest (t : Tables) (r : PlanRevision) : Prop :=
  ∀ id q, t.plans.get id = some q → q.runId = r.runId → q.revision ≤ r.revision

def schedulable (s : TaskState) : Prop := s = .ready ∨ s = .waitingDependency

structure OnlyCertified (t t' : Tables) : Prop where
  approved : ∀ id r', t'.plans.get id = some r' → r'.state = .approved →
    ∃ r, t.plans.get id = some r ∧ (r.state = .approved ∨ r.state = .certified ∧ Highest t r)
  notOutdated : ∀ id r r', t.plans.get id = some r → t'.plans.get id = some r' → r.state.underReview = true →
    r'.state = .approved → Highest t r
  tasks : ∀ id k', t'.tasks.get id = some k' → schedulable k'.state →
    (∃ k, t.tasks.get id = some k ∧ schedulable k.state) ∨
      ∃ r', t'.plans.get k'.planRevisionId = some r' ∧ r'.state = .approved

def lapsed (t : Tables) (c : PlanCall) : Bool :=
  match c.phase with
  | .chosen revision _ _ => (t.plans.get revision).any (fun r => r.state != .certified && r.state != .approved)
  | _ => false

def StillCertified (p : Pool Tables PlanCall) (k : Nat) : Prop := (p.call k).any (lapsed p.shared) = false

instance (p : Pool Tables PlanCall) (k : Nat) : Decidable (StillCertified p k) := inferInstanceAs (Decidable (_ = _))

/-! ## The invariant -/

def Phase.reviewing : Phase → Prop
  | .transition _ expected next => expected.underReview = true ∧ next.underReview = true
  | .selected _ expected next   => expected.underReview = true ∧ next.underReview = true
  | _                           => True

/-- Only the newest revision of a run is under review, and every task belongs to a revision. -/
structure TablesInv (t : Tables) : Prop where
  newest : ∀ id r, t.plans.get id = some r → r.state.underReview = true → Highest t r
  owned : ∀ id k, t.tasks.get id = some k → ∃ r, t.plans.get k.planRevisionId = some r

structure Inv (p : Pool Tables PlanCall) : Prop where
  tables : TablesInv p.shared
  calls : ∀ k c, p.call k = some c → c.phase.reviewing

/-! ## What storing a plan does -/

theorem le_maxRevision {rows : List PlanRevision} {r : PlanRevision} (h : r ∈ rows) :
    r.revision ≤ maxRevision rows r.runId :=
  Table.le_maxOf PlanRevision.revision (List.mem_filter.2 ⟨h, by simp⟩)

theorem insertTask_rows {i : StoreInput} {kept tasks : Table TaskRow.id} {ps : List (TaskPacket × Nat)}
    (h : ps.foldlM (insertTask i) kept = .ok tasks) :
    ∀ k ∈ tasks.rows, k ∈ kept.rows ∨ (k.planRevisionId = i.revisionId ∧ k.state = .proposed) := by
  refine foldlM_invariant (fun u : Table TaskRow.id => ∀ k ∈ u.rows, k ∈ kept.rows ∨
    (k.planRevisionId = i.revisionId ∧ k.state = .proposed)) (fun q _ u u' hu hq k hk => ?_)
    (fun k hk => Or.inl hk) h
  obtain ⟨_, -, hq⟩ := bind_ok hq
  rcases (Table.mem_insert (insertRow_ok hq)).1 hk with hk | rfl
  · exact hu k hk
  · exact Or.inr ⟨rfl, rfl⟩

/-- **A stored plan**: the revisions of the run under review are superseded, the new one is the newest, and the tasks
are old ones or proposed ones of the new revision. -/
theorem storePlan_effect (sha256 : RunPlan → String) (i : StoreInput) (t : Tables) :
    (storePlan sha256 i t).2 = t ∨
      (∀ id, (storePlan sha256 i t).2.plans.get id =
        if id = i.revisionId then some (i.row sha256 (maxRevision t.plans.rows i.run + 1))
        else (t.plans.get id).map (fun p => if p.runId == i.run && p.state.underReview then superseded p else p)) ∧
      t.plans.get i.revisionId = none ∧
      ∀ k ∈ (storePlan sha256 i t).2.tasks.rows,
        k ∈ t.tasks.rows ∨ (k.planRevisionId = i.revisionId ∧ k.state = .proposed) := by
  unfold storePlan
  rcases transaction_cases _ t with ⟨e, -, ht⟩ | ⟨a, t', hb, ht⟩
  · rw [ht]; exact Or.inl rfl
  · rw [ht]
    obtain ⟨_, -, hb⟩ := bind_ok hb
    obtain ⟨_, -, hb⟩ := bind_ok hb
    obtain ⟨plans, hp, hb⟩ := bind_ok hb
    obtain ⟨tasks, hk, hb⟩ := bind_ok hb
    obtain ⟨ds, -, hb⟩ := bind_ok hb
    cases hb
    have hget := insertRow_ok hp
    refine Or.inr ⟨fun id => ?_, ?_, fun k hkt => ?_⟩
    · rw [Table.get_insert hget, Table.get_update]
      rfl
    · have := (Table.insert_some hget).1
      rw [Table.get_update, Option.map_eq_none_iff] at this
      exact this
    · rcases insertTask_rows hk k hkt with hk' | hk'
      · exact Or.inl (Table.mem_delete.1 hk').1
      · exact Or.inr hk'

section Step
variable {t : Tables}

theorem highest_of_update {t' : Tables} {f : PlanRevision → PlanRevision}
    (hget : ∀ id, t'.plans.get id = (t.plans.get id).map f)
    (hf : ∀ r, (f r).runId = r.runId ∧ (f r).revision = r.revision)
    {r : PlanRevision} (h : Highest t r) : Highest t' (f r) := by
  intro id q hq hrun
  rw [hget] at hq
  obtain ⟨q₀, hq₀, rfl⟩ := Option.map_eq_some_iff.1 hq
  rw [(hf q₀).1, (hf r).1] at hrun
  rw [(hf q₀).2, (hf r).2]
  exact h id q₀ hq₀ hrun

theorem inv_of_update {t' : Tables} {f : PlanRevision → PlanRevision} (hi : TablesInv t)
    (hget : ∀ id, t'.plans.get id = (t.plans.get id).map f)
    (hf : ∀ r, (f r).runId = r.runId ∧ (f r).revision = r.revision)
    (hr : ∀ r, (f r).state.underReview = true → r.state.underReview = true)
    (hk : ∀ id k', t'.tasks.get id = some k' → ∃ k, t.tasks.get id = some k ∧ k'.planRevisionId = k.planRevisionId) :
    TablesInv t' := by
  refine ⟨fun id r' hr' hrev => ?_, fun id k' hk' => ?_⟩
  · rw [hget] at hr'
    obtain ⟨r, hold, rfl⟩ := Option.map_eq_some_iff.1 hr'
    exact highest_of_update hget hf (hi.newest id r hold (hr r hrev))
  · obtain ⟨k, hkt, hid⟩ := hk id k' hk'
    obtain ⟨r, hr'⟩ := hi.owned id k hkt
    exact ⟨f r, by rw [hid, hget, hr', Option.map_some]⟩

theorem not_approved_of_underReview {s : PlanState} (h : s.underReview = true) : s ≠ .approved := by
  rintro rfl
  cases h

theorem onlyCertified_refl (t : Tables) : OnlyCertified t t := by
  refine ⟨fun id r hr hs => ⟨r, hr, Or.inl hs⟩, fun id r r' hr hr' hrev hs => ?_, fun id k hk hs => Or.inl ⟨k, hk, hs⟩⟩
  rw [hr] at hr'
  cases hr'
  exact absurd hs (not_approved_of_underReview hrev)

theorem superseding_underReview {run : String} {r : PlanRevision}
    (h : (if r.runId == run && r.state.underReview then superseded r else r).state.underReview = true) :
    r.runId ≠ run ∧ r.state.underReview = true ∧
      (if r.runId == run && r.state.underReview then superseded r else r) = r := by
  split at h
  · cases h
  · rename_i hc
    refine ⟨fun hrun => hc ?_, h, if_neg hc⟩
    rw [hrun, beq_self_eq_true, Bool.true_and]
    exact h

theorem inv_storePlan {sha256 : RunPlan → String} {i : StoreInput} (hi : TablesInv t) :
    TablesInv (storePlan sha256 i t).2 ∧ OnlyCertified t (storePlan sha256 i t).2 := by
  rcases storePlan_effect sha256 i t with h | ⟨hget, hnone, htasks⟩
  · rw [h]; exact ⟨hi, onlyCertified_refl t⟩
  · -- a revision afterwards is the new one or an old one, superseded or not
    have hcases : ∀ id q, (storePlan sha256 i t).2.plans.get id = some q →
        (id = i.revisionId ∧ q = i.row sha256 (maxRevision t.plans.rows i.run + 1)) ∨
        ∃ q₀, t.plans.get id = some q₀ ∧
          q = if q₀.runId == i.run && q₀.state.underReview then superseded q₀ else q₀ := by
      intro id q hq
      rw [hget] at hq
      by_cases hid : id = i.revisionId
      · rw [if_pos hid] at hq
        cases hq
        exact Or.inl ⟨hid, rfl⟩
      · rw [if_neg hid] at hq
        obtain ⟨q₀, hq₀, rfl⟩ := Option.map_eq_some_iff.1 hq
        exact Or.inr ⟨q₀, hq₀, rfl⟩
    have hsame : ∀ q₀ : PlanRevision,
        (if q₀.runId == i.run && q₀.state.underReview then superseded q₀ else q₀).runId = q₀.runId ∧
        (if q₀.runId == i.run && q₀.state.underReview then superseded q₀ else q₀).revision = q₀.revision := by
      intro q₀
      split <;> exact ⟨rfl, rfl⟩
    refine ⟨⟨fun id r hr hrev id' q hq hrun => ?_, fun id k hk => ?_⟩, ⟨fun id r' hr' hs => ?_,
      fun id r r' hr hr' hrev hs => ?_, fun id k' hk' hs => ?_⟩⟩
    · rcases hcases id r hr with ⟨-, rfl⟩ | ⟨r₀, hr₀, rfl⟩
      · rcases hcases id' q hq with ⟨-, rfl⟩ | ⟨q₀, hq₀, rfl⟩
        · exact Nat.le_refl _
        · rw [(hsame q₀).1] at hrun
          rw [(hsame q₀).2]
          have := le_maxRevision (Table.mem_of_get hq₀)
          rw [hrun] at this
          exact Nat.le_succ_of_le this
      · obtain ⟨hne, hrev₀, heq⟩ := superseding_underReview hrev
        rw [heq] at hrun ⊢
        rcases hcases id' q hq with ⟨-, rfl⟩ | ⟨q₀, hq₀, rfl⟩
        · exact absurd hrun.symm hne
        · rw [(hsame q₀).1] at hrun
          rw [(hsame q₀).2]
          exact hi.newest id r₀ hr₀ hrev₀ id' q₀ hq₀ hrun
    · have hown : ∃ r, t.plans.get k.planRevisionId = some r ∨ k.planRevisionId = i.revisionId := by
        rcases htasks k (Table.mem_of_get hk) with hk' | hk'
        · obtain ⟨r, hr⟩ := hi.owned k.id k (Table.get_of_mem hk')
          exact ⟨r, Or.inl hr⟩
        · exact ⟨i.row sha256 0, Or.inr hk'.1⟩
      obtain ⟨r, hr⟩ := hown
      rw [hget]
      by_cases hid : k.planRevisionId = i.revisionId
      · exact ⟨_, if_pos hid⟩
      · rw [if_neg hid, hr.resolve_right hid]
        exact ⟨_, rfl⟩
    · rcases hcases id r' hr' with ⟨-, rfl⟩ | ⟨r₀, hr₀, rfl⟩
      · cases hs
      · split at hs
        · cases hs
        · exact ⟨r₀, hr₀, Or.inl hs⟩
    · rcases hcases id r' hr' with ⟨rfl, -⟩ | ⟨r₀, hr₀, rfl⟩
      · rw [hnone] at hr; cases hr
      · rw [hr] at hr₀
        cases hr₀
        split at hs
        · cases hs
        · exact absurd hs (not_approved_of_underReview hrev)
    · rcases htasks k' (Table.mem_of_get hk') with hk₀ | ⟨-, hp⟩
      · have hid : k'.id = id := Table.key_of_get hk'
        exact Or.inl ⟨k', hid ▸ Table.get_of_mem hk₀, hs⟩
      · rw [hp] at hs
        rcases hs with hs | hs <;> cases hs

theorem writeTransition_get (revision : String) (expected next : PlanState) (t : Tables) (id : String) :
    (writeTransition revision expected next t).2.plans.get id = (t.plans.get id).map
      (fun p => if p.id == revision && decide (p.state = expected) then inState next p else p) := by
  unfold writeTransition
  rw [Table.get_update]

theorem inv_writeTransition (revision : String) {expected next : PlanState} (he : expected.underReview = true)
    (hn : next.underReview = true) (hi : TablesInv t) :
    TablesInv (writeTransition revision expected next t).2 ∧
      OnlyCertified t (writeTransition revision expected next t).2 := by
  have hget := writeTransition_get revision expected next t
  refine ⟨inv_of_update hi hget (fun r => ?_) (fun r hr => ?_) (fun id k hk => ⟨k, hk, rfl⟩),
    ⟨fun id r' hr' hs => ?_, fun id r r' hr hr' hrev hs => ?_, fun id k hk hs => Or.inl ⟨k, hk, hs⟩⟩⟩
  · split <;> exact ⟨rfl, rfl⟩
  · split at hr
    · rename_i h
      simp only [Bool.and_eq_true, decide_eq_true_eq] at h
      rw [h.2]
      exact he
    · exact hr
  · rw [hget] at hr'
    obtain ⟨r, hr, rfl⟩ := Option.map_eq_some_iff.1 hr'
    split at hs
    · exact absurd hs (not_approved_of_underReview hn)
    · exact ⟨r, hr, Or.inl hs⟩
  · rw [hget, hr, Option.map_some] at hr'
    cases hr'
    split at hs
    · exact absurd hs (not_approved_of_underReview hn)
    · exact absurd hs (not_approved_of_underReview hrev)

theorem writeApproval_get (revision actor : String) (now : Int) (t : Tables) (id : String) :
    (writeApproval revision actor now t).plans.get id =
      (t.plans.get id).map (fun p => if p.id == revision then approvedPlan actor now p else p) := by
  unfold writeApproval
  rw [Table.get_update]

theorem writeApproval_tasks (revision actor : String) (now : Int) (t : Tables) (id : String) :
    (writeApproval revision actor now t).tasks.get id =
      (t.tasks.get id).map (fun k => if k.planRevisionId == revision then released t now k else k) := by
  unfold writeApproval
  rw [Table.get_update]

theorem inv_writeApproval {revision actor : String} {now : Int} (hi : TablesInv t) :
    TablesInv (writeApproval revision actor now t) := by
  refine inv_of_update hi (writeApproval_get revision actor now t) (fun r => ?_) (fun r hr => ?_) (fun id k' hk' => ?_)
  · split <;> exact ⟨rfl, rfl⟩
  · split at hr
    · cases hr
    · exact hr
  · rw [writeApproval_tasks] at hk'
    obtain ⟨k, hk, rfl⟩ := Option.map_eq_some_iff.1 hk'
    refine ⟨k, hk, ?_⟩
    split <;> rfl

/-- **An approval is written to a certified current revision, or to an approved one**, exactly when the revision has
not left `CERTIFIED` otherwise. -/
theorem onlyCertified_writeApproval {revision actor : String} {now : Int} (hi : TablesInv t) :
    OnlyCertified t (writeApproval revision actor now t) ↔
      ∀ r, t.plans.get revision = some r → r.state = .certified ∨ r.state = .approved := by
  refine ⟨fun h r hr => ?_, fun h => ⟨fun id r' hr' hs => ?_, fun id r r' hr hr' hrev hs => ?_, fun id k' hk' hs => ?_⟩⟩
  · have hid : r.id = revision := Table.key_of_get hr
    obtain ⟨r₀, hr₀, hs⟩ := h.approved revision (approvedPlan actor now r)
      (by rw [writeApproval_get, hr, Option.map_some, if_pos (by simp [hid])]) rfl
    rw [hr] at hr₀
    cases hr₀
    rcases hs with hs | ⟨hs, -⟩
    · exact Or.inr hs
    · exact Or.inl hs
  · rw [writeApproval_get] at hr'
    obtain ⟨r, hr, rfl⟩ := Option.map_eq_some_iff.1 hr'
    refine ⟨r, hr, ?_⟩
    by_cases hid : r.id = revision
    · rcases h r (by rw [← hid, Table.key_of_get hr]; exact hr) with hc | ha
      · exact Or.inr ⟨hc, hi.newest id r hr (by rw [hc]; rfl)⟩
      · exact Or.inl ha
    · rw [if_neg (by simp [hid])] at hs
      exact Or.inl hs
  · exact hi.newest id r hr hrev
  · rw [writeApproval_tasks] at hk'
    obtain ⟨k, hk, rfl⟩ := Option.map_eq_some_iff.1 hk'
    by_cases hid : k.planRevisionId = revision
    · rw [if_pos (by simp [hid])]
      obtain ⟨r, hr⟩ := hi.owned id k hk
      have hrid : r.id = revision := by rw [← hid]; exact Table.key_of_get hr
      refine Or.inr ⟨approvedPlan actor now r, ?_, rfl⟩
      have : (released t now k).planRevisionId = k.planRevisionId := rfl
      rw [this, writeApproval_get, hr, Option.map_some, if_pos (by simp [hrid])]
    · rw [if_neg (by simp [hid])] at hs
      exact Or.inl ⟨k, hk, hs⟩

theorem select_reviewing {run : String} {expected next : PlanState} (he : expected.underReview = true)
    (hn : next.underReview = true) : (select t run expected next).reviewing := by
  unfold select
  cases latestIn t run expected with
  | error e => trivial
  | ok p => exact ⟨he, hn⟩

theorem selectRevision_reviewing {run : String} : (selectRevision t run).reviewing := by
  unfold selectRevision
  cases latestPlan t run with
  | none => trivial
  | some p => cases hs : p.state <;> simp [hs, Phase.reviewing, PlanState.underReview]

/-- **The first lock of a call** keeps the invariant and approves nothing. -/
theorem begin_effect (sha256 : RunPlan → String) (q : Request) (hi : TablesInv t) :
    TablesInv (begin sha256 t q).1 ∧ OnlyCertified t (begin sha256 t q).1 ∧ (begin sha256 t q).2.reviewing := by
  cases q with
  | store i => exact ⟨(inv_storePlan hi).1, (inv_storePlan hi).2, trivial⟩
  | approve run actor now =>
    simp only [begin]
    cases latestIn t run .certified with
    | error e => exact ⟨hi, onlyCertified_refl t, trivial⟩
    | ok p => exact ⟨hi, onlyCertified_refl t, trivial⟩
  | certify run => exact ⟨hi, onlyCertified_refl t, select_reviewing rfl rfl⟩
  | markRevisionRequired run => exact ⟨hi, onlyCertified_refl t, select_reviewing rfl rfl⟩
  | requestRevision run => exact ⟨hi, onlyCertified_refl t, selectRevision_reviewing⟩
  | reopen run => exact ⟨hi, onlyCertified_refl t, select_reviewing rfl rfl⟩

/-- **Every lock** keeps the invariant, and what it does to the tables is right unless it writes a lapsed approval. -/
theorem next_effect (sha256 : RunPlan → String) {c : PlanCall} (hi : TablesInv t) (hc : c.phase.reviewing) :
    TablesInv (next sha256 t c).1 ∧ (next sha256 t c).2.phase.reviewing ∧
      (OnlyCertified t (next sha256 t c).1 ↔ lapsed t c = false) := by
  cases hp : c.phase with
  | start =>
    obtain ⟨h1, h2, h3⟩ := begin_effect sha256 c.request hi
    simp only [next, hp, lapsed]
    exact ⟨h1, h3, fun _ => trivial, fun _ => h2⟩
  | chosen revision actor now =>
    simp only [next, hp, lapsed]
    refine ⟨inv_writeApproval hi, trivial, ?_⟩
    rw [onlyCertified_writeApproval hi]
    cases hr : t.plans.get revision with
    | none => simp
    | some r => cases hs : r.state <;> simp [hs]
  | transition run expected next =>
    rw [hp] at hc
    simp only [Plan.next, hp, lapsed]
    exact ⟨hi, select_reviewing hc.1 hc.2, fun _ => trivial, fun _ => onlyCertified_refl t⟩
  | selected revision expected next =>
    rw [hp] at hc
    obtain ⟨h1, h2⟩ := inv_writeTransition revision hc.1 hc.2 hi
    simp only [Plan.next, hp, lapsed]
    exact ⟨h1, trivial, fun _ => trivial, fun _ => h2⟩
  | done r =>
    simp only [next, hp, lapsed]
    exact ⟨hi, trivial, fun _ => trivial, fun _ => onlyCertified_refl t⟩

end Step

theorem inv_step (sha256 : RunPlan → String) (p : Pool Tables PlanCall) (k : Nat) (hi : Inv p) :
    Inv (step (next sha256) p k) ∧
      (OnlyCertified p.shared (step (next sha256) p k).shared ↔ StillCertified p k) := by
  unfold StillCertified
  cases hc : p.call k with
  | none =>
    rw [step_none hc]
    exact ⟨hi, fun _ => rfl, fun _ => onlyCertified_refl _⟩
  | some c =>
    obtain ⟨ht, hph, hok⟩ := next_effect sha256 hi.tables (hi.calls k c hc)
    rw [step_shared hc]
    refine ⟨⟨by rw [step_shared hc]; exact ht, fun j d hd => ?_⟩, hok⟩
    rcases step_call_cases hc hd with ⟨-, rfl⟩ | ⟨-, hd⟩
    · exact hph
    · exact hi.calls j d hd

def inFlight (runs consumed : List String) (qs : List Request) : Pool Tables PlanCall :=
  ⟨⟨runs, consumed, Table.empty, Table.empty, Table.empty⟩, qs.map (fun q => ⟨q, .start⟩)⟩

theorem inv_inFlight (runs consumed : List String) (qs : List Request) : Inv (inFlight runs consumed qs) := by
  refine ⟨⟨fun id r hr => (by cases hr), fun id k hk => (by cases hk)⟩, fun k c hc => ?_⟩
  simp only [inFlight, Pool.call, List.getElem?_map, Option.map_eq_some_iff] at hc
  obtain ⟨q, -, rfl⟩ := hc
  trivial

/-- **Only certified current plans become approved, along exactly the schedules that write no lapsed approval.** -/
theorem only_certified_current_plan_approved (sha256 : RunPlan → String) (runs consumed : List String)
    (qs : List Request) (ks : List Nat) :
    Along (step (next sha256)) StillCertified (inFlight runs consumed qs) ks ↔
      Along (step (next sha256)) (fun p k => OnlyCertified p.shared (step (next sha256) p k).shared)
        (inFlight runs consumed qs) ks :=
  ⟨along_of_step Inv (fun p k hi _ => (inv_step sha256 p k hi).1) (fun p k hi h => (inv_step sha256 p k hi).2.2 h)
      (inv_inFlight runs consumed qs),
    along_of_step Inv (fun p k hi _ => (inv_step sha256 p k hi).1) (fun p k hi h => (inv_step sha256 p k hi).2.1 h)
      (inv_inFlight runs consumed qs)⟩

/-! ## A superseded plan is approved -/

def planOf (summary : String) : RunPlan := ⟨"run-plan", summary, []⟩

/-- A plan is stored and certified; between the two locks of its approval a second plan is stored. -/
def supersedingCalls : List Request :=
  [.store ⟨"run", "architect", planOf "first", "plan-1", fun _ => "task", 1⟩, .certify "run", .approve "run" "operator" 2,
    .store ⟨"run", "architect", planOf "second", "plan-2", fun _ => "task", 3⟩]

theorem superseded_plan_approved :
    ¬ Along (step (next RunPlan.summary))
      (fun p k => OnlyCertified p.shared (step (next RunPlan.summary) p k).shared)
      (inFlight ["run"] [] supersedingCalls) [0, 1, 1, 2, 3, 2] := by
  intro h
  have hs : ((run (step (next RunPlan.summary)) (inFlight ["run"] [] supersedingCalls) [0, 1, 1, 2, 3]).shared.plans.get
      "plan-1").map PlanRevision.state = some .superseded := by decide
  have ha : ((run (step (next RunPlan.summary)) (inFlight ["run"] [] supersedingCalls)
      [0, 1, 1, 2, 3, 2]).shared.plans.get "plan-1").map PlanRevision.state = some .approved := by decide
  obtain ⟨r, hr, hrs⟩ := Option.map_eq_some_iff.1 hs
  obtain ⟨r', hr', hrs'⟩ := Option.map_eq_some_iff.1 ha
  have hlast := (along_iff _ _ _ _).1 h [0, 1, 1, 2, 3] 2 [] rfl
  obtain ⟨r₀, hr₀, hstate⟩ := hlast.approved "plan-1" r' hr' hrs'
  rw [hr] at hr₀
  cases hr₀
  rw [hrs] at hstate
  rcases hstate with h | ⟨h, -⟩ <;> cases h

end Plan
end Bildr
