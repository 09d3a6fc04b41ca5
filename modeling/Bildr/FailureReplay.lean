import Bildr.FailureProjection
import Bildr.OutcomeSupersession
import Bildr.Texts
/-!
# FailureReplay — when a projection can be repeated

What a lifecycle event or an outcome is projected to never changes, and neither do the runs they belong to
(`Stood.same`).  The terminal class of an attempt does: `set_attempt_result` writes it again, and an attempt that was
projected with another terminal code stops every projection of its run.
-/
namespace Bildr

/-! ## What a call on runs keeps -/

namespace Run

def RunRow.owner (r : RunRow) : String × String := (r.id, r.repositoryId)

/-- What no call on runs takes back: runs stay in their repository, and the journal grows by its next number. -/
structure Keeps (t t' : Tables) : Prop where
  owners : ∃ new, t'.runs.rows.map RunRow.owner = t.runs.rows.map RunRow.owner ++ new ∧
    ∀ p ∈ new, t.repositories.contains p.2 = true
  repositories : t'.repositories = t.repositories
  events : (t'.events, t'.sequence) = (t.events, t.sequence) ∨
    ∃ e : DomainEvent, e.id = t.sequence + 1 ∧ (t'.events, t'.sequence) = (t.events ++ [e], t.sequence + 1)

theorem keeps_refl (t : Tables) : Keeps t t :=
  ⟨⟨[], (List.append_nil _).symm, fun _ h => absurd h List.not_mem_nil⟩, rfl, Or.inl rfl⟩

theorem updateRun_keeps (t : Tables) (id : String) {f : RunRow → RunRow} (hf : ∀ r, (f r).id = r.id)
    (hrepository : ∀ r, (f r).repositoryId = r.repositoryId) : Keeps t (updateRun t id f hf) := by
  refine ⟨⟨[], ?_, fun _ h => absurd h List.not_mem_nil⟩, rfl, Or.inl rfl⟩
  rw [List.append_nil]
  show (t.runs.rows.map _).map RunRow.owner = _
  rw [List.map_map]
  refine List.map_congr_left (fun r _ => ?_)
  show RunRow.owner (if r.id == id then f r else r) = r.owner
  split
  · exact Prod.ext (hf r) (hrepository r)
  · rfl

theorem changeRun_keeps (t : Tables) (id : String) {f : RunRow → RunRow} (hf : ∀ r, (f r).id = r.id)
    (hrepository : ∀ r, (f r).repositoryId = r.repositoryId) : Keeps t (changeRun id f hf t).2 := by
  unfold changeRun
  rcases commit_cases _ t with ⟨e, -, ht⟩ | ⟨t', hb, ht⟩
  · rw [ht]
    exact keeps_refl t
  · rw [ht]
    obtain ⟨_, -, hb⟩ := bind_ok hb
    cases hb
    exact updateRun_keeps t id hf hrepository

theorem createRun_keeps (i : NewRun) (now : Int) (t : Tables) : Keeps t (createRun i now t).2 := by
  have hcommit : (createRun i now t).2 = (commit (insertRun i now) t).2 := andThen_keeps id (fun _ => rfl)
  rw [hcommit]
  rcases commit_cases (insertRun i now) t with ⟨e, -, ht⟩ | ⟨t', hb, ht⟩
  · rw [ht]
    exact keeps_refl t
  · rw [ht]
    unfold insertRun at hb
    obtain ⟨_, hknown, hb⟩ := bind_ok hb
    obtain ⟨u, hu, hb⟩ := bind_ok hb
    cases hb
    refine ⟨⟨[(i.id, i.repositoryId)], ?_, ?_⟩, rfl, Or.inl rfl⟩
    · show u.rows.map RunRow.owner = _
      rw [(insertRow_ok_iff.1 hu).2, List.map_append]
      rfl
    · intro p hp
      obtain rfl := List.mem_singleton.1 hp
      exact require_ok hknown

theorem transitionRun_keeps (id : String) (next : RunState) (phase : String) (expected : Option Nat)
    (failure : Option (String × String)) (now : Int) (t : Tables) :
    Keeps t (transitionRun id next phase expected failure now t).2 := by
  unfold transitionRun
  rcases transaction_cases _ t with ⟨e, -, ht⟩ | ⟨q, t', hb, ht⟩
  · rw [ht]
    exact keeps_refl t
  · rw [ht]
    obtain ⟨current, -, hb⟩ := bind_ok hb
    obtain ⟨_, -, hb⟩ := bind_ok hb
    obtain ⟨_, -, hb⟩ := bind_ok hb
    obtain ⟨_, -, hb⟩ := bind_ok hb
    obtain ⟨_, -, hb⟩ := bind_ok hb
    obtain ⟨updated, -, hb⟩ := bind_ok hb
    cases hb
    refine ⟨⟨[], ?_, fun _ h => absurd h List.not_mem_nil⟩, rfl, Or.inr ⟨_, rfl, rfl⟩⟩
    rw [List.append_nil]
    show (t.runs.rows.map _).map RunRow.owner = _
    rw [List.map_map]
    refine List.map_congr_left (fun r _ => ?_)
    show RunRow.owner (if _ then _ else r) = r.owner
    split <;> rfl

theorem step_keeps (t : Tables) (o : Op) : Keeps t (step t o) := by
  cases o with
  | createRun i now => exact createRun_keeps i now t
  | transitionRun id next phase expected failure now => exact transitionRun_keeps id next phase expected failure now t
  | setSchedulerPaused id paused now =>
    have hchange : step t (.setSchedulerPaused id paused now) = (changeRun id _ (quiet_paused paused now).id t).2 :=
      andThen_keeps (fun u => u) (fun _ => rfl)
    rw [hchange]
    exact changeRun_keeps t id _ (fun _ => rfl)
  | setRunTokenBudgetAndResume id tokenBudget now =>
    have hchange : step t (.setRunTokenBudgetAndResume id tokenBudget now) =
        (changeRun id _ (quiet_budgeted tokenBudget now).id t).2 := andThen_keeps (fun u => u) (fun _ => rfl)
    rw [hchange]
    exact changeRun_keeps t id _ (fun _ => rfl)
  | setRunPinned id pinned now =>
    have hchange : step t (.setRunPinned id pinned now) = (changeRun id _ (quiet_pin pinned now).id t).2 :=
      andThen_keeps (fun u => u) (fun _ => rfl)
    rw [hchange]
    exact changeRun_keeps t id _ (fun _ => rfl)
  | setRunIntegration id branch sha now => exact updateRun_keeps t id _ (fun _ => rfl)
  | clearRunIntegration id now => exact changeRun_keeps t id _ (fun _ => rfl)

end Run

/-! ## What a call on the ledger cites -/

namespace Improvement

theorem insertRevision_cites {t t' : Tables} {r : Revision} (h : insertRevision t r = .ok t') :
    r.sourceDomainEventId.all t.referenced.domainEvents.contains = true := by
  unfold insertRevision at h
  obtain ⟨_, hkeys, -⟩ := bind_ok h
  exact (Bool.and_eq_true_iff.1 (require_ok hkeys)).2

theorem append_cites (w : Wire) (i : NewImprovementRevision) (now : Int) (t : Tables) :
    ∀ r ∈ (appendImprovementRevision w i now t).2.revisions.rows,
      r ∈ t.revisions.rows ∨ r.sourceDomainEventId.all t.referenced.domainEvents.contains = true := by
  unfold appendImprovementRevision
  rcases transaction_cases _ t with ⟨e, -, ht⟩ | ⟨ans, t', hb, ht⟩
  · rw [ht]
    exact fun r hr => Or.inl hr
  · rw [ht]
    obtain ⟨_, -, hb⟩ := bind_ok hb
    cases hk : eventByKey t i.idempotencyKey with
    | some e =>
      rw [hk] at hb
      obtain ⟨a, -, hb⟩ := bind_ok hb
      cases hb
      exact fun r hr => Or.inl hr
    | none =>
      rw [hk] at hb
      unfold appendNew at hb
      obtain ⟨_, -, hb⟩ := bind_ok hb
      obtain ⟨_, -, hb⟩ := bind_ok hb
      obtain ⟨_, -, hb⟩ := bind_ok hb
      obtain ⟨t₁, h₁, hb⟩ := bind_ok hb
      obtain ⟨t₂, h₂, hb⟩ := bind_ok hb
      obtain ⟨_, -, hb⟩ := bind_ok hb
      obtain ⟨_, -, hb⟩ := bind_ok hb
      cases hb
      have hcites := insertRevision_cites h₁
      obtain ⟨u, rfl, hu⟩ := insertRevision_ok h₁
      obtain ⟨v, rfl, -⟩ := insertEvent_ok h₂
      intro r hr
      rcases List.mem_append.1 (hu ▸ hr : r ∈ t.revisions.rows ++ [i.row _ now]) with hr | hr
      · exact Or.inl hr
      · obtain rfl := List.mem_singleton.1 hr
        exact Or.inr hcites

theorem step_cites (w : Wire) (t : Tables) (o : Op) : ∀ r ∈ (step w t o).revisions.rows,
    r ∈ t.revisions.rows ∨ r.sourceDomainEventId.all t.referenced.domainEvents.contains = true := by
  cases o with
  | appendRevision i now => exact append_cites w i now t
  | recordOutcome i now =>
    intro r hr
    rcases record_cases w i now t with ht | ⟨-, -, hw⟩
    · exact Or.inl (ht ▸ hr : r ∈ t.revisions.rows)
    · rcases List.mem_append.1 (hw.revisions ▸ hr) with hr | hr
      · exact Or.inl hr
      · obtain rfl := List.mem_singleton.1 hr
        exact Or.inr rfl

end Improvement

namespace FailureProjection

open Failure (TerminalCode FailureScope MembershipRow scopeCode expectedClass)
open Improvement (Revision LedgerInv CollisionFree readable parseOutcome isSafeOperatorControlIdentifier)
open SortBy (sortBy)

/-! ## Keys of sources -/

theorem sourceText_inj {a b : FailureScope × String} (h : sourceText a = sourceText b) : a = b := by
  obtain ⟨k, id⟩ := a
  obtain ⟨k', id'⟩ := b
  have hplain : ∀ k : FailureScope, Char.ofNat 0 ∉ (scopeCode k).toList := by
    intro k
    cases k <;> decide +kernel
  have hscope : ∀ k k' : FailureScope, (scopeCode k).toList = (scopeCode k').toList → k = k' := by
    intro k k'
    cases k <;> cases k' <;> decide +kernel
  have hlist := congrArg String.toList h
  unfold sourceText at hlist
  rw [String.toList_append, String.toList_append, String.toList_append, String.toList_append, List.append_assoc,
    List.append_assoc] at hlist
  obtain ⟨hkind, hid⟩ := Texts.separator_inj (hplain k) (hplain k') hlist
  exact Prod.ext (hscope k k' hkind) (String.toList_inj.1 hid)

def occurrenceId (w : Wire) (key : FailureScope × String) : String := "failure-" ++ w.sha256 (sourceText key)

theorem occurrenceId_inj {w : Wire} {keys : List (FailureScope × String)}
    (hfree : CollisionFree w.sha256 (keys.map sourceText)) {a b : FailureScope × String} (ha : a ∈ keys) (hb : b ∈ keys)
    (h : occurrenceId w a = occurrenceId w b) : a = b := by
  have hdigest : w.sha256 (sourceText a) = w.sha256 (sourceText b) := by
    have hlist := congrArg String.toList h
    unfold occurrenceId at hlist
    rw [String.toList_append, String.toList_append, List.append_right_inj] at hlist
    exact String.toList_inj.1 hlist
  exact sourceText_inj (hfree _ (List.mem_map.2 ⟨a, ha, rfl⟩) _ (List.mem_map.2 ⟨b, hb, rfl⟩) hdigest)

/-! ## Every occurrence once -/

def isFirst (id : String) (m : MembershipRow) : Bool := m.occurrenceId == id && decide (m.action = .assigned)

/-- Occurrences of different sources, each with one first membership. -/
structure Once (f : Failures) : Prop where
  keys : (f.occurrences.rows.map Occurrence.key).Nodup
  assigned : ∀ o ∈ f.occurrences.rows, f.memberships.rows.countP (isFirst o.id) = 1
  owned : ∀ m ∈ f.memberships.rows, ∃ o ∈ f.occurrences.rows, m.occurrenceId = o.id

theorem Inserted.once {f g : Failures} {o : Occurrence} (h : Inserted f g o) (hf : Once f) : Once g := by
  obtain ⟨m, hm, hid, haction⟩ := h.membership
  have hfree : ∀ q ∈ f.occurrences.rows, q.id ≠ o.id ∧ q.key ≠ o.key := by
    intro q hq
    have hnone := List.any_eq_false.1 h.free q hq
    simpa using hnone
  refine ⟨?_, fun q hq => ?_, fun n hn => ?_⟩
  · rw [h.occurrences, List.map_append, List.map_singleton]
    refine List.nodup_append.2 ⟨hf.keys, List.nodup_singleton _, fun a ha b hb => ?_⟩
    obtain ⟨q, hq, rfl⟩ := List.mem_map.1 ha
    obtain rfl := List.mem_singleton.1 hb
    exact (hfree q hq).2
  · rw [h.occurrences] at hq
    rw [hm, List.countP_append, List.countP_singleton]
    rcases List.mem_append.1 hq with hq | hq
    · have hother : isFirst q.id m = false := by
        unfold isFirst
        rw [hid, beq_false_of_ne (Ne.symm (hfree q hq).1), Bool.false_and]
      rw [hf.assigned q hq, hother]
      rfl
    · obtain rfl := List.mem_singleton.1 hq
      have hnone : f.memberships.rows.countP (isFirst q.id) = 0 := by
        refine List.countP_eq_zero.2 (fun n hn => ?_)
        obtain ⟨q', hq', hn'⟩ := hf.owned n hn
        unfold isFirst
        rw [hn', beq_false_of_ne (hfree q' hq').1, Bool.false_and]
        exact Bool.false_ne_true
      have hthis : isFirst q.id m = true := by
        unfold isFirst
        rw [hid, haction, beq_self_eq_true]
        rfl
      rw [hnone, hthis]
      rfl
  · rw [hm] at hn
    rw [h.occurrences]
    rcases List.mem_append.1 hn with hn | hn
    · obtain ⟨q, hq, hnq⟩ := hf.owned n hn
      exact ⟨q, List.mem_append_left _ hq, hnq⟩
    · obtain rfl := List.mem_singleton.1 hn
      exact ⟨o, List.mem_append_right _ List.mem_cons_self, hid⟩

/-! ## A list of sources -/

section Fold
variable {w : Wire} {runs : Run.Tables} {repository : String} {now : Int}

structure Projected (w : Wire) (repository : String) (now : Int) (sources : List Source) (p q : Projecting) : Prop where
  once : Once p.failures → Once q.failures
  counted : q.inserted + q.alreadyProjected = p.inserted + p.alreadyProjected + sources.length
  kept : ∀ o ∈ p.failures.occurrences.rows, o ∈ q.failures.occurrences.rows
  agreed : ∀ s ∈ sources, ∃ o ∈ q.failures.occurrences.rows, o.agrees (s.occurrence w repository now) = true
  new : ∀ o ∈ q.failures.occurrences.rows,
    o ∈ p.failures.occurrences.rows ∨ ∃ s ∈ sources, o = s.occurrence w repository now

theorem agrees_self (o : Occurrence) : o.agrees o = true := by
  unfold Occurrence.agrees
  simp

theorem project_projected {p q : Projecting} {s : Source} (h : project w runs repository now p s = .ok q) :
    Projected w repository now [s] p q := by
  rcases (project_cases h).2 with ⟨hinserted, hcount, hthere⟩ | ⟨hsame, ⟨o, ho, hagrees⟩, hcount, hthere⟩
  · have hmem : s.occurrence w repository now ∈ q.failures.occurrences.rows := by
      rw [hinserted.occurrences]
      exact List.mem_append_right _ List.mem_cons_self
    refine ⟨hinserted.once, by rw [hcount, hthere, List.length_singleton]; omega, fun o ho => ?_, fun s' hs' => ?_,
      fun o ho => ?_⟩
    · rw [hinserted.occurrences]
      exact List.mem_append_left _ ho
    · obtain rfl := List.mem_singleton.1 hs'
      exact ⟨_, hmem, agrees_self _⟩
    · rw [hinserted.occurrences] at ho
      rcases List.mem_append.1 ho with ho | ho
      · exact Or.inl ho
      · exact Or.inr ⟨s, List.mem_cons_self, List.mem_singleton.1 ho⟩
  · refine ⟨fun hp => by rw [hsame]; exact hp, by rw [hcount, hthere, List.length_singleton]; omega,
      fun o ho => by rw [hsame]; exact ho, fun s' hs' => ?_, fun o ho => by rw [hsame] at ho; exact Or.inl ho⟩
    obtain rfl := List.mem_singleton.1 hs'
    rw [hsame]
    exact ⟨o, ho, hagrees⟩

theorem foldProject_projected : ∀ {sources : List Source} {p q : Projecting},
    sources.foldlM (project w runs repository now) p = .ok q → Projected w repository now sources p q
  | [], p, q, h => by
    obtain rfl := Except.ok.inj h
    exact ⟨fun h => h, rfl, fun o ho => ho, fun s hs => absurd hs List.not_mem_nil, fun o ho => Or.inl ho⟩
  | s :: sources, p, q, h => by
    rw [List.foldlM_cons] at h
    obtain ⟨p₁, h₁, h⟩ := bind_ok h
    have hfirst := project_projected h₁
    have hrest := foldProject_projected h
    refine ⟨fun hp => hrest.once (hfirst.once hp), ?_, fun o ho => hrest.kept o (hfirst.kept o ho), fun s' hs' => ?_,
      fun o ho => ?_⟩
    · have hcounted := hfirst.counted
      rw [List.length_singleton] at hcounted
      rw [hrest.counted, hcounted, List.length_cons]
      omega
    · rcases List.mem_cons.1 hs' with rfl | hs'
      · obtain ⟨o, ho, hagrees⟩ := hfirst.agreed s' List.mem_cons_self
        exact ⟨o, hrest.kept o ho, hagrees⟩
      · exact hrest.agreed s' hs'
    · rcases hrest.new o ho with ho | ⟨s', hs', rfl⟩
      · rcases hfirst.new o ho with ho | ⟨s', hs', rfl⟩
        · exact Or.inl ho
        · obtain rfl := List.mem_singleton.1 hs'
          exact Or.inr ⟨s', List.mem_cons_self, rfl⟩
      · exact Or.inr ⟨s', List.mem_cons_of_mem s hs', rfl⟩

/-- What a list of sources needs of the occurrences that are there. -/
structure Projectable (w : Wire) (runs : Run.Tables) (repository : String) (sources : List Source) (f : Failures) :
    Prop where
  safe : ∀ s ∈ sources, isSafeOperatorControlIdentifier s.id = true
  known : runs.repositories.contains repository = true
  cites : ∀ s ∈ sources, Cites runs s
  distinct : (sources.map Source.key).Nodup
  once : Once f
  named : ∀ o ∈ f.occurrences.rows, o.id = occurrenceId w o.key
  free : CollisionFree w.sha256 ((f.occurrences.rows.map Occurrence.key ++ sources.map Source.key).map sourceText)

theorem Projectable.tail {s : Source} {sources : List Source} {p q : Projecting}
    (h : Projectable w runs repository (s :: sources) p.failures) (hq : project w runs repository now p s = .ok q) :
    Projectable w runs repository sources q.failures := by
  have hprojected := project_projected hq
  have hkeys : q.failures.occurrences.rows.map Occurrence.key ++ sources.map Source.key ⊆
      p.failures.occurrences.rows.map Occurrence.key ++ (s :: sources).map Source.key := by
    intro k hk
    rcases List.mem_append.1 hk with hk | hk
    · obtain ⟨o, ho, rfl⟩ := List.mem_map.1 hk
      rcases hprojected.new o ho with ho | ⟨s', hs', rfl⟩
      · exact List.mem_append_left _ (List.mem_map.2 ⟨o, ho, rfl⟩)
      · obtain rfl := List.mem_singleton.1 hs'
        exact List.mem_append_right _ List.mem_cons_self
    · exact List.mem_append_right _ (List.mem_cons_of_mem _ hk)
  refine ⟨fun s' hs' => h.safe s' (List.mem_cons_of_mem s hs'), h.known, fun s' hs' => h.cites s' (List.mem_cons_of_mem s hs'),
    (List.nodup_cons.1 h.distinct).2, hprojected.once h.once, fun o ho => ?_, fun a ha b hb hab =>
      h.free a (List.map_subset _ hkeys ha) b (List.map_subset _ hkeys hb) hab⟩
  rcases hprojected.new o ho with ho | ⟨s', hs', rfl⟩
  · exact h.named o ho
  · rfl

theorem project_isOk {s : Source} {sources : List Source} {p : Projecting}
    (h : Projectable w runs repository (s :: sources) p.failures) :
    (∃ q, project w runs repository now p s = .ok q) ↔
      ∀ o ∈ p.failures.occurrences.rows, o.key = s.key → o.agrees (s.occurrence w repository now) = true := by
  refine project_isOk_iff (h.safe s List.mem_cons_self) h.known (h.cites s List.mem_cons_self) (fun o ho hid => ?_)
    h.once.keys
  have hid' : occurrenceId w o.key = occurrenceId w s.key := by rw [← h.named o ho, hid]; rfl
  exact occurrenceId_inj h.free (List.mem_append_left _ (List.mem_map.2 ⟨o, ho, rfl⟩))
    (List.mem_append_right _ List.mem_cons_self) hid'

/-- **When a list of sources can be projected**: every occurrence of one of them agrees with it. -/
theorem foldProject_isOk_iff : ∀ {sources : List Source} {p : Projecting},
    Projectable w runs repository sources p.failures →
      ((∃ q, sources.foldlM (project w runs repository now) p = .ok q) ↔
        ∀ s ∈ sources, ∀ o ∈ p.failures.occurrences.rows, o.key = s.key →
          o.agrees (s.occurrence w repository now) = true)
  | [], p, _ => ⟨fun _ s hs => absurd hs List.not_mem_nil, fun _ => ⟨p, rfl⟩⟩
  | s :: sources, p, h => by
    constructor
    · rintro ⟨q, hq⟩
      rw [List.foldlM_cons] at hq
      obtain ⟨p₁, h₁, hq⟩ := bind_ok hq
      intro s' hs'
      rcases List.mem_cons.1 hs' with rfl | hs'
      · exact (project_isOk h).1 ⟨p₁, h₁⟩
      · exact fun o ho => (foldProject_isOk_iff (h.tail h₁)).1 ⟨q, hq⟩ s' hs' o ((project_projected h₁).kept o ho)
    · intro hagree
      obtain ⟨p₁, h₁⟩ := (project_isOk h).2 (hagree s List.mem_cons_self)
      obtain ⟨q, hq⟩ := (foldProject_isOk_iff (h.tail h₁)).2 (fun s' hs' o ho hkey => by
        rcases (project_projected h₁).new o ho with ho | ⟨s'', hs'', rfl⟩
        · exact hagree s' (List.mem_cons_of_mem s hs') o ho hkey
        · -- another source does not have this key
          obtain rfl := List.mem_singleton.1 hs''
          exact absurd (List.mem_map.2 ⟨s', hs', hkey.symm⟩) (List.nodup_cons.1 h.distinct).1)
      refine ⟨q, ?_⟩
      rw [List.foldlM_cons, h₁]
      exact hq

end Fold

end FailureProjection
end Bildr
