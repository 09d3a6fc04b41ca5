import Bildr.TraceRelations
/-!
# TraceRepresentatives — the receipt a group goes by

A group's candidate carries the scope, the order and the kind of the latest of its receipts.  The candidates of the
groups are the images of these representatives (`groups_eq`), and an event is in the node of the representative of its
group and in no other (`builtFrom_iff`).
-/
namespace Bildr
namespace TraceDag

open SortBy (sortBy)

/-! ## The latest receipt -/

section Latest
variable {h : Hashes} {events : List RawEventReceipt} {e : RawEventReceipt} {key : GroupKey}

theorem maxByKey_max {α κ : Type} [LinearOrder κ] {key : α → κ} {l : List α} {a : α} (hmax : maxByKey key l = some a) :
    ∀ b ∈ l, key b ≤ key a := by
  have hfold : ∀ (l : List α) (best : Option α),
      l.foldl (fun best a => some (best.elim a (fun b => if key b ≤ key a then a else b))) best = some a →
      (∀ b ∈ best, key b ≤ key a) ∧ ∀ b ∈ l, key b ≤ key a := by
    intro l
    induction l with
    | nil =>
      intro best hbest
      refine ⟨fun b hb => ?_, fun b hb => (by cases hb)⟩
      obtain rfl := Option.some.inj ((Option.mem_def.1 hb).symm.trans hbest)
      exact le_refl _
    | cons x l ih =>
      intro best hbest
      rw [List.foldl_cons] at hbest
      obtain ⟨hnow, hrest⟩ := ih _ hbest
      cases best with
      | none =>
        refine ⟨fun b hb => (by cases hb), fun b hb => ?_⟩
        rcases List.mem_cons.1 hb with rfl | hb
        · exact hnow b rfl
        · exact hrest b hb
      | some c =>
        -- the better of the two is not better than the result
        have hboth : key c ≤ key a ∧ key x ≤ key a := by
          by_cases hle : key c ≤ key x
          · have hx := hnow x (by rw [Option.elim_some, if_pos hle]; rfl)
            exact ⟨le_trans hle hx, hx⟩
          · have hc := hnow c (by rw [Option.elim_some, if_neg hle]; rfl)
            exact ⟨hc, le_trans (le_of_lt (not_le.1 hle)) hc⟩
        refine ⟨fun b hb => Option.some.inj hb ▸ hboth.1, fun b hb => ?_⟩
        rcases List.mem_cons.1 hb with rfl | hb
        · exact hboth.2
        · exact hrest b hb
  exact (hfold l none hmax).2

def Latest (events : List RawEventReceipt) (e : RawEventReceipt) : Prop :=
  ∀ d ∈ events, d.groupKey = e.groupKey → latestKey d ≤ latestKey e

structure Represents (events : List RawEventReceipt) (scope : String) (e : RawEventReceipt) : Prop where
  given : e ∈ events
  inScope : e.executionScopeId = some scope
  latest : Latest events e

def representative (events : List RawEventReceipt) (key : GroupKey) : Option RawEventReceipt :=
  maxByKey latestKey (orderGroup (groupMembers events key))

def representatives (events : List RawEventReceipt) : List RawEventReceipt :=
  (groupKeys events).filterMap (representative events)

theorem representative_some (hmax : representative events key = some e) :
    e ∈ events ∧ e.groupKey = some key ∧ Latest events e := by
  have hne : orderGroup (groupMembers events key) ≠ [] := by
    intro hnil
    unfold representative at hmax
    rw [hnil] at hmax
    cases hmax
  obtain ⟨a, ha, hmax'⟩ := maxByKey_mem latestKey hne
  obtain rfl := Option.some.inj (hmax.symm.trans hmax')
  obtain ⟨hin, hkey⟩ := mem_groupMembers.1 (mem_orderGroup.1 ha)
  refine ⟨hin, hkey, fun d hd hsame => ?_⟩
  exact maxByKey_max hmax d (mem_orderGroup.2 (mem_groupMembers.2 ⟨hd, hsame.trans hkey⟩))

theorem latestKey_inj (hids : (events.map RawEventReceipt.id).Nodup) {d : RawEventReceipt} (hd : d ∈ events) (he : e ∈ events)
    (heq : latestKey d = latestKey e) : d = e := by
  have horder := (Prod.mk.inj heq).2
  have hreceipt := (Prod.mk.inj horder).2
  exact List.inj_on_of_nodup_map hids hd he (Prod.mk.inj hreceipt).2

theorem representative_of_latest (hids : (events.map RawEventReceipt.id).Nodup) (he : e ∈ events)
    (hkey : e.groupKey = some key) (hlatest : Latest events e) : representative events key = some e := by
  have hmember : e ∈ orderGroup (groupMembers events key) := mem_orderGroup.2 (mem_groupMembers.2 ⟨he, hkey⟩)
  obtain ⟨a, -, hmax⟩ := maxByKey_mem latestKey (List.ne_nil_of_mem hmember)
  obtain ⟨ha, hakey, halatest⟩ := representative_some hmax
  have hsame : latestKey e = latestKey a :=
    le_antisymm (halatest e he (hkey.trans hakey.symm)) (hlatest a ha (hakey.trans hkey.symm))
  rw [latestKey_inj hids he ha hsame]
  exact hmax

theorem mem_representatives (hids : (events.map RawEventReceipt.id).Nodup) :
    e ∈ representatives events ↔ e ∈ events ∧ (∃ key, e.groupKey = some key) ∧ Latest events e := by
  unfold representatives
  rw [List.mem_filterMap]
  constructor
  · rintro ⟨key, -, hmax⟩
    obtain ⟨he, hkey, hlatest⟩ := representative_some hmax
    exact ⟨he, ⟨key, hkey⟩, hlatest⟩
  · rintro ⟨he, ⟨key, hkey⟩, hlatest⟩
    exact ⟨key, mem_groupKeys.2 ⟨e, he, hkey⟩, representative_of_latest hids he hkey hlatest⟩

theorem nodup_representatives (events : List RawEventReceipt) : (representatives events).Nodup := by
  unfold representatives
  refine (SortedSet.nodup_ofList _).filterMap (fun key key' e he he' => ?_)
  have hkey := (representative_some he).2.1
  have hkey' := (representative_some he').2.1
  exact Option.some.inj (hkey.symm.trans hkey')

/-! ## Candidates -/

def candidateOf (h : Hashes) (events : List RawEventReceipt) (e : RawEventReceipt) : Candidate :=
  ⟨e.groupKey.elim "" (GroupKey.text h),
    rawNode h (orderGroup (events.filter (fun d => decide (d.groupKey = e.groupKey)))) e, e.executionScopeId, eventOrder e⟩

theorem GroupCandidate.eq {c : Candidate} (hc : GroupCandidate h events key c) :
    ∃ e, representative events key = some e ∧ c = candidateOf h events e := by
  obtain ⟨e, he, hmax, rfl⟩ := hc
  refine ⟨e, hmax, ?_⟩
  unfold candidateOf groupMembers
  rw [(mem_groupMembers.1 he).2]
  rfl

/-- **The candidates of the groups are those of their representatives.** -/
theorem groups_eq {keys : List GroupKey} {groups : List Candidate}
    (hgroups : List.Forall₂ (GroupCandidate h events) keys groups) :
    groups = (keys.filterMap (representative events)).map (candidateOf h events) := by
  induction hgroups with
  | nil => rfl
  | cons hc hrest ih =>
    obtain ⟨e, hmax, rfl⟩ := hc.eq
    rw [List.filterMap_cons_some hmax, List.map_cons, ← ih]

end Latest

/-! ## Nodes -/

section Nodes
variable {h : Hashes} {i : TraceInput} {m : TraceManifest} {groups : List Candidate} {explicit : List TraceEdge}
  {found : List TraceBranch} {truncated : Bool} {d e : RawEventReceipt} {scope : String}

def TraceInput.events (i : TraceInput) : List RawEventReceipt := (orderEvents i.rawEvents).1

theorem mem_events : e ∈ i.events ↔ e ∈ i.rawEvents := (orderEvents_perm i.rawEvents).mem_iff

theorem Received.eventIds (hr : Received h i) : (i.events.map RawEventReceipt.id).Nodup :=
  ((orderEvents_perm i.rawEvents).map _).nodup_iff.2 hr.rawIds

theorem latest_events : Latest i.events e ↔ Latest i.rawEvents e := by
  unfold Latest
  simp only [mem_events]

def scopeRepresentatives (i : TraceInput) (scope : String) : List RawEventReceipt :=
  (representatives i.events).filter (TraceDag.inScope scope)

theorem mem_scopeRepresentatives (hr : Received h i) : e ∈ scopeRepresentatives i scope ↔ Represents i.rawEvents scope e := by
  unfold scopeRepresentatives TraceDag.inScope
  rw [List.mem_filter, mem_representatives hr.eventIds, mem_events, latest_events, beq_iff_eq]
  constructor
  · rintro ⟨⟨he, -, hlatest⟩, hscope⟩
    exact ⟨he, hscope, hlatest⟩
  · rintro ⟨he, hscope, hlatest⟩
    exact ⟨⟨he, (hr.raw e he).groupKey, hlatest⟩, hscope⟩

theorem Represents.representative (hr : Received h i) (hrep : Represents i.rawEvents scope e) :
    e ∈ representatives i.events :=
  (mem_representatives hr.eventIds).2 ⟨mem_events.2 hrep.given, (hr.raw e hrep.given).groupKey, latest_events.2 hrep.latest⟩

theorem candidateOf_mem (hp : Projected h i groups explicit found truncated m) (he : e ∈ representatives i.events) :
    candidateOf h i.events e ∈ allCandidates h i groups := by
  refine (perm_allCandidates h i groups).mem_iff.2 (List.mem_append_left _ (List.mem_append_left _ ?_))
  rw [groups_eq hp.grouped]
  exact List.mem_map_of_mem he

theorem candidate_of_event (hp : Projected h i groups explicit found truncated m) {c : Candidate}
    (hc : c ∈ allCandidates h i groups) (hd : d ∈ i.rawEvents) (he : e ∈ representatives i.events)
    (hgroup : d.groupKey = e.groupKey) (hsource : .rawEvent d.id ∈ c.node.sourceReceipts) : c = candidateOf h i.events e := by
  obtain ⟨key, hcandidate⟩ := group_of_node hp.grouped hc hsource
  have hkey := (hcandidate.holds hp.received hd).1 hsource
  obtain ⟨e', hmax, rfl⟩ := hcandidate.eq
  obtain ⟨he, -, hlatest⟩ := (mem_representatives hp.received.eventIds).1 he
  have hmax' := representative_of_latest hp.received.eventIds he (hgroup.symm.trans hkey) hlatest
  rw [Option.some.inj (hmax.symm.trans hmax')]
  rfl

theorem candidateOf_holds (hr : Received h i) (hd : d ∈ i.rawEvents) :
    .rawEvent d.id ∈ (candidateOf h i.events e).node.sourceReceipts ↔ d.groupKey = e.groupKey := by
  show SourceReceipt.rawEvent d.id ∈ (orderGroup _).map (fun d => SourceReceipt.rawEvent d.id) ↔ _
  simp only [List.mem_map, mem_orderGroup, List.mem_filter, decide_eq_true_eq, SourceReceipt.rawEvent.injEq]
  constructor
  · rintro ⟨d', ⟨hd', hgroup⟩, hid⟩
    exact List.inj_on_of_nodup_map hr.rawIds (mem_events.1 hd') hd hid ▸ hgroup
  · exact fun hgroup => ⟨d, ⟨mem_events.2 hd, hgroup⟩, rfl⟩

/-- **An event is in the node of the representative of its group**, and in no other. -/
theorem builtFrom_iff (hp : Projected h i groups explicit found truncated m) (hd : d ∈ i.rawEvents)
    (he : e ∈ representatives i.events) (hgroup : d.groupKey = e.groupKey) {id : String} :
    BuiltFrom h m (.raw d) id ↔ id = (candidateOf h i.events e).node.id := by
  have hnodes : m.nodes = nodesOf (allCandidates h i groups) := by
    rw [hp.manifest]
    rfl
  unfold BuiltFrom
  rw [hnodes]
  constructor
  · rintro ⟨n, hn, rfl, hsource⟩
    obtain ⟨c, hc, rfl⟩ := mem_nodesOf.1 hn
    rw [candidate_of_event hp hc hd he hgroup hsource]
  · rintro rfl
    exact ⟨_, mem_nodesOf.2 ⟨_, candidateOf_mem hp he, rfl⟩, rfl, (candidateOf_holds hp.received hd).2 hgroup⟩

theorem candidateOf_inj (hp : Projected h i groups explicit found truncated m) (hfree : h.CollisionFree (hashedParts i m))
    (hd : d ∈ representatives i.events) (he : e ∈ representatives i.events)
    (hid : (candidateOf h i.events d).node.id = (candidateOf h i.events e).node.id) : d = e := by
  have hnodes : m.nodes = nodesOf (allCandidates h i groups) := by
    rw [hp.manifest]
    rfl
  have hmem : ∀ e ∈ representatives i.events, (candidateOf h i.events e).node ∈ m.nodes := by
    intro e he
    rw [hnodes]
    exact mem_nodesOf.2 ⟨_, candidateOf_mem hp he, rfl⟩
  have hnode := List.inj_on_of_nodup_map (projected_nodeIds hp hfree) (hmem d hd) (hmem e he) hid
  obtain ⟨hd, ⟨key, hkey⟩, hdlatest⟩ := (mem_representatives hp.received.eventIds).1 hd
  obtain ⟨he, -, helatest⟩ := (mem_representatives hp.received.eventIds).1 he
  -- the first is a source of its node, so of the other
  have hsource := (candidateOf_holds (e := d) hp.received (mem_events.1 hd)).2 rfl
  rw [hnode] at hsource
  have hgroup := (candidateOf_holds hp.received (mem_events.1 hd)).1 hsource
  have hmax := representative_of_latest hp.received.eventIds hd hkey hdlatest
  have hmax' := representative_of_latest hp.received.eventIds he (hgroup.symm.trans hkey) helatest
  exact Option.some.inj (hmax.symm.trans hmax')

theorem exists_representative (hr : Received h i) (hd : d ∈ i.rawEvents) (hscope : d.executionScopeId = some scope) :
    ∃ e, Represents i.rawEvents scope e ∧ d.groupKey = e.groupKey := by
  obtain ⟨key, hkey⟩ := (hr.raw d hd).groupKey
  have hmember : d ∈ orderGroup (groupMembers i.events key) :=
    mem_orderGroup.2 (mem_groupMembers.2 ⟨mem_events.2 hd, hkey⟩)
  obtain ⟨e, -, hmax⟩ := maxByKey_mem latestKey (List.ne_nil_of_mem hmember)
  obtain ⟨he, hekey, hlatest⟩ := representative_some hmax
  refine ⟨e, ⟨mem_events.1 he, ?_, latest_events.1 hlatest⟩, hkey.trans hekey.symm⟩
  -- a lifecycle group is of one scope, and a raw event is its own
  unfold RawEventReceipt.groupKey at hkey hekey
  cases hgroup : d.lifecycleGroupId with
  | none =>
    rw [hgroup] at hkey
    cases hgroup' : e.lifecycleGroupId with
    | none =>
      rw [hgroup'] at hekey
      have hid : d.id = e.id := GroupKey.raw.inj (Option.some.inj (hkey.trans hekey.symm))
      rw [← List.inj_on_of_nodup_map hr.rawIds hd (mem_events.1 he) hid]
      exact hscope
    | some group =>
      rw [hgroup'] at hekey
      obtain ⟨scope', -, heq⟩ := Option.map_eq_some_iff.1 hekey
      cases heq.trans (Option.some.inj hkey).symm
  | some group =>
    rw [hgroup, hscope] at hkey
    obtain rfl := Option.some.inj hkey
    cases hgroup' : e.lifecycleGroupId with
    | none =>
      rw [hgroup'] at hekey
      cases hekey
    | some group' =>
      rw [hgroup'] at hekey
      obtain ⟨scope', hscope', heq⟩ := Option.map_eq_some_iff.1 hekey
      rw [hscope', (GroupKey.lifecycle.inj heq).1]

end Nodes

end TraceDag
end Bildr
