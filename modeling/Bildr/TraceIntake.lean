import Bildr.TraceProject
/-!
# TraceIntake — what the projector accepts, and the candidates it makes

The checks pass exactly if every receipt passes its own and no two of a kind share an id (`validateReceipts_ok`).  Then
every raw event has a group, and there is one candidate of every group, which holds the group's events
(`groupRawEvents_ok`); what a projection returns is read off its steps (`project_ok`).
-/
namespace Bildr
namespace TraceDag

open SortBy (sortBy)

/-! ## Checks one by one -/

theorem foldlM_distinct {ε α κ : Type} {step : List κ → α → Except ε (List κ)} {key : α → κ} {P : α → Prop}
    (hstep : ∀ seen a seen', step seen a = .ok seen' ↔ key a ∉ seen ∧ P a ∧ seen' = key a :: seen) :
    ∀ (l : List α) (seen : List κ), (∃ seen', l.foldlM step seen = .ok seen') ↔
      (l.map key).Nodup ∧ (∀ a ∈ l, key a ∉ seen) ∧ ∀ a ∈ l, P a
  | [], seen => ⟨fun _ => by simp, fun _ => ⟨seen, rfl⟩⟩
  | a :: l, seen => by
    have hcons : (∃ seen', (a :: l).foldlM step seen = .ok seen') ↔
        (key a ∉ seen ∧ P a) ∧ ∃ seen', l.foldlM step (key a :: seen) = .ok seen' := by
      rw [List.foldlM_cons]
      constructor
      · rintro ⟨seen', h⟩
        obtain ⟨next, hnext, h⟩ := bind_ok h
        obtain ⟨hfresh, hP, rfl⟩ := (hstep seen a next).1 hnext
        exact ⟨⟨hfresh, hP⟩, seen', h⟩
      · rintro ⟨⟨hfresh, hP⟩, seen', h⟩
        rw [(hstep seen a _).2 ⟨hfresh, hP, rfl⟩]
        exact ⟨seen', h⟩
    rw [hcons, foldlM_distinct hstep l (key a :: seen), List.map_cons, List.nodup_cons]
    simp only [List.mem_cons, List.mem_map, not_or, not_exists, not_and, forall_eq_or_imp]
    constructor
    · rintro ⟨⟨hfresh, hP⟩, hnodup, hseen, hall⟩
      exact ⟨⟨fun b hb => (hseen b hb).1, hnodup⟩, ⟨hfresh, fun b hb => (hseen b hb).2⟩, hP, hall⟩
    · rintro ⟨⟨hne, hnodup⟩, ⟨hfresh, hseen⟩, hP, hall⟩
      exact ⟨⟨hfresh, hP⟩, hnodup, fun b hb => ⟨hne b hb, hseen b hb⟩, hall⟩

/-! ## What is accepted -/

structure ReceivedRaw (h : Hashes) (e : RawEventReceipt) : Prop where
  positive : 1 ≤ e.id
  digest : h.payloadDigest e.payload = e.payloadSha256
  scope : e.executionScopeId.all safeTraceId = true
  group : e.lifecycleGroupId.all safeTraceId = true
  grouped : e.lifecycleGroupId.isSome = true → e.executionScopeId.isSome = true

structure ReceivedDomain (h : Hashes) (e : DomainEventReceipt) : Prop where
  positive : 1 ≤ e.id
  named : e.eventType.isEmpty = false
  digest : h.payloadDigest e.payload = e.payloadSha256

structure Received (h : Hashes) (i : TraceInput) : Prop where
  header : ∀ f ∈ headerFields i, f.2.1.isEmpty = false ∧ f.2.2 = true
  attempt : i.taskAttemptId.all safeControllerId = true
  sensitivity : i.sensitivity ∈ sensitivities
  rawIds : (i.rawEvents.map RawEventReceipt.id).Nodup
  raw : ∀ e ∈ i.rawEvents, ReceivedRaw h e
  structuralIds : (i.structuralReceipts.map StructuralReceipt.id).Nodup
  structural : ∀ r ∈ i.structuralReceipts, safeTraceId r.id = true
  domainIds : (i.domainEvents.map DomainEventReceipt.id).Nodup
  domain : ∀ e ∈ i.domainEvents, ReceivedDomain h e

section Checks
variable {h : Hashes} {i : TraceInput}

theorem consistent_iff (payload : Json.Value) (claimed : String) :
    (isDigest claimed && h.payloadDigest payload == claimed) = true ↔ h.payloadDigest payload = claimed := by
  rw [Bool.and_eq_true, beq_iff_eq]
  constructor
  · exact fun hboth => hboth.2
  · rintro rfl
    exact ⟨h.payloadHex payload, rfl⟩

theorem checkRawEvent_ok (seen : List Int) (e : RawEventReceipt) (seen' : List Int) :
    checkRawEvent h seen e = .ok seen' ↔ e.id ∉ seen ∧ ReceivedRaw h e ∧ seen' = e.id :: seen := by
  unfold checkRawEvent
  rw [Control.ensure_bind_ok, Control.ensure_bind_ok, Control.ensure_bind_ok, Control.ensure_bind_ok,
    Control.ensure_bind_ok, consistent_iff, pure_ok, Except.ok.injEq]
  simp only [Bool.and_eq_true, decide_eq_true_eq, Bool.not_eq_true', List.contains_eq_mem, decide_eq_false_iff_not,
    Bool.and_eq_false_iff]
  constructor
  · rintro ⟨⟨hpos, hfresh⟩, hdigest, hscope, hgroup, hgrouped, rfl⟩
    refine ⟨hfresh, ⟨hpos, hdigest, hscope, hgroup, fun hsome => ?_⟩, rfl⟩
    rcases hgrouped with hnone | hsome'
    · rw [hsome] at hnone
      cases hnone
    · simpa [Option.isSome_iff_ne_none] using hsome'
  · rintro ⟨hfresh, ⟨hpos, hdigest, hscope, hgroup, hgrouped⟩, rfl⟩
    refine ⟨⟨hpos, hfresh⟩, hdigest, hscope, hgroup, ?_, rfl⟩
    cases hsome : e.lifecycleGroupId.isSome with
    | false => exact Or.inl rfl
    | true =>
      refine Or.inr ?_
      have := hgrouped hsome
      simpa [Option.isSome_iff_ne_none] using this

theorem checkStructural_ok (seen : List String) (r : StructuralReceipt) (seen' : List String) :
    checkStructural seen r = .ok seen' ↔ r.id ∉ seen ∧ True ∧ seen' = r.id :: seen := by
  unfold checkStructural
  rw [Control.ensure_bind_ok, pure_ok, Except.ok.injEq]
  simp only [Bool.not_eq_true', List.contains_eq_mem, decide_eq_false_iff_not, true_and]
  exact and_congr_right (fun _ => eq_comm)

theorem checkDomainEvent_ok (seen : List Int) (e : DomainEventReceipt) (seen' : List Int) :
    checkDomainEvent h seen e = .ok seen' ↔ e.id ∉ seen ∧ ReceivedDomain h e ∧ seen' = e.id :: seen := by
  unfold checkDomainEvent
  rw [Control.ensure_bind_ok, Control.ensure_bind_ok, consistent_iff, pure_ok, Except.ok.injEq]
  simp only [Bool.and_eq_true, decide_eq_true_eq, Bool.not_eq_true', List.contains_eq_mem, decide_eq_false_iff_not]
  constructor
  · rintro ⟨⟨⟨hpos, hfresh⟩, hnamed⟩, hdigest, rfl⟩
    exact ⟨hfresh, ⟨hpos, hnamed, hdigest⟩, rfl⟩
  · rintro ⟨hfresh, ⟨hpos, hnamed, hdigest⟩, rfl⟩
    exact ⟨⟨⟨hpos, hfresh⟩, hnamed⟩, hdigest, rfl⟩

theorem forM_ok_iff {ε α : Type} {f : α → Except ε Unit} {l : List α} : l.forM f = .ok () ↔ ∀ a ∈ l, f a = .ok () := by
  constructor
  · exact fun hall a ha => forM_ok hall ha
  · intro hall
    rcases forM_cases (f := f) l with ⟨hok, -⟩ | ⟨a, ha, e, he, -⟩
    · exact hok
    · rw [hall a ha] at he
      cases he

/-- **The checks pass exactly on receipts that pass their own and whose ids differ.** -/
theorem validateReceipts_ok : validateReceipts h i = .ok () ↔ Received h i := by
  have hheader : (headerFields i).forM checkHeader = .ok () ↔
      ∀ f ∈ headerFields i, f.2.1.isEmpty = false ∧ f.2.2 = true := by
    rw [forM_ok_iff]
    refine forall₂_congr (fun f _ => ?_)
    unfold checkHeader
    rw [Control.ensure_ok_iff, Bool.and_eq_true, Bool.not_eq_true']
  have hids : i.structuralReceipts.forM checkStructuralId = .ok () ↔ ∀ r ∈ i.structuralReceipts, safeTraceId r.id = true := by
    rw [forM_ok_iff]
    refine forall₂_congr (fun r _ => ?_)
    unfold checkStructuralId
    rw [Control.ensure_ok_iff]
  have hraw := foldlM_distinct (checkRawEvent_ok (h := h)) i.rawEvents []
  have hstructural := foldlM_distinct checkStructural_ok i.structuralReceipts []
  have hdomain := foldlM_distinct (checkDomainEvent_ok (h := h)) i.domainEvents []
  unfold validateReceipts
  constructor
  · intro hok
    obtain ⟨u, hfields, hok⟩ := bind_ok hok
    rw [Control.ensure_bind_ok, Control.ensure_bind_ok] at hok
    obtain ⟨hattempt, hsensitivity, hok⟩ := hok
    obtain ⟨seen, hraws, hok⟩ := bind_ok hok
    obtain ⟨seenStructural, hstructurals, hok⟩ := bind_ok hok
    obtain ⟨seenDomain, hdomains, hok⟩ := bind_ok hok
    obtain ⟨hrawIds, -, hrawAll⟩ := hraw.1 ⟨seen, hraws⟩
    obtain ⟨hstructuralIds, -, -⟩ := hstructural.1 ⟨seenStructural, hstructurals⟩
    obtain ⟨hdomainIds, -, hdomainAll⟩ := hdomain.1 ⟨seenDomain, hdomains⟩
    exact ⟨hheader.1 hfields, hattempt, List.contains_iff_mem.1 hsensitivity, hrawIds, hrawAll, hstructuralIds, hids.1 hok,
      hdomainIds, hdomainAll⟩
  · intro hr
    obtain ⟨seen, hraws⟩ := hraw.2 ⟨hr.rawIds, fun a _ => List.not_mem_nil, hr.raw⟩
    obtain ⟨seenStructural, hstructurals⟩ := hstructural.2 ⟨hr.structuralIds, fun a _ => List.not_mem_nil, fun a _ => trivial⟩
    obtain ⟨seenDomain, hdomains⟩ := hdomain.2 ⟨hr.domainIds, fun a _ => List.not_mem_nil, hr.domain⟩
    rw [hheader.2 hr.header, ok_bind, hr.attempt, ensure_true, ok_bind, List.contains_iff_mem.2 hr.sensitivity, ensure_true,
      ok_bind, hraws, ok_bind, hstructurals, ok_bind, hdomains, ok_bind]
    exact hids.2 hr.structural

end Checks

/-! ## Groups -/

section Groups
variable {h : Hashes} {events : List RawEventReceipt}

theorem maxByKey_mem {α κ : Type} [LinearOrder κ] (key : α → κ) {l : List α} (hne : l ≠ []) :
    ∃ a ∈ l, maxByKey key l = some a := by
  have hfold : ∀ (l : List α) (b : α), ∃ a, (a = b ∨ a ∈ l) ∧
      l.foldl (fun best a => some (best.elim a (fun b => if key b ≤ key a then a else b))) (some b) = some a := by
    intro l
    induction l with
    | nil => exact fun b => ⟨b, Or.inl rfl, rfl⟩
    | cons x l ih =>
      intro b
      rw [List.foldl_cons, Option.elim_some]
      by_cases hle : key b ≤ key x
      · rw [if_pos hle]
        obtain ⟨a, ha, hmax⟩ := ih x
        exact ⟨a, Or.inr (List.mem_cons.2 ha), hmax⟩
      · rw [if_neg hle]
        obtain ⟨a, ha, hmax⟩ := ih b
        rcases ha with ha | ha
        · exact ⟨a, Or.inl ha, hmax⟩
        · exact ⟨a, Or.inr (List.mem_cons_of_mem x ha), hmax⟩
  cases l with
  | nil => exact absurd rfl hne
  | cons x l =>
    obtain ⟨a, ha, hmax⟩ := hfold l x
    exact ⟨a, List.mem_cons.2 ha, hmax⟩

theorem mapM_some {α β : Type} {f : α → Option β} : ∀ {l : List α}, (∀ a ∈ l, ∃ b, f a = some b) →
    l.mapM f = some (l.filterMap f)
  | [], _ => rfl
  | x :: l, hall => by
    obtain ⟨b, hb⟩ := hall x List.mem_cons_self
    have htail := mapM_some (fun a ha => hall a (List.mem_cons_of_mem x ha))
    rw [List.mapM_cons, hb, htail, List.filterMap_cons_some hb]
    rfl

theorem mapM_forall₂ {ε α β : Type} {f : α → Except ε β} : ∀ {l : List α} {m : List β}, l.mapM f = .ok m →
    List.Forall₂ (fun a b => f a = .ok b) l m
  | [], m, hok => by
    cases hok
    exact .nil
  | x :: l, m, hok => by
    rw [List.mapM_cons] at hok
    obtain ⟨b, hb, hok⟩ := bind_ok hok
    obtain ⟨m', hm, hok⟩ := bind_ok hok
    cases hok
    exact .cons hb (mapM_forall₂ hm)

theorem forall₂_mem_right {α β : Type} {R : α → β → Prop} {l : List α} {m : List β} (hall : List.Forall₂ R l m) {b : β}
    (hb : b ∈ m) : ∃ a ∈ l, R a b := by
  induction hall with
  | nil => cases hb
  | cons hab hrest ih =>
    rcases List.mem_cons.1 hb with rfl | hb
    · exact ⟨_, List.mem_cons_self, hab⟩
    · obtain ⟨a, ha, hR⟩ := ih hb
      exact ⟨a, List.mem_cons_of_mem _ ha, hR⟩

theorem forall₂_mem_left {α β : Type} {R : α → β → Prop} {l : List α} {m : List β} (hall : List.Forall₂ R l m) {a : α}
    (ha : a ∈ l) : ∃ b ∈ m, R a b := forall₂_mem_right hall.flip ha

theorem mem_orderGroup {receipts : List RawEventReceipt} {e : RawEventReceipt} : e ∈ orderGroup receipts ↔ e ∈ receipts := by
  unfold orderGroup
  split
  · exact SortBy.mem_sortBy
  · exact SortBy.mem_sortBy

theorem perm_orderGroup (receipts : List RawEventReceipt) : (orderGroup receipts).Perm receipts := by
  unfold orderGroup
  split
  · exact SortBy.perm_sortBy _ _
  · exact SortBy.perm_sortBy _ _

theorem mem_groupMembers {key : GroupKey} {e : RawEventReceipt} :
    e ∈ groupMembers events key ↔ e ∈ events ∧ e.groupKey = some key := by
  unfold groupMembers
  rw [List.mem_filter, decide_eq_true_eq]

theorem ReceivedRaw.groupKey {e : RawEventReceipt} (hr : ReceivedRaw h e) : ∃ key, e.groupKey = some key := by
  unfold RawEventReceipt.groupKey
  cases hgroup : e.lifecycleGroupId with
  | none => exact ⟨_, rfl⟩
  | some group =>
    have hscope := hr.grouped (by rw [hgroup]; rfl)
    obtain ⟨scope, hscope⟩ := Option.isSome_iff_exists.1 hscope
    rw [hscope]
    exact ⟨_, rfl⟩

/-- The candidate of a group: the group's events, after the latest of them. -/
def GroupCandidate (h : Hashes) (events : List RawEventReceipt) (key : GroupKey) (c : Candidate) : Prop :=
  ∃ latest ∈ groupMembers events key, maxByKey latestKey (orderGroup (groupMembers events key)) = some latest ∧
    c = ⟨key.text h, rawNode h (orderGroup (groupMembers events key)) latest, latest.executionScopeId, eventOrder latest⟩

def groupKeys (events : List RawEventReceipt) : List GroupKey :=
  SortedSet.ofList (events.filterMap RawEventReceipt.groupKey)

theorem mem_groupKeys {key : GroupKey} : key ∈ groupKeys events ↔ ∃ e ∈ events, e.groupKey = some key := by
  unfold groupKeys
  rw [SortedSet.mem_ofList, List.mem_filterMap]

theorem rawCandidate_ok {key : GroupKey} {c : Candidate}
    (hok : rawCandidate h (key.text h) (orderGroup (groupMembers events key)) = .ok c) : GroupCandidate h events key c := by
  unfold rawCandidate at hok
  obtain ⟨latest, hlatest, hok⟩ := bind_ok hok
  have hmax := okOr_ok hlatest
  cases hok
  have hne : orderGroup (groupMembers events key) ≠ [] := by
    intro hnil
    rw [hnil] at hmax
    cases hmax
  obtain ⟨e, he, hmax'⟩ := maxByKey_mem latestKey hne
  rw [hmax] at hmax'
  cases hmax'
  exact ⟨latest, mem_orderGroup.1 he, hmax, rfl⟩

/-- **Events that all have a group make one candidate of every group.** -/
theorem groupRawEvents_total (hkeys : ∀ e ∈ events, ∃ key, e.groupKey = some key) : ∃ groups,
    groupRawEvents h events = .ok (groups, events.flatMap sequenceDiagnostic) ∧
      List.Forall₂ (GroupCandidate h events) (groupKeys events) groups := by
  have hall : ∀ key ∈ groupKeys events, ∃ c,
      rawCandidate h (key.text h) (orderGroup (groupMembers events key)) = .ok c := by
    intro key hkey
    obtain ⟨e, he, hekey⟩ := mem_groupKeys.1 hkey
    have hne : orderGroup (groupMembers events key) ≠ [] :=
      List.ne_nil_of_mem (mem_orderGroup.2 (mem_groupMembers.2 ⟨he, hekey⟩))
    obtain ⟨latest, -, hmax⟩ := maxByKey_mem latestKey hne
    unfold rawCandidate
    rw [hmax]
    exact ⟨_, rfl⟩
  obtain ⟨groups, hgroups⟩ := mapM_isOk hall
  refine ⟨groups, ?_, (mapM_forall₂ hgroups).imp (fun key c hc => rawCandidate_ok hc)⟩
  unfold groupRawEvents
  rw [mapM_some hkeys]
  show Except.bind ((groupKeys events).mapM _) _ = _
  rw [hgroups]
  rfl

end Groups

/-! ## What a projection returns -/

section Project
variable {h : Hashes} {i : TraceInput} {m : TraceManifest}

theorem orderEvents_perm (events : List RawEventReceipt) : (orderEvents events).1.Perm events := SortBy.perm_sortBy _ _

structure Projected (h : Hashes) (i : TraceInput) (groups : List Candidate) (explicit : List TraceEdge)
    (found : List TraceBranch) (truncated : Bool) (m : TraceManifest) : Prop where
  received : Received h i
  given : ¬ (i.rawEvents = [] ∧ i.structuralReceipts = [] ∧ i.domainEvents = [])
  grouped : List.Forall₂ (GroupCandidate h (orderEvents i.rawEvents).1) (groupKeys (orderEvents i.rawEvents).1) groups
  related : i.relations.mapM (explicitEdge (keysOf (allCandidates h i groups))) = .ok explicit
  acyclic : validateEdges (keysOf (allCandidates h i groups)) (edgesOf (allCandidates h i groups) explicit) = .ok ()
  enumerated : branches h (nodesOf (allCandidates h i groups)) (edgesOf (allCandidates h i groups) explicit) =
    .ok (found, truncated)
  manifest : m = manifestOf h i (allCandidates h i groups) (edgesOf (allCandidates h i groups) explicit)
    ((orderEvents i.rawEvents).2 ++ (orderEvents i.rawEvents).1.flatMap sequenceDiagnostic) found truncated

theorem Received.groupKey (hr : Received h i) : ∀ e ∈ (orderEvents i.rawEvents).1, ∃ key, e.groupKey = some key := by
  intro e he
  exact (hr.raw e ((orderEvents_perm i.rawEvents).mem_iff.1 he)).groupKey

theorem project_ok (hok : project h i = .ok m) :
    ∃ groups explicit found truncated, Projected h i groups explicit found truncated m := by
  unfold project at hok
  obtain ⟨u, hvalid, hok⟩ := bind_ok hok
  have hr := validateReceipts_ok.1 hvalid
  rw [Control.ensure_bind_ok] at hok
  obtain ⟨hsome, hok⟩ := hok
  obtain ⟨groups, hgroups, hall⟩ := groupRawEvents_total (h := h) hr.groupKey
  rw [hgroups, ok_bind] at hok
  unfold connectCandidates at hok
  obtain ⟨explicit, hexplicit, hok⟩ := bind_ok hok
  obtain ⟨u, hedges, hok⟩ := bind_ok hok
  obtain ⟨⟨found, truncated⟩, hfound, hok⟩ := bind_ok hok
  cases hok
  refine ⟨groups, explicit, found, truncated, hr, ?_, hall, hexplicit, hedges, hfound, rfl⟩
  intro hnil
  rw [hnil.1, hnil.2.1, hnil.2.2] at hsome
  cases hsome

theorem project_signed (hm : (project h i).map (fun p => { p with sha256 := "" }) = .ok m) :
    project h i = .ok (TraceManifest.sign h m) := by
  cases hok : project h i with
  | error e =>
    rw [hok] at hm
    cases hm
  | ok p =>
    rw [hok] at hm
    cases hm
    obtain ⟨groups, explicit, found, truncated, hp⟩ := project_ok hok
    rw [hp.manifest]
    rfl

end Project

end TraceDag
end Bildr
