import Bildr.TraceCustody
/-!
# TraceOrder — a projection of reordered receipts

Receipts in another order are accepted or refused as before, and make the same nodes, edges and branches.  What keeps
their order is the diagnostic of a scope that mixes events with a valid sequence and events without one: it names the
events as they came in.  So the manifest is the same for every order exactly if no scope mixes them
(`projection_order_iff`).
-/
namespace Bildr
namespace TraceDag

open SortBy (sortBy)

structure Reordered (i j : TraceInput) : Prop where
  rest : j =
    { i with
      rawEvents := j.rawEvents
      domainEvents := j.domainEvents
      structuralReceipts := j.structuralReceipts
      relations := j.relations }
  raw : j.rawEvents.Perm i.rawEvents
  domain : j.domainEvents.Perm i.domainEvents
  structural : j.structuralReceipts.Perm i.structuralReceipts
  relations : j.relations.Perm i.relations

def SameOutcome (r r' : Except Halt TraceManifest) : Prop :=
  ((∀ m, r ≠ .ok m) ∧ ∀ m, r' ≠ .ok m) ∨ ∃ m, r = .ok m ∧ r' = .ok m

def MixesSequences (events : List RawEventReceipt) (scope : String) : Prop :=
  (∃ e ∈ events, e.executionScopeId = some scope ∧ hasSequence e = true) ∧
    ∃ e ∈ events, e.executionScopeId = some scope ∧ hasSequence e = false

/-- Receipts that pass their checks, with relations between known receipts and no cycle. -/
structure Projectable (h : Hashes) (i : TraceInput) : Prop where
  received : Received h i
  given : ¬ (i.rawEvents = [] ∧ i.structuralReceipts = [] ∧ i.domainEvents = [])
  connected : ∃ groups explicit,
    List.Forall₂ (GroupCandidate h (orderEvents i.rawEvents).1) (groupKeys (orderEvents i.rawEvents).1) groups ∧
    i.relations.mapM (explicitEdge (keysOf (allCandidates h i groups))) = .ok explicit ∧
    validateEdges (keysOf (allCandidates h i groups)) (edgesOf (allCandidates h i groups) explicit) = .ok ()

section Project
variable {h : Hashes} {i j : TraceInput} {m : TraceManifest} {groups : List Candidate} {explicit : List TraceEdge}
  {found : List TraceBranch} {truncated : Bool}

theorem mem_ambiguousScopes {events : List RawEventReceipt} {scope : String} :
    scope ∈ ambiguousScopes events ↔ MixesSequences events scope := by
  unfold ambiguousScopes MixesSequences inScope
  simp only [List.mem_filter, SortedSet.mem_ofList, List.mem_filterMap, Bool.and_eq_true, List.any_eq_true, beq_iff_eq,
    Bool.not_eq_true', and_iff_right_iff_imp]
  rintro ⟨⟨e, he, hscope, -⟩, -⟩
  exact ⟨e, he, hscope⟩

theorem GroupCandidate.unique {events : List RawEventReceipt} {key : GroupKey} {c c' : Candidate}
    (hc : GroupCandidate h events key c) (hc' : GroupCandidate h events key c') : c = c' := by
  obtain ⟨latest, -, hmax, rfl⟩ := hc
  obtain ⟨latest', -, hmax', rfl⟩ := hc'
  rw [hmax] at hmax'
  cases hmax'
  rfl

theorem groups_unique {groups' : List Candidate} {events : List RawEventReceipt} {keys : List GroupKey}
    (hg : List.Forall₂ (GroupCandidate h events) keys groups) (hg' : List.Forall₂ (GroupCandidate h events) keys groups') :
    groups = groups' := by
  have hunique : Relator.RightUnique (GroupCandidate h events) := fun key c c' hc hc' => GroupCandidate.unique hc hc'
  exact List.right_unique_forall₂' hunique hg hg'

theorem Projected.project (hp : Projected h i groups explicit found truncated m) : project h i = .ok m := by
  unfold TraceDag.project
  obtain ⟨groups', hgroups, hall⟩ := groupRawEvents_total (h := h) hp.received.groupKey
  have hgiven : (!(i.rawEvents.isEmpty && i.structuralReceipts.isEmpty && i.domainEvents.isEmpty)) = true := by
    have hnot := hp.given
    simp only [Bool.not_eq_true', Bool.and_eq_false_iff, List.isEmpty_eq_false_iff]
    by_contra hnone
    push Not at hnone
    exact hnot ⟨hnone.1.1, hnone.1.2, hnone.2⟩
  rw [validateReceipts_ok.2 hp.received, ok_bind, hgiven, ensure_true, ok_bind, hgroups, ok_bind]
  rw [groups_unique hall hp.grouped]
  show connectCandidates h i (allCandidates h i groups) _ = _
  unfold connectCandidates
  rw [hp.related, ok_bind, hp.acyclic, ok_bind, hp.enumerated, hp.manifest]
  rfl

theorem project_iff : (∃ m, project h i = .ok m) ↔ Projectable h i := by
  constructor
  · rintro ⟨m, hok⟩
    obtain ⟨groups, explicit, found, truncated, hp⟩ := project_ok hok
    exact ⟨hp.received, hp.given, groups, explicit, hp.grouped, hp.related, hp.acyclic⟩
  · rintro ⟨hr, hgiven, groups, explicit, hgroups, hrelated, hacyclic⟩
    obtain ⟨paths, truncated, hfound, -⟩ := collect_ok h (nodesOf (allCandidates h i groups))
      (edgesOf (allCandidates h i groups) explicit)
    have hbranches : branches h (nodesOf (allCandidates h i groups)) (edgesOf (allCandidates h i groups) explicit) =
        .ok (sortBy TraceBranch.id (paths.map (branchOf h)), truncated) := by
      unfold branches
      rw [hfound]
      rfl
    exact ⟨_, (Projected.project ⟨hr, hgiven, hgroups, hrelated, hacyclic, hbranches, rfl⟩)⟩

/-! ## Reordering -/

theorem Reordered.symm (hr : Reordered i j) : Reordered j i := by
  refine ⟨?_, hr.raw.symm, hr.domain.symm, hr.structural.symm, hr.relations.symm⟩
  rw [hr.rest]

theorem Reordered.received (hr : Reordered i j) (hi : Received h i) : Received h j := by
  have hheader : headerFields j = headerFields i := by rw [hr.rest]; rfl
  have hattempt : j.taskAttemptId = i.taskAttemptId := by rw [hr.rest]
  have hsensitivity : j.sensitivity = i.sensitivity := by rw [hr.rest]
  refine ⟨?_, ?_, ?_, (hr.raw.map _).nodup_iff.2 hi.rawIds, fun e he => hi.raw e (hr.raw.mem_iff.1 he),
    (hr.structural.map _).nodup_iff.2 hi.structuralIds, fun r hmem => hi.structural r (hr.structural.mem_iff.1 hmem),
    (hr.domain.map _).nodup_iff.2 hi.domainIds, fun e he => hi.domain e (hr.domain.mem_iff.1 he)⟩
  · rw [hheader]
    exact hi.header
  · rw [hattempt]
    exact hi.attempt
  · rw [hsensitivity]
    exact hi.sensitivity

theorem Reordered.events (hr : Reordered i j) (hi : Received h i) :
    (orderEvents j.rawEvents).1 = (orderEvents i.rawEvents).1 := by
  refine SortBy.sortBy_perm hr.raw ?_
  have hids := hi.rawIds
  rw [← (hr.raw.map _).nodup_iff, List.Nodup, List.pairwise_map] at hids
  rw [List.Nodup, List.pairwise_map]
  exact hids.imp (fun hne heq => hne (Prod.mk.inj heq).2)

theorem filter_map_perm {α : Type} {f : α → Candidate} {l l' : List α} (hp : l'.Perm l)
    (hn : (l.map (fun a => (f a).key)).Nodup) (k : String) :
    (l'.map f).filter (fun c => decide (c.key = k)) = (l.map f).filter (fun c => decide (c.key = k)) := by
  refine SortBy.filter_of_nodup (hp.map f) ?_ k
  rw [List.map_map]
  exact (hp.map _).nodup_iff.2 hn

theorem nodup_keys {α κ : Type} {key : α → κ} (lead : String) (text : κ → String) {l : List α} (hn : (l.map key).Nodup)
    (hinj : ∀ a b, text a = text b → a = b) : (l.map (fun a => lead ++ text (key a))).Nodup := by
  rw [List.Nodup, List.pairwise_map] at hn ⊢
  refine hn.imp (fun hne heq => hne (hinj _ _ ?_))
  rw [← String.toList_inj, String.toList_append, String.toList_append, List.append_right_inj, String.toList_inj] at heq
  exact heq

theorem Reordered.candidates (hr : Reordered i j) (hi : Received h i) (groups : List Candidate) :
    allCandidates h j groups = allCandidates h i groups := by
  refine SortBy.sortBy_congr (fun k => ?_)
  have hdomain := filter_map_perm (f := domainCandidate h) hr.domain
    (nodup_keys "domain:" toString hi.domainIds (fun a b heq => Texts.toString_integer_inj heq)) k
  have hstructural := filter_map_perm (f := structuralCandidate h) hr.structural
    (nodup_keys "structural:" id hi.structuralIds (fun a b heq => heq)) k
  rw [List.filter_append, List.filter_append, List.filter_append, List.filter_append, hdomain, hstructural]

theorem Reordered.related (hr : Reordered i j) {keys : KeyMap}
    (hok : i.relations.mapM (explicitEdge keys) = .ok explicit) (candidates : List Candidate) :
    ∃ explicit', j.relations.mapM (explicitEdge keys) = .ok explicit' ∧
      edgesOf candidates explicit' = edgesOf candidates explicit := by
  obtain ⟨explicit', hok'⟩ := mapM_isOk (f := explicitEdge keys) (l := j.relations)
    (fun r hmem => mapM_ok hok (hr.relations.mem_iff.1 hmem))
  refine ⟨explicit', hok', SortedSet.ofList_congr (fun e => ?_)⟩
  rw [List.mem_append, List.mem_append, mem_mapM hok, mem_mapM hok']
  simp only [hr.relations.mem_iff]

theorem Reordered.projected (hr : Reordered i j) (hp : Projected h i groups explicit found truncated m) :
    project h j = .ok (manifestOf h i (allCandidates h i groups) (edgesOf (allCandidates h i groups) explicit)
      ((orderEvents j.rawEvents).2 ++ (orderEvents i.rawEvents).1.flatMap sequenceDiagnostic) found truncated) := by
  have hevents := hr.events hp.received
  have hcandidates := hr.candidates hp.received groups
  obtain ⟨explicit', hrelated, hedges⟩ := hr.related hp.related (allCandidates h i groups)
  have hgiven : ¬ (j.rawEvents = [] ∧ j.structuralReceipts = [] ∧ j.domainEvents = []) := by
    rintro ⟨hraw, hstructural, hdomain⟩
    refine hp.given ⟨?_, ?_, ?_⟩
    · exact (hraw ▸ hr.raw).nil_eq.symm
    · exact (hstructural ▸ hr.structural).nil_eq.symm
    · exact (hdomain ▸ hr.domain).nil_eq.symm
  have hpj : Projected h j groups explicit' found truncated (manifestOf h j (allCandidates h j groups)
      (edgesOf (allCandidates h j groups) explicit')
      ((orderEvents j.rawEvents).2 ++ (orderEvents j.rawEvents).1.flatMap sequenceDiagnostic) found truncated) := by
    refine ⟨hr.received hp.received, hgiven, ?_, ?_, ?_, ?_, rfl⟩
    · rw [hevents]
      exact hp.grouped
    · rw [hcandidates]
      exact hrelated
    · rw [hcandidates, hedges]
      exact hp.acyclic
    · rw [hcandidates, hedges]
      exact hp.enumerated
  rw [hpj.project, hcandidates, hedges, hevents]
  unfold manifestOf
  rw [hevents, hr.rest]

/-! ## Diagnostics of mixed scopes -/

theorem ambiguousScopes_perm {events events' : List RawEventReceipt} (hp : events'.Perm events) :
    ambiguousScopes events' = ambiguousScopes events := by
  unfold ambiguousScopes
  rw [SortedSet.ofList_congr (fun scope => (hp.filterMap RawEventReceipt.executionScopeId).mem_iff (a := scope))]
  refine List.filter_congr (fun scope _ => ?_)
  rw [hp.any_eq, hp.any_eq]

theorem ambiguousScopes_nil {events : List RawEventReceipt} (hnone : ∀ scope, ¬ MixesSequences events scope) :
    ambiguousScopes events = [] :=
  List.eq_nil_iff_forall_not_mem.2 (fun scope hmem => hnone scope (mem_ambiguousScopes.1 hmem))

theorem sequenceDiagnostic_code {events : List RawEventReceipt} {d : ProjectionDiagnostic}
    (hd : d ∈ events.flatMap sequenceDiagnostic) : d.code = "invalid_source_sequence" := by
  obtain ⟨e, -, hd⟩ := List.mem_flatMap.1 hd
  unfold sequenceDiagnostic at hd
  split at hd
  · rw [List.mem_singleton.1 hd]
  · cases hd

theorem manifestOf_ambiguous {candidates : List Candidate} {edges : List TraceEdge}
    {events before after : List RawEventReceipt} {scopes : List String}
    (heq : manifestOf h i candidates edges (scopes.map (ambiguousDiagnostic before) ++ events.flatMap sequenceDiagnostic)
        found truncated =
      manifestOf h i candidates edges (scopes.map (ambiguousDiagnostic after) ++ events.flatMap sequenceDiagnostic)
        found truncated) :
    ∀ scope ∈ scopes, ambiguousDiagnostic before scope = ambiguousDiagnostic after scope := by
  have hdiagnostics := congrArg TraceManifest.diagnostics heq
  have hsorted := congrArg (List.filter (fun d =>
    decide (diagnosticOrder d = toLex ("ambiguous_mixed_sequence_order", "receipt_order_used"))))
    (List.append_cancel_right hdiagnostics)
  rw [SortBy.filter_sortBy, SortBy.filter_sortBy, List.filter_append, List.filter_append] at hsorted
  have hnone : (events.flatMap sequenceDiagnostic).filter (fun d =>
      decide (diagnosticOrder d = toLex ("ambiguous_mixed_sequence_order", "receipt_order_used"))) = [] := by
    refine List.filter_eq_nil_iff.2 (fun d hd heq => ?_)
    have hcode := (Prod.mk.inj (of_decide_eq_true heq)).1
    rw [sequenceDiagnostic_code hd] at hcode
    revert hcode
    decide
  have hall : ∀ events : List RawEventReceipt, (scopes.map (ambiguousDiagnostic events)).filter (fun d =>
      decide (diagnosticOrder d = toLex ("ambiguous_mixed_sequence_order", "receipt_order_used"))) =
      scopes.map (ambiguousDiagnostic events) := by
    intro events
    refine List.filter_eq_self.2 (fun d hd => ?_)
    obtain ⟨scope, -, rfl⟩ := List.mem_map.1 hd
    exact decide_eq_true rfl
  rw [hnone, List.append_nil, List.append_nil, hall, hall] at hsorted
  exact List.map_inj_left.1 hsorted

theorem eq_of_reverse_eq {α : Type} {l : List α} (hn : l.Nodup) (hr : l.reverse = l) {a b : α} (ha : a ∈ l)
    (hb : b ∈ l) : a = b := by
  cases l with
  | nil => cases ha
  | cons x l =>
    cases l with
    | nil => rw [List.mem_singleton.1 ha, List.mem_singleton.1 hb]
    | cons y l =>
      have hlast := congrArg List.head? hr
      rw [List.head?_reverse, List.head?_cons, List.getLast?_cons_cons] at hlast
      exact absurd (List.mem_of_getLast? hlast) (List.nodup_cons.1 hn).1

theorem ambiguous_reverse {events : List RawEventReceipt} (hn : (events.map RawEventReceipt.id).Nodup) {scope : String}
    (hmix : MixesSequences events scope) : ambiguousDiagnostic events scope ≠ ambiguousDiagnostic events.reverse scope := by
  intro heq
  have hreceipts := congrArg ProjectionDiagnostic.sourceReceipts heq
  unfold ambiguousDiagnostic at hreceipts
  simp only [List.filter_reverse, List.map_reverse] at hreceipts
  obtain ⟨⟨e, he, hscope, hseq⟩, e', he', hscope', hseq'⟩ := hmix
  have hmem : ∀ {e : RawEventReceipt}, e ∈ events → e.executionScopeId = some scope →
      SourceReceipt.rawEvent e.id ∈ (events.filter (inScope scope)).map (fun e => .rawEvent e.id) := by
    intro e he hscope
    refine List.mem_map.2 ⟨e, List.mem_filter.2 ⟨he, ?_⟩, rfl⟩
    unfold inScope
    rw [hscope, beq_self_eq_true]
  have hnodup : ((events.filter (inScope scope)).map (fun e => SourceReceipt.rawEvent e.id)).Nodup := by
    rw [List.Nodup, List.pairwise_map] at hn ⊢
    exact (hn.filter _).imp (fun hne heq => hne (SourceReceipt.rawEvent.inj heq))
  have hid := SourceReceipt.rawEvent.inj (eq_of_reverse_eq hnodup hreceipts.symm (hmem he hscope) (hmem he' hscope'))
  rw [List.inj_on_of_nodup_map hn he he' hid, hseq'] at hseq
  cases hseq

theorem reordered_reverse (i : TraceInput) : Reordered i { i with rawEvents := i.rawEvents.reverse } :=
  ⟨rfl, List.reverse_perm _, List.Perm.refl _, List.Perm.refl _, List.Perm.refl _⟩

end Project

/-- **The order of the receipts plays no part exactly where no scope mixes**: every reordering of an input has the outcome
of the input if and only if the input is refused or no execution scope has events with a valid sequence and events
without one. -/
theorem projection_order_iff (h : Hashes) (i : TraceInput) :
    (∀ j, Reordered i j → SameOutcome (project h i) (project h j)) ↔
      (Projectable h i → ∀ scope, ¬ MixesSequences i.rawEvents scope) := by
  constructor
  · intro hsame hprojectable scope hmix
    obtain ⟨m, hok⟩ := project_iff.2 hprojectable
    obtain ⟨groups, explicit, found, truncated, hp⟩ := project_ok hok
    have hreverse := reordered_reverse i
    rcases hsame _ hreverse with ⟨hfails, -⟩ | ⟨m', hm, hm'⟩
    · exact hfails m hok
    · rw [hok] at hm
      cases hm
      rw [hreverse.projected hp, Except.ok.injEq, hp.manifest] at hm'
      unfold orderEvents at hm'
      simp only [ambiguousScopes_perm (List.reverse_perm i.rawEvents)] at hm'
      exact ambiguous_reverse hp.received.rawIds hmix
        (manifestOf_ambiguous hm' scope (mem_ambiguousScopes.2 hmix)).symm
  · intro hnone j hr
    by_cases hprojectable : Projectable h i
    · obtain ⟨m, hok⟩ := project_iff.2 hprojectable
      obtain ⟨groups, explicit, found, truncated, hp⟩ := project_ok hok
      have hscopes := ambiguousScopes_nil (hnone hprojectable)
      refine Or.inr ⟨m, hok, ?_⟩
      rw [hr.projected hp, hp.manifest]
      unfold orderEvents
      simp only [ambiguousScopes_perm hr.raw, hscopes, List.map_nil]
    · refine Or.inl ⟨fun m hok => hprojectable (project_iff.1 ⟨m, hok⟩), fun m hok => hprojectable ?_⟩
      obtain ⟨groups, explicit, found, truncated, hp⟩ := project_ok hok
      exact project_iff.1 ⟨_, hr.symm.projected hp⟩

/-- The item's events the other way round give another manifest. -/
theorem projection_keeps_arrival :
    Reordered itemInput { itemInput with rawEvents := itemInput.rawEvents.reverse } ∧
      ¬ SameOutcome (project itemHashes itemInput)
        (project itemHashes { itemInput with rawEvents := itemInput.rawEvents.reverse }) := by
  have hreversed : project itemHashes { itemInput with rawEvents := itemInput.rawEvents.reverse } =
      .ok (TraceManifest.sign itemHashes (itemManifest [.rawEvent 2, .rawEvent 1])) := project_signed (by decide +kernel)
  refine ⟨reordered_reverse itemInput, fun hsame => ?_⟩
  rw [hreversed, project_itemInput] at hsame
  rcases hsame with ⟨hfails, -⟩ | ⟨m, hm, hm'⟩
  · exact hfails _ rfl
  · have hdiagnostics := congrArg TraceManifest.diagnostics (Except.ok.inj (hm.trans hm'.symm))
    revert hdiagnostics
    decide

end TraceDag
end Bildr
