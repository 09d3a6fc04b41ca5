import Bildr.Consecutive
import Bildr.TraceRepresentatives
/-!
# TraceChains — the chain of an execution scope

The nodes of a scope are joined in a chain, by the sequences of their representatives where all of those have one and by
time and id otherwise.  A scope that mixes events with a sequence and events without one is declared to go by time and id;
its representatives may all have a sequence nevertheless, and they are picked by it.  So the chain is the declared one
exactly where neither makes a difference and no relation of the input adds another step (`declared_order_iff`).
-/
namespace Bildr
namespace TraceDag

open SortBy (sortBy)

/-! ## Sequences as numbers -/

section Sequences
variable {d e : RawEventReceipt} {p q : Sequence}

def sequenceNumber (e : RawEventReceipt) : Nat :=
  Consecutive.value ((stripPrefix "+" (e.sourceSequence.getD "")).getD (e.sourceSequence.getD "")).toList

theorem validSequence_some {value : String} (h : validSequence value = some q) :
    (ofLex q).2 = (stripPrefix "+" value).getD value ∧ (∀ c ∈ (ofLex q).2.toList, c.isDigit = true) ∧
      (ofLex q).1 = (ofLex q).2.toList.length ∧ (1 < (ofLex q).2.toList.length → (ofLex q).2.toList.head? ≠ some '0') := by
  unfold validSequence at h
  simp only at h
  by_cases hvalid : (!((stripPrefix "+" value).getD value).isEmpty &&
      ((stripPrefix "+" value).getD value).toList.all Char.isDigit &&
      ((stripPrefix "+" value).getD value == "0" || ((stripPrefix "+" value).getD value).toList.head? != some '0')) = true
  · rw [if_pos hvalid] at h
    obtain rfl := Option.some.inj h
    simp only [Bool.and_eq_true, Bool.or_eq_true, beq_iff_eq, bne_iff_ne, List.all_eq_true] at hvalid
    obtain ⟨⟨-, hdigits⟩, hzero⟩ := hvalid
    refine ⟨rfl, hdigits, Consecutive.utf8ByteSize_of_isDigit hdigits, fun hlength => ?_⟩
    rcases hzero with hzero | hzero
    · rw [show (ofLex (toLex (((stripPrefix "+" value).getD value).utf8ByteSize, (stripPrefix "+" value).getD value))).2 =
        "0" from hzero] at hlength
      exact absurd hlength (by decide)
    · exact hzero
  · rw [if_neg hvalid] at h
    cases h

theorem sequence_some (h : e.sequence = some q) : validSequence (e.sourceSequence.getD "") = some q := by
  unfold RawEventReceipt.sequence at h
  obtain ⟨value, hvalue, hq⟩ := Option.bind_eq_some_iff.1 h
  rw [hvalue]
  exact hq

theorem sequenceNumber_eq (h : e.sequence = some q) : sequenceNumber e = Consecutive.value (ofLex q).2.toList := by
  unfold sequenceNumber
  rw [(validSequence_some (sequence_some h)).1]

theorem sequenceNumber_le (hd : d.sequence = some p) (he : e.sequence = some q) (hle : p ≤ q) :
    sequenceNumber d ≤ sequenceNumber e := by
  rw [sequenceNumber_eq hd, sequenceNumber_eq he]
  obtain ⟨-, hdigits, hlength, -⟩ := validSequence_some (sequence_some hd)
  obtain ⟨-, hdigits', hlength', hzero⟩ := validSequence_some (sequence_some he)
  rcases lt_or_eq_of_le hle with hlt | rfl
  · rcases Prod.Lex.lt_iff.1 hlt with hshort | ⟨hsame, htext⟩
    · rw [hlength, hlength'] at hshort
      by_cases hone : 1 < (ofLex q).2.toList.length
      · exact le_of_lt (Consecutive.value_lt_of_length hdigits hdigits' (hzero hone) hshort)
      · -- the shorter one is empty
        rw [List.length_eq_zero_iff.1 (show (ofLex p).2.toList.length = 0 by omega)]
        exact Nat.zero_le _
    · rw [hlength, hlength'] at hsame
      exact le_of_lt (Consecutive.value_lt hdigits hsame (String.lt_iff_toList_lt.1 htext))
  · exact le_refl _

theorem validSequence_empty : validSequence "" = none := by decide

theorem hasSequence_eq (e : RawEventReceipt) : hasSequence e = e.sequence.isSome := by
  unfold hasSequence RawEventReceipt.sequence
  cases e.sourceSequence with
  | none =>
    rw [Option.getD_none, validSequence_empty]
    rfl
  | some value => rfl

end Sequences

/-! ## The order of a scope -/

section Chain
variable {h : Hashes} {i : TraceInput} {m : TraceManifest} {groups : List Candidate} {explicit : List TraceEdge}
  {found : List TraceBranch} {truncated : Bool} {d e : RawEventReceipt} {scope : String}

def chainOrder (l : List RawEventReceipt) : List RawEventReceipt :=
  if l.all hasSequence then sortBy eventOrder l else sortBy receiptOrder l

theorem perm_chainOrder (l : List RawEventReceipt) : (chainOrder l).Perm l := by
  unfold chainOrder
  split
  · exact SortBy.perm_sortBy _ _
  · exact SortBy.perm_sortBy _ _

theorem sequenced_candidateOf (h : Hashes) (events : List RawEventReceipt) (e : RawEventReceipt) :
    (candidateOf h events e).sequenced = hasSequence e := by
  rw [hasSequence_eq]
  show decide ((ofLex (eventOrder e)).1 ≠ ⊥) = e.sequence.isSome
  unfold eventOrder
  cases e.sequence with
  | none => rfl
  | some q => exact decide_eq_true (WithBot.coe_ne_bot)

theorem sortBy_candidates {κ : Type} [LinearOrder κ] {l : List RawEventReceipt} {entries : List Candidate}
    {events : List RawEventReceipt} (hperm : entries.Perm (l.map (candidateOf h events))) (key : Candidate → κ)
    (hn : (l.map (fun e => key (candidateOf h events e))).Nodup) :
    sortBy key entries = (sortBy (fun e => key (candidateOf h events e)) l).map (candidateOf h events) := by
  have hkeys : (entries.map key).Nodup := by
    rw [(hperm.map key).nodup_iff, List.map_map]
    exact hn
  rw [SortBy.sortBy_perm hperm hkeys]
  exact SortBy.sortBy_map _ _ _ _ (fun e _ => rfl)

/-- **The edges of a scope** join its representatives one after the other. -/
theorem scopeEdges_eq {l : List RawEventReceipt} {entries : List Candidate} {events : List RawEventReceipt}
    (hperm : entries.Perm (l.map (candidateOf h events))) (hids : (l.map RawEventReceipt.id).Nodup) :
    scopeEdges entries = ((chainOrder l).zip (chainOrder l).tail).map
      (fun p => ⟨(candidateOf h events p.1).node.id, (candidateOf h events p.2).node.id, .next⟩) := by
  have hall : entries.all Candidate.sequenced = l.all hasSequence := by
    rw [hperm.all_eq, List.all_map]
    refine List.all_congr rfl (fun e => ?_)
    exact sequenced_candidateOf h events e
  have hreceipt : (l.map (fun e => (ofLex (candidateOf h events e).order).2)).Nodup := by
    rw [List.Nodup, List.pairwise_map] at hids ⊢
    exact hids.imp (fun hne heq => hne (Prod.mk.inj heq).2)
  have horder : (l.map (fun e => (candidateOf h events e).order)).Nodup := by
    rw [List.Nodup, List.pairwise_map] at hreceipt ⊢
    exact hreceipt.imp (fun hne heq => hne (congrArg (fun o => (ofLex o).2) heq))
  have hordered : (if entries.all Candidate.sequenced then sortBy Candidate.order entries
      else sortBy (fun c => (ofLex c.order).2) entries) = (chainOrder l).map (candidateOf h events) := by
    unfold chainOrder
    rw [hall]
    split
    · exact sortBy_candidates hperm Candidate.order horder
    · exact sortBy_candidates hperm (fun c => (ofLex c.order).2) hreceipt
  unfold scopeEdges
  simp only [hordered]
  rw [← List.map_tail, List.zip_map, List.map_map]
  rfl

theorem scope_candidates (hp : Projected h i groups explicit found truncated m) (scope : String) :
    ((allCandidates h i groups).filter (fun c => c.executionScopeId == some scope)).Perm
      ((scopeRepresentatives i scope).map (candidateOf h i.events)) := by
  refine ((perm_allCandidates h i groups).filter _).trans ?_
  rw [List.filter_append, List.filter_append]
  have hdomain : (i.domainEvents.map (domainCandidate h)).filter (fun c => c.executionScopeId == some scope) = [] := by
    refine List.filter_eq_nil_iff.2 (fun c hc => ?_)
    obtain ⟨e, -, rfl⟩ := List.mem_map.1 hc
    exact Bool.false_ne_true
  have hstructural : (i.structuralReceipts.map (structuralCandidate h)).filter
      (fun c => c.executionScopeId == some scope) = [] := by
    refine List.filter_eq_nil_iff.2 (fun c hc => ?_)
    obtain ⟨r, -, rfl⟩ := List.mem_map.1 hc
    exact Bool.false_ne_true
  rw [hdomain, hstructural, List.append_nil, List.append_nil, groups_eq hp.grouped, List.filter_map]
  exact List.Perm.refl _

theorem mem_sequentialEdges {candidates : List Candidate} {edge : TraceEdge} : edge ∈ sequentialEdges candidates ↔
    ∃ scope, edge ∈ scopeEdges (candidates.filter (fun c => c.executionScopeId == some scope)) := by
  unfold sequentialEdges
  rw [List.mem_flatMap]
  refine ⟨fun ⟨scope, _, hmem⟩ => ⟨scope, hmem⟩, fun ⟨scope, hmem⟩ => ⟨scope, ?_, hmem⟩⟩
  -- a scope with an edge has a candidate
  obtain ⟨c, hc⟩ : ∃ c, c ∈ candidates.filter (fun c => c.executionScopeId == some scope) := by
    refine List.exists_mem_of_ne_nil _ (fun hnil => ?_)
    rw [hnil] at hmem
    cases hmem
  obtain ⟨hc, hscope⟩ := List.mem_filter.1 hc
  exact SortedSet.mem_ofList.2 (List.mem_filterMap.2 ⟨c, hc, beq_iff_eq.1 hscope⟩)

theorem nodup_scopeRepresentatives (i : TraceInput) (scope : String) : (scopeRepresentatives i scope).Nodup :=
  (nodup_representatives _).filter _

theorem scopeRepresentatives_ids (hr : Received h i) (scope : String) :
    ((scopeRepresentatives i scope).map RawEventReceipt.id).Nodup := by
  refine List.Nodup.map_on (fun d hd e he hid => ?_) (nodup_scopeRepresentatives i scope)
  have hd := ((mem_scopeRepresentatives hr).1 hd).given
  have he := ((mem_scopeRepresentatives hr).1 he).given
  exact List.inj_on_of_nodup_map hr.rawIds hd he hid

def chainOf (i : TraceInput) (scope : String) : List RawEventReceipt := chainOrder (scopeRepresentatives i scope)

theorem mem_chainOf (hr : Received h i) : e ∈ chainOf i scope ↔ Represents i.rawEvents scope e :=
  (perm_chainOrder _).mem_iff.trans (mem_scopeRepresentatives hr)

theorem nodup_chainOf (i : TraceInput) (scope : String) : (chainOf i scope).Nodup :=
  (perm_chainOrder _).nodup_iff.2 (nodup_scopeRepresentatives i scope)

/-- **A sequential edge between representatives of a scope** is a step of its chain. -/
theorem sequential_iff (hp : Projected h i groups explicit found truncated m) (hfree : h.CollisionFree (hashedParts i m))
    (hd : Represents i.rawEvents scope d) (he : Represents i.rawEvents scope e) :
    ⟨(candidateOf h i.events d).node.id, (candidateOf h i.events e).node.id, .next⟩ ∈
      sequentialEdges (allCandidates h i groups) ↔ (d, e) ∈ (chainOf i scope).zip (chainOf i scope).tail := by
  have hr := hp.received
  have hedges : ∀ scope, scopeEdges ((allCandidates h i groups).filter (fun c => c.executionScopeId == some scope)) =
      ((chainOf i scope).zip (chainOf i scope).tail).map
        (fun p => ⟨(candidateOf h i.events p.1).node.id, (candidateOf h i.events p.2).node.id, .next⟩) :=
    fun scope => scopeEdges_eq (scope_candidates hp scope) (scopeRepresentatives_ids hr scope)
  rw [mem_sequentialEdges]
  constructor
  · rintro ⟨scope', hmem⟩
    rw [hedges, List.mem_map] at hmem
    obtain ⟨⟨d', e'⟩, hpair, heq⟩ := hmem
    obtain ⟨hsource, htarget, -⟩ := TraceEdge.mk.inj heq
    obtain ⟨hd', he'⟩ := List.of_mem_zip hpair
    have hd' := (mem_chainOf hr).1 hd'
    have he' := (mem_chainOf hr).1 (List.mem_of_mem_tail he')
    obtain rfl := candidateOf_inj hp hfree (hd'.representative hr) (hd.representative hr) hsource
    obtain rfl := candidateOf_inj hp hfree (he'.representative hr) (he.representative hr) htarget
    obtain rfl := Option.some.inj (hd'.inScope.symm.trans hd.inScope)
    exact hpair
  · intro hpair
    refine ⟨scope, ?_⟩
    rw [hedges]
    exact List.mem_map.2 ⟨(d, e), hpair, rfl⟩

/-! ## Endpoints of a group -/

/-- An endpoint that leads to the group of an event: the key of the group, or one of its events. -/
def Names (h : Hashes) (events : List RawEventReceipt) (e : RawEventReceipt) (text : String) : Prop :=
  (∃ key, e.groupKey = some key ∧ text = key.text h) ∨
    ∃ d ∈ events, d.groupKey = e.groupKey ∧ text = (Receipt.raw d).endpoint

def groupParts (scope group : String) : List String := ["harness.trace.lifecycle-group.v2", scope, group]

/-- The parts that name lifecycle groups, besides those of structural receipts, nodes and branches. -/
def chainParts (i : TraceInput) (m : TraceManifest) : List (List String) :=
  hashedParts i m ++ i.rawEvents.map (fun e => groupParts (e.executionScopeId.getD "") (e.lifecycleGroupId.getD ""))

theorem chainParts_free (hfree : h.CollisionFree (chainParts i m)) : h.CollisionFree (hashedParts i m) :=
  hfree.mono (fun _ hmem => List.mem_append_left _ hmem)

theorem lifecycle_parts {scope group : String} (hkey : e.groupKey = some (.lifecycle scope group)) :
    e.executionScopeId = some scope ∧ e.lifecycleGroupId = some group := by
  unfold RawEventReceipt.groupKey at hkey
  cases hgroup : e.lifecycleGroupId with
  | none =>
    rw [hgroup] at hkey
    cases hkey
  | some group' =>
    rw [hgroup] at hkey
    obtain ⟨scope', hscope, heq⟩ := Option.map_eq_some_iff.1 hkey
    obtain ⟨rfl, rfl⟩ := GroupKey.lifecycle.inj heq
    exact ⟨hscope, rfl⟩

theorem groupText_inj (hfree : h.CollisionFree (chainParts i m)) (hd : d ∈ i.rawEvents) (he : e ∈ i.rawEvents)
    {key key' : GroupKey} (hkey : d.groupKey = some key) (hkey' : e.groupKey = some key')
    (htext : key.text h = key'.text h) : key = key' := by
  cases key with
  | raw id =>
    cases key' with
    | raw id' => rw [Texts.toString_integer_inj (append_lead_inj htext)]
    | lifecycle scope group => exact absurd htext (lead_ne (c := 'r') (d := 'l') rfl rfl (by decide))
  | lifecycle scope group =>
    cases key' with
    | raw id => exact absurd htext (lead_ne (c := 'l') (d := 'r') rfl rfl (by decide))
    | lifecycle scope' group' =>
      have hmem : ∀ {e : RawEventReceipt} {scope group : String}, e ∈ i.rawEvents →
          e.groupKey = some (.lifecycle scope group) → groupParts scope group ∈ chainParts i m := by
        intro e scope group he hkey
        obtain ⟨hscope, hgroup⟩ := lifecycle_parts hkey
        refine List.mem_append_right _ (List.mem_map.2 ⟨e, he, ?_⟩)
        rw [hscope, hgroup]
        rfl
      have hparts := hfree _ (hmem hd hkey) _ (hmem he hkey') (append_lead_inj htext)
      unfold groupParts at hparts
      have hpair := List.cons.inj (List.cons.inj hparts).2
      rw [hpair.1, (List.cons.inj hpair.2).1]

theorem names_of_resolve (hp : Projected h i groups explicit found truncated m) (hfree : h.CollisionFree (hashedParts i m))
    (he : e ∈ representatives i.events) {text : String}
    (hid : resolve h i text = some (candidateOf h i.events e).node.id) : Names h i.rawEvents e text := by
  obtain ⟨c, hc, hin, hnode, hmem, -⟩ := resolve_last hp hid
  have hown : (candidateOf h i.events e).node ∈ m.nodes := by
    rw [hp.manifest]
    exact mem_nodesOf.2 ⟨_, candidateOf_mem hp he, rfl⟩
  have hsame := List.inj_on_of_nodup_map (projected_nodeIds hp hfree) hmem hown hnode
  obtain ⟨hevent, ⟨key, hkey⟩, -⟩ := (mem_representatives hp.received.eventIds).1 he
  have hsource := (candidateOf_holds (e := e) hp.received (mem_events.1 hevent)).2 rfl
  rw [← hsame] at hsource
  rw [candidate_of_event hp hc (mem_events.1 hevent) he rfl hsource] at hin
  rcases List.mem_cons.1 hin with hin | hin
  · refine Or.inl ⟨key, hkey, ?_⟩
    rw [hin]
    unfold candidateOf
    rw [hkey]
    rfl
  · obtain ⟨source, hsource, rfl⟩ := List.mem_map.1 hin
    obtain ⟨d, hd, rfl⟩ := List.mem_map.1 hsource
    obtain ⟨hd, hgroup⟩ := List.mem_filter.1 (mem_orderGroup.1 hd)
    exact Or.inr ⟨d, mem_events.1 hd, of_decide_eq_true hgroup, rfl⟩

theorem resolve_of_names (hp : Projected h i groups explicit found truncated m) (hfree : h.CollisionFree (chainParts i m))
    (he : e ∈ representatives i.events) {text id : String} (hnames : Names h i.rawEvents e text)
    (hid : resolve h i text = some id) : id = (candidateOf h i.events e).node.id := by
  have hevent := mem_events.1 ((mem_representatives hp.received.eventIds).1 he).1
  have hraw : ∀ d ∈ i.rawEvents, d.groupKey = e.groupKey → resolve h i (Receipt.raw d).endpoint = some id →
      id = (candidateOf h i.events e).node.id := by
    intro d hd hgroup hid
    have hbuilt := resolve_own hp (a := .raw d) hd (fun b hb => (by cases hb)) hid
    exact (builtFrom_iff hp hd he hgroup).1 hbuilt
  rcases hnames with ⟨key, hkey, rfl⟩ | ⟨d, hd, hgroup, rfl⟩
  · cases key with
    | raw n =>
      -- the key of a raw event is its endpoint
      refine hraw e hevent rfl ?_
      unfold RawEventReceipt.groupKey at hkey
      cases hgroup : e.lifecycleGroupId with
      | none =>
        rw [hgroup] at hkey
        rw [← hid, ← GroupKey.raw.inj (Option.some.inj hkey)]
        rfl
      | some group =>
        rw [hgroup] at hkey
        obtain ⟨scope, -, heq⟩ := Option.map_eq_some_iff.1 hkey
        cases heq
    | lifecycle scope group =>
      obtain ⟨c, hc, hin, hnode, -, -⟩ := resolve_last hp hid
      have hsource : ∀ source : SourceReceipt, sourceKey source ≠ GroupKey.text h (.lifecycle scope group) := by
        intro source heq
        cases source with
        | rawEvent n => exact absurd heq (lead_ne (c := 'r') (d := 'l') rfl rfl (by decide))
        | domainEvent n => exact absurd heq (lead_ne (c := 'd') (d := 'l') rfl rfl (by decide))
        | structural receiptId => exact absurd heq (lead_ne (c := 's') (d := 'l') rfl rfl (by decide))
      rcases List.mem_cons.1 hin with hin | hin
      · rcases mem_candidates hp.grouped hc with ⟨key', hkey', hgroup⟩ | ⟨d, -, rfl⟩ | ⟨r, -, rfl⟩
        · obtain ⟨d, hmax, rfl⟩ := hgroup.eq
          obtain ⟨hd, hdkey, -⟩ := representative_some hmax
          have htext : GroupKey.text h (.lifecycle scope group) = key'.text h := by
            rw [hin]
            unfold candidateOf
            rw [hdkey]
            rfl
          have hsame := groupText_inj hfree hevent (mem_events.1 hd) hkey hdkey htext
          rw [← hsame] at hdkey
          have hbuilt := (candidateOf_holds (e := d) hp.received hevent).2 (hkey.trans hdkey.symm)
          rw [← hnode, candidate_of_event hp hc hevent he rfl hbuilt]
        · exact absurd hin.symm (hsource (.domainEvent d.id))
        · exact absurd hin.symm (hsource (.structural r.id))
      · obtain ⟨source, -, heq⟩ := List.mem_map.1 hin
        exact absurd heq (hsource source)
  · exact hraw d hd hgroup hid

/-- **The steps between nodes of a scope**: those of its chain, and those a relation of the input names. -/
theorem next_edge_iff (hp : Projected h i groups explicit found truncated m) (hfree : h.CollisionFree (chainParts i m))
    (hd : Represents i.rawEvents scope d) (he : Represents i.rawEvents scope e) :
    (⟨(candidateOf h i.events d).node.id, (candidateOf h i.events e).node.id, .next⟩ : TraceEdge) ∈ m.edges ↔
      (d, e) ∈ (chainOf i scope).zip (chainOf i scope).tail ∨
      ∃ r ∈ i.relations, r.kind = .next ∧ Names h i.rawEvents d r.source ∧ Names h i.rawEvents e r.target := by
  have hdrep := hd.representative hp.received
  have herep := he.representative hp.received
  have hedges : m.edges = edgesOf (allCandidates h i groups) explicit := by
    rw [hp.manifest]
    rfl
  constructor
  · intro hmem
    rw [hedges] at hmem
    rcases List.mem_append.1 (SortedSet.mem_ofList.1 hmem) with hmem | hmem
    · exact Or.inl ((sequential_iff hp (chainParts_free hfree) hd he).1 hmem)
    · obtain ⟨r, hr, hok⟩ := (mem_mapM hp.related).1 hmem
      obtain ⟨source, hsource, hok⟩ := bind_ok hok
      obtain ⟨target, htarget, hok⟩ := bind_ok hok
      obtain ⟨rfl, rfl, hkind⟩ := TraceEdge.mk.inj (Except.ok.inj hok)
      have hsource := (resolve_eq hp r.source).trans (okOr_ok hsource)
      have htarget := (resolve_eq hp r.target).trans (okOr_ok htarget)
      exact Or.inr ⟨r, hr, hkind, names_of_resolve hp (chainParts_free hfree) hdrep hsource,
        names_of_resolve hp (chainParts_free hfree) herep htarget⟩
  · rintro (hpair | ⟨r, hr, hkind, hsource, htarget⟩)
    · rw [hedges]
      exact SortedSet.mem_ofList.2 (List.mem_append_left _ ((sequential_iff hp (chainParts_free hfree) hd he).2 hpair))
    · obtain ⟨source, target, hs, ht, hmem⟩ := relation_edge hp hr
      rw [← resolve_of_names hp hfree hdrep hsource hs, ← resolve_of_names hp hfree herep htarget ht, ← hkind]
      exact hmem

end Chain

/-! ## The declared order -/

/-- The item state and the receipt order of an event, without its sequence. -/
def receiptKey (e : RawEventReceipt) : ℕ ×ₗ ℤ ×ₗ ℤ := toLex (itemStateRank e, receiptOrder e)

/-- The manifest declares that the events of the scope go by receipt order. -/
def Diagnosed (i : TraceInput) (m : TraceManifest) (scope : String) : Prop :=
  ∃ d ∈ m.diagnostics, d.code = "ambiguous_mixed_sequence_order" ∧ d.detail = "receipt_order_used" ∧
    ∃ e ∈ i.rawEvents, e.executionScopeId = some scope ∧ .rawEvent e.id ∈ d.sourceReceipts

/-- The chain of a scope through all its nodes, in the order that is declared. -/
structure DeclaredOrder (h : Hashes) (i : TraceInput) (m : TraceManifest) (scope : String) (chain : List RawEventReceipt) :
    Prop where
  distinct : chain.Nodup
  represents : ∀ e, e ∈ chain ↔ Represents i.rawEvents scope e
  built : ∀ e ∈ chain, ∃ n ∈ m.nodes, n.timestampMs = some e.receivedAt ∧ n.kind = rawKind e ∧
    ∀ id, BuiltFrom h m (.raw e) id ↔ id = n.id
  covers : ∀ d ∈ i.rawEvents, d.executionScopeId = some scope →
    ∃ e ∈ chain, ∀ id, BuiltFrom h m (.raw d) id ↔ BuiltFrom h m (.raw e) id
  simple : ∀ d ∈ chain, ∀ e ∈ chain, ∀ id, BuiltFrom h m (.raw d) id → BuiltFrom h m (.raw e) id → d = e
  next : ∀ d ∈ chain, ∀ e ∈ chain, ∀ u v, BuiltFrom h m (.raw d) u → BuiltFrom h m (.raw e) v →
    ((⟨u, v, .next⟩ : TraceEdge) ∈ m.edges ↔ (d, e) ∈ chain.zip chain.tail)
  receipt : Diagnosed i m scope → chain.Pairwise (fun d e => receiptOrder d < receiptOrder e) ∧
    ∀ e ∈ chain, ∀ d ∈ i.rawEvents, d.groupKey = e.groupKey → receiptKey d ≤ receiptKey e
  numeric : ¬ Diagnosed i m scope → (∀ e ∈ i.rawEvents, e.executionScopeId = some scope → hasSequence e = true) →
    chain.Pairwise (fun d e => sequenceNumber d ≤ sequenceNumber e)

def declaredOrder (events : List RawEventReceipt) (scope : String) (e : RawEventReceipt) : EventOrder :=
  if scope ∈ ambiguousScopes events then toLex (⊥, receiptOrder e) else eventOrder e

def RightAfter (events : List RawEventReceipt) (scope : String) (d e : RawEventReceipt) : Prop :=
  declaredOrder events scope d < declaredOrder events scope e ∧
    ∀ c, Represents events scope c → ¬ (declaredOrder events scope d < declaredOrder events scope c ∧
      declaredOrder events scope c < declaredOrder events scope e)

/-- Neither the sequences of a mixed scope nor the relations make a difference to the chain. -/
structure OrderKept (h : Hashes) (i : TraceInput) (scope : String) : Prop where
  /-- A relation of the kind that the chain is made of names a step of the chain. -/
  relations : ∀ r ∈ i.relations, r.kind = .next → ∀ d e, Represents i.rawEvents scope d →
    Represents i.rawEvents scope e → Names h i.rawEvents d r.source → Names h i.rawEvents e r.target →
    RightAfter i.rawEvents scope d e
  /-- Representatives that all have a sequence came in by it. -/
  sequences : MixesSequences i.rawEvents scope → (∀ e, Represents i.rawEvents scope e → hasSequence e = true) →
    ∀ d e, Represents i.rawEvents scope d → Represents i.rawEvents scope e → eventOrder d < eventOrder e →
    receiptOrder d < receiptOrder e
  /-- The representative of a group is the latest of it without a sequence, too. -/
  latest : MixesSequences i.rawEvents scope → ∀ e, Represents i.rawEvents scope e →
    ∀ d ∈ i.rawEvents, d.groupKey = e.groupKey → receiptKey d ≤ receiptKey e

section Declared
variable {h : Hashes} {i : TraceInput} {m : TraceManifest} {groups : List Candidate} {explicit : List TraceEdge}
  {found : List TraceBranch} {truncated : Bool} {d e : RawEventReceipt} {scope : String}

theorem diagnosed_iff (hp : Projected h i groups explicit found truncated m) :
    Diagnosed i m scope ↔ MixesSequences i.rawEvents scope := by
  constructor
  · rintro ⟨diagnostic, hmem, hcode, -, e, he, hscope, hsource⟩
    rw [hp.manifest] at hmem
    rcases List.mem_append.1 hmem with hmem | hmem
    · rcases List.mem_append.1 (SortBy.mem_sortBy.1 hmem) with hmem | hmem
      · obtain ⟨scope', hscope', rfl⟩ := List.mem_map.1 hmem
        obtain ⟨e', he', hid⟩ := List.mem_map.1 hsource
        obtain ⟨he', hin⟩ := List.mem_filter.1 he'
        obtain rfl := List.inj_on_of_nodup_map hp.received.rawIds he' he (SourceReceipt.rawEvent.inj hid)
        unfold inScope at hin
        rw [hscope] at hin
        obtain rfl := Option.some.inj (beq_iff_eq.1 hin)
        exact mem_ambiguousScopes.1 hscope'
      · rw [sequenceDiagnostic_code hmem] at hcode
        exact absurd hcode (by decide)
    · cases truncated with
      | false => cases hmem
      | true =>
        obtain rfl := List.mem_singleton.1 hmem
        exact absurd hcode (by decide)
  · intro hmix
    obtain ⟨⟨e, he, hscope, -⟩, -⟩ := id hmix
    refine ⟨ambiguousDiagnostic i.rawEvents scope, ?_, rfl, rfl, e, he, hscope, ?_⟩
    · rw [hp.manifest]
      refine List.mem_append_left _ (SortBy.mem_sortBy.2 (List.mem_append_left _ ?_))
      exact List.mem_map_of_mem (mem_ambiguousScopes.2 hmix)
    · refine List.mem_map.2 ⟨e, List.mem_filter.2 ⟨he, ?_⟩, rfl⟩
      unfold inScope
      rw [hscope, beq_self_eq_true]

theorem strictly_sorted {κ : Type} [LinearOrder κ] {key : RawEventReceipt → κ} {l : List RawEventReceipt}
    (hn : (l.map key).Nodup) : (sortBy key l).Pairwise (fun d e => key d < key e) := by
  have hkeys : ((sortBy key l).map key).Nodup := ((SortBy.perm_sortBy key l).map key).nodup_iff.2 hn
  rw [List.Nodup, List.pairwise_map] at hkeys
  exact ((SortBy.sorted_sortBy key l).and hkeys).imp (fun hboth => lt_of_le_of_ne hboth.1 hboth.2)

theorem chainOf_sequenced (hr : Received h i) (hall : ∀ e, Represents i.rawEvents scope e → hasSequence e = true) :
    (chainOf i scope).Pairwise (fun d e => eventOrder d < eventOrder e) := by
  have htrue : (scopeRepresentatives i scope).all hasSequence = true :=
    List.all_eq_true.2 (fun e he => hall e ((mem_scopeRepresentatives hr).1 he))
  have hids := scopeRepresentatives_ids hr scope
  unfold chainOf chainOrder
  rw [if_pos htrue]
  refine strictly_sorted ?_
  rw [List.Nodup, List.pairwise_map] at hids ⊢
  exact hids.imp (fun hne heq => hne (Prod.mk.inj (Prod.mk.inj heq).2).2)

theorem chainOf_received (hr : Received h i) (hnot : ¬ ∀ e, Represents i.rawEvents scope e → hasSequence e = true) :
    (chainOf i scope).Pairwise (fun d e => receiptOrder d < receiptOrder e) := by
  have hfalse : ¬ (scopeRepresentatives i scope).all hasSequence = true := fun htrue =>
    hnot (fun e he => List.all_eq_true.1 htrue e ((mem_scopeRepresentatives hr).2 he))
  have hids := scopeRepresentatives_ids hr scope
  unfold chainOf chainOrder
  rw [if_neg hfalse]
  refine strictly_sorted ?_
  rw [List.Nodup, List.pairwise_map] at hids ⊢
  exact hids.imp (fun hne heq => hne (Prod.mk.inj heq).2)

theorem eventOrder_unsequenced (hd : hasSequence d = false) : eventOrder d = toLex (⊥, receiptOrder d) := by
  rw [hasSequence_eq, Option.isSome_eq_false_iff, Option.isNone_iff_eq_none] at hd
  unfold eventOrder receiptOrder
  rw [hd]
  rfl

theorem unsequenced_lt (hlt : receiptOrder d < receiptOrder e) :
    (toLex (⊥, receiptOrder d) : EventOrder) < toLex (⊥, receiptOrder e) := Prod.Lex.toLex_lt_toLex.2 (Or.inr ⟨rfl, hlt⟩)

/-- **The chain is in the declared order** where the sequences of a mixed scope make no difference. -/
theorem chainOf_declared (hr : Received h i) (hsequences : MixesSequences i.rawEvents scope →
      (∀ e, Represents i.rawEvents scope e → hasSequence e = true) → ∀ d e, Represents i.rawEvents scope d →
      Represents i.rawEvents scope e → eventOrder d < eventOrder e → receiptOrder d < receiptOrder e) :
    (chainOf i scope).Pairwise (fun d e => declaredOrder i.rawEvents scope d < declaredOrder i.rawEvents scope e) := by
  unfold declaredOrder
  by_cases hmix : MixesSequences i.rawEvents scope
  · simp only [if_pos (mem_ambiguousScopes.2 hmix)]
    by_cases hall : ∀ e, Represents i.rawEvents scope e → hasSequence e = true
    · refine (chainOf_sequenced hr hall).imp_of_mem (fun hd he hlt => unsequenced_lt ?_)
      exact hsequences hmix hall _ _ ((mem_chainOf hr).1 hd) ((mem_chainOf hr).1 he) hlt
    · exact (chainOf_received hr hall).imp unsequenced_lt
  · simp only [if_neg (fun hmem => hmix (mem_ambiguousScopes.1 hmem))]
    by_cases hall : ∀ e, Represents i.rawEvents scope e → hasSequence e = true
    · exact chainOf_sequenced hr hall
    · -- one event has no sequence, so none has
      have hnone : ∀ e ∈ chainOf i scope, hasSequence e = false := by
        intro e he
        have hrep := (mem_chainOf hr).1 he
        by_contra hsome
        push Not at hall
        obtain ⟨d, hd, hdnone⟩ := hall
        exact hmix ⟨⟨e, hrep.given, hrep.inScope, Bool.not_eq_false _ ▸ hsome⟩,
          d, hd.given, hd.inScope, Bool.eq_false_iff.2 hdnone⟩
      refine (chainOf_received hr hall).imp_of_mem (fun hd he hlt => ?_)
      rw [eventOrder_unsequenced (hnone _ hd), eventOrder_unsequenced (hnone _ he)]
      exact unsequenced_lt hlt

theorem DeclaredOrder.eq (hp : Projected h i groups explicit found truncated m) (hfree : h.CollisionFree (chainParts i m))
    {chain : List RawEventReceipt} (hc : DeclaredOrder h i m scope chain) : chainOf i scope = chain := by
  have hr := hp.received
  have hperm : (chainOf i scope).Perm chain := by
    refine (List.perm_ext_iff_of_nodup (nodup_chainOf i scope) hc.distinct).2 (fun e => ?_)
    rw [mem_chainOf hr, hc.represents]
  refine Consecutive.eq_of_zip_tail hc.distinct hperm (fun p hpair => ?_)
  obtain ⟨d, e⟩ := p
  obtain ⟨hd, he⟩ := List.of_mem_zip hpair
  have he := List.mem_of_mem_tail he
  have hdrep := (mem_chainOf hr).1 hd
  have herep := (mem_chainOf hr).1 he
  refine (hc.next d (hperm.mem_iff.1 hd) e (hperm.mem_iff.1 he) _ _
    ((builtFrom_iff hp hdrep.given (hdrep.representative hr) rfl).2 rfl)
    ((builtFrom_iff hp herep.given (herep.representative hr) rfl).2 rfl)).1 ?_
  exact (next_edge_iff hp hfree hdrep herep).2 (Or.inl hpair)

theorem orders_agree {l : List RawEventReceipt} (hevent : l.Pairwise (fun d e => eventOrder d < eventOrder e))
    (hreceipt : l.Pairwise (fun d e => receiptOrder d < receiptOrder e)) (hd : d ∈ l) (he : e ∈ l)
    (hlt : eventOrder d < eventOrder e) : receiptOrder d < receiptOrder e := by
  have hboth := (hevent.and hreceipt).imp (fun {d e} hde => show
    (eventOrder d < eventOrder e ∧ receiptOrder d < receiptOrder e) ∨
      eventOrder e < eventOrder d ∧ receiptOrder e < receiptOrder d from Or.inl hde)
  have hsymm : Std.Symm (fun d e => (eventOrder d < eventOrder e ∧ receiptOrder d < receiptOrder e) ∨
      eventOrder e < eventOrder d ∧ receiptOrder e < receiptOrder d) := ⟨fun _ _ hde => Or.symm hde⟩
  have hne : d ≠ e := fun heq => lt_irrefl _ (heq ▸ hlt)
  rcases hboth.forall hd he hne with hde | hed
  · exact hde.2
  · exact absurd hlt (lt_asymm hed.1)

theorem DeclaredOrder.kept (hp : Projected h i groups explicit found truncated m) (hfree : h.CollisionFree (chainParts i m))
    {chain : List RawEventReceipt} (hc : DeclaredOrder h i m scope chain) : OrderKept h i scope := by
  have hr := hp.received
  obtain rfl := hc.eq hp hfree
  have hsequences : MixesSequences i.rawEvents scope → (∀ e, Represents i.rawEvents scope e → hasSequence e = true) →
      ∀ d e, Represents i.rawEvents scope d → Represents i.rawEvents scope e → eventOrder d < eventOrder e →
      receiptOrder d < receiptOrder e := by
    intro hmix hall d e hd he hlt
    exact orders_agree (chainOf_sequenced hr hall) (hc.receipt ((diagnosed_iff hp).2 hmix)).1
      ((mem_chainOf hr).2 hd) ((mem_chainOf hr).2 he) hlt
  refine ⟨fun r hmem hkind d e hd he hsource htarget => ?_, hsequences, fun hmix e he => ?_⟩
  · have hbuilt : ∀ e, Represents i.rawEvents scope e → BuiltFrom h m (.raw e) (candidateOf h i.events e).node.id :=
      fun e he => (builtFrom_iff hp he.given (he.representative hr) rfl).2 rfl
    have hedge := (next_edge_iff hp hfree hd he).2 (Or.inr ⟨r, hmem, hkind, hsource, htarget⟩)
    have hpair := (hc.next d ((mem_chainOf hr).2 hd) e ((mem_chainOf hr).2 he) _ _ (hbuilt d hd) (hbuilt e he)).1 hedge
    obtain ⟨-, -, hlt, hnone⟩ := (Consecutive.mem_zip_tail_iff (chainOf_declared hr hsequences)).1 hpair
    exact ⟨hlt, fun c hc => hnone c ((mem_chainOf hr).2 hc)⟩
  · exact (hc.receipt ((diagnosed_iff hp).2 hmix)).2 e ((mem_chainOf hr).2 he)

theorem chainOf_numeric (hr : Received h i)
    (hall : ∀ e ∈ i.rawEvents, e.executionScopeId = some scope → hasSequence e = true) :
    (chainOf i scope).Pairwise (fun d e => sequenceNumber d ≤ sequenceNumber e) := by
  have hrep : ∀ e, Represents i.rawEvents scope e → hasSequence e = true := fun e he => hall e he.given he.inScope
  refine (chainOf_sequenced hr hrep).imp_of_mem (fun {d e} hd he hlt => ?_)
  have hd := hrep d ((mem_chainOf hr).1 hd)
  have he := hrep e ((mem_chainOf hr).1 he)
  rw [hasSequence_eq, Option.isSome_iff_exists] at hd he
  obtain ⟨p, hp⟩ := hd
  obtain ⟨q, hq⟩ := he
  refine sequenceNumber_le hp hq ?_
  have hfirst : (ofLex (eventOrder d)).1 ≤ (ofLex (eventOrder e)).1 := by
    rcases Prod.Lex.lt_iff.1 hlt with hlt | ⟨heq, -⟩
    · exact le_of_lt hlt
    · exact le_of_eq heq
  unfold eventOrder at hfirst
  rw [hp, hq] at hfirst
  exact WithBot.coe_le_coe.1 hfirst

theorem OrderKept.declared (hp : Projected h i groups explicit found truncated m)
    (hfree : h.CollisionFree (chainParts i m)) (hk : OrderKept h i scope) :
    DeclaredOrder h i m scope (chainOf i scope) := by
  have hr := hp.received
  have hdeclared := chainOf_declared hr hk.sequences
  have hbuilt : ∀ e ∈ chainOf i scope, ∀ d ∈ i.rawEvents, d.groupKey = e.groupKey → ∀ id,
      BuiltFrom h m (.raw d) id ↔ id = (candidateOf h i.events e).node.id := by
    intro e he d hd hgroup id
    exact builtFrom_iff hp hd (((mem_chainOf hr).1 he).representative hr) hgroup
  have hgiven : ∀ e ∈ chainOf i scope, e ∈ i.rawEvents := fun e he => ((mem_chainOf hr).1 he).given
  refine ⟨nodup_chainOf i scope, fun e => mem_chainOf hr, fun e he => ?_, fun d hd hscope => ?_,
    fun d hd e he id hdid heid => ?_, fun d hd e he u v hu hv => ?_, fun hdiagnosed => ?_, fun _ => chainOf_numeric hr⟩
  · refine ⟨(candidateOf h i.events e).node, ?_, rfl, rfl, hbuilt e he e (hgiven e he) rfl⟩
    rw [hp.manifest]
    exact mem_nodesOf.2 ⟨_, candidateOf_mem hp (((mem_chainOf hr).1 he).representative hr), rfl⟩
  · obtain ⟨e, he, hgroup⟩ := exists_representative hr hd hscope
    have he := (mem_chainOf hr).2 he
    refine ⟨e, he, fun id => ?_⟩
    rw [hbuilt e he d hd hgroup, hbuilt e he e (hgiven e he) rfl]
  · rw [hbuilt d hd d (hgiven d hd) rfl] at hdid
    rw [hbuilt e he e (hgiven e he) rfl] at heid
    exact candidateOf_inj hp (chainParts_free hfree) (((mem_chainOf hr).1 hd).representative hr)
      (((mem_chainOf hr).1 he).representative hr) (hdid.symm.trans heid)
  · rw [hbuilt d hd d (hgiven d hd) rfl] at hu
    rw [hbuilt e he e (hgiven e he) rfl] at hv
    rw [hu, hv, next_edge_iff hp hfree ((mem_chainOf hr).1 hd) ((mem_chainOf hr).1 he)]
    refine ⟨fun hstep => ?_, Or.inl⟩
    rcases hstep with hpair | ⟨r, hmem, hkind, hsource, htarget⟩
    · exact hpair
    · obtain ⟨hlt, hnone⟩ := hk.relations r hmem hkind d e ((mem_chainOf hr).1 hd) ((mem_chainOf hr).1 he) hsource htarget
      exact (Consecutive.mem_zip_tail_iff hdeclared).2 ⟨hd, he, hlt, fun c hc => hnone c ((mem_chainOf hr).1 hc)⟩
  · have hmix := (diagnosed_iff hp).1 hdiagnosed
    refine ⟨?_, fun e he => hk.latest hmix e ((mem_chainOf hr).1 he)⟩
    unfold declaredOrder at hdeclared
    simp only [if_pos (mem_ambiguousScopes.2 hmix)] at hdeclared
    refine hdeclared.imp (fun hlt => ?_)
    rcases Prod.Lex.toLex_lt_toLex.1 hlt with hlt | ⟨-, hlt⟩
    · exact absurd hlt (lt_irrefl _)
    · exact hlt

end Declared

/-- **The nodes of a scope are one chain in the declared order exactly where** no relation of the input adds a step to it
and, if the scope mixes sequences, they make no difference to its representatives and to their order. -/
theorem declared_order_iff (h : Hashes) (i : TraceInput) (m : TraceManifest) (hok : project h i = .ok m)
    (hfree : h.CollisionFree (chainParts i m)) (scope : String) :
    (∃ chain, DeclaredOrder h i m scope chain) ↔ OrderKept h i scope := by
  obtain ⟨groups, explicit, found, truncated, hp⟩ := project_ok hok
  exact ⟨fun ⟨chain, hc⟩ => hc.kept hp hfree, fun hk => ⟨chainOf i scope, hk.declared hp hfree⟩⟩

/-! ## A mixed scope of two groups -/

def heldStarted : RawEventReceipt := { itemStarted with sourceSequence := none }

def heldCompleted : RawEventReceipt := { itemCompleted with sourceSequence := some "2" }

def eventAfter (sequence : String) : RawEventReceipt :=
  { itemEvent 3 "item/completed" 1002 (agentMessage "other")
      "9830a4b278d390e1e9b8d09b3b4dda63f4d9c44757b4612e55e9b52f9f8d8317" (some sequence) with lifecycleGroupId := none }

/-- The start of the item has no sequence; its completion and the event after it have one. -/
def heldInput (sequence : String) : TraceInput :=
  { itemInput with
    rawEvents := [heldStarted, heldCompleted, eventAfter sequence]
    structuralReceipts := []
    relations := [] }

def lateNode : TraceNode :=
  ⟨"n_20099cfb43eb6d70f22246f369dc0531505c360ca7e72c587c325b940970107e", "model_message", itemContent, [.rawEvent 3],
    "content_withheld", some 1002, [("receipt_count", .num (.pos 1))]⟩

/-- The manifest whose chain leads from one of the two nodes to the other. -/
def heldManifest (branch source target : String) : TraceManifest :=
  { itemManifest [.rawEvent 1, .rawEvent 2, .rawEvent 3] with
    sourceEventRange := some ⟨1, 3⟩
    nodes := [lateNode, itemNode]
    edges := [⟨source, target, .next⟩]
    branches := [⟨branch, source, target, [source, target], [("path_bound", .num (.pos 256))]⟩] }

def heldDigests : List (List String × String) :=
  [(["harness.trace.lifecycle-group.v2", "session-1", "item-1"],
      "506efb03d16e17d3e6acef05cb6a8c30d6d08778361118aa42835f2dfd9a6cb4"),
    (contentParts "model_message" (redact (agentMessage "second") "none").1, itemContent),
    (nodeParts "model_message" [.rawEvent 1, .rawEvent 2] itemContent,
      "e1777a5b426021dd2dd64c63ae436231aea3fafd9d8d0c620885eeda3d51c480"),
    (nodeParts "model_message" [.rawEvent 3] itemContent,
      "20099cfb43eb6d70f22246f369dc0531505c360ca7e72c587c325b940970107e"),
    (branchParts itemNode.id [itemNode.id, lateNode.id],
      "60ea1587af15b6e4957ca5c8e4ca92ffb68bc137dd5d23b82ccc1c276f671f21"),
    (branchParts lateNode.id [lateNode.id, itemNode.id],
      "338ee66554a84aea6aac7dd4aad5170fc941947e9aed761296e3a2dcc67fa2e0")]

/-- The item's node first. -/
def receivedManifest : TraceManifest :=
  heldManifest "b_60ea1587af15b6e4957ca5c8e4ca92ffb68bc137dd5d23b82ccc1c276f671f21" itemNode.id lateNode.id

/-- The node of the later event first. -/
def sequencedManifest : TraceManifest :=
  heldManifest "b_338ee66554a84aea6aac7dd4aad5170fc941947e9aed761296e3a2dcc67fa2e0" lateNode.id itemNode.id

def heldHashes : Hashes := tabled
  (heldDigests ++
    [(manifestParts receivedManifest, "9b0b04f0a59daba4223634ebc070acb139fb083450c99b0e0a5ae1a7aedbe93e"),
      (manifestParts sequencedManifest, "cccb1eb2670ee38b40fcabf843c283b95f17fcd3d5755a824f78586785dc2117")]) itemPayloads
  (by
    unfold heldDigests
    repeat refine all_isDigest_cons (isDigest_ofList (by decide)) ?_
    rfl) itemPayloads_hex

theorem represents_held {sequence : String} {e : RawEventReceipt}
    (he : Represents (heldInput sequence).rawEvents "session-1" e) : e = heldCompleted ∨ e = eventAfter sequence := by
  rcases List.mem_cons.1 he.given with rfl | hmem
  · exact absurd (he.latest heldCompleted (List.mem_cons_of_mem _ List.mem_cons_self) rfl) (by decide)
  · rcases List.mem_cons.1 hmem with rfl | hmem
    · exact Or.inl rfl
    · exact Or.inr (List.mem_singleton.1 hmem)

/-- With a higher sequence, the later event follows the item. -/
theorem declared_order_held :
    ∃ chain, DeclaredOrder heldHashes (heldInput "3") (TraceManifest.sign heldHashes receivedManifest) "session-1" chain := by
  have hprojected : project heldHashes (heldInput "3") = .ok (TraceManifest.sign heldHashes receivedManifest) :=
    project_signed (by decide +kernel)
  refine (declared_order_iff heldHashes (heldInput "3") (TraceManifest.sign heldHashes receivedManifest) hprojected ?_
    "session-1").2 ⟨fun r hr => ?_, fun _ _ d e hd he hlt => ?_, fun _ e he => ?_⟩
  · unfold Hashes.CollisionFree
    decide +kernel
  · cases hr
  · rcases represents_held hd with rfl | rfl
    · rcases represents_held he with rfl | rfl
      · exact absurd hlt (lt_irrefl _)
      · decide
    · rcases represents_held he with rfl | rfl
      · exact absurd hlt (by decide)
      · exact absurd hlt (lt_irrefl _)
  · rcases represents_held he with rfl | rfl
    · decide
    · decide

/-- **The later event comes first**, while the manifest declares receipt order. -/
theorem mixed_scope_sequenced :
    project heldHashes (heldInput "1") = .ok (TraceManifest.sign heldHashes sequencedManifest) ∧
      ¬ ∃ chain, DeclaredOrder heldHashes (heldInput "1") (TraceManifest.sign heldHashes sequencedManifest) "session-1"
        chain := by
  refine ⟨project_signed (by decide +kernel), ?_⟩
  rintro ⟨chain, hc⟩
  have hdiagnosed : Diagnosed (heldInput "1") (TraceManifest.sign heldHashes sequencedManifest) "session-1" :=
    ⟨_, List.mem_cons_self, rfl, rfl, heldStarted, List.mem_cons_self, rfl, List.mem_cons_self⟩
  have hlate : eventAfter "1" ∈ chain := (hc.represents (eventAfter "1")).2
    ⟨List.mem_cons_of_mem _ (List.mem_cons_of_mem _ List.mem_cons_self), rfl, by unfold Latest; decide⟩
  have hcompleted : heldCompleted ∈ chain := (hc.represents heldCompleted).2
    ⟨List.mem_cons_of_mem _ List.mem_cons_self, rfl, by unfold Latest; decide⟩
  have hpair := (hc.next (eventAfter "1") hlate heldCompleted hcompleted lateNode.id itemNode.id
    ⟨lateNode, List.mem_cons_self, rfl, List.mem_cons_self⟩
    ⟨itemNode, List.mem_cons_of_mem _ List.mem_cons_self, rfl, List.mem_cons_of_mem _ List.mem_cons_self⟩).1
    List.mem_cons_self
  obtain ⟨s, t, rfl⟩ := Consecutive.mem_zip_tail.1 hpair
  have hsorted := (List.pairwise_append.1 (hc.receipt hdiagnosed).1).2.1
  exact absurd ((List.pairwise_cons.1 hsorted).1 heldCompleted List.mem_cons_self) (by decide)

end TraceDag
end Bildr
