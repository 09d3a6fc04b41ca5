import Bildr.TraceAgreement
import Bildr.TraceOrder
/-!
# TraceRelations — what the endpoints of a relation lead to

Candidates are found under their own key and under the keys of their sources, and a later candidate takes the place of an
earlier one (`keysOf_lookup_some`).  Raw and domain events are found where they are; a structural receipt whose id is the
digested name of another one, with a later key, is not (`relations_connect_iff`).
-/
namespace Bildr
namespace TraceDag

open SortBy (sortBy)

/-! ## Looking up a key -/

def Candidate.keys (c : Candidate) : List String := c.key :: c.node.sourceReceipts.map sourceKey

theorem lookup_insert (m : KeyMap) (key id text : String) :
    (m.insert key id).lookup text = if text = key then some id else m.lookup text := by
  unfold KeyMap.insert
  rw [List.lookup_cons]
  by_cases heq : text = key
  · rw [if_pos heq, heq, beq_self_eq_true]
  · rw [if_neg heq, beq_eq_false_iff_ne.2 heq]
    -- the older entry is not one of the text
    show (m.filter (fun p => p.1 != key)).lookup text = m.lookup text
    induction m with
    | nil => rfl
    | cons p m ih =>
      obtain ⟨k, v⟩ := p
      by_cases hk : k = key
      · subst hk
        rw [List.filter_cons_of_neg (by simp), ih, List.lookup_cons, beq_eq_false_iff_ne.2 heq]
      · rw [List.filter_cons_of_pos (by simpa using hk), List.lookup_cons, List.lookup_cons, ih]

theorem lookup_candidateKeys (c : Candidate) (text : String) (m : KeyMap) :
    (candidateKeys m c).lookup text = if text ∈ c.keys then some c.node.id else m.lookup text := by
  have hfold : ∀ (keys : List String) (m : KeyMap), (keys.foldl (fun keys key => keys.insert key c.node.id) m).lookup text =
      if text ∈ keys then some c.node.id else m.lookup text := by
    intro keys
    induction keys with
    | nil => exact fun m => (if_neg List.not_mem_nil).symm
    | cons key keys ih =>
      intro m
      rw [List.foldl_cons, ih, lookup_insert]
      by_cases hin : text ∈ keys
      · rw [if_pos hin, if_pos (List.mem_cons_of_mem key hin)]
      · rw [if_neg hin]
        by_cases heq : text = key
        · rw [if_pos heq, if_pos (List.mem_cons.2 (Or.inl heq))]
        · rw [if_neg heq, if_neg (fun h => (List.mem_cons.1 h).elim heq hin)]
  exact hfold c.keys m

theorem keysOf_lookup_some {text id : String} : ∀ {candidates : List Candidate}, (keysOf candidates).lookup text = some id →
    ∃ pre c post, candidates = pre ++ c :: post ∧ text ∈ c.keys ∧ c.node.id = id ∧ ∀ d ∈ post, text ∉ d.keys := by
  intro candidates
  induction candidates using List.reverseRecOn with
  | nil => exact fun h => (by cases h)
  | append_singleton candidates c ih =>
    intro h
    unfold keysOf at h ih
    rw [List.foldl_append, List.foldl_cons, List.foldl_nil, lookup_candidateKeys] at h
    by_cases hin : text ∈ c.keys
    · rw [if_pos hin] at h
      exact ⟨candidates, c, [], rfl, hin, Option.some.inj h, fun d hd => (by cases hd)⟩
    · rw [if_neg hin] at h
      obtain ⟨pre, c', post, rfl, hc, hid, hpost⟩ := ih h
      refine ⟨pre, c', post ++ [c], by simp, hc, hid, fun d hd => ?_⟩
      rcases List.mem_append.1 hd with hd | hd
      · exact hpost d hd
      · exact List.mem_singleton.1 hd ▸ hin

/-! ## Endpoints -/

inductive Receipt
  | raw (e : RawEventReceipt)
  | domain (e : DomainEventReceipt)
  | structural (r : StructuralReceipt)

def Receipt.Supplied (i : TraceInput) : Receipt → Prop
  | .raw e        => e ∈ i.rawEvents
  | .domain e     => e ∈ i.domainEvents
  | .structural r => r ∈ i.structuralReceipts

def Receipt.endpoint : Receipt → String
  | .raw e        => "raw:" ++ toString e.id
  | .domain e     => "domain:" ++ toString e.id
  | .structural r => "structural:" ++ r.id

def Receipt.source (h : Hashes) : Receipt → SourceReceipt
  | .raw e        => .rawEvent e.id
  | .domain e     => .domainEvent e.id
  | .structural r => structuralSource h r

section Endpoints
variable (h : Hashes) (i : TraceInput) (m : TraceManifest)

def BuiltFrom (a : Receipt) (id : String) : Prop := ∃ n ∈ m.nodes, n.id = id ∧ a.source h ∈ n.sourceReceipts

/-- What `project` looks an endpoint up as. -/
def resolve (text : String) : Option String :=
  match groupRawEvents h (orderEvents i.rawEvents).1 with
  | .ok (groups, _) => (keysOf (allCandidates h i groups)).lookup text
  | .error _        => none

/-- A relation between receipts is an edge between their nodes, and an endpoint leads to the node of its own receipt. -/
def RelationsConnect : Prop := ∀ r ∈ i.relations,
  (∀ a b : Receipt, a.Supplied i → b.Supplied i → r.source = a.endpoint → r.target = b.endpoint →
    ∃ e ∈ m.edges, e.kind = r.kind ∧ BuiltFrom h m a e.source ∧ BuiltFrom h m b e.target) ∧
  ∀ a : Receipt, a.Supplied i → ∀ text ∈ [r.source, r.target], text = a.endpoint →
    ∀ id, resolve h i text = some id → BuiltFrom h m a id

/-- The id of the receipt is the digested name of another one, whose key comes later. -/
def Shadowed (b : StructuralReceipt) : Prop := ∃ a ∈ i.structuralReceipts,
  b.id = "r_" ++ h.digest (structuralReceiptParts a) ∧ (structuralCandidate h b).key < (structuralCandidate h a).key

end Endpoints

def Receipt.written : Receipt → SourceReceipt
  | .raw e        => .rawEvent e.id
  | .domain e     => .domainEvent e.id
  | .structural r => .structural r.id

theorem Receipt.endpoint_eq : ∀ a : Receipt, a.endpoint = sourceKey a.written
  | .raw _        => rfl
  | .domain _     => rfl
  | .structural _ => rfl

theorem Receipt.endpoint_ne_lifecycle (a : Receipt) (text : String) : "lifecycle:" ++ text ≠ a.endpoint := by
  cases a with
  | raw e => exact lead_ne (c := 'l') (d := 'r') rfl rfl (by decide)
  | domain e => exact lead_ne (c := 'l') (d := 'd') rfl rfl (by decide)
  | structural r => exact lead_ne (c := 'l') (d := 's') rfl rfl (by decide)

section Resolve
variable {h : Hashes} {i : TraceInput} {m : TraceManifest} {groups : List Candidate} {explicit : List TraceEdge}
  {found : List TraceBranch} {truncated : Bool}

theorem resolve_eq (hp : Projected h i groups explicit found truncated m) (text : String) :
    resolve h i text = (keysOf (allCandidates h i groups)).lookup text := by
  obtain ⟨groups', hgroups, hall⟩ := groupRawEvents_total (h := h) hp.received.groupKey
  obtain rfl := groups_unique hall hp.grouped
  unfold resolve
  rw [hgroups]

theorem group_holds (hr : Received h i) {key : GroupKey} {c : Candidate} (hkey : key ∈ groupKeys (orderEvents i.rawEvents).1)
    (hc : GroupCandidate h (orderEvents i.rawEvents).1 key c) {a : Receipt} (ha : a.Supplied i) (hin : a.endpoint ∈ c.keys) :
    a.source h ∈ c.node.sourceReceipts := by
  -- either way the endpoint is the key of a raw event of the group
  have hraw : ∃ e ∈ i.rawEvents, e.groupKey = some key ∧ sourceKey (.rawEvent e.id) = a.endpoint := by
    rcases List.mem_cons.1 hin with hin | hin
    · obtain ⟨e, he, hekey⟩ := mem_groupKeys.1 hkey
      have htext : c.key = key.text h := by
        obtain ⟨latest, -, -, rfl⟩ := hc
        rfl
      rw [htext] at hin
      cases key with
      | lifecycle scope group => exact absurd hin.symm (a.endpoint_ne_lifecycle _)
      | raw id =>
        refine ⟨e, (orderEvents_perm i.rawEvents).mem_iff.1 he, hekey, ?_⟩
        have hid : e.id = id := by
          unfold RawEventReceipt.groupKey at hekey
          cases hgroup : e.lifecycleGroupId with
          | none =>
            rw [hgroup] at hekey
            exact GroupKey.raw.inj (Option.some.inj hekey)
          | some group =>
            rw [hgroup] at hekey
            obtain ⟨scope, -, hscope⟩ := Option.map_eq_some_iff.1 hekey
            cases hscope
        rw [hid, hin]
        rfl
    · obtain ⟨source, hsource, hkeyed⟩ := List.mem_map.1 hin
      obtain ⟨e, he, rfl⟩ := List.mem_map.1 (hc.sources.mem_iff.1 hsource)
      obtain ⟨he, hekey⟩ := mem_groupMembers.1 he
      exact ⟨e, (orderEvents_perm i.rawEvents).mem_iff.1 he, hekey, hkeyed⟩
  obtain ⟨e, he, hekey, hsame⟩ := hraw
  rw [a.endpoint_eq] at hsame
  have hwritten := sourceKey_inj hsame
  cases a with
  | raw e' =>
    have hid : e.id = e'.id := SourceReceipt.rawEvent.inj hwritten
    show SourceReceipt.rawEvent e'.id ∈ _
    rw [← hid]
    exact (hc.holds hr he).2 hekey
  | domain e' => cases hwritten
  | structural r => cases hwritten

theorem found_source (hr : Received h i) (hgroups : List.Forall₂ (GroupCandidate h (orderEvents i.rawEvents).1)
    (groupKeys (orderEvents i.rawEvents).1) groups) {c : Candidate} (hc : c ∈ allCandidates h i groups) {a : Receipt}
    (ha : a.Supplied i) (hin : a.endpoint ∈ c.keys) : a.source h ∈ c.node.sourceReceipts ∨
      ∃ b, a = .structural b ∧ ∃ r ∈ i.structuralReceipts, c = structuralCandidate h r ∧
        b.id = "r_" ++ h.digest (structuralReceiptParts r) := by
  rcases mem_candidates hgroups hc with ⟨key, hkey, hgroup⟩ | ⟨e, -, rfl⟩ | ⟨r, hr', rfl⟩
  · exact Or.inl (group_holds hr hkey hgroup ha hin)
  · have hkeyed : sourceKey (.domainEvent e.id) = sourceKey a.written := by
      rw [← a.endpoint_eq]
      rcases List.mem_cons.1 hin with hin | hin
      · exact hin.symm
      · exact (List.mem_singleton.1 hin).symm
    have hwritten := sourceKey_inj hkeyed
    cases a with
    | raw e' => cases hwritten
    | domain e' => exact Or.inl (List.mem_singleton.2 hwritten.symm)
    | structural b => cases hwritten
  · rcases List.mem_cons.1 hin with hin | hin
    · have hkeyed : sourceKey (.structural r.id) = sourceKey a.written := by
        rw [← a.endpoint_eq]
        exact hin.symm
      have hwritten := sourceKey_inj hkeyed
      cases a with
      | raw e' => cases hwritten
      | domain e' => cases hwritten
      | structural b =>
        refine Or.inl (List.mem_singleton.2 ?_)
        show structuralSource h b = structuralSource h r
        unfold structuralSource structuralReceiptParts
        rw [SourceReceipt.structural.inj hwritten]
    · have hkeyed : sourceKey (structuralSource h r) = sourceKey a.written := by
        rw [← a.endpoint_eq]
        exact (List.mem_singleton.1 hin).symm
      have hwritten := sourceKey_inj hkeyed
      cases a with
      | raw e' => cases hwritten
      | domain e' => cases hwritten
      | structural b => exact Or.inr ⟨b, rfl, r, hr', rfl, (SourceReceipt.structural.inj hwritten).symm⟩

theorem resolve_last (hp : Projected h i groups explicit found truncated m) {text id : String}
    (hid : resolve h i text = some id) : ∃ c ∈ allCandidates h i groups, text ∈ c.keys ∧ c.node.id = id ∧
      c.node ∈ m.nodes ∧ ∀ d ∈ allCandidates h i groups, text ∈ d.keys → d.key ≤ c.key := by
  rw [resolve_eq hp] at hid
  obtain ⟨pre, c, post, hall, hin, hnode, hpost⟩ := keysOf_lookup_some hid
  have hc : c ∈ allCandidates h i groups := hall ▸ List.mem_append_right _ List.mem_cons_self
  refine ⟨c, hc, hin, hnode, ?_, fun d hd hdin => ?_⟩
  · rw [hp.manifest]
    exact mem_nodesOf.2 ⟨c, hc, rfl⟩
  · have hsorted : (allCandidates h i groups).Pairwise (fun a b => a.key ≤ b.key) := SortBy.sorted_sortBy _ _
    rw [hall, List.pairwise_append] at hsorted
    rw [hall] at hd
    rcases List.mem_append.1 hd with hd | hd
    · exact hsorted.2.2 d hd c List.mem_cons_self
    · rcases List.mem_cons.1 hd with rfl | hd
      · exact le_refl _
      · exact absurd hdin (hpost d hd)

theorem resolve_own (hp : Projected h i groups explicit found truncated m) {a : Receipt} (ha : a.Supplied i)
    (hclear : ∀ b, a = .structural b → ¬ Shadowed h i b) {id : String} (hid : resolve h i a.endpoint = some id) :
    BuiltFrom h m a id := by
  obtain ⟨c, hc, hin, hnode, hmem, hlast⟩ := resolve_last hp hid
  rcases found_source hp.received hp.grouped hc ha hin with hsource | ⟨b, rfl, r, hr, rfl, hname⟩
  · exact ⟨c.node, hmem, hnode, hsource⟩
  · -- the own candidate does not come later, so it is this one
    have hown : structuralCandidate h b ∈ allCandidates h i groups :=
      (perm_allCandidates h i groups).mem_iff.2 (List.mem_append_right _ (List.mem_map_of_mem ha))
    have hle := hlast _ hown List.mem_cons_self
    have hsame : (structuralCandidate h b).key = (structuralCandidate h r).key := by
      refine le_antisymm hle (not_lt.1 (fun hlt => ?_))
      exact hclear b rfl ⟨r, hr, hname, hlt⟩
    have hids : b.id = r.id := append_lead_inj hsame
    refine ⟨_, hmem, hnode, List.mem_singleton.2 ?_⟩
    show structuralSource h b = structuralSource h r
    unfold structuralSource structuralReceiptParts
    rw [hids]

theorem projected_nodeIds (hp : Projected h i groups explicit found truncated m)
    (hfree : h.CollisionFree (hashedParts i m)) : (m.nodes.map TraceNode.id).Nodup := by
  have hsupplied : (suppliedReceipts h i).Nodup := nodup_suppliedReceipts hp.received
    (hfree.mono (fun p hmem => List.mem_append_left _ (List.mem_append_left _ hmem)))
  have hvalid : ∀ r ∈ m.sources, ',' ∉ (sourceKey r).toList :=
    fun r hr => (suppliedReceipts_valid hp.received (hp.sources.mem_iff.1 hr)).2
  exact nodeIds_distinct hp.nodes (hp.sources.nodup_iff.2 hsupplied) hvalid
    (hfree.mono (fun p hmem => List.mem_append_left _ (List.mem_append_right _ hmem)))

theorem resolve_shadowed (hp : Projected h i groups explicit found truncated m)
    (hfree : h.CollisionFree (hashedParts i m)) {b : StructuralReceipt} (hb : b ∈ i.structuralReceipts)
    (hshadow : Shadowed h i b) {id : String} (hid : resolve h i (Receipt.structural b).endpoint = some id) :
    ¬ BuiltFrom h m (.structural b) id := by
  rintro ⟨n, hn, hname, hsource⟩
  obtain ⟨c, hc, hin, hnode, hmem, hlast⟩ := resolve_last hp hid
  -- the node is that of the last candidate under the endpoint
  obtain rfl := List.inj_on_of_nodup_map (projected_nodeIds hp hfree) hn hmem (hname.trans hnode.symm)
  obtain ⟨a, ha, hdigest, hlt⟩ := hshadow
  have hother : structuralCandidate h a ∈ allCandidates h i groups :=
    (perm_allCandidates h i groups).mem_iff.2 (List.mem_append_right _ (List.mem_map_of_mem ha))
  have hunder : (Receipt.structural b).endpoint ∈ (structuralCandidate h a).keys := by
    refine List.mem_cons_of_mem _ (List.mem_singleton.2 ?_)
    show "structural:" ++ b.id = "structural:" ++ ("r_" ++ h.digest (structuralReceiptParts a))
    rw [hdigest]
  have hle := hlast _ hother hunder
  rcases mem_candidates hp.grouped hc with ⟨key, hkey, hgroup⟩ | ⟨e, -, rfl⟩ | ⟨r, hr, rfl⟩
  · obtain ⟨e, -, heq⟩ := List.mem_map.1 (hgroup.sources.mem_iff.1 hsource)
    cases heq
  · cases List.mem_singleton.1 hsource
  · -- a structural node with the source is the own one, which comes before the other
    have hsame : structuralSource h b = structuralSource h r := List.mem_singleton.1 hsource
    have hmem' : ∀ r ∈ i.structuralReceipts, structuralReceiptParts r ∈ hashedParts i m :=
      fun r hr => List.mem_append_left _ (List.mem_append_left _ (List.mem_map_of_mem hr))
    have hids := structuralParts_inj (hfree _ (hmem' b hb) _ (hmem' r hr) (append_lead_inj (SourceReceipt.structural.inj hsame)))
    have hkeys : (structuralCandidate h b).key = (structuralCandidate h r).key := congrArg ("structural:" ++ ·) hids
    rw [hkeys] at hlt
    exact absurd hle (not_le.2 hlt)

theorem relation_edge (hp : Projected h i groups explicit found truncated m) {r : RelationInput}
    (hr : r ∈ i.relations) : ∃ source target, resolve h i r.source = some source ∧
      resolve h i r.target = some target ∧ (⟨source, target, r.kind⟩ : TraceEdge) ∈ m.edges := by
  obtain ⟨e, he, hok⟩ := forall₂_mem_left (mapM_forall₂ hp.related) hr
  obtain ⟨source, hsource, hok⟩ := bind_ok hok
  obtain ⟨target, htarget, hok⟩ := bind_ok hok
  cases hok
  refine ⟨source, target, ?_, ?_, ?_⟩
  · rw [resolve_eq hp]
    exact okOr_ok hsource
  · rw [resolve_eq hp]
    exact okOr_ok htarget
  · rw [hp.manifest]
    exact SortedSet.mem_ofList.2 (List.mem_append_right _ he)

end Resolve

/-- **Relations connect the receipts they name exactly when no named structural receipt is shadowed**: its id is not the
digested name of a receipt with a later key. -/
theorem relations_connect_iff (h : Hashes) (i : TraceInput) (m : TraceManifest) (hok : project h i = .ok m)
    (hfree : h.CollisionFree (hashedParts i m)) : RelationsConnect h i m ↔
      ∀ r ∈ i.relations, ∀ b ∈ i.structuralReceipts, (Receipt.structural b).endpoint ∈ [r.source, r.target] →
        ¬ Shadowed h i b := by
  obtain ⟨groups, explicit, found, truncated, hp⟩ := project_ok hok
  constructor
  · intro hconnect r hr b hb hnamed hshadow
    obtain ⟨source, target, hsource, htarget, -⟩ := relation_edge hp hr
    obtain ⟨id, hid⟩ : ∃ id, resolve h i (Receipt.structural b).endpoint = some id := by
      rcases List.mem_cons.1 hnamed with hnamed | hnamed
      · exact ⟨source, hnamed ▸ hsource⟩
      · exact ⟨target, List.mem_singleton.1 hnamed ▸ htarget⟩
    exact resolve_shadowed hp hfree hb hshadow hid ((hconnect r hr).2 (.structural b) hb _ hnamed rfl id hid)
  · intro hclear r hr
    have hown : ∀ a : Receipt, a.Supplied i → ∀ text ∈ [r.source, r.target], text = a.endpoint →
        ∀ id, resolve h i text = some id → BuiltFrom h m a id := by
      rintro a ha text htext rfl id hid
      refine resolve_own hp ha (fun b hb => ?_) hid
      subst hb
      exact hclear r hr b ha htext
    refine ⟨fun a b ha hb hsource htarget => ?_, hown⟩
    obtain ⟨source, target, hs, ht, hmem⟩ := relation_edge hp hr
    exact ⟨_, hmem, rfl, hown a ha _ List.mem_cons_self hsource _ hs,
      hown b hb _ (List.mem_cons_of_mem _ (List.mem_singleton_self _)) htarget _ ht⟩

theorem relations_connect_item : RelationsConnect itemHashes itemInput itemProjection := by
  refine (relations_connect_iff itemHashes itemInput itemProjection project_itemInput ?_).2 (fun r hr b hb _ hshadow => ?_)
  · unfold Hashes.CollisionFree
    decide +kernel
  · obtain ⟨a, ha, hname, -⟩ := hshadow
    rw [List.mem_singleton.1 hb, List.mem_singleton.1 ha] at hname
    -- the id does not begin as a digested name does
    have hhead := congrArg (fun s : String => s.toList.take 2) hname
    revert hhead
    rw [String.toList_append]
    decide

/-! ## A receipt named as another one is digested -/

def shadowedReceipt : StructuralReceipt := ⟨"r_" ++ restartReceipt, "retry", some 1001, []⟩

def lifecycleReceipt : StructuralReceipt := ⟨"run-1", "run_lifecycle", some 1000, []⟩

/-- The relation leads from the retry, whose id is the digested name of the restart. -/
def shadowInput : TraceInput where
  traceId := "trace-1"
  runId := "run-1"
  taskAttemptId := none
  runtimeDigest := String.ofList (List.replicate 64 'a')
  redactionPolicyDigest := String.ofList (List.replicate 64 'b')
  sensitivity := "internal"
  rawEvents := []
  domainEvents := []
  structuralReceipts := [⟨"restart-1", "restart", some 1002, []⟩, shadowedReceipt, lifecycleReceipt]
  relations := [⟨"structural:" ++ shadowedReceipt.id, "structural:run-1", .retryOf⟩]

def retryContent : String := "27aa7155ce4d09f22c92fe5ba2a03c881601edbf9a1c901cd66a7115599497dd"

def retryNode : TraceNode :=
  ⟨"n_955711184e31e79b84b6bada14d12f5939b7da0b538cc500694ac4bc1d5118d2", "attempt_boundary", retryContent,
    [.structural "r_4c07bbfefed5d96bc93b77b3cc12029c876174366271e2b8a5887bd3c39aba7f"], "none", some 1001, []⟩

def lifecycleContent : String := "e8bdbf3c6b60afcb66842bdd83c22872741fd7808d6d5035864c10cabc6331b8"

def lifecycleNode : TraceNode :=
  ⟨"n_0e4d6e9147ebd9ae8118e838d0429d096ffd44bacadd12c4bf0d4eb28e65eb9f", "run_lifecycle", lifecycleContent,
    [.structural "r_c555ca2eab22ba256d28bc578d54bfca2208451c531f322fe4f7de7c93f0c778"], "none", some 1000, []⟩

def shadowManifest : TraceManifest where
  schema := "harness.trace.v2"
  traceId := "trace-1"
  runId := "run-1"
  taskAttemptId := none
  sourceEventRange := none
  runtimeDigest := String.ofList (List.replicate 64 'a')
  redactionPolicyDigest := String.ofList (List.replicate 64 'b')
  sensitivity := "internal"
  nodes := [lifecycleNode, restartNode, retryNode]
  edges := [⟨restartNode.id, lifecycleNode.id, .retryOf⟩]
  branches := [⟨"b_29aa5a2cf8a886ac569efbe6d1157b1d0f6713f90e82f84f55f12b426383e09a", retryNode.id, retryNode.id,
      [retryNode.id], [("path_bound", .num (.pos 256))]⟩,
    ⟨"b_30599a7d23605c9e7b59801b34c91213365eebd659906b1e4d547805bb416932", restartNode.id, lifecycleNode.id,
      [restartNode.id, lifecycleNode.id], [("path_bound", .num (.pos 256))]⟩]
  diagnostics := []
  sha256 := ""

def shadowHashes : Hashes := tabled
  [(["harness.trace.structural-receipt.v2", "restart-1"], restartReceipt),
    (structuralReceiptParts shadowedReceipt, "4c07bbfefed5d96bc93b77b3cc12029c876174366271e2b8a5887bd3c39aba7f"),
    (structuralReceiptParts lifecycleReceipt, "c555ca2eab22ba256d28bc578d54bfca2208451c531f322fe4f7de7c93f0c778"),
    (contentParts "runtime_restart" (.obj [("kind", .str "runtime_restart")]), restartContent),
    (contentParts "attempt_boundary" (.obj [("kind", .str "attempt_boundary")]), retryContent),
    (contentParts "run_lifecycle" (.obj [("kind", .str "run_lifecycle")]), lifecycleContent),
    (nodeParts "runtime_restart" restartNode.sourceReceipts restartContent,
      "8f5baa29f9844db2c621c94db6a0181bf80d91ce895724f8fec7e0aa7fdf07d1"),
    (nodeParts "attempt_boundary" retryNode.sourceReceipts retryContent,
      "955711184e31e79b84b6bada14d12f5939b7da0b538cc500694ac4bc1d5118d2"),
    (nodeParts "run_lifecycle" lifecycleNode.sourceReceipts lifecycleContent,
      "0e4d6e9147ebd9ae8118e838d0429d096ffd44bacadd12c4bf0d4eb28e65eb9f"),
    (branchParts retryNode.id [retryNode.id], "29aa5a2cf8a886ac569efbe6d1157b1d0f6713f90e82f84f55f12b426383e09a"),
    (branchParts restartNode.id [restartNode.id, lifecycleNode.id],
      "30599a7d23605c9e7b59801b34c91213365eebd659906b1e4d547805bb416932"),
    (manifestParts shadowManifest, "09ea5199774ad06cef8cae4fd65b76fe5fb6b972a32fbe4519a21a967232b67c")] []
  (by
    repeat refine all_isDigest_cons (isDigest_ofList (by decide)) ?_
    rfl) rfl

/-- **The relation from the retry leads from the restart.** -/
theorem shadowed_receipt_misses :
    project shadowHashes shadowInput = .ok (TraceManifest.sign shadowHashes shadowManifest) ∧
      ¬ RelationsConnect shadowHashes shadowInput (TraceManifest.sign shadowHashes shadowManifest) := by
  refine ⟨project_signed (by decide +kernel), fun hconnect => ?_⟩
  obtain ⟨e, he, -, ⟨n, hn, hid, hsource⟩, -⟩ := (hconnect _ List.mem_cons_self).1 (.structural shadowedReceipt)
    (.structural lifecycleReceipt) (List.mem_cons_of_mem _ List.mem_cons_self)
    (List.mem_cons_of_mem _ (List.mem_cons_of_mem _ List.mem_cons_self)) rfl rfl
  obtain rfl := List.mem_singleton.1 he
  have hother : ∀ n ∈ [lifecycleNode, restartNode, retryNode], n.id = restartNode.id →
      structuralSource shadowHashes shadowedReceipt ∉ n.sourceReceipts := by decide
  exact hother n hn hid hsource

end TraceDag
end Bildr
