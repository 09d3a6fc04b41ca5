import Bildr.TraceCustody
import Bildr.TraceValidate
/-!
# TraceAgreement — a projected manifest is a valid one

What `project` returns, `validate_manifest` accepts (`projection_accepted`): names and signatures are recomputed to the
same digests, different nodes and branches have different names as long as the digests differ, every receipt is a source
once, the edges join nodes without a cycle, and the branches are ways along them within the limits, also where the
enumeration was cut.
-/
namespace Bildr
namespace TraceDag

open SortBy (sortBy)

/-! ## What is hashed -/

def TraceNode.parts (n : TraceNode) : List String := nodeParts n.kind n.sourceReceipts n.contentSha256

def TraceBranch.parts (b : TraceBranch) : List String := branchParts b.rootNodeId b.nodeIds

def hashedParts (i : TraceInput) (m : TraceManifest) : List (List String) :=
  i.structuralReceipts.map structuralReceiptParts ++ m.nodes.map TraceNode.parts ++ m.branches.map TraceBranch.parts

theorem Hashes.CollisionFree.mono {h : Hashes} {hashed hashed' : List (List String)} (hfree : h.CollisionFree hashed)
    (hsub : ∀ p ∈ hashed', p ∈ hashed) : h.CollisionFree hashed' :=
  fun p hp q hq heq => hfree p (hsub p hp) q (hsub q hq) heq

/-! ## Names -/

section Names

theorem stripPrefix_append (lead value : String) : stripPrefix lead (lead ++ value) = some value := by
  unfold stripPrefix
  rw [String.toList_append, if_pos (List.prefix_append _ _), List.drop_left, String.ofList_toList]

theorem prefixedDigest_append {lead value : String} (hd : isDigest value = true) :
    prefixedDigest (lead ++ value) lead = true := by
  unfold prefixedDigest
  rw [stripPrefix_append]
  exact hd

theorem append_lead_inj {lead a b : String} (heq : lead ++ a = lead ++ b) : a = b := by
  rw [← String.toList_inj, String.toList_append, String.toList_append, List.append_right_inj, String.toList_inj] at heq
  exact heq

theorem lead_ne {lead lead' a b : String} {c d : Char} (hc : lead.toList.head? = some c) (hd : lead'.toList.head? = some d)
    (hne : c ≠ d) : lead ++ a ≠ lead' ++ b := by
  intro heq
  have hhead := congrArg (fun s : String => s.toList.head?) heq
  simp only [String.toList_append, List.head?_append, hc, hd] at hhead
  exact hne (Option.some.inj hhead)

theorem sourceKey_inj : ∀ {r r' : SourceReceipt}, sourceKey r = sourceKey r' → r = r'
  | .rawEvent _, .rawEvent _, heq => by rw [Texts.toString_integer_inj (append_lead_inj heq)]
  | .domainEvent _, .domainEvent _, heq => by rw [Texts.toString_integer_inj (append_lead_inj heq)]
  | .structural _, .structural _, heq => by rw [append_lead_inj heq]
  | .rawEvent _, .domainEvent _, heq => absurd heq (lead_ne (c := 'r') (d := 'd') rfl rfl (by decide))
  | .rawEvent _, .structural _, heq => absurd heq (lead_ne (c := 'r') (d := 's') rfl rfl (by decide))
  | .domainEvent _, .rawEvent _, heq => absurd heq (lead_ne (c := 'd') (d := 'r') rfl rfl (by decide))
  | .domainEvent _, .structural _, heq => absurd heq (lead_ne (c := 'd') (d := 's') rfl rfl (by decide))
  | .structural _, .rawEvent _, heq => absurd heq (lead_ne (c := 's') (d := 'r') rfl rfl (by decide))
  | .structural _, .domainEvent _, heq => absurd heq (lead_ne (c := 's') (d := 'd') rfl rfl (by decide))

theorem comma_not_mem_digest {value : String} (hd : isDigest value = true) : ',' ∉ value.toList := by
  intro hmem
  unfold isDigest at hd
  rw [Bool.and_eq_true, List.all_eq_true] at hd
  have hcomma := hd.2 ',' hmem
  revert hcomma
  decide

theorem comma_not_mem_append {a b : String} (ha : ',' ∉ a.toList) (hb : ',' ∉ b.toList) : ',' ∉ (a ++ b).toList := by
  rw [String.toList_append, List.mem_append]
  exact fun hor => hor.elim ha hb

theorem comma_not_mem_nodeId (h : Hashes) (kind : String) (sources : List SourceReceipt) (content : String) :
    ',' ∉ (nodeId h kind sources content).toList :=
  comma_not_mem_append (by decide) (comma_not_mem_digest (h.digestHex _))

theorem suppliedReceipts_valid {h : Hashes} {i : TraceInput} (hr : Received h i) {r : SourceReceipt}
    (hmem : r ∈ suppliedReceipts h i) : validSourceReceipt r = true ∧ ',' ∉ (sourceKey r).toList := by
  rcases List.mem_append.1 hmem with hmem | hmem
  · rcases List.mem_append.1 hmem with hmem | hmem
    · obtain ⟨e, he, rfl⟩ := List.mem_map.1 hmem
      exact ⟨decide_eq_true (hr.raw e he).positive, comma_not_mem_append (by decide) (Texts.comma_not_mem_integer e.id)⟩
    · obtain ⟨e, he, rfl⟩ := List.mem_map.1 hmem
      exact ⟨decide_eq_true (hr.domain e he).positive, comma_not_mem_append (by decide) (Texts.comma_not_mem_integer e.id)⟩
  · obtain ⟨r, -, rfl⟩ := List.mem_map.1 hmem
    have hhex := h.digestHex (structuralReceiptParts r)
    exact ⟨prefixedDigest_append hhex,
      comma_not_mem_append (by decide) (comma_not_mem_append (by decide) (comma_not_mem_digest hhex))⟩

end Names

/-! ## Nodes -/

section Nodes
variable {h : Hashes} {i : TraceInput} {groups : List Candidate}

theorem rawKind_mem (e : RawEventReceipt) : nodeKinds.contains (rawKind e) = true := by
  unfold rawKind
  split <;> first | decide | (split <;> decide)

theorem structuralKind_mem (kind : String) : nodeKinds.contains (structuralKind kind) = true := by
  unfold structuralKind
  split <;> decide

theorem outputClass_mem (payload : Json.Value) (inputClass : String) :
    redactionClasses.contains (outputClass payload inputClass) = true := by
  unfold outputClass
  split
  · decide
  · split
    · decide
    · split
      · decide
      · decide

theorem traceNode_valid {kind redactionClass : String} {payload : Json.Value} {sources : List SourceReceipt}
    {timestampMs : Option Int} {metadata : List (String × Json.Value)} (hsources : sources ≠ [])
    (hkind : nodeKinds.contains kind = true) (hclass : redactionClasses.contains redactionClass = true)
    (hmetadata : metadataMatchesOrigin (traceNode h kind payload sources redactionClass timestampMs metadata) = true) :
    nodeValid h (traceNode h kind payload sources redactionClass timestampMs metadata) = true := by
  unfold nodeValid
  rw [hmetadata, show prefixedDigest (traceNode h kind payload sources redactionClass timestampMs metadata).id "n_" = true
    from prefixedDigest_append (h.digestHex _)]
  unfold traceNode
  rw [beq_self_eq_true, h.digestHex, hkind, hclass, List.isEmpty_eq_false_iff.2 hsources]
  rfl

theorem candidate_valid {c : Candidate} (hgroups : List.Forall₂ (GroupCandidate h (orderEvents i.rawEvents).1)
    (groupKeys (orderEvents i.rawEvents).1) groups) (hc : c ∈ allCandidates h i groups) : nodeValid h c.node = true := by
  have hne := candidate_sources_ne hgroups hc
  rcases mem_candidates hgroups hc with ⟨key, -, latest, -, -, rfl⟩ | ⟨e, -, rfl⟩ | ⟨r, -, rfl⟩
  · refine traceNode_valid hne (rawKind_mem latest) (outputClass_mem _ _) ?_
    have hall : ∀ receipts : List RawEventReceipt,
        (receipts.map (fun e => SourceReceipt.rawEvent e.id)).all (fun r => r.rawId.isSome) = true := by
      intro receipts
      rw [List.all_map, List.all_eq_true]
      exact fun _ _ => rfl
    unfold metadataMatchesOrigin traceNode
    simp only [hall, if_true, List.length_map]
    rw [List.lookup_cons_self, beq_self_eq_true]
    rfl
  · exact traceNode_valid hne (structuralKind_mem _) (outputClass_mem _ _) rfl
  · exact traceNode_valid hne (structuralKind_mem _) rfl rfl

theorem nodeIds_distinct {nodes : List TraceNode} (hvalid : ∀ n ∈ nodes, nodeValid h n = true)
    (hsources : (nodes.flatMap TraceNode.sourceReceipts).Nodup)
    (hcomma : ∀ r ∈ nodes.flatMap TraceNode.sourceReceipts, ',' ∉ (sourceKey r).toList)
    (hfree : h.CollisionFree (nodes.map TraceNode.parts)) : (nodes.map TraceNode.id).Nodup := by
  rw [List.nodup_flatMap] at hsources
  rw [List.Nodup, List.pairwise_map]
  refine hsources.2.imp_of_mem (fun {n n'} hn hn' hdisjoint heq => ?_)
  have hid : ∀ n ∈ nodes, n.id = "n_" ++ h.digest n.parts ∧ n.sourceReceipts ≠ [] := by
    intro n hn
    have hv := hvalid n hn
    unfold nodeValid at hv
    simp only [Bool.and_eq_true, beq_iff_eq, Bool.not_eq_true', List.isEmpty_eq_false_iff] at hv
    exact ⟨hv.1.1.1.1.1.2, hv.1.1.1.2⟩
  obtain ⟨hname, hne⟩ := hid n hn
  obtain ⟨hname', hne'⟩ := hid n' hn'
  rw [hname, hname'] at heq
  have hparts := hfree _ (List.mem_map_of_mem hn) _ (List.mem_map_of_mem hn') (append_lead_inj heq)
  obtain ⟨r, rs, hrs⟩ := List.exists_cons_of_ne_nil hne
  obtain ⟨r', rs', hrs'⟩ := List.exists_cons_of_ne_nil hne'
  have hin : r ∈ n.sourceReceipts := hrs ▸ List.mem_cons_self
  have hin' : r' ∈ n'.sourceReceipts := hrs' ▸ List.mem_cons_self
  unfold TraceNode.parts nodeParts at hparts
  have hjoined : String.intercalate "," (n.sourceReceipts.map sourceKey) =
      String.intercalate "," (n'.sourceReceipts.map sourceKey) := by
    simpa using (List.cons.inj (List.cons.inj (List.cons.inj hparts).2).2).1
  rw [hrs, hrs', List.map_cons, List.map_cons] at hjoined
  have hfirst := (Texts.intercalate_head (hcomma r (List.mem_flatMap.2 ⟨n, hn, hin⟩))
    (hcomma r' (List.mem_flatMap.2 ⟨n', hn', hin'⟩)) hjoined).1
  exact hdisjoint hin (sourceKey_inj hfirst ▸ hin')

theorem keysOf_ids {candidates : List Candidate} {id : String} (hid : id ∈ (keysOf candidates).ids) :
    ∃ c ∈ candidates, c.node.id = id := by
  have hinsert : ∀ (keys : List String) (m : KeyMap) (id' : String) (p : String × String),
      p ∈ keys.foldl (fun m key => m.insert key id') m → p ∈ m ∨ p.2 = id' := by
    intro keys
    induction keys with
    | nil => exact fun m id' p hp => Or.inl hp
    | cons key keys ih =>
      intro m id' p hp
      rcases ih _ id' p hp with hp | hp
      · rcases List.mem_cons.1 hp with rfl | hp
        · exact Or.inr rfl
        · exact Or.inl (List.mem_filter.1 hp).1
      · exact Or.inr hp
  have hfold : ∀ (cs : List Candidate) (m : KeyMap) (p : String × String), p ∈ cs.foldl candidateKeys m →
      p ∈ m ∨ ∃ c ∈ cs, c.node.id = p.2 := by
    intro cs
    induction cs with
    | nil => exact fun m p hp => Or.inl hp
    | cons c cs ih =>
      intro m p hp
      rcases ih _ p hp with hp | ⟨c', hc', heq⟩
      · rcases hinsert _ _ _ p hp with hp | heq
        · exact Or.inl hp
        · exact Or.inr ⟨c, List.mem_cons_self, heq.symm⟩
      · exact Or.inr ⟨c', List.mem_cons_of_mem c hc', heq⟩
  unfold KeyMap.ids at hid
  rw [SortedSet.mem_ofList, List.mem_map] at hid
  obtain ⟨p, hp, rfl⟩ := hid
  rcases hfold candidates [] p hp with hp | hc
  · cases hp
  · exact hc

end Nodes

/-! ## The range of events -/

section Range

theorem foldl_min_spec : ∀ (ids : List Int) (a : Int), (ids.foldl min a = a ∨ ids.foldl min a ∈ ids) ∧
    ids.foldl min a ≤ a ∧ ∀ b ∈ ids, ids.foldl min a ≤ b
  | [], a => ⟨Or.inl rfl, le_refl a, fun b hb => (by cases hb)⟩
  | c :: ids, a => by
    obtain ⟨hmem, hle, hall⟩ := foldl_min_spec ids (min a c)
    rw [List.foldl_cons]
    refine ⟨?_, by omega, fun b hb => ?_⟩
    · rcases hmem with hmem | hmem
      · rcases min_choice a c with hmin | hmin
        · exact Or.inl (hmem.trans hmin)
        · exact Or.inr (List.mem_cons.2 (Or.inl (hmem.trans hmin)))
      · exact Or.inr (List.mem_cons_of_mem c hmem)
    · rcases List.mem_cons.1 hb with rfl | hb
      · omega
      · exact hall b hb

theorem foldl_max_spec : ∀ (ids : List Int) (a : Int), (ids.foldl max a = a ∨ ids.foldl max a ∈ ids) ∧
    a ≤ ids.foldl max a ∧ ∀ b ∈ ids, b ≤ ids.foldl max a
  | [], a => ⟨Or.inl rfl, le_refl a, fun b hb => (by cases hb)⟩
  | c :: ids, a => by
    obtain ⟨hmem, hle, hall⟩ := foldl_max_spec ids (max a c)
    rw [List.foldl_cons]
    refine ⟨?_, by omega, fun b hb => ?_⟩
    · rcases hmem with hmem | hmem
      · rcases max_choice a c with hmax | hmax
        · exact Or.inl (hmem.trans hmax)
        · exact Or.inr (List.mem_cons.2 (Or.inl (hmem.trans hmax)))
      · exact Or.inr (List.mem_cons_of_mem c hmem)
    · rcases List.mem_cons.1 hb with rfl | hb
      · omega
      · exact hall b hb

theorem pairwise_ofList {α : Type} [LinearOrder α] (l : List α) : (SortedSet.ofList l).Pairwise (fun a b => a ≤ b) :=
  List.pairwise_insertionSort _ _

theorem sourceEventRange_eq : ∀ events : List RawEventReceipt,
    sourceEventRange events = idRange (events.map RawEventReceipt.id)
  | [] => rfl
  | e :: events => by
    obtain ⟨hmin, hmina, hminall⟩ := foldl_min_spec (events.map RawEventReceipt.id) e.id
    obtain ⟨hmax, hmaxa, hmaxall⟩ := foldl_max_spec (events.map RawEventReceipt.id) e.id
    have hmem : ∀ id, id ∈ SortedSet.ofList ((e :: events).map RawEventReceipt.id) ↔
        id = e.id ∨ id ∈ events.map RawEventReceipt.id := by
      intro id
      rw [SortedSet.mem_ofList, List.map_cons, List.mem_cons]
    have hsorted := pairwise_ofList ((e :: events).map RawEventReceipt.id)
    unfold sourceEventRange idRange
    generalize hl : SortedSet.ofList ((e :: events).map RawEventReceipt.id) = l at hmem hsorted
    have hne : l ≠ [] := List.ne_nil_of_mem ((hmem e.id).2 (Or.inl rfl))
    have hhead : l.head hne = (events.map RawEventReceipt.id).foldl min e.id := by
      refine le_antisymm ?_ ?_
      · have hin : (events.map RawEventReceipt.id).foldl min e.id ∈ l := (hmem _).2 hmin
        obtain ⟨a, l', rfl⟩ := List.exists_cons_of_ne_nil hne
        rcases List.mem_cons.1 hin with heq | hin
        · exact le_of_eq heq.symm
        · exact (List.pairwise_cons.1 hsorted).1 _ hin
      · rcases (hmem _).1 (List.head_mem hne) with heq | hin
        · rw [heq]
          exact hmina
        · exact hminall _ hin
    have hlast : l.getLast hne = (events.map RawEventReceipt.id).foldl max e.id := by
      refine le_antisymm ?_ ?_
      · rcases (hmem _).1 (List.getLast_mem hne) with heq | hin
        · rw [heq]
          exact hmaxa
        · exact hmaxall _ hin
      · have hin : (events.map RawEventReceipt.id).foldl max e.id ∈ l := (hmem _).2 hmax
        rw [← List.dropLast_append_getLast hne, List.mem_append, List.mem_singleton] at hin
        rcases hin with hin | heq
        · have hpair := hsorted
          rw [← List.dropLast_append_getLast hne, List.pairwise_append] at hpair
          exact hpair.2.2 _ hin _ (List.mem_singleton_self _)
        · exact le_of_eq heq
    rw [List.head?_eq_some_head hne, List.getLast?_eq_some_getLast hne, hhead, hlast]
    rfl

end Range

/-! ## Branches -/

section Branches
variable {h : Hashes} {nodes : List TraceNode} {edges : List TraceEdge} {paths : List (List String)} {cut : Bool}

theorem mem_adjacent {u v : String} : v ∈ adjacent edges u ↔ Leads edges u v := by
  unfold adjacent Leads
  rw [SortedSet.mem_ofList, List.mem_map]
  simp only [List.mem_filter, beq_iff_eq, and_assoc]

theorem mem_roots {v : String} : v ∈ roots nodes edges ↔ v ∈ nodes.map TraceNode.id ∧ ∀ e ∈ edges, e.target ≠ v := by
  unfold roots
  rw [List.mem_filter, SortedSet.mem_ofList, Bool.not_eq_true', List.any_eq_false]
  simp only [beq_iff_eq]

theorem chain_zip {α : Type} {R : α → α → Prop} : ∀ {l : List α}, l.IsChain R → ∀ p ∈ l.zip l.tail, R p.1 p.2
  | [], _, p, hp => (by cases hp)
  | [_], _, p, hp => (by cases hp)
  | a :: b :: l, hchain, p, hp => by
    rw [List.isChain_cons_cons] at hchain
    rcases List.mem_cons.1 hp with rfl | hp
    · exact hchain.1
    · exact chain_zip hchain.2 p hp

theorem chain_known {known : List String} (hknown : ∀ u v, Leads edges u v → v ∈ known) : ∀ {p : List String},
    p.IsChain (fun u v => v ∈ adjacent edges u) → (∀ v ∈ p.head?, v ∈ known) → ∀ v ∈ p, v ∈ known
  | [], _, _, v, hv => (by cases hv)
  | [a], _, hhead, v, hv => by
    rw [List.mem_singleton.1 hv]
    exact hhead a rfl
  | a :: b :: p, hchain, hhead, v, hv => by
    rw [List.isChain_cons_cons] at hchain
    rcases List.mem_cons.1 hv with rfl | hv
    · exact hhead v rfl
    · refine chain_known hknown hchain.2 (fun c hc => ?_) v hv
      cases Option.some.inj hc
      exact hknown a b (mem_adjacent.1 hchain.1)

theorem roots_ne (hsome : nodes ≠ []) (hends : ∀ e ∈ edges, e.source ∈ nodes.map TraceNode.id)
    (hacc : ∀ v, Acc (Leads edges) v) : roots nodes edges ≠ [] := by
  obtain ⟨n, ns, hn⟩ := List.exists_cons_of_ne_nil hsome
  have hin : n.id ∈ nodes.map TraceNode.id := List.mem_map_of_mem (hn ▸ List.mem_cons_self)
  obtain ⟨v, hv, hmin⟩ := Dfs.exists_minimal (hacc n.id) hin
  refine List.ne_nil_of_mem (mem_roots.2 ⟨hv, fun e he htarget => ?_⟩)
  exact hmin e.source (hends e he) ⟨e, he, rfl, htarget⟩

theorem forest_head (hf : Forest (adjacent edges) (roots nodes edges) paths cut) {p : List String} (hp : p ∈ paths) :
    ∃ root ∈ roots nodes edges, p.head? = some root ∧ branchOf h p = traceBranch h root p := by
  obtain ⟨root, hroot, hhead⟩ := hf.starts p hp
  refine ⟨root, hroot, hhead, ?_⟩
  unfold branchOf
  rw [hhead]
  rfl

theorem branch_valid {m : TraceManifest} (hnodes : m.nodes = nodes) (hedges : m.edges = edges)
    (hends : ∀ e ∈ edges, e.target ∈ nodes.map TraceNode.id)
    (hcut : cut = true → m.diagnostics.any (fun d => d.code == "branch_path_bound_reached") = true)
    (hf : Forest (adjacent edges) (roots nodes edges) paths cut) {p : List String} (hp : p ∈ paths) :
    branchValid h m (m.nodes.map TraceNode.id) (branchOf h p) = true := by
  obtain ⟨root, hroot, hhead, hbranch⟩ := forest_head (h := h) hf hp
  obtain ⟨hrootIn, hfree⟩ := mem_roots.1 hroot
  have hne : p ≠ [] := by
    rintro rfl
    cases hhead
  have hlast : p.getLast? = some (p.getLast?.getD root) := by
    rw [List.getLast?_eq_some_getLast hne]
    rfl
  have hknown : ∀ v ∈ p, v ∈ nodes.map TraceNode.id := by
    refine chain_known (fun u v hlead => ?_) (hf.joined p hp) (fun v hv => ?_)
    · obtain ⟨e, he, -, rfl⟩ := hlead
      exact hends e he
    · rw [hhead] at hv
      exact Option.some.inj hv ▸ hrootIn
  have hleaf : p.getLast?.getD root ∈ nodes.map TraceNode.id := hknown _ (List.mem_of_getLast? hlast)
  have hinbound : (!edges.any (fun e => e.target == root)) = true := by
    rw [Bool.not_eq_true', List.any_eq_false]
    intro e he
    rw [beq_iff_eq]
    exact hfree e he
  have houtbound : (m.diagnostics.any (fun d => d.code == "branch_path_bound_reached") ||
      !edges.any (fun e => e.source == p.getLast?.getD root)) = true := by
    cases cut with
    | true => rw [hcut rfl, Bool.true_or]
    | false =>
      have hend := hf.complete rfl p hp _ hlast
      rw [Bool.or_eq_true, Bool.not_eq_true', List.any_eq_false]
      refine Or.inr (fun e he heq => ?_)
      have hnext := mem_adjacent.2 ⟨e, he, beq_iff_eq.1 heq, rfl⟩
      rw [hend] at hnext
      cases hnext
  have hall : p.all (fun id => (nodes.map TraceNode.id).contains id) = true :=
    List.all_eq_true.2 (fun v hv => List.contains_iff_mem.2 (hknown v hv))
  have hzip : (p.zip p.tail).all (fun q => edges.any (fun e => e.source == q.1 && e.target == q.2)) = true := by
    refine List.all_eq_true.2 (fun q hq => ?_)
    obtain ⟨e, he, hs, ht⟩ := mem_adjacent.1 (chain_zip (hf.joined p hp) q hq)
    exact List.any_eq_true.2 ⟨e, he, by rw [hs, ht, beq_self_eq_true, beq_self_eq_true]; rfl⟩
  rw [hbranch]
  unfold branchValid traceBranch
  rw [hnodes, hedges]
  simp only [List.contains_iff_mem.2 hrootIn, List.contains_iff_mem.2 hleaf, hinbound, houtbound, hall, hzip, hhead,
    ← hlast, beq_self_eq_true, decide_eq_true (hf.short p hp), List.isEmpty_eq_false_iff.2 hne, Bool.not_false,
    Bool.and_true, Bool.true_and]
  decide

theorem branchIds_distinct (hf : Forest (adjacent edges) (roots nodes edges) paths cut)
    (hcomma : ∀ p ∈ paths, ∀ v ∈ p, ',' ∉ v.toList)
    (hfree : h.CollisionFree ((paths.map (branchOf h)).map TraceBranch.parts)) :
    ((paths.map (branchOf h)).map TraceBranch.id).Nodup := by
  have hdistinct := hf.distinct
  rw [List.map_map, List.Nodup, List.pairwise_map]
  refine List.Pairwise.imp_of_mem (fun {p q} hp hq hne heq => hne ?_) hdistinct
  have hbranch : ∀ p ∈ paths, p ≠ [] ∧ (branchOf h p).id = "b_" ++ h.digest (branchOf h p).parts := by
    intro p hp
    obtain ⟨root, -, hhead, -⟩ := forest_head (h := h) hf hp
    refine ⟨?_, rfl⟩
    rintro rfl
    cases hhead
  obtain ⟨hpne, hpid⟩ := hbranch p hp
  obtain ⟨hqne, hqid⟩ := hbranch q hq
  simp only [Function.comp_apply, hpid, hqid] at heq
  have hmem : ∀ p ∈ paths, (branchOf h p).parts ∈ (paths.map (branchOf h)).map TraceBranch.parts :=
    fun p hp => List.mem_map_of_mem (List.mem_map_of_mem hp)
  have hparts := hfree _ (hmem p hp) _ (hmem q hq) (append_lead_inj heq)
  have hjoined := (List.cons.inj (List.cons.inj (List.cons.inj hparts).2).2).1
  exact Texts.intercalate_inj hpne hqne (hcomma p hp) (hcomma q hq) hjoined

end Branches

/-! ## The manifest -/

section Manifest
variable {h : Hashes} {i : TraceInput} {m : TraceManifest} {groups : List Candidate} {explicit : List TraceEdge}
  {found : List TraceBranch} {truncated : Bool}

theorem Projected.forest (hp : Projected h i groups explicit found truncated m) : ∃ paths,
    m.branches.Perm (paths.map (branchOf h)) ∧ Forest (adjacent m.edges) (roots m.nodes m.edges) paths truncated := by
  obtain ⟨paths, cut, hcollect, hforest⟩ := collect_ok h m.nodes m.edges
  have hbranches := hp.enumerated
  rw [hp.manifest] at hcollect hforest ⊢
  unfold branches at hbranches
  obtain ⟨⟨all, cut'⟩, hall, hbranches⟩ := bind_ok hbranches
  have hsame := hall.symm.trans hcollect
  cases hsame
  cases hbranches
  exact ⟨paths, SortBy.perm_sortBy _ _, hforest⟩

theorem Projected.graph (hp : Projected h i groups explicit found truncated m) :
    (∀ e ∈ m.edges, e.source ∈ m.nodes.map TraceNode.id ∧ e.target ∈ m.nodes.map TraceNode.id) ∧
      ∀ v, Acc (Leads m.edges) v := by
  obtain ⟨hends, hacc⟩ := validateEdges_ok.1 hp.acyclic
  have hnode : ∀ id ∈ (keysOf (allCandidates h i groups)).ids,
      id ∈ (nodesOf (allCandidates h i groups)).map TraceNode.id := by
    intro id hid
    obtain ⟨c, hc, rfl⟩ := keysOf_ids hid
    exact List.mem_map_of_mem (mem_nodesOf.2 ⟨c, hc, rfl⟩)
  rw [hp.manifest]
  exact ⟨fun e he => ⟨hnode _ (hends e he).1, hnode _ (hends e he).2⟩, hacc⟩

theorem Projected.sources (hp : Projected h i groups explicit found truncated m) :
    m.sources.Perm (suppliedReceipts h i) := by
  rw [hp.manifest]
  exact nodes_sources hp.received hp.grouped

theorem Projected.nodes (hp : Projected h i groups explicit found truncated m) : ∀ n ∈ m.nodes, nodeValid h n = true := by
  intro n hn
  rw [hp.manifest] at hn
  obtain ⟨c, hc, rfl⟩ := mem_nodesOf.1 hn
  exact candidate_valid hp.grouped hc

theorem Projected.some (hp : Projected h i groups explicit found truncated m) : m.nodes ≠ [] := by
  intro hnil
  have hsources := hp.sources
  unfold TraceManifest.sources at hsources
  rw [hnil, List.flatMap_nil] at hsources
  have hempty := hsources.nil_eq
  unfold suppliedReceipts at hempty
  have hparts := List.append_eq_nil_iff.1 hempty.symm
  have hparts' := List.append_eq_nil_iff.1 hparts.1
  exact hp.given ⟨List.map_eq_nil_iff.1 hparts'.1, List.map_eq_nil_iff.1 hparts.2, List.map_eq_nil_iff.1 hparts'.2⟩

theorem Projected.range (hp : Projected h i groups explicit found truncated m) :
    m.sourceEventRange = idRange (m.sources.filterMap SourceReceipt.rawId) := by
  have hrange : m.sourceEventRange = sourceEventRange (orderEvents i.rawEvents).1 := by
    rw [hp.manifest]
    rfl
  rw [hrange, sourceEventRange_eq]
  refine idRange_congr (fun id => ?_)
  rw [(hp.sources.filterMap SourceReceipt.rawId).mem_iff, ((orderEvents_perm i.rawEvents).map _).mem_iff]
  unfold suppliedReceipts
  rw [List.filterMap_append, List.filterMap_append, List.mem_append, List.mem_append, List.filterMap_map, List.filterMap_map,
    List.filterMap_map]
  have hraw : i.rawEvents.filterMap (SourceReceipt.rawId ∘ fun e => SourceReceipt.rawEvent e.id) =
      i.rawEvents.map RawEventReceipt.id :=
    congrFun (List.filterMap_eq_map (f := RawEventReceipt.id)) i.rawEvents
  have hdomain : i.domainEvents.filterMap (SourceReceipt.rawId ∘ fun e => SourceReceipt.domainEvent e.id) = [] :=
    List.filterMap_eq_nil_iff.2 (fun _ _ => rfl)
  have hstructural : i.structuralReceipts.filterMap (SourceReceipt.rawId ∘ structuralSource h) = [] :=
    List.filterMap_eq_nil_iff.2 (fun _ _ => rfl)
  rw [hraw, hdomain, hstructural]
  simp

theorem Projected.diagnostics (hp : Projected h i groups explicit found truncated m) :
    ∀ d ∈ m.diagnostics, checkDiagnostic d = .ok () := by
  have hpositive : ∀ e ∈ i.rawEvents, validSourceReceipt (.rawEvent e.id) = true :=
    fun e he => decide_eq_true (hp.received.raw e he).positive
  intro d hd
  unfold checkDiagnostic
  rw [Control.ensure_ok_iff, Bool.and_eq_true]
  rw [hp.manifest] at hd
  rcases List.mem_append.1 hd with hd | hd
  · rcases List.mem_append.1 (SortBy.mem_sortBy.1 hd) with hd | hd
    · obtain ⟨scope, -, rfl⟩ := List.mem_map.1 hd
      refine ⟨rfl, List.all_eq_true.2 (fun r hr => ?_)⟩
      obtain ⟨e, he, rfl⟩ := List.mem_map.1 hr
      exact hpositive e (List.mem_filter.1 he).1
    · obtain ⟨e, he, hd⟩ := List.mem_flatMap.1 hd
      have hin := (orderEvents_perm i.rawEvents).mem_iff.1 he
      unfold sequenceDiagnostic at hd
      split at hd
      · rw [List.mem_singleton.1 hd]
        refine ⟨rfl, List.all_eq_true.2 (fun r hr => ?_)⟩
        rw [List.mem_singleton.1 hr]
        exact hpositive e hin
      · cases hd
  · cases truncated with
    | true =>
      rw [if_pos rfl] at hd
      rw [List.mem_singleton.1 hd]
      decide
    | false =>
      rw [if_neg Bool.false_ne_true] at hd
      cases hd

theorem Projected.cut (hp : Projected h i groups explicit found truncated m) (hcut : truncated = true) :
    m.diagnostics.any (fun d => d.code == "branch_path_bound_reached") = true := by
  refine List.any_eq_true.2 ⟨truncatedDiagnostic, ?_, rfl⟩
  rw [hp.manifest]
  refine List.mem_append_right _ ?_
  rw [if_pos hcut]
  exact List.mem_singleton_self _

theorem Projected.core (hp : Projected h i groups explicit found truncated m) :
    safeTraceId m.traceId = true ∧ safeControllerId m.runId = true ∧ coreValid m = true := by
  have hheader := hp.received.header
  unfold headerFields at hheader
  simp only [List.forall_mem_cons] at hheader
  obtain ⟨htrace, hrun, hruntime, hredaction, -⟩ := hheader
  rw [hp.manifest]
  refine ⟨htrace.2, hrun.2, ?_⟩
  unfold coreValid manifestOf TraceManifest.sign
  rw [hp.received.attempt, hruntime.2, hredaction.2, List.contains_iff_mem.2 hp.received.sensitivity, h.digestHex]
  rfl

end Manifest

/-- **A projected manifest is accepted** by the validator, as long as the digests of the parts that name its receipts, its
nodes and its branches do not collide. -/
theorem projection_accepted (h : Hashes) (i : TraceInput) (m : TraceManifest) (hok : project h i = .ok m)
    (hfree : h.CollisionFree (hashedParts i m)) : validateManifest h m = .ok () := by
  obtain ⟨groups, explicit, found, truncated, hp⟩ := project_ok hok
  obtain ⟨paths, hbranches, hforest⟩ := hp.forest
  obtain ⟨hends, hacc⟩ := hp.graph
  obtain ⟨htrace, hrun, hcore⟩ := hp.core
  have hsupplied : (suppliedReceipts h i).Nodup := nodup_suppliedReceipts hp.received
    (hfree.mono (fun p hmem => List.mem_append_left _ (List.mem_append_left _ hmem)))
  have hsources : m.sources.Nodup := hp.sources.nodup_iff.2 hsupplied
  have hvalid : ∀ r ∈ m.sources, validSourceReceipt r = true ∧ ',' ∉ (sourceKey r).toList :=
    fun r hr => suppliedReceipts_valid hp.received (hp.sources.mem_iff.1 hr)
  have hnodeIds := nodeIds_distinct hp.nodes hsources (fun r hr => (hvalid r hr).2)
    (hfree.mono (fun p hmem => List.mem_append_left _ (List.mem_append_right _ hmem)))
  -- the ids of nodes have no commas, and every path goes along nodes
  have hcomma : ∀ v ∈ m.nodes.map TraceNode.id, ',' ∉ v.toList := by
    intro v hv
    obtain ⟨n, hn, rfl⟩ := List.mem_map.1 hv
    have hnode := hp.nodes n hn
    unfold nodeValid at hnode
    simp only [Bool.and_eq_true, beq_iff_eq] at hnode
    rw [hnode.1.1.1.1.1.2]
    exact comma_not_mem_nodeId h _ _ _
  have hbranch : ∀ p ∈ paths, branchValid h m (m.nodes.map TraceNode.id) (branchOf h p) = true :=
    fun p hpath => branch_valid rfl rfl (fun e he => (hends e he).2) hp.cut hforest hpath
  have hpaths : ∀ p ∈ paths, ∀ v ∈ p, v ∈ m.nodes.map TraceNode.id := by
    intro p hpath v hv
    have hall := hbranch p hpath
    unfold branchValid at hall
    simp only [Bool.and_eq_true] at hall
    exact List.contains_iff_mem.1 (List.all_eq_true.1 hall.1.1.1.2 v hv)
  have hbranchIds : (m.branches.map TraceBranch.id).Nodup := by
    rw [(hbranches.map _).nodup_iff]
    refine branchIds_distinct hforest (fun p hpath v hv => hcomma v (hpaths p hpath v hv)) (hfree.mono (fun parts hmem => ?_))
    exact List.mem_append_right _ ((hbranches.map TraceBranch.parts).mem_iff.2 hmem)
  have hroots := roots_ne hp.some (fun e he => (hends e he).1) hacc
  refine validateManifest_ok ⟨?_, htrace, hrun, hcore, ?_, hp.nodes, hnodeIds, fun r hr => (hvalid r hr).1, ?_, hp.some,
    hp.range, hends, ?_, hacc, ?_, ?_, hbranchIds, ?_, ?_, hp.diagnostics⟩
  · rw [hp.manifest]
    rfl
  · rw [hp.manifest]
    rfl
  · exact hsources.map_on (fun r _ r' _ heq => sourceKey_inj heq)
  · rw [hp.manifest]
    exact SortedSet.nodup_ofList _
  · intro hnil
    rw [hnil] at hbranches
    exact hforest.reached hroots (List.map_eq_nil_iff.1 hbranches.nil_eq.symm)
  · rw [hbranches.length_eq, List.length_map]
    exact hforest.few
  · rw [(hbranches.map _).sum_eq, List.map_map]
    exact hforest.bounded
  · intro b hb
    obtain ⟨p, hpath, rfl⟩ := List.mem_map.1 (hbranches.mem_iff.1 hb)
    exact hbranch p hpath

theorem projection_accepted_item : validateManifest itemHashes itemProjection = .ok () := by
  refine projection_accepted itemHashes itemInput itemProjection project_itemInput ?_
  unfold Hashes.CollisionFree
  decide +kernel

end TraceDag
end Bildr
