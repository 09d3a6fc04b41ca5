import Bildr.TraceAgreement
/-!
# TraceLeaves — every way down to a leaf

What `branches` returns stays within the three limits and consists of different paths from the roots.  Where nothing is
cut it is all of them: a way down from a root to a leaf has been emitted or still lies ahead of the stack, at every turn
of the walk (`Exhaustive`), and at the end no stack is left.
-/
namespace Bildr
namespace TraceDag

/-! ## What still lies ahead -/

section Ahead
variable {next : String → List String} {root : String} {pathBound depthBound referenceBound : Nat} {w w' : Walk}
  {p : List String}

structure Descent (next : String → List String) (root : String) (p : List String) : Prop where
  starts : p.head? = some root
  joined : p.IsChain (fun u v => v ∈ next u)
  leaf : ∀ v ∈ p.getLast?, next v = []

/-- A path the stack has yet to come to: it ends at the top, or leaves a node of the stack by an offset to come. -/
def Ahead (next : String → List String) : List (String × Nat) → List String → Prop
  | [], _              => False
  | (v, o) :: stack, p =>
    (p = way stack ++ [v] ∧ next v = []) ∨
    (∃ c d tail, o ≤ c ∧ (next v)[c]? = some d ∧ p = way stack ++ v :: d :: tail) ∨ Ahead next stack p

/-- Where nothing is cut, every way down to a leaf is emitted or lies ahead. -/
def Exhaustive (next : String → List String) (root : String) (w : Walk) : Prop :=
  w.truncated = false → ∀ p, Descent next root p → p ∈ w.paths ∨ Ahead next w.stack p

theorem ahead_fresh {v : String} {tail : List String} (stack : List (String × Nat))
    (hjoined : (v :: tail).IsChain (fun u v => v ∈ next u)) (hleaf : ∀ u ∈ (v :: tail).getLast?, next u = []) :
    Ahead next ((v, 0) :: stack) (way stack ++ v :: tail) := by
  cases tail with
  | nil => exact Or.inl ⟨rfl, hleaf v rfl⟩
  | cons d tail =>
    obtain ⟨c, hc⟩ := List.mem_iff_getElem?.1 (List.isChain_cons_cons.1 hjoined).1
    exact Or.inr (Or.inl ⟨c, d, tail, Nat.zero_le c, hc, rfl⟩)

theorem exhaustive_start (root : String) : Exhaustive next root ⟨[], 0, [(root, 0)], false⟩ := by
  intro _ p hp
  refine Or.inr ?_
  cases p with
  | nil => cases hp.starts
  | cons v tail =>
    obtain rfl := Option.some.inj hp.starts
    exact ahead_fresh [] hp.joined hp.leaf

theorem Ahead.leaf {node : String} {offset : Nat} {rest : List (String × Nat)} (hleaf : next node = [])
    (h : Ahead next ((node, offset) :: rest) p) : p = way ((node, offset) :: rest) ∨ Ahead next rest p := by
  rcases h with ⟨hp, -⟩ | ⟨c, d, tail, -, hd, -⟩ | h
  · exact Or.inl (hp.trans (way_cons (node, offset) rest).symm)
  · rw [hleaf] at hd
    cases hd
  · exact Or.inr h

theorem Ahead.done {node : String} {offset : Nat} {rest : List (String × Nat)} (hne : next node ≠ [])
    (hoffset : (next node).length ≤ offset) (h : Ahead next ((node, offset) :: rest) p) : Ahead next rest p := by
  rcases h with ⟨-, hleaf⟩ | ⟨c, d, tail, hc, hd, -⟩ | h
  · exact absurd hleaf hne
  · have hlt := (List.getElem?_eq_some_iff.1 hd).1
    omega
  · exact h

theorem Ahead.down {node destination : String} {offset : Nat} {rest : List (String × Nat)}
    (hoffset : (next node)[offset]? = some destination) (hp : Descent next root p)
    (h : Ahead next ((node, offset) :: rest) p) :
    Ahead next ((destination, 0) :: (node, offset + 1) :: rest) p := by
  rcases h with ⟨-, hleaf⟩ | ⟨c, d, tail, hc, hd, heq⟩ | h
  · rw [hleaf] at hoffset
    cases hoffset
  · by_cases hnow : c = offset
    · subst hnow
      obtain rfl := Option.some.inj (hoffset.symm.trans hd)
      -- the path goes on from the new top
      have hsplit : p = way ((node, c + 1) :: rest) ++ destination :: tail := by
        rw [heq, way_cons, List.append_assoc]
        rfl
      rw [hsplit]
      refine ahead_fresh _ ?_ (fun u hu => hp.leaf u ?_)
      · have hjoined := hp.joined
        rw [hsplit] at hjoined
        exact (List.isChain_append.1 hjoined).2.1
      · rw [hsplit, List.getLast?_append, hu]
        rfl
    · exact Or.inr (Or.inr (Or.inr (Or.inl ⟨c, d, tail, by omega, hd, heq⟩)))
  · exact Or.inr (Or.inr (Or.inr (Or.inr h)))

theorem Exhaustive.turn_on (h : Exhaustive next root w)
    (hturn : w.turn next pathBound depthBound referenceBound = .inr w') : Exhaustive next root w' := by
  obtain ⟨node, offset, rest, hstack, -, -, ht⟩ := TraceDag.turn_on hturn
  unfold Exhaustive at h
  rw [hstack] at h
  intro hcut p hp
  cases ht with
  | leaf hleaf =>
    have hpath : w.path = way ((node, offset) :: rest) := congrArg way hstack
    show p ∈ w.paths ++ [w.path] ∨ Ahead next rest p
    rw [List.mem_append, List.mem_singleton, hpath]
    rcases h hcut p hp with hdone | hahead
    · exact Or.inl (Or.inl hdone)
    · exact (hahead.leaf hleaf).imp_left Or.inr
  | deep hleaf hdepth => cases hcut
  | done hleaf hoffset => exact (h hcut p hp).imp_right (Ahead.done hleaf hoffset)
  | down hdepth hoffset => exact (h hcut p hp).imp_right (Ahead.down hoffset hp)

theorem turn_uncut (hturn : w.turn next pathBound depthBound referenceBound = .inl w') (hcut : w'.truncated = false) :
    w.stack = [] ∧ w' = w := by
  unfold Walk.turn at hturn
  cases hstack : w.stack with
  | nil =>
    rw [hstack] at hturn
    exact ⟨rfl, (Sum.inl.inj hturn).symm⟩
  | cons f rest =>
    obtain ⟨node, offset⟩ := f
    rw [hstack] at hturn
    simp only at hturn
    by_cases hfull : pathBound ≤ w.paths.length
    · rw [if_pos hfull] at hturn
      cases hturn
      cases hcut
    rw [if_neg hfull] at hturn
    by_cases hspent : referenceBound < w.references + w.path.length ∨
        w.references + w.path.length = referenceBound ∧ next node ≠ []
    · rw [if_pos hspent] at hturn
      cases hturn
      cases hcut
    rw [if_neg hspent] at hturn
    by_cases hleaf : next node = []
    · rw [if_pos hleaf] at hturn
      cases hturn
    rw [if_neg hleaf] at hturn
    by_cases hdeep : depthBound ≤ w.path.length
    · rw [if_pos hdeep] at hturn
      cases hturn
    rw [if_neg hdeep] at hturn
    cases hdestination : (next node)[offset]? with
    | none =>
      rw [hdestination] at hturn
      cases hturn
    | some destination =>
      rw [hdestination] at hturn
      cases hturn

theorem Exhaustive.walk : ∀ (fuel : Nat) {w w' : Walk}, Exhaustive next root w →
    TraceDag.walk next pathBound depthBound referenceBound fuel w = some w' → w'.truncated = false →
    ∀ p, Descent next root p → p ∈ w'.paths
  | 0, w, w', _, hwalk, _, _, _ => (by cases hwalk)
  | fuel + 1, w, w', h, hwalk, hcut, p, hp => by
    unfold TraceDag.walk at hwalk
    cases hturn : w.turn next pathBound depthBound referenceBound with
    | inl w'' =>
      rw [hturn] at hwalk
      obtain rfl := Option.some.inj hwalk
      obtain ⟨hempty, rfl⟩ := turn_uncut hturn hcut
      rcases h hcut p hp with hdone | hahead
      · exact hdone
      · rw [hempty] at hahead
        exact absurd hahead id
    | inr w'' =>
      rw [hturn] at hwalk
      exact Exhaustive.walk fuel (h.turn_on hturn) hwalk hcut p hp

/-- **Where nothing is cut every way down from the root to a leaf is found.** -/
theorem enumeratePaths_exhaustive {paths : List (List String)}
    (h : enumeratePaths next pathBound depthBound referenceBound root = some (paths, false)) (hp : Descent next root p) :
    p ∈ paths := by
  unfold enumeratePaths at h
  rw [Option.map_eq_some_iff] at h
  obtain ⟨w, hwalk, hw⟩ := h
  obtain ⟨rfl, hcut⟩ := Prod.mk.inj hw
  exact Exhaustive.walk _ (exhaustive_start root) hwalk hcut p hp

theorem collectBranches_exhaustive {h : Hashes} : ∀ (todo : List String) (done : List TraceBranch) (references : Nat)
    {found : List TraceBranch}, collectBranches h next todo done references = .ok (found, false) →
    (∀ b ∈ done, b ∈ found) ∧ ∀ root ∈ todo, ∀ p, Descent next root p → traceBranch h root p ∈ found
  | [], done, references, found, hc => by
    obtain ⟨rfl, -⟩ := Prod.mk.inj (Except.ok.inj hc)
    exact ⟨fun b hb => hb, fun root hroot => (by cases hroot)⟩
  | root :: todo, done, references, found, hc => by
    unfold collectBranches at hc
    by_cases hlimit : branchPathLimit - done.length = 0 ∨ branchNodeReferenceLimit - references = 0
    · rw [if_pos hlimit] at hc
      cases hc
    rw [if_neg hlimit] at hc
    obtain ⟨⟨paths, cut⟩, hpaths, hc⟩ := bind_ok hc
    obtain ⟨⟨all, truncated⟩, hrest, hc⟩ := bind_ok hc
    obtain ⟨rfl, hcut⟩ := Prod.mk.inj (Except.ok.inj hc)
    rw [Bool.or_eq_false_iff] at hcut
    obtain ⟨rfl, rfl⟩ := hcut
    obtain ⟨hdone, hroots⟩ := collectBranches_exhaustive todo _ _ hrest
    refine ⟨fun b hb => hdone b (List.mem_append_left _ hb), fun other hother p hp => ?_⟩
    rcases List.mem_cons.1 hother with rfl | hother
    · have hfound := enumeratePaths_exhaustive (okOr_ok hpaths) hp
      exact hdone _ (List.mem_append_right _ (List.mem_map_of_mem hfound))
    · exact hroots other hother p hp

end Ahead

/-! ## The branches of a trace -/

section Branches
variable {nodes : List TraceNode} {edges : List TraceEdge} {p : List String}

def cutDiagnostics (truncated : Bool) : List ProjectionDiagnostic := if truncated then [truncatedDiagnostic] else []

theorem mem_cutDiagnostics {truncated : Bool} : truncatedDiagnostic ∈ cutDiagnostics truncated ↔ truncated = true := by
  cases truncated <;> simp [cutDiagnostics]

structure RootPath (nodes : List TraceNode) (edges : List TraceEdge) (p : List String) : Prop where
  starts : ∃ root ∈ nodes.map TraceNode.id, p.head? = some root ∧ ∀ e ∈ edges, e.target ≠ root
  joined : p.IsChain (Leads edges)

/-- A path from a node no edge leads to, to a node no edge leads from. -/
structure RootToLeaf (nodes : List TraceNode) (edges : List TraceEdge) (p : List String) : Prop
    extends RootPath nodes edges p where
  leaf : ∀ v ∈ p.getLast?, ∀ e ∈ edges, e.source ≠ v

theorem adjacent_eq_nil {v : String} : adjacent edges v = [] ↔ ∀ e ∈ edges, e.source ≠ v := by
  simp only [List.eq_nil_iff_forall_not_mem, mem_adjacent]
  refine ⟨fun h e he hs => h e.target ⟨e, he, hs, rfl⟩, fun h u hu => ?_⟩
  obtain ⟨e, he, hs, -⟩ := hu
  exact h e he hs

theorem joined_adjacent : p.IsChain (fun u v => v ∈ adjacent edges u) ↔ p.IsChain (Leads edges) := by
  have hrel : (fun u v => v ∈ adjacent edges u) = Leads edges := by
    funext u v
    exact propext mem_adjacent
  rw [hrel]

theorem rootToLeaf_iff : RootToLeaf nodes edges p ↔ ∃ root ∈ roots nodes edges, Descent (adjacent edges) root p := by
  constructor
  · intro h
    obtain ⟨root, hroot, hhead, hnone⟩ := h.starts
    exact ⟨root, mem_roots.2 ⟨hroot, hnone⟩, hhead, joined_adjacent.2 h.joined, fun v hv => adjacent_eq_nil.2 (h.leaf v hv)⟩
  · rintro ⟨root, hroot, hd⟩
    obtain ⟨hmem, hnone⟩ := mem_roots.1 hroot
    exact ⟨⟨⟨root, hmem, hd.starts, hnone⟩, joined_adjacent.1 hd.joined⟩, fun v hv => adjacent_eq_nil.1 (hd.leaf v hv)⟩

structure Branched (b : TraceBranch) : Prop where
  root : b.nodeIds.head? = some b.rootNodeId
  leaf : b.nodeIds.getLast? = some b.leafNodeId

theorem branched_branchOf (h : Hashes) {root : String} (hroot : p.head? = some root) : Branched (branchOf h p) := by
  cases p with
  | nil => cases hroot
  | cons v tail =>
    refine ⟨rfl, ?_⟩
    show (v :: tail).getLast? = some ((v :: tail).getLast?.getD v)
    rw [List.getLast?_eq_some_getLast (List.cons_ne_nil v tail)]
    rfl

/-- **The branches of a trace** are different paths from its roots within the limits, and where none is cut they are all
its paths from a root to a leaf, each once. -/
theorem branches_complete (h : Hashes) (nodes : List TraceNode) (edges : List TraceEdge) :
    ∃ found truncated, branches h nodes edges = .ok (found, truncated) ∧
      found.length ≤ 256 ∧ (found.map (fun b => b.nodeIds.length)).sum ≤ 65536 ∧
      (∀ b ∈ found, b.nodeIds.length ≤ 4096 ∧ Branched b ∧ RootPath nodes edges b.nodeIds) ∧
      (found.map TraceBranch.nodeIds).Nodup ∧
      (truncatedDiagnostic ∉ cutDiagnostics truncated →
        ∀ p, p ∈ found.map TraceBranch.nodeIds ↔ RootToLeaf nodes edges p) := by
  obtain ⟨paths, truncated, hcollect, hf⟩ := collect_ok h nodes edges
  have hperm : (SortBy.sortBy TraceBranch.id (paths.map (branchOf h))).Perm (paths.map (branchOf h)) := SortBy.perm_sortBy _ _
  have hids : ((SortBy.sortBy TraceBranch.id (paths.map (branchOf h))).map TraceBranch.nodeIds).Perm paths := by
    have hmap := hperm.map TraceBranch.nodeIds
    rw [List.map_map, show TraceBranch.nodeIds ∘ branchOf h = id from rfl, List.map_id] at hmap
    exact hmap
  refine ⟨SortBy.sortBy TraceBranch.id (paths.map (branchOf h)), truncated, ?_, ?_, ?_, fun b hb => ?_, ?_, fun hcut p => ?_⟩
  · unfold branches
    rw [hcollect]
    rfl
  · rw [hperm.length_eq, List.length_map]
    exact hf.few
  · have hsum := (hids.map List.length).sum_eq
    rw [List.map_map] at hsum
    rw [show (fun b => b.nodeIds.length) = List.length ∘ TraceBranch.nodeIds from rfl, hsum]
    exact hf.bounded
  · obtain ⟨p, hp, rfl⟩ := List.mem_map.1 (hperm.mem_iff.1 hb)
    obtain ⟨root, hroot, hhead⟩ := hf.starts p hp
    obtain ⟨hmem, hnone⟩ := mem_roots.1 hroot
    exact ⟨hf.short p hp, branched_branchOf h hhead, ⟨root, hmem, hhead, hnone⟩, joined_adjacent.1 (hf.joined p hp)⟩
  · exact hids.nodup_iff.2 hf.distinct
  · have hfalse : truncated = false := Bool.eq_false_iff.2 (fun htrue => hcut (mem_cutDiagnostics.2 htrue))
    subst hfalse
    rw [hids.mem_iff, rootToLeaf_iff]
    refine ⟨fun hp => ?_, fun ⟨root, hroot, hd⟩ => ?_⟩
    · obtain ⟨root, hroot, hhead⟩ := hf.starts p hp
      exact ⟨root, hroot, hhead, hf.joined p hp, hf.complete rfl p hp⟩
    · obtain ⟨q, hq, heq⟩ := List.mem_map.1 ((collectBranches_exhaustive _ _ _ hcollect).2 root hroot p hd)
      have hnodes := congrArg TraceBranch.nodeIds heq
      rw [show q = p from hnodes] at hq
      exact hq

end Branches

end TraceDag
end Bildr
