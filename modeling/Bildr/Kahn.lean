import Bildr.Dfs
import Bildr.SortedSet
import Mathlib.Data.List.Perm.Subperm
/-!
# Kahn — a finite graph is acyclic when it can be peeled

A graph is a list of different edges.  Peeling takes a node no remaining edge points to, counts down the nodes it points
to, and goes on with those whose count is zero.  The counts never go below zero, at most every node is taken once, and
every node is taken exactly when nothing descends forever (`peelAll_spec`).
-/
namespace Kahn

variable {α : Type} [LinearOrder α]

def successors (edges : List (α × α)) (node : α) : List α :=
  SortedSet.ofList ((edges.filter (fun p => decide (p.1 = node))).map Prod.snd)

def lower (s : List α × (α → Nat)) (node : α) : Option (List α × (α → Nat)) :=
  if s.2 node = 0 then none
  else some (if s.2 node = 1 then SortedSet.ofList (node :: s.1) else s.1, Function.update s.2 node (s.2 node - 1))

/-- How many nodes are taken, and the counts that are left; none where a count or the fuel runs out. -/
def peel (edges : List (α × α)) : Nat → List α → (α → Nat) → Nat → Option (Nat × (α → Nat))
  | _, [], inbound, visited               => some (visited, inbound)
  | 0, _ :: _, _, _                       => none
  | fuel + 1, node :: ready, inbound, visited =>
    ((successors edges node).foldlM lower (ready, inbound)).bind (fun s => peel edges fuel s.1 s.2 (visited + 1))

def inbound (edges : List (α × α)) (node : α) : Nat := edges.countP (fun p => decide (p.2 = node))

def peelAll (edges : List (α × α)) (nodes : List α) : Option (Nat × (α → Nat)) :=
  peel edges nodes.length (nodes.filter (fun node => decide (inbound edges node = 0))) (inbound edges) 0

/-! ## Counting down -/

section Lower
variable {ready ready' : List α} {count count' : α → Nat} {nodes : List α}

/-- Counting down nodes that all have a count. -/
theorem lower_all : ∀ (nodes : List α) (ready : List α) (count : α → Nat), nodes.Nodup → ready.Nodup →
    (∀ v ∈ nodes, 0 < count v) →
    ∃ ready' count', nodes.foldlM lower (ready, count) = some (ready', count') ∧ ready'.Nodup ∧
      (∀ v, count' v = if v ∈ nodes then count v - 1 else count v) ∧
      ∀ v, v ∈ ready' ↔ v ∈ ready ∨ v ∈ nodes ∧ count v = 1
  | [], ready, count, _, hready, _ => ⟨ready, count, rfl, hready, by simp, by simp⟩
  | node :: nodes, ready, count, hnodes, hready, hpos => by
    rw [List.nodup_cons] at hnodes
    have hnode : count node ≠ 0 := Nat.pos_iff_ne_zero.1 (hpos node List.mem_cons_self)
    have hready₁ : (if count node = 1 then SortedSet.ofList (node :: ready) else ready).Nodup := by
      split
      · exact SortedSet.nodup_ofList _
      · exact hready
    obtain ⟨ready', count', hfold, hnodup, hcount, hmem⟩ := lower_all nodes
      (if count node = 1 then SortedSet.ofList (node :: ready) else ready)
      (Function.update count node (count node - 1)) hnodes.2 hready₁ (fun v hv => by
        rw [Function.update_of_ne (fun heq : v = node => hnodes.1 (heq ▸ hv))]
        exact hpos v (List.mem_cons_of_mem node hv))
    refine ⟨ready', count', ?_, hnodup, fun v => ?_, fun v => ?_⟩
    · rw [List.foldlM_cons]
      unfold lower
      rw [if_neg hnode]
      exact hfold
    · rw [hcount]
      by_cases hv : v = node
      · subst hv
        simp [hnodes.1]
      · simp [hv]
    · rw [hmem]
      by_cases hv : v = node
      · subst hv
        by_cases hone : count v = 1
        · simp [hone]
        · simp [hone, hnodes.1]
      · rw [Function.update_of_ne hv]
        by_cases hone : count node = 1
        · simp [hone, hv]
        · simp [hone, hv]

end Lower

/-! ## The invariant -/

section Peel
variable {edges : List (α × α)} {nodes : List α}

structure Peeled (edges : List (α × α)) (nodes taken ready : List α) (count : α → Nat) : Prop where
  distinct : taken.Nodup
  known : ∀ v ∈ taken, v ∈ nodes
  waiting : ∀ v, v ∈ ready ↔ v ∈ nodes ∧ v ∉ taken ∧ count v = 0
  waitingDistinct : ready.Nodup
  closed : ∀ v ∈ taken, count v = 0
  counted : ∀ v, count v = edges.countP (fun p => decide (p.2 = v ∧ p.1 ∉ taken))
  acc : ∀ v ∈ taken, Acc (fun u v => (u, v) ∈ edges) v

theorem mem_successors {edges : List (α × α)} {node v : α} : v ∈ successors edges node ↔ (node, v) ∈ edges := by
  unfold successors
  rw [SortedSet.mem_ofList, List.mem_map]
  constructor
  · rintro ⟨p, hp, rfl⟩
    rw [List.mem_filter, decide_eq_true_eq] at hp
    exact hp.2 ▸ hp.1
  · intro h
    exact ⟨(node, v), List.mem_filter.2 ⟨h, by simp⟩, rfl⟩

/-- One more node taken: one edge less into each node it leads to. -/
theorem count_taken (hedges : edges.Nodup) {taken : List α} {node : α} (hnode : node ∉ taken) (v : α) :
    edges.countP (fun p => decide (p.2 = v ∧ p.1 ∉ taken)) =
      edges.countP (fun p => decide (p.2 = v ∧ p.1 ∉ node :: taken)) + if (node, v) ∈ edges then 1 else 0 := by
  have hsplit : ∀ l : List (α × α), l.countP (fun p => decide (p.2 = v ∧ p.1 ∉ taken)) =
      l.countP (fun p => decide (p.2 = v ∧ p.1 ∉ node :: taken)) + l.count (node, v) := by
    intro l
    induction l with
    | nil => rfl
    | cons p l ih =>
      rw [List.countP_cons, List.countP_cons, List.count_cons, ih]
      obtain ⟨u, w⟩ := p
      by_cases hw : w = v
      · subst hw
        by_cases hu : u = node
        · subst hu
          simp [hnode]
          omega
        · by_cases ht : u ∈ taken
          · simp [hu, ht]
          · simp [hu, ht]
            omega
      · simp [hw]
  rw [hsplit, hedges.count]

theorem Peeled.step (hedges : edges.Nodup) (hknown : ∀ p ∈ edges, p.2 ∈ nodes) {taken ready : List α} {node : α}
    {count : α → Nat} (h : Peeled edges nodes taken (node :: ready) count) :
    ∃ ready' count', (successors edges node).foldlM lower (ready, count) = some (ready', count') ∧
      Peeled edges nodes (node :: taken) ready' count' := by
  obtain ⟨hnode, hfresh, hzero⟩ := (h.waiting node).1 List.mem_cons_self
  have hready := List.nodup_cons.1 h.waitingDistinct
  have hcount : ∀ v, count v = edges.countP (fun p => decide (p.2 = v ∧ p.1 ∉ node :: taken)) +
      if (node, v) ∈ edges then 1 else 0 := by
    intro v
    rw [h.counted]
    exact count_taken hedges hfresh v
  have hpos : ∀ v ∈ successors edges node, 0 < count v := by
    intro v hv
    rw [hcount v, if_pos (mem_successors.1 hv)]
    omega
  obtain ⟨ready', count', hfold, hnodup, hlower, hmem⟩ := lower_all (successors edges node) ready count
    (SortedSet.nodup_ofList _) hready.2 hpos
  have hlowered : ∀ v, count' v = edges.countP (fun p => decide (p.2 = v ∧ p.1 ∉ node :: taken)) := by
    intro v
    rw [hlower v, hcount v]
    by_cases hv : v ∈ successors edges node
    · rw [if_pos hv, if_pos (mem_successors.1 hv)]
      omega
    · rw [if_neg hv, if_neg (fun hedge => hv (mem_successors.2 hedge))]
      omega
  -- a node that is taken already has no count, so none of them is lowered
  have hlive : ∀ v ∈ successors edges node, v ∉ node :: taken := by
    intro v hv hin
    have hv' := hpos v hv
    rcases List.mem_cons.1 hin with rfl | hin
    · omega
    · have := h.closed v hin
      omega
  refine ⟨ready', count', hfold, ⟨List.nodup_cons.2 ⟨hfresh, h.distinct⟩, fun v hv => ?_, fun v => ?_, hnodup,
    fun v hv => ?_, hlowered, fun v hv => ?_⟩⟩
  · rcases List.mem_cons.1 hv with rfl | hv
    · exact hnode
    · exact h.known v hv
  · have hold := h.waiting v
    rw [List.mem_cons] at hold
    rw [hmem, hlower v, List.mem_cons]
    by_cases hv : v ∈ successors edges node
    · have hlive' := hlive v hv
      rw [List.mem_cons] at hlive'
      have hv' := hpos v hv
      have hin : v ∈ nodes := hknown (node, v) (mem_successors.1 hv)
      have hnot : v ∉ ready := by
        intro hr
        have := (hold.1 (Or.inr hr)).2.2
        omega
      rw [if_pos hv]
      simp only [hnot, hv, hin, hlive', false_or, true_and, not_false_eq_true]
      omega
    · rw [if_neg hv]
      by_cases hself : v = node
      · subst hself
        simp [hready.1, hv]
      · rw [or_iff_right hself] at hold
        simp [hold, hv, hself]
  · have hle := hcount v
    rw [← hlowered v] at hle
    have hzero' : count v = 0 := by
      rcases List.mem_cons.1 hv with rfl | hv
      · exact hzero
      · exact h.closed v hv
    omega
  · rcases List.mem_cons.1 hv with rfl | hv
    · refine Acc.intro v (fun u hu => ?_)
      have hnone := h.counted v
      rw [hzero] at hnone
      have hdone := List.countP_eq_zero.1 hnone.symm (u, v) hu
      have htaken : u ∈ taken := by
        by_contra hn
        exact hdone (by simp [hn])
      exact h.acc u htaken
    · exact h.acc v hv

/-- Peeling ends, with every node taken that can be. -/
theorem peel_peeled (hedges : edges.Nodup) (hknown : ∀ p ∈ edges, p.2 ∈ nodes) :
    ∀ (fuel : Nat) {taken ready : List α} {count : α → Nat}, Peeled edges nodes taken ready count →
      nodes.length ≤ fuel + taken.length →
      ∃ count' taken', peel edges fuel ready count taken.length = some (taken'.length, count') ∧
        Peeled edges nodes taken' [] count'
  | fuel, taken, [], count, h, _ => ⟨count, taken, by unfold peel; rfl, h⟩
  | 0, taken, node :: ready, count, h, hfuel => by
    obtain ⟨hnode, hfresh, -⟩ := (h.waiting node).1 List.mem_cons_self
    have hsub : (node :: taken) ⊆ nodes := by
      intro v hv
      rcases List.mem_cons.1 hv with rfl | hv
      · exact hnode
      · exact h.known v hv
    have hlength := (List.subperm_of_subset (List.nodup_cons.2 ⟨hfresh, h.distinct⟩) hsub).length_le
    rw [List.length_cons] at hlength
    omega
  | fuel + 1, taken, node :: ready, count, h, hfuel => by
    obtain ⟨ready', count', hfold, hnext⟩ := h.step hedges hknown
    have hlength : nodes.length ≤ fuel + (node :: taken).length := by
      rw [List.length_cons]
      omega
    obtain ⟨count'', taken'', hpeel, hdone⟩ := peel_peeled hedges hknown fuel hnext hlength
    refine ⟨count'', taken'', ?_, hdone⟩
    rw [peel, hfold]
    exact hpeel

/-- **Peeling takes every node exactly when nothing descends forever**; where it does not, a count is left. -/
theorem peelAll_spec (hedges : edges.Nodup) (hnodes : nodes.Nodup) (hends : ∀ p ∈ edges, p.1 ∈ nodes ∧ p.2 ∈ nodes) :
    ∃ visited count, peelAll edges nodes = some (visited, count) ∧
      (visited = nodes.length ↔ ∀ v ∈ nodes, Acc (fun u v => (u, v) ∈ edges) v) ∧
      (visited ≠ nodes.length → ∃ v ∈ nodes, 0 < count v) := by
  have hstart : Peeled edges nodes [] (nodes.filter (fun node => decide (inbound edges node = 0))) (inbound edges) := by
    refine ⟨List.nodup_nil, fun v hv => (by cases hv), fun v => ?_, hnodes.filter _, fun v hv => (by cases hv), fun v => ?_,
      fun v hv => (by cases hv)⟩
    · rw [List.mem_filter, decide_eq_true_eq]
      simp
    · unfold inbound
      simp
  obtain ⟨count, taken, hpeel, h⟩ := peel_peeled hedges (fun p hp => (hends p hp).2) nodes.length hstart
    (Nat.le_add_right _ _)
  -- a node that is not taken has an edge from another one that is not
  have hleft : ∀ v ∈ nodes, v ∉ taken → 0 < count v := by
    intro v hv hnot
    by_contra hzero
    have hready := (h.waiting v).2 ⟨hv, hnot, by omega⟩
    cases hready
  refine ⟨taken.length, count, hpeel, ⟨fun hall v hv => ?_, fun hacc => ?_⟩, fun hne => ?_⟩
  · have hperm := (List.subperm_of_subset h.distinct h.known).perm_of_length_le (Nat.le_of_eq hall.symm)
    exact h.acc v (hperm.mem_iff.2 hv)
  · by_contra hne
    obtain ⟨v, hv, hnot⟩ : ∃ v ∈ nodes, v ∉ taken := by
      by_contra hnone
      push Not at hnone
      have hlength := (List.subperm_of_subset hnodes hnone).length_le
      have hlength' := (List.subperm_of_subset h.distinct h.known).length_le
      omega
    obtain ⟨w, hw, hmin⟩ := Dfs.exists_minimal (R := fun u v => (u, v) ∈ edges)
      (l := nodes.filter (fun v => decide (v ∉ taken))) (hacc v hv)
      (List.mem_filter.2 ⟨hv, decide_eq_true hnot⟩)
    rw [List.mem_filter, decide_eq_true_eq] at hw
    have hpos := hleft w hw.1 hw.2
    rw [h.counted, List.countP_pos_iff] at hpos
    obtain ⟨p, hp, hpw⟩ := hpos
    rw [decide_eq_true_eq] at hpw
    refine hmin p.1 (List.mem_filter.2 ⟨(hends p hp).1, decide_eq_true hpw.2⟩) ?_
    rw [← hpw.1]
    exact hp
  · by_contra hnone
    push Not at hnone
    refine hne (le_antisymm (List.subperm_of_subset h.distinct h.known).length_le (List.subperm_of_subset hnodes (fun v hv => ?_)).length_le)
    by_contra hnot
    have hpos := hleft v hv hnot
    have hzero := hnone v hv
    omega

end Peel

end Kahn
