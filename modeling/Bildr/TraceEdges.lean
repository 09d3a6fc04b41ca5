import Bildr.Kahn
import Bildr.TraceReceipts
/-!
# TraceEdges — the edges of a trace

`validate_edges` checks that every edge joins known nodes and that the graph has no cycle, by peeling it.  It accepts a
list of edges exactly when both hold, and it never panics (`validateEdges_ok`, `validateEdges_total`).
-/
namespace Bildr
namespace TraceDag

abbrev KeyMap : Type := List (String × String)

/-- `insert`, which takes the place of an older entry. -/
def KeyMap.insert (m : KeyMap) (key id : String) : KeyMap := (key, id) :: m.filter (fun p => p.1 != key)

def KeyMap.ids (m : KeyMap) : List String := SortedSet.ofList (m.map Prod.snd)

def connect (ids : List String) (pairs : List (String × String)) (e : TraceEdge) :
    Except Halt (List (String × String)) := do
  ensure (ids.contains e.source) (.error (.unknownRelationReceipt e.source))
  ensure (ids.contains e.target) (.error (.unknownRelationReceipt e.target))
  return if pairs.contains (e.source, e.target) then pairs else pairs ++ [(e.source, e.target)]

def validateEdges (keys : KeyMap) (edges : List TraceEdge) : Except Halt Unit := do
  let pairs ← edges.foldlM (connect keys.ids) []
  match Kahn.peelAll pairs keys.ids with
  | none                  => .error .panic
  | some (visited, count) =>
    if visited == keys.ids.length then .ok ()
    else
      match keys.ids.find? (fun id => decide (0 < count id)) with
      | some node => .error (.error (.cycle node node))
      | none      => .error .panic

/-! ## What it accepts -/

def Leads (edges : List TraceEdge) (u v : String) : Prop := ∃ e ∈ edges, e.source = u ∧ e.target = v

section Connect
variable {ids : List String}

structure Connected (ids : List String) (edges : List TraceEdge) (pairs : List (String × String)) : Prop where
  distinct : pairs.Nodup
  known : ∀ e ∈ edges, e.source ∈ ids ∧ e.target ∈ ids
  pairs : ∀ u v, (u, v) ∈ pairs ↔ Leads edges u v

theorem connect_known {e : TraceEdge} (hs : e.source ∈ ids) (ht : e.target ∈ ids) (pairs : List (String × String)) :
    connect ids pairs e = .ok (if pairs.contains (e.source, e.target) then pairs else pairs ++ [(e.source, e.target)]) := by
  unfold connect
  rw [List.contains_iff_mem.2 hs, List.contains_iff_mem.2 ht]
  rfl

theorem Connected.snoc {edges : List TraceEdge} {pairs : List (String × String)} (h : Connected ids edges pairs)
    {e : TraceEdge} (hs : e.source ∈ ids) (ht : e.target ∈ ids) : Connected ids (edges ++ [e])
      (if pairs.contains (e.source, e.target) then pairs else pairs ++ [(e.source, e.target)]) := by
  have hknown : ∀ e' ∈ edges ++ [e], e'.source ∈ ids ∧ e'.target ∈ ids := by
    intro e' he'
    rcases List.mem_append.1 he' with he' | he'
    · exact h.known e' he'
    · rw [List.mem_singleton.1 he']
      exact ⟨hs, ht⟩
  have hleads : ∀ u v, Leads (edges ++ [e]) u v ↔ Leads edges u v ∨ e.source = u ∧ e.target = v := by
    intro u v
    unfold Leads
    simp only [List.mem_append, List.mem_singleton, or_and_right, exists_or, exists_eq_left]
  by_cases hmem : (e.source, e.target) ∈ pairs
  · rw [if_pos (List.contains_iff_mem.2 hmem)]
    refine ⟨h.distinct, hknown, fun u v => ?_⟩
    rw [hleads, h.pairs u v]
    refine ⟨Or.inl, fun hor => ?_⟩
    rcases hor with hold | ⟨rfl, rfl⟩
    · exact hold
    · exact (h.pairs _ _).1 hmem
  · rw [if_neg (fun hc => hmem (List.contains_iff_mem.1 hc))]
    refine ⟨List.nodup_append.2 ⟨h.distinct, List.nodup_singleton _, fun a ha b hb => ?_⟩, hknown, fun u v => ?_⟩
    · rw [List.mem_singleton.1 hb]
      exact fun heq => hmem (heq ▸ ha)
    · rw [hleads, List.mem_append, h.pairs u v, List.mem_singleton, Prod.mk.injEq, eq_comm (a := u), eq_comm (a := v)]

theorem connect_all : ∀ (edges done : List TraceEdge) (pairs : List (String × String)), Connected ids done pairs →
    (∃ pairs', edges.foldlM (connect ids) pairs = .ok pairs' ∧ Connected ids (done ++ edges) pairs') ∨
    (∃ e ∈ edges, ¬ (e.source ∈ ids ∧ e.target ∈ ids)) ∧
      ∃ key, edges.foldlM (connect ids) pairs = .error (.error (.unknownRelationReceipt key))
  | [], done, pairs, h => Or.inl ⟨pairs, rfl, by rw [List.append_nil]; exact h⟩
  | e :: edges, done, pairs, h => by
    by_cases hs : e.source ∈ ids
    · by_cases ht : e.target ∈ ids
      · have hstep := connect_known hs ht pairs
        rcases connect_all edges (done ++ [e]) _ (h.snoc hs ht) with ⟨pairs', hfold, hc⟩ | ⟨⟨e', he', hbad⟩, key, hfold⟩
        · refine Or.inl ⟨pairs', ?_, ?_⟩
          · rw [List.foldlM_cons, hstep]
            exact hfold
          · rw [List.append_assoc] at hc
            exact hc
        · refine Or.inr ⟨⟨e', List.mem_cons_of_mem e he', hbad⟩, key, ?_⟩
          rw [List.foldlM_cons, hstep]
          exact hfold
      · refine Or.inr ⟨⟨e, List.mem_cons_self, fun hboth => ht hboth.2⟩, e.target, ?_⟩
        rw [List.foldlM_cons]
        unfold connect
        rw [List.contains_iff_mem.2 hs, show ids.contains e.target = false by simpa using ht]
        rfl
    · refine Or.inr ⟨⟨e, List.mem_cons_self, fun hboth => hs hboth.1⟩, e.source, ?_⟩
      rw [List.foldlM_cons]
      unfold connect
      rw [show ids.contains e.source = false by simpa using hs]
      rfl

end Connect

section Validate
variable {keys : KeyMap} {edges : List TraceEdge}

theorem validateEdges_cases (keys : KeyMap) (edges : List TraceEdge) :
    (validateEdges keys edges = .ok () ↔ (∀ e ∈ edges, e.source ∈ keys.ids ∧ e.target ∈ keys.ids) ∧
      ∀ v, Acc (Leads edges) v) ∧ validateEdges keys edges ≠ .error .panic := by
  have hstart : Connected keys.ids [] [] := ⟨List.nodup_nil, fun e he => (by cases he), fun u v => by simp [Leads]⟩
  unfold validateEdges
  rcases connect_all edges [] [] hstart with ⟨pairs, hfold, hc⟩ | ⟨⟨e, he, hbad⟩, key, hfold⟩
  · rw [List.nil_append] at hc
    rw [hfold, ok_bind]
    have hends : ∀ p ∈ pairs, p.1 ∈ keys.ids ∧ p.2 ∈ keys.ids := by
      intro p hp
      obtain ⟨e, he, hs, ht⟩ := (hc.pairs p.1 p.2).1 hp
      rw [← hs, ← ht]
      exact hc.known e he
    have hrel : (fun u v => (u, v) ∈ pairs) = Leads edges := by
      funext u v
      exact propext (hc.pairs u v)
    have hids : keys.ids.Nodup := SortedSet.nodup_ofList _
    obtain ⟨visited, count, hpeel, hall, hleft⟩ := Kahn.peelAll_spec hc.distinct hids hends
    rw [hrel] at hall
    -- nothing leads to a node that is not known
    have hacc : (∀ v ∈ keys.ids, Acc (Leads edges) v) ↔ ∀ v, Acc (Leads edges) v := by
      refine ⟨fun h v => ?_, fun h v _ => h v⟩
      by_cases hv : v ∈ keys.ids
      · exact h v hv
      · refine Acc.intro v (fun u hu => ?_)
        obtain ⟨e, he, -, ht⟩ := hu
        exact absurd (ht ▸ (hc.known e he).2) hv
    rw [hpeel]
    by_cases hvisited : visited = keys.ids.length
    · simp only [hvisited, beq_self_eq_true, if_true]
      exact ⟨⟨fun _ => ⟨hc.known, hacc.1 (hall.1 hvisited)⟩, fun _ => trivial⟩, fun h => (by cases h)⟩
    · obtain ⟨v, hv, hpos⟩ := hleft hvisited
      have hfind : ∃ node, keys.ids.find? (fun id => decide (0 < count id)) = some node := by
        rw [← Option.isSome_iff_exists, List.find?_isSome]
        exact ⟨v, hv, decide_eq_true hpos⟩
      obtain ⟨node, hnode⟩ := hfind
      have hfalse : (visited == keys.ids.length) = false := by simpa using hvisited
      simp only [hfalse, Bool.false_eq_true, if_false, hnode]
      exact ⟨⟨fun h => (by cases h), fun h => absurd (hall.2 (hacc.2 h.2)) hvisited⟩, fun h => (by cases h)⟩
  · rw [hfold, error_bind]
    exact ⟨⟨fun h => (by cases h), fun h => absurd (h.1 e he) hbad⟩, fun h => (by cases h)⟩

/-- **Edges are accepted exactly when they join known nodes without a cycle.** -/
theorem validateEdges_ok : validateEdges keys edges = .ok () ↔
    (∀ e ∈ edges, e.source ∈ keys.ids ∧ e.target ∈ keys.ids) ∧ ∀ v, Acc (Leads edges) v :=
  (validateEdges_cases keys edges).1

/-- **No count runs out, and a cycle is found where there is one.** -/
theorem validateEdges_total : validateEdges keys edges ≠ .error .panic := (validateEdges_cases keys edges).2

theorem acc_leads_iff (edges : List TraceEdge) :
    (∀ v, Acc (Leads edges) v) ↔ ∀ v, ¬ Relation.TransGen (Leads edges) v v := by
  refine ⟨fun hacc v => Dfs.not_cycle_of_acc (hacc v), fun hacyclic => ?_⟩
  have hfinite : {v | v ∈ edges.map TraceEdge.source}.Finite := List.finite_toSet _
  refine Dfs.acc_of_acyclic hfinite (fun u v huv => ?_) hacyclic
  obtain ⟨e, he, hs, -⟩ := huv
  exact List.mem_map.2 ⟨e, he, hs⟩

/-- **Peeling known edges ends**: no count runs out, and a node that is not taken has a count left. -/
theorem peelAll_connected {pairs : List (String × String)} (hfold : edges.foldlM (connect keys.ids) [] = .ok pairs) :
    ∃ visited count, Kahn.peelAll pairs keys.ids = some (visited, count) ∧
      (visited ≠ keys.ids.length → ∃ v ∈ keys.ids, 0 < count v) := by
  have hstart : Connected keys.ids [] [] := ⟨List.nodup_nil, fun e he => (by cases he), fun u v => by simp [Leads]⟩
  rcases connect_all edges [] [] hstart with ⟨pairs', hfold', hc⟩ | ⟨-, key, hfold'⟩
  · obtain rfl := Except.ok.inj (hfold.symm.trans hfold')
    have hends : ∀ p ∈ pairs, p.1 ∈ keys.ids ∧ p.2 ∈ keys.ids := by
      intro p hp
      obtain ⟨e, he, hs, ht⟩ := (hc.pairs p.1 p.2).1 hp
      rw [← hs, ← ht]
      exact hc.known e he
    obtain ⟨visited, count, hpeel, -, hleft⟩ := Kahn.peelAll_spec hc.distinct (SortedSet.nodup_ofList _) hends
    exact ⟨visited, count, hpeel, hleft⟩
  · rw [hfold] at hfold'
    cases hfold'

/-- **Edges are accepted exactly when they join known nodes without a cycle**; the counts never run out, the worklist
does, and where nodes are left over one of them has a count. -/
theorem validateEdges_decides (keys : KeyMap) (edges : List TraceEdge) :
    (validateEdges keys edges = .ok () ↔ (∀ e ∈ edges, e.source ∈ keys.ids ∧ e.target ∈ keys.ids) ∧
      ∀ v, ¬ Relation.TransGen (Leads edges) v v) ∧
    (∀ pairs, edges.foldlM (connect keys.ids) [] = .ok pairs →
      ∃ visited count, Kahn.peelAll pairs keys.ids = some (visited, count) ∧
        (visited ≠ keys.ids.length → ∃ v ∈ keys.ids, 0 < count v)) ∧
    validateEdges keys edges ≠ .error .panic := by
  refine ⟨?_, fun pairs => peelAll_connected, validateEdges_total⟩
  rw [validateEdges_ok, acc_leads_iff]

end Validate

end TraceDag
end Bildr
