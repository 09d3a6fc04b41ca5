import Bildr.TraceEdges
import Mathlib.Algebra.GroupWithZero.Nat
import Mathlib.Data.List.Chain
/-!
# TraceBranches — the paths of a trace, under three limits

`enumerate_paths` walks down from a root with an explicit stack and emits a path at every leaf, at the depth limit, and
once more when the node references run out.  The walk ends (`walk_ends`), the paths it emits are different ways down
from the root within the limits (`enumeratePaths_ok`), and there is always one.
-/
namespace Bildr
namespace TraceDag

def branchPathLimit : Nat := 256

def branchDepthLimit : Nat := 4096

def branchNodeReferenceLimit : Nat := 65536

/-! ## The walk -/

def way (stack : List (String × Nat)) : List String := (stack.map Prod.fst).reverse

structure Walk where
  paths : List (List String)
  references : Nat
  stack : List (String × Nat)
  truncated : Bool
deriving DecidableEq

def Walk.path (w : Walk) : List String := way w.stack

section Walk
variable (next : String → List String) (pathBound depthBound referenceBound : Nat)

def Walk.emit (w : Walk) (rest : List (String × Nat)) (truncated : Bool) : Walk :=
  ⟨w.paths ++ [w.path], w.references + w.path.length, rest, truncated⟩

def Walk.exhaust (w : Walk) : Walk :=
  { w with
    paths := if 0 < referenceBound - w.references then
        w.paths ++ [w.path.take (min (referenceBound - w.references) w.path.length)]
      else w.paths
    truncated := true }

def Walk.turn (w : Walk) : Walk ⊕ Walk :=
  match w.stack with
  | []                     => .inl w
  | (node, offset) :: rest =>
    if pathBound ≤ w.paths.length then .inl { w with truncated := true }
    else if referenceBound < w.references + w.path.length ∨
        w.references + w.path.length = referenceBound ∧ next node ≠ [] then .inl (w.exhaust referenceBound)
    else if next node = [] then .inr (w.emit rest w.truncated)
    else if depthBound ≤ w.path.length then .inr (w.emit rest true)
    else
      match (next node)[offset]? with
      | none             => .inr { w with stack := rest }
      | some destination => .inr { w with stack := (destination, 0) :: (node, offset + 1) :: rest }

def walk : Nat → Walk → Option Walk
  | 0, _        => none
  | fuel + 1, w =>
    match w.turn next pathBound depthBound referenceBound with
    | .inl w => some w
    | .inr w => walk fuel w

def walkFuel : Nat := (pathBound + 1) * (2 * depthBound + 3)

def enumeratePaths (root : String) : Option (List (List String) × Bool) :=
  (walk next pathBound depthBound referenceBound (walkFuel pathBound depthBound) ⟨[], 0, [(root, 0)], false⟩).map
    (fun w => (w.paths, w.truncated))

end Walk

/-! ## Branches -/

def adjacent (edges : List TraceEdge) (node : String) : List String :=
  SortedSet.ofList ((edges.filter (fun e => e.source == node)).map TraceEdge.target)

def branchParts (root : String) (nodeIds : List String) : List String :=
  ["harness.trace.branch.v2", root, String.intercalate "," nodeIds]

def traceBranch (h : Hashes) (root : String) (nodeIds : List String) : TraceBranch :=
  ⟨"b_" ++ h.digest (branchParts root nodeIds), root, nodeIds.getLast?.getD root, nodeIds,
    [("path_bound", .num (.pos branchPathLimit))]⟩

def collectBranches (h : Hashes) (next : String → List String) :
    List String → List TraceBranch → Nat → Except Halt (List TraceBranch × Bool)
  | [], branches, _                     => .ok (branches, false)
  | root :: roots, branches, references =>
    if branchPathLimit - branches.length = 0 ∨ branchNodeReferenceLimit - references = 0 then .ok (branches, true)
    else do
      let (paths, cut) ← okOr (enumeratePaths next (branchPathLimit - branches.length) branchDepthLimit
        (branchNodeReferenceLimit - references) root) .panic
      let (all, truncated) ← collectBranches h next roots (branches ++ paths.map (traceBranch h root))
        (references + (paths.map List.length).sum)
      return (all, cut || truncated)

def roots (nodes : List TraceNode) (edges : List TraceEdge) : List String :=
  (SortedSet.ofList (nodes.map TraceNode.id)).filter (fun id => !edges.any (fun e => e.target == id))

def truncatedDiagnostic : ProjectionDiagnostic := ⟨"branch_path_bound_reached", "path_limit_reached", []⟩

/-! ## The walk ends -/

section Ends
variable {next : String → List String} {pathBound depthBound referenceBound : Nat} {w w' : Walk}

/-- The nodes of the stack lead from the root to its top, each by the offset before the one it stands at. -/
def Stacked (next : String → List String) (root : String) : List (String × Nat) → Prop
  | []                        => True
  | [(v, _)]                  => v = root
  | (v, _) :: (u, o) :: stack => 0 < o ∧ (next u)[o - 1]? = some v ∧ Stacked next root ((u, o) :: stack)

theorem Stacked.tail {root : String} {f : String × Nat} {stack : List (String × Nat)}
    (h : Stacked next root (f :: stack)) : Stacked next root stack := by
  cases stack with
  | nil => trivial
  | cons g stack => exact h.2.2

theorem Stacked.offset_pos {root : String} {f g : String × Nat} {stack : List (String × Nat)}
    (h : Stacked next root (f :: g :: stack)) : 0 < g.2 := h.1

@[simp] theorem length_way (stack : List (String × Nat)) : (way stack).length = stack.length := by
  unfold way
  rw [List.length_reverse, List.length_map]

@[simp] theorem way_cons (f : String × Nat) (stack : List (String × Nat)) : way (f :: stack) = way stack ++ [f.1] := by
  unfold way
  rw [List.map_cons, List.reverse_cons]

theorem length_path (w : Walk) : w.path.length = w.stack.length := length_way w.stack

/-- How far a stack is from the next path: down from a fresh top, or up and then down. -/
def phase (depthBound : Nat) : List (String × Nat) → Nat
  | []          => 0
  | f :: stack  => if f.2 = 0 then depthBound - (stack.length + 1) else depthBound + 1 + (stack.length + 1)

def measure (pathBound depthBound : Nat) (w : Walk) : Nat :=
  (pathBound - w.paths.length) * (2 * depthBound + 2) + phase depthBound w.stack

theorem phase_fresh (node : String) (stack : List (String × Nat)) :
    phase depthBound ((node, 0) :: stack) = depthBound - (stack.length + 1) := by
  unfold phase
  exact if_pos rfl

theorem phase_gone {f : String × Nat} (h : f.2 ≠ 0) (stack : List (String × Nat)) :
    phase depthBound (f :: stack) = depthBound + 1 + (stack.length + 1) := if_neg h

theorem phase_tail (depthBound : Nat) {root : String} {f : String × Nat} {stack : List (String × Nat)}
    (h : Stacked next root (f :: stack)) : phase depthBound stack ≤ depthBound + 1 + stack.length := by
  cases stack with
  | nil => exact Nat.zero_le _
  | cons g stack =>
    have hpos := h.offset_pos
    rw [phase_gone (by omega), List.length_cons]

inductive Turned (next : String → List String) (pathBound depthBound referenceBound : Nat) (w : Walk) :
    String → Nat → List (String × Nat) → Walk → Prop
  | leaf {node : String} {offset : Nat} {rest : List (String × Nat)} (h : next node = []) :
      Turned next pathBound depthBound referenceBound w node offset rest (w.emit rest w.truncated)
  | deep {node : String} {offset : Nat} {rest : List (String × Nat)} (h : next node ≠ [])
      (hdepth : depthBound ≤ w.path.length) :
      Turned next pathBound depthBound referenceBound w node offset rest (w.emit rest true)
  | done {node : String} {offset : Nat} {rest : List (String × Nat)} (h : next node ≠ [])
      (hoffset : (next node).length ≤ offset) :
      Turned next pathBound depthBound referenceBound w node offset rest { w with stack := rest }
  | down {node : String} {offset : Nat} {rest : List (String × Nat)} {destination : String}
      (hdepth : w.path.length < depthBound) (hoffset : (next node)[offset]? = some destination) :
      Turned next pathBound depthBound referenceBound w node offset rest
        { w with stack := (destination, 0) :: (node, offset + 1) :: rest }

/-- **What a turn that goes on does**: within the limits it emits a path, or moves one step. -/
theorem turn_on (h : w.turn next pathBound depthBound referenceBound = .inr w') :
    ∃ node offset rest, w.stack = (node, offset) :: rest ∧ w.paths.length < pathBound ∧
      w.references + w.path.length ≤ referenceBound ∧
      Turned next pathBound depthBound referenceBound w node offset rest w' := by
  unfold Walk.turn at h
  cases hstack : w.stack with
  | nil =>
    rw [hstack] at h
    cases h
  | cons f rest =>
    obtain ⟨node, offset⟩ := f
    rw [hstack] at h
    simp only at h
    by_cases hpaths : pathBound ≤ w.paths.length
    · rw [if_pos hpaths] at h
      cases h
    rw [if_neg hpaths] at h
    by_cases hrefs : referenceBound < w.references + w.path.length ∨
        w.references + w.path.length = referenceBound ∧ next node ≠ []
    · rw [if_pos hrefs] at h
      cases h
    rw [if_neg hrefs] at h
    refine ⟨node, offset, rest, rfl, by omega, by omega, ?_⟩
    by_cases hleaf : next node = []
    · rw [if_pos hleaf] at h
      cases h
      exact .leaf hleaf
    rw [if_neg hleaf] at h
    by_cases hdepth : depthBound ≤ w.path.length
    · rw [if_pos hdepth] at h
      cases h
      exact .deep hleaf hdepth
    rw [if_neg hdepth] at h
    cases hdestination : (next node)[offset]? with
    | none =>
      rw [hdestination] at h
      cases h
      exact .done hleaf (List.getElem?_eq_none_iff.1 hdestination)
    | some destination =>
      rw [hdestination] at h
      cases h
      exact .down (by omega) hdestination

theorem Turned.stacked {root node : String} {offset : Nat} {rest : List (String × Nat)}
    (ht : Turned next pathBound depthBound referenceBound w node offset rest w') (hstack : w.stack = (node, offset) :: rest)
    (h : Stacked next root w.stack) (hdepth : w.stack.length ≤ depthBound) :
    Stacked next root w'.stack ∧ w'.stack.length ≤ depthBound := by
  rw [hstack] at h hdepth
  have hrest : Stacked next root rest ∧ rest.length ≤ depthBound := ⟨h.tail, by
    rw [List.length_cons] at hdepth
    omega⟩
  cases ht with
  | leaf hleaf => exact hrest
  | deep hleaf hdeep => exact hrest
  | done hleaf hoffset => exact hrest
  | down hroom hdestination =>
    rw [length_path, hstack] at hroom
    refine ⟨⟨Nat.succ_pos offset, hdestination, ?_⟩, ?_⟩
    · -- the offset of the frame below the top plays no part
      cases rest with
      | nil => exact h
      | cons g rest => exact h
    · simp only [List.length_cons] at hroom ⊢
      omega

theorem Turned.measure {root node : String} {offset : Nat} {rest : List (String × Nat)}
    (ht : Turned next pathBound depthBound referenceBound w node offset rest w') (hstack : w.stack = (node, offset) :: rest)
    (h : Stacked next root w.stack) (hdepth : w.stack.length ≤ depthBound) (hpaths : w.paths.length < pathBound) :
    TraceDag.measure pathBound depthBound w' < TraceDag.measure pathBound depthBound w := by
  rw [hstack] at h hdepth
  have htail := phase_tail depthBound h
  rw [List.length_cons] at hdepth
  -- one path more outweighs any phase
  have hemit : ∀ truncated, TraceDag.measure pathBound depthBound (w.emit rest truncated) <
      TraceDag.measure pathBound depthBound w := by
    intro truncated
    unfold TraceDag.measure Walk.emit
    rw [List.length_append, List.length_singleton]
    have hsplit : (pathBound - w.paths.length) * (2 * depthBound + 2) =
        (pathBound - (w.paths.length + 1)) * (2 * depthBound + 2) + (2 * depthBound + 2) := by
      rw [← Nat.succ_mul]
      congr 1
      omega
    rw [hsplit]
    show _ + phase depthBound rest < _
    omega
  cases ht with
  | leaf hleaf => exact hemit w.truncated
  | deep hleaf hdeep => exact hemit true
  | done hleaf hoffset =>
    have hpos : offset ≠ 0 := by
      intro hzero
      rw [hzero] at hoffset
      exact hleaf (List.length_eq_zero_iff.1 (Nat.le_zero.1 hoffset))
    unfold TraceDag.measure
    rw [hstack, phase_gone (show (node, offset).2 ≠ 0 from hpos)]
    refine Nat.add_lt_add_left (lt_of_le_of_lt htail ?_) _
    omega
  | down hroom hdestination =>
    rw [length_path, hstack, List.length_cons] at hroom
    unfold TraceDag.measure
    rw [hstack, phase_fresh, List.length_cons]
    refine Nat.add_lt_add_left ?_ _
    by_cases hzero : offset = 0
    · subst hzero
      rw [phase_fresh]
      omega
    · rw [phase_gone (show (node, offset).2 ≠ 0 from hzero)]
      omega

theorem walk_ends (referenceBound : Nat) {root : String} : ∀ (fuel : Nat) (w : Walk), Stacked next root w.stack →
    w.stack.length ≤ depthBound → TraceDag.measure pathBound depthBound w < fuel →
    ∃ w', walk next pathBound depthBound referenceBound fuel w = some w'
  | 0, w, _, _, hfuel => absurd hfuel (Nat.not_lt_zero _)
  | fuel + 1, w, hstacked, hdepth, hfuel => by
    unfold walk
    cases hturn : w.turn next pathBound depthBound referenceBound with
    | inl w' => exact ⟨w', rfl⟩
    | inr w' =>
      obtain ⟨node, offset, rest, hstack, hpaths, -, ht⟩ := turn_on hturn
      have hmeasure := ht.measure hstack hstacked hdepth hpaths
      obtain ⟨hstacked', hdepth'⟩ := ht.stacked hstack hstacked hdepth
      exact walk_ends referenceBound fuel w' hstacked' hdepth' (by omega)

end Ends

/-! ## What it emits -/

section Ways
variable {next : String → List String} {root : String} {pathBound depthBound referenceBound : Nat} {w w' : Walk}
  {stack : List (String × Nat)} {p : List String}

/-- Different ways down from a root, within the limits, to the end where nothing is cut. -/
structure Ways (next : String → List String) (root : String) (pathBound depthBound referenceBound : Nat)
    (paths : List (List String)) (cut : Bool) : Prop where
  few : paths.length ≤ pathBound
  bounded : (paths.map List.length).sum ≤ referenceBound
  distinct : paths.Nodup
  short : ∀ p ∈ paths, p.length ≤ depthBound
  starts : ∀ p ∈ paths, p.head? = some root
  joined : ∀ p ∈ paths, p.IsChain (fun u v => v ∈ next u)
  complete : cut = false → ∀ p ∈ paths, ∀ v ∈ p.getLast?, next v = []

/-- A path turned off from the stack below where it stands: at a node of the stack it took an earlier offset. -/
def Passed (next : String → List String) : Nat → List (String × Nat) → List String → Prop
  | _, [], _               => False
  | gone, (v, o) :: stack, p =>
    (∃ c d tail, c + gone < o ∧ (next v)[c]? = some d ∧ p = way stack ++ v :: d :: tail) ∨ Passed next 1 stack p

theorem Passed.standing (h : Passed next 1 stack p) : Passed next 0 stack p := by
  cases stack with
  | nil => exact h
  | cons f stack =>
    rcases h with ⟨c, d, tail, hc, hd, hp⟩ | h
    · exact Or.inl ⟨c, d, tail, by omega, hd, hp⟩
    · exact Or.inr h

theorem Passed.off_way_on (hdistinct : ∀ v, (next v).Nodup) : ∀ {stack : List (String × Nat)} {u v : String} {o : Nat}
    {tail : List String}, Stacked next root ((u, o) :: stack) → 0 < o → (next u)[o - 1]? = some v →
    Passed next 1 ((u, o) :: stack) p → ¬ p <+: way ((u, o) :: stack) ++ v :: tail
  | stack, u, v, o, tail, hstacked, hpos, hv, Or.inl ⟨c, d, rest, hc, hd, hp⟩, hprefix => by
    rw [hp, way_cons, List.append_assoc, List.singleton_append, List.prefix_append_right_inj, List.cons_prefix_cons,
      List.cons_prefix_cons] at hprefix
    rw [← hprefix.2.1] at hv
    have hinj := (List.getElem?_inj (List.getElem?_eq_some_iff.1 hd).1 (hdistinct u)).1 (hd.trans hv.symm)
    omega
  | [], _, _, _, _, _, _, _, Or.inr h, _ => h
  | (t, o') :: stack, u, v, o, tail, hstacked, hpos, hv, Or.inr h, hprefix => by
    rw [way_cons, List.append_assoc, List.singleton_append] at hprefix
    exact Passed.off_way_on hdistinct hstacked.tail hstacked.1 hstacked.2.1 h hprefix

theorem Passed.off_way (hdistinct : ∀ v, (next v).Nodup) (hstacked : Stacked next root stack)
    (h : Passed next 0 stack p) : ¬ p <+: way stack := by
  intro hprefix
  cases stack with
  | nil => exact h
  | cons f stack =>
    obtain ⟨v, o⟩ := f
    rcases h with ⟨c, d, rest, hc, hd, hp⟩ | h
    · have hlength := hprefix.length_le
      rw [hp] at hlength
      simp at hlength
    · cases stack with
      | nil => exact h
      | cons g stack =>
        obtain ⟨u, o'⟩ := g
        rw [way_cons] at hprefix
        exact h.off_way_on hdistinct hstacked.tail hstacked.1 hstacked.2.1 hprefix

theorem Stacked.joined : ∀ {stack : List (String × Nat)}, Stacked next root stack →
    (way stack).IsChain (fun u v => v ∈ next u)
  | [], _ => List.IsChain.nil
  | [f], _ => List.IsChain.singleton f.1
  | (v, o) :: (u, o') :: stack, h => by
    have hlast := h.tail.joined
    rw [way_cons, List.isChain_append]
    refine ⟨hlast, List.IsChain.singleton v, fun x hx y hy => ?_⟩
    rw [way_cons, List.getLast?_append] at hx
    simp at hx hy
    rw [← hx, ← hy]
    exact List.mem_of_getElem? h.2.1

theorem Stacked.starts : ∀ {stack : List (String × Nat)}, Stacked next root stack → stack ≠ [] →
    (way stack).head? = some root
  | [], _, hne => absurd rfl hne
  | [f], h, _ => by
    rw [way_cons]
    exact congrArg some h
  | (v, o) :: (u, o') :: stack, h, _ => by
    have htail := h.tail.starts (List.cons_ne_nil _ _)
    rw [way_cons, List.head?_append, htail]
    rfl

theorem Stacked.short (hdepth : stack.length ≤ depthBound) : (way stack).length ≤ depthBound := by
  rw [length_way]
  exact hdepth

theorem Ways.snoc {paths : List (List String)} {cut cut' : Bool}
    (h : Ways next root pathBound depthBound referenceBound paths cut) (hroom : paths.length < pathBound)
    (hreferences : (paths.map List.length).sum + p.length ≤ referenceBound) (hfresh : p ∉ paths)
    (hshort : p.length ≤ depthBound) (hstart : p.head? = some root) (hjoined : p.IsChain (fun u v => v ∈ next u))
    (hcut : cut' = false → cut = false ∧ ∀ v ∈ p.getLast?, next v = []) :
    Ways next root pathBound depthBound referenceBound (paths ++ [p]) cut' := by
  have hall : ∀ {P : List String → Prop}, (∀ q ∈ paths, P q) → P p → ∀ q ∈ paths ++ [p], P q := by
    intro P hpaths hp q hq
    rcases List.mem_append.1 hq with hq | hq
    · exact hpaths q hq
    · rw [List.mem_singleton.1 hq]
      exact hp
  refine ⟨?_, ?_, ?_, hall h.short hshort, hall h.starts hstart, hall h.joined hjoined, fun hfalse => ?_⟩
  · rw [List.length_append, List.length_singleton]
    omega
  · simp only [List.map_append, List.map_cons, List.map_nil, List.sum_append, List.sum_cons, List.sum_nil]
    omega
  · refine List.nodup_append.2 ⟨h.distinct, List.nodup_singleton p, fun a ha b hb => ?_⟩
    rw [List.mem_singleton.1 hb]
    exact fun heq => hfresh (heq ▸ ha)
  · obtain ⟨hold, hp⟩ := hcut hfalse
    exact hall (h.complete hold) hp

/-- **What holds of a walk at every turn.** -/
structure Walking (next : String → List String) (root : String) (pathBound depthBound referenceBound : Nat)
    (w : Walk) : Prop where
  ways : Ways next root pathBound depthBound referenceBound w.paths w.truncated
  counted : w.references = (w.paths.map List.length).sum
  stacked : Stacked next root w.stack
  depth : w.stack.length ≤ depthBound
  passed : w.stack ≠ [] → ∀ p ∈ w.paths, Passed next 0 w.stack p
  first : w.paths = [] → ∃ node rest, w.stack = (node, 0) :: rest

theorem Passed.pop {f : String × Nat} (hstacked : Stacked next root (f :: stack)) (hne : stack ≠ [])
    (h : Passed next 0 (f :: stack) p) : Passed next 0 stack p := by
  cases stack with
  | nil => exact absurd rfl hne
  | cons g stack =>
    obtain ⟨v, o⟩ := f
    obtain ⟨u, o'⟩ := g
    rcases h with ⟨c, d, tail, hc, hd, hp⟩ | h
    · have hpos : 0 < o' := hstacked.1
      refine Or.inl ⟨o' - 1, v, d :: tail, by omega, hstacked.2.1, ?_⟩
      rw [hp, way_cons, List.append_assoc]
      rfl
    · exact h.standing

theorem passed_way {f : String × Nat} (hstacked : Stacked next root (f :: stack)) (hne : stack ≠ []) :
    Passed next 0 stack (way (f :: stack)) := by
  cases stack with
  | nil => exact absurd rfl hne
  | cons g stack =>
    obtain ⟨v, o⟩ := f
    obtain ⟨u, o'⟩ := g
    have hpos : 0 < o' := hstacked.1
    refine Or.inl ⟨o' - 1, v, [], by omega, hstacked.2.1, ?_⟩
    rw [way_cons, way_cons, List.append_assoc]
    rfl

section Distinct
variable (hdistinct : ∀ v, (next v).Nodup)
include hdistinct

theorem Walking.fresh (h : Walking next root pathBound depthBound referenceBound w) (hne : w.stack ≠ []) (n : Nat) :
    w.path.take n ∉ w.paths := by
  intro hmem
  exact (h.passed hne _ hmem).off_way hdistinct h.stacked (List.take_prefix n w.path)

theorem Walking.emit (h : Walking next root pathBound depthBound referenceBound w) {node : String} {offset : Nat}
    {rest : List (String × Nat)} {cut : Bool} (hstack : w.stack = (node, offset) :: rest)
    (hroom : w.paths.length < pathBound) (hreferences : w.references + w.path.length ≤ referenceBound)
    (hcut : cut = false → w.truncated = false ∧ next node = []) :
    Walking next root pathBound depthBound referenceBound (w.emit rest cut) := by
  have hne : w.stack ≠ [] := by
    rw [hstack]
    exact List.cons_ne_nil _ _
  have hfresh := h.fresh hdistinct hne w.path.length
  rw [List.take_length] at hfresh
  have hstacked := h.stacked
  have hdepth := h.depth
  rw [hstack] at hstacked hdepth
  have hlast : ∀ v ∈ w.path.getLast?, v = node := by
    intro v hv
    unfold Walk.path at hv
    rw [hstack, way_cons, List.getLast?_concat] at hv
    exact (Option.some.inj hv).symm
  rw [h.counted] at hreferences
  refine ⟨h.ways.snoc hroom hreferences hfresh (Stacked.short h.depth) (h.stacked.starts hne) h.stacked.joined
    (fun hfalse => ⟨(hcut hfalse).1, fun v hv => ?_⟩), ?_, hstacked.tail, ?_, fun hrest p hp => ?_, fun hnil => ?_⟩
  · rw [hlast v hv]
    exact (hcut hfalse).2
  · show w.references + w.path.length = ((w.paths ++ [w.path]).map List.length).sum
    simp [h.counted]
  · show rest.length ≤ depthBound
    rw [List.length_cons] at hdepth
    omega
  · rcases List.mem_append.1 hp with hp | hp
    · have hpassed := h.passed hne p hp
      rw [hstack] at hpassed
      exact hpassed.pop hstacked hrest
    · rw [List.mem_singleton.1 hp]
      show Passed next 0 rest (way w.stack)
      rw [hstack]
      exact passed_way hstacked hrest
  · exact absurd hnil (by simp [Walk.emit])

theorem Walking.turn_on (h : Walking next root pathBound depthBound referenceBound w)
    (hturn : w.turn next pathBound depthBound referenceBound = .inr w') :
    Walking next root pathBound depthBound referenceBound w' := by
  obtain ⟨node, offset, rest, hstack, hroom, hreferences, ht⟩ := TraceDag.turn_on hturn
  obtain ⟨hstacked', hdepth'⟩ := ht.stacked hstack h.stacked h.depth
  have hstacked := h.stacked
  rw [hstack] at hstacked
  have hne : w.stack ≠ [] := by
    rw [hstack]
    exact List.cons_ne_nil _ _
  cases ht with
  | leaf hleaf => exact h.emit hdistinct hstack hroom hreferences (fun hfalse => ⟨hfalse, hleaf⟩)
  | deep hleaf hdeep => exact h.emit hdistinct hstack hroom hreferences (fun hfalse => (by cases hfalse))
  | done hleaf hoffset =>
    refine ⟨h.ways, h.counted, hstacked', hdepth', fun hrest p hp => ?_, fun hnil => ?_⟩
    · have hpassed := h.passed hne p hp
      rw [hstack] at hpassed
      exact hpassed.pop hstacked hrest
    · obtain ⟨node', rest', hfirst⟩ := h.first hnil
      rw [hstack] at hfirst
      cases hfirst
      exact absurd (List.length_eq_zero_iff.1 (Nat.le_zero.1 hoffset)) hleaf
  | down hdepth hoffset =>
    refine ⟨h.ways, h.counted, hstacked', hdepth', fun _ p hp => ?_, fun _ => ⟨_, _, rfl⟩⟩
    have hpassed := h.passed hne p hp
    rw [hstack] at hpassed
    refine Or.inr ?_
    rcases hpassed with ⟨c, d, tail, hc, hd, hp⟩ | hpassed
    · exact Or.inl ⟨c, d, tail, by omega, hd, hp⟩
    · exact Or.inr hpassed

theorem Walking.turn_end (h : Walking next root pathBound depthBound referenceBound w) (hpaths : 0 < pathBound)
    (hreferences : 0 < referenceBound)
    (hturn : w.turn next pathBound depthBound referenceBound = .inl w') :
    Ways next root pathBound depthBound referenceBound w'.paths w'.truncated ∧ w'.paths ≠ [] := by
  have hcut : Ways next root pathBound depthBound referenceBound w.paths true :=
    ⟨h.ways.few, h.ways.bounded, h.ways.distinct, h.ways.short, h.ways.starts, h.ways.joined, fun hfalse => (by cases hfalse)⟩
  unfold Walk.turn at hturn
  cases hstack : w.stack with
  | nil =>
    rw [hstack] at hturn
    cases hturn
    refine ⟨h.ways, fun hnil => ?_⟩
    obtain ⟨node, rest, hfirst⟩ := h.first hnil
    rw [hstack] at hfirst
    cases hfirst
  | cons f rest =>
    obtain ⟨node, offset⟩ := f
    have hne : w.stack ≠ [] := by
      rw [hstack]
      exact List.cons_ne_nil _ _
    rw [hstack] at hturn
    simp only at hturn
    by_cases hfull : pathBound ≤ w.paths.length
    · rw [if_pos hfull] at hturn
      cases hturn
      refine ⟨hcut, fun hnil => ?_⟩
      rw [show w.paths = [] from hnil, List.length_nil] at hfull
      omega
    rw [if_neg hfull] at hturn
    by_cases hspent : referenceBound < w.references + w.path.length ∨
        w.references + w.path.length = referenceBound ∧ next node ≠ []
    · rw [if_pos hspent] at hturn
      cases hturn
      unfold Walk.exhaust
      by_cases hleft : 0 < referenceBound - w.references
      · simp only [if_pos hleft]
        have hlength : 0 < w.path.length := by
          rw [length_path, hstack]
          exact Nat.succ_pos _
        refine ⟨hcut.snoc (by omega) ?_ (h.fresh hdistinct hne _) ?_ ?_ (h.stacked.joined.take _)
          (fun hfalse => (by cases hfalse)), by simp⟩
        · rw [← h.counted, List.length_take]
          omega
        · rw [List.length_take]
          have := Stacked.short h.depth
          exact le_trans (Nat.min_le_right _ _) this
        · rw [List.head?_take, if_neg (by omega)]
          exact h.stacked.starts hne
      · simp only [if_neg hleft]
        refine ⟨hcut, fun hnil => ?_⟩
        have hcounted := h.counted
        rw [hnil] at hcounted
        simp at hcounted
        omega
    rw [if_neg hspent] at hturn
    by_cases hleaf : next node = []
    · rw [if_pos hleaf] at hturn
      cases hturn
    rw [if_neg hleaf] at hturn
    by_cases hdeep : depthBound ≤ w.path.length
    · rw [if_pos hdeep] at hturn
      cases hturn
    rw [if_neg hdeep] at hturn
    cases hdestination : (next node)[offset]? with
    | none =>
      rw [hdestination] at hturn
      cases hturn
    | some destination =>
      rw [hdestination] at hturn
      cases hturn

theorem Walking.walk (hpaths : 0 < pathBound) (hreferences : 0 < referenceBound) :
    ∀ (fuel : Nat) {w w' : Walk}, Walking next root pathBound depthBound referenceBound w →
      TraceDag.walk next pathBound depthBound referenceBound fuel w = some w' →
      Ways next root pathBound depthBound referenceBound w'.paths w'.truncated ∧ w'.paths ≠ []
  | 0, w, w', _, hwalk => (by cases hwalk)
  | fuel + 1, w, w', h, hwalk => by
    unfold TraceDag.walk at hwalk
    cases hturn : w.turn next pathBound depthBound referenceBound with
    | inl w'' =>
      rw [hturn] at hwalk
      cases hwalk
      exact h.turn_end hdistinct hpaths hreferences hturn
    | inr w'' =>
      rw [hturn] at hwalk
      exact Walking.walk hpaths hreferences fuel (h.turn_on hdistinct hturn) hwalk

/-- **Enumerating the paths of a root ends, with different ways down from it within the limits.** -/
theorem enumeratePaths_ok (hpaths : 0 < pathBound) (hdepth : 0 < depthBound) (hreferences : 0 < referenceBound)
    (root : String) : ∃ paths cut, enumeratePaths next pathBound depthBound referenceBound root = some (paths, cut) ∧
      Ways next root pathBound depthBound referenceBound paths cut ∧ paths ≠ [] := by
  have hmeasure : TraceDag.measure pathBound depthBound ⟨[], 0, [(root, 0)], false⟩ < walkFuel pathBound depthBound := by
    unfold TraceDag.measure walkFuel
    rw [phase_fresh]
    simp only [List.length_nil, Nat.sub_zero]
    have hmul : (pathBound + 1) * (2 * depthBound + 3) = pathBound * (2 * depthBound + 2) + pathBound +
      (2 * depthBound + 3) := by rw [Nat.succ_mul, Nat.mul_succ]
    omega
  have hstart : Walking next root pathBound depthBound referenceBound ⟨[], 0, [(root, 0)], false⟩ := by
    refine ⟨⟨Nat.zero_le _, Nat.zero_le _, List.nodup_nil, ?_, ?_, ?_, ?_⟩, rfl, rfl, hdepth, ?_, fun _ => ⟨root, [], rfl⟩⟩
    all_goals simp
  obtain ⟨w, hwalk⟩ := walk_ends referenceBound _ _ hstart.stacked hstart.depth hmeasure
  refine ⟨w.paths, w.truncated, ?_, hstart.walk hdistinct hpaths hreferences _ hwalk⟩
  unfold enumeratePaths
  rw [hwalk]
  rfl

end Distinct

end Ways

/-! ## All roots -/

section Forest
variable {h : Hashes} {next : String → List String}

def branchOf (h : Hashes) (path : List String) : TraceBranch := traceBranch h (path.head?.getD "") path

/-- Different ways down from some of the roots, within the limits, to the end where nothing is cut. -/
structure Forest (next : String → List String) (roots : List String) (paths : List (List String)) (cut : Bool) :
    Prop where
  few : paths.length ≤ branchPathLimit
  bounded : (paths.map List.length).sum ≤ branchNodeReferenceLimit
  distinct : paths.Nodup
  short : ∀ p ∈ paths, p.length ≤ branchDepthLimit
  starts : ∀ p ∈ paths, ∃ root ∈ roots, p.head? = some root
  joined : ∀ p ∈ paths, p.IsChain (fun u v => v ∈ next u)
  complete : cut = false → ∀ p ∈ paths, ∀ v ∈ p.getLast?, next v = []
  reached : roots ≠ [] → paths ≠ []

theorem Ways.branches {root : String} {pathBound depthBound referenceBound : Nat} {paths : List (List String)} {cut : Bool}
    (hw : Ways next root pathBound depthBound referenceBound paths cut) :
    paths.map (traceBranch h root) = paths.map (branchOf h) := by
  refine List.map_congr_left (fun p hp => ?_)
  unfold branchOf
  rw [hw.starts p hp]
  rfl

theorem Forest.grow {done : List String} {paths : List (List String)} {cut : Bool} (hf : Forest next done paths cut)
    {root : String} (hroot : root ∉ done) {new : List (List String)} {more : Bool}
    (hw : Ways next root (branchPathLimit - paths.length) branchDepthLimit
      (branchNodeReferenceLimit - (paths.map List.length).sum) new more) (hne : new ≠ []) :
    Forest next (done ++ [root]) (paths ++ new) (cut || more) := by
  have hfew := hw.few
  have hbounded := hw.bounded
  have hfew' := hf.few
  have hbounded' := hf.bounded
  have hall : ∀ {P : List String → Prop}, (∀ p ∈ paths, P p) → (∀ p ∈ new, P p) → ∀ p ∈ paths ++ new, P p :=
    fun hold hnew p hp => (List.mem_append.1 hp).elim (hold p) (hnew p)
  refine ⟨?_, ?_, ?_, hall hf.short hw.short, hall (fun p hp => ?_) (fun p hp => ?_), hall hf.joined hw.joined,
    fun hfalse => ?_, fun _ hnil => hne (List.append_eq_nil_iff.1 hnil).2⟩
  · rw [List.length_append]
    omega
  · rw [List.map_append, List.sum_append]
    omega
  · -- they start at different roots
    refine List.nodup_append.2 ⟨hf.distinct, hw.distinct, fun p hp q hq heq => ?_⟩
    obtain ⟨other, hother, hhead⟩ := hf.starts p hp
    rw [heq, hw.starts q hq] at hhead
    exact hroot (Option.some.inj hhead ▸ hother)
  · obtain ⟨other, hother, hhead⟩ := hf.starts p hp
    exact ⟨other, List.mem_append_left _ hother, hhead⟩
  · exact ⟨root, List.mem_append_right _ (List.mem_singleton_self root), hw.starts p hp⟩
  · rw [Bool.or_eq_false_iff] at hfalse
    exact hall (hf.complete hfalse.1) (hw.complete hfalse.2)

theorem Forest.stop {done todo : List String} {paths : List (List String)} {cut : Bool} (hf : Forest next done paths cut)
    (hlimit : branchPathLimit - paths.length = 0 ∨ branchNodeReferenceLimit - (paths.map List.length).sum = 0) :
    Forest next (done ++ todo) paths true := by
  refine ⟨hf.few, hf.bounded, hf.distinct, hf.short, fun p hp => ?_, hf.joined, fun hfalse => (by cases hfalse), fun _ hnil => ?_⟩
  · obtain ⟨other, hother, hhead⟩ := hf.starts p hp
    exact ⟨other, List.mem_append_left _ hother, hhead⟩
  · rw [hnil] at hlimit
    revert hlimit
    decide

theorem collectBranches_ok (hdistinct : ∀ v, (next v).Nodup) : ∀ (todo done : List String) (paths : List (List String))
    (cut : Bool), (done ++ todo).Nodup → Forest next done paths cut →
    ∃ all truncated, collectBranches h next todo (paths.map (branchOf h)) (paths.map List.length).sum =
      .ok (all.map (branchOf h), truncated) ∧ Forest next (done ++ todo) all (cut || truncated)
  | [], done, paths, cut, _, hf => ⟨paths, false, rfl, by rw [List.append_nil, Bool.or_false]; exact hf⟩
  | root :: todo, done, paths, cut, hnodup, hf => by
    unfold collectBranches
    rw [List.length_map]
    by_cases hlimit : branchPathLimit - paths.length = 0 ∨ branchNodeReferenceLimit - (paths.map List.length).sum = 0
    · rw [if_pos hlimit]
      refine ⟨paths, true, rfl, ?_⟩
      rw [Bool.or_true]
      exact hf.stop hlimit
    · rw [if_neg hlimit]
      obtain ⟨new, more, hpaths, hw, hne⟩ := enumeratePaths_ok hdistinct
        (show 0 < branchPathLimit - paths.length by omega) (show 0 < branchDepthLimit by decide)
        (show 0 < branchNodeReferenceLimit - (paths.map List.length).sum by omega) root
      have hroot : root ∉ done := by
        intro hmem
        exact (List.nodup_append.1 hnodup).2.2 root hmem root List.mem_cons_self rfl
      have hgrown := hf.grow hroot hw hne
      obtain ⟨all, truncated, hrest, hforest⟩ := collectBranches_ok hdistinct todo (done ++ [root]) (paths ++ new)
        (cut || more) (by rw [List.append_assoc]; exact hnodup) hgrown
      refine ⟨all, more || truncated, ?_, ?_⟩
      · rw [hpaths]
        show ((collectBranches h next todo (paths.map (branchOf h) ++ new.map (traceBranch h root))
          ((paths.map List.length).sum + (new.map List.length).sum)) >>= _) = _
        rw [hw.branches, ← List.map_append, ← List.sum_append, ← List.map_append, hrest]
        rfl
      · rw [List.append_assoc, Bool.or_assoc] at hforest
        exact hforest

end Forest

theorem nodup_adjacent (edges : List TraceEdge) (v : String) : (adjacent edges v).Nodup := SortedSet.nodup_ofList _

theorem nodup_roots (nodes : List TraceNode) (edges : List TraceEdge) : (roots nodes edges).Nodup :=
  (SortedSet.nodup_ofList _).filter _

/-- **The branches of a trace are found**, from its roots along its edges. -/
theorem collect_ok (h : Hashes) (nodes : List TraceNode) (edges : List TraceEdge) : ∃ paths truncated,
    collectBranches h (adjacent edges) (roots nodes edges) [] 0 = .ok (paths.map (branchOf h), truncated) ∧
      Forest (adjacent edges) (roots nodes edges) paths truncated := by
  have hstart : Forest (adjacent edges) [] [] false :=
    ⟨Nat.zero_le _, Nat.zero_le _, List.nodup_nil, fun p hp => (by cases hp), fun p hp => (by cases hp),
      fun p hp => (by cases hp), fun _ p hp => (by cases hp), fun hne => absurd rfl hne⟩
  exact collectBranches_ok (h := h) (nodup_adjacent edges) (roots nodes edges) [] [] false (nodup_roots nodes edges) hstart

end TraceDag
end Bildr
