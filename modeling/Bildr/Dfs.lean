import Mathlib.Data.List.Perm.Basic
import Mathlib.Logic.Relation
import Mathlib.Order.WellFoundedSet
/-!
# Dfs — depth-first search for a cycle

A graph is the list of nodes each node points to.  `visit` walks down from a node and keeps two sets: the nodes it is
inside of, and those it has finished; meeting a node it is inside of is a cycle.  A node it finishes has no infinite
descent below it (`visit_acc`), a cycle it reports is one (`visit_cycle`), and a fuel above the number of nodes that
point anywhere never runs out (`visit_fuel`).  A finite graph without a cycle has no infinite descent
(`acc_of_acyclic`), and a finite list without one can be put in order (`exists_order`).
-/
namespace Dfs

structure Marks (α : Type) where
  visiting : List α
  visited : List α
deriving DecidableEq, Repr

def Marks.none {α : Type} : Marks α := ⟨[], []⟩

inductive Stop (α : Type)
  | cycle (node : α)
  | fuel
deriving DecidableEq, Repr

section Walk
variable {α : Type} [DecidableEq α] (next : α → List α)

def visit : Nat → α → Marks α → Except (Stop α) (Marks α)
  | 0, _, _ => .error .fuel
  | n + 1, x, m =>
    if x ∈ m.visited then .ok m
    else if x ∈ m.visiting then .error (.cycle x)
    else do
      let m' ← (next x).foldlM (fun m d => visit n d m) { m with visiting := x :: m.visiting }
      return ⟨m'.visiting.erase x, x :: m'.visited⟩

def visitAll (n : Nat) (xs : List α) (m : Marks α) : Except (Stop α) (Marks α) :=
  xs.foldlM (fun m d => visit next n d m) m

/-- What a walk that ends leaves: the way down as it was, and more nodes finished. -/
structure Walked (m m' : Marks α) (xs : List α) : Prop where
  visiting : m'.visiting = m.visiting
  visited : m.visited ⊆ m'.visited
  reached : ∀ x ∈ xs, x ∈ m'.visited
  acc : (∀ y ∈ m.visited, Acc (fun a b => a ∈ next b) y) → ∀ y ∈ m'.visited, Acc (fun a b => a ∈ next b) y

theorem visit_succ (n : Nat) (x : α) (m : Marks α) :
    visit next (n + 1) x m =
      if x ∈ m.visited then .ok m
      else if x ∈ m.visiting then .error (.cycle x)
      else (visitAll next n (next x) { m with visiting := x :: m.visiting }).map
        (fun m' => ⟨m'.visiting.erase x, x :: m'.visited⟩) := by
  rw [visit]
  split
  · rfl
  · split
    · rfl
    · show (visitAll next n (next x) _ >>= _) = _
      cases visitAll next n (next x) { m with visiting := x :: m.visiting } <;> rfl

theorem visitAll_cons (n : Nat) (x : α) (xs : List α) (m : Marks α) :
    visitAll next n (x :: xs) m = visit next n x m >>= visitAll next n xs := by
  unfold visitAll
  rw [List.foldlM_cons]

variable {next}

/-- A walk over a list does what the walks from its nodes do, one after the other. -/
theorem walked_all {n : Nat} (hn : ∀ x m m', visit next n x m = .ok m' → Walked next m m' [x]) :
    ∀ {xs : List α} {m m' : Marks α}, visitAll next n xs m = .ok m' → Walked next m m' xs
  | [], m, m', h => by
    cases h
    refine ⟨rfl, fun _ h => h, fun x hx => ?_, id⟩
    cases hx
  | x :: xs, m, m', h => by
    rw [visitAll_cons] at h
    cases hx : visit next n x m with
    | error e => rw [hx] at h; cases h
    | ok m₁ =>
      rw [hx] at h
      have h1 := hn x m m₁ hx
      have h2 := walked_all hn (m := m₁) h
      refine ⟨h2.visiting.trans h1.visiting, fun y hy => h2.visited (h1.visited hy), fun y hy => ?_,
        fun ha => h2.acc (h1.acc ha)⟩
      rcases List.mem_cons.1 hy with rfl | hy
      · exact h2.visited (h1.reached y List.mem_cons_self)
      · exact h2.reached y hy

/-- **What a walk that ends leaves.**  A node is finished once all it points to is, so it has no infinite descent when
they have none. -/
theorem walked : ∀ (n : Nat) (x : α) (m m' : Marks α), visit next n x m = .ok m' → Walked next m m' [x]
  | 0, x, m, m', h => by cases h
  | n + 1, x, m, m', h => by
    rw [visit_succ] at h
    split at h
    · rename_i hv
      cases h
      exact ⟨rfl, fun _ h => h, fun y hy => List.mem_singleton.1 hy ▸ hv, id⟩
    · split at h
      · cases h
      · cases hb : visitAll next n (next x) { m with visiting := x :: m.visiting } with
        | error e => rw [hb] at h; cases h
        | ok m₁ =>
          rw [hb] at h
          cases h
          have hw := walked_all (walked n) hb
          refine ⟨?_, fun y hy => List.mem_cons_of_mem x (hw.visited hy), fun y hy => ?_, fun ha y hy => ?_⟩
          · show m₁.visiting.erase x = m.visiting
            rw [hw.visiting, List.erase_cons_head]
          · rw [List.mem_singleton.1 hy]
            exact List.mem_cons_self
          · rcases List.mem_cons.1 hy with rfl | hy
            · exact Acc.intro y (fun d hd => hw.acc ha d (hw.reached d hd))
            · exact hw.acc ha y hy

theorem visit_acc {n : Nat} {x : α} {m' : Marks α} (h : visit next n x Marks.none = .ok m') :
    Acc (fun a b => a ∈ next b) x := by
  have hw := walked n x _ _ h
  exact hw.acc (fun y hy => by cases hy) x (hw.reached x List.mem_cons_self)

/-! ## What a report means -/

/-- The way down: every node the walk is inside of leads to `x`. -/
def Way (next : α → List α) (visiting : List α) (x : α) : Prop :=
  ∀ v ∈ visiting, Relation.TransGen (fun a b => b ∈ next a) v x

omit [DecidableEq α] in
theorem way_down {visiting : List α} {x d : α} (h : Way next visiting x) (hd : d ∈ next x) :
    Way next (x :: visiting) d := by
  intro v hv
  rcases List.mem_cons.1 hv with rfl | hv
  · exact Relation.TransGen.single hd
  · exact (h v hv).tail hd

theorem visitAll_cycle {n : Nat} {y : α} (hn : ∀ x m, Way next m.visiting x → visit next n x m = .error (.cycle y) →
      Relation.TransGen (fun a b => b ∈ next a) y y) :
    ∀ {xs : List α} {m : Marks α}, (∀ x ∈ xs, Way next m.visiting x) → visitAll next n xs m = .error (.cycle y) →
      Relation.TransGen (fun a b => b ∈ next a) y y
  | [], m, _, h => by cases h
  | x :: xs, m, hw, h => by
    rw [visitAll_cons] at h
    cases hx : visit next n x m with
    | error e =>
      rw [hx] at h
      cases h
      exact hn x m (hw x List.mem_cons_self) hx
    | ok m₁ =>
      rw [hx] at h
      refine visitAll_cycle hn (m := m₁) (fun d hd => ?_) h
      rw [(walked n x m m₁ hx).visiting]
      exact hw d (List.mem_cons_of_mem x hd)

theorem visit_cycle_of_way : ∀ (n : Nat) (x y : α) (m : Marks α), Way next m.visiting x →
    visit next n x m = .error (.cycle y) → Relation.TransGen (fun a b => b ∈ next a) y y
  | 0, x, y, m, _, h => by cases h
  | n + 1, x, y, m, hw, h => by
    rw [visit_succ] at h
    split at h
    · cases h
    · split at h
      · rename_i hv
        cases h
        exact hw _ hv
      · cases hb : visitAll next n (next x) { m with visiting := x :: m.visiting } with
        | ok m₁ => rw [hb] at h; cases h
        | error e =>
          rw [hb] at h
          cases h
          exact visitAll_cycle (fun x m hw h => visit_cycle_of_way n x y m hw h) (fun d hd => way_down hw hd) hb

theorem visit_cycle {n : Nat} {x y : α} (h : visit next n x Marks.none = .error (.cycle y)) :
    Relation.TransGen (fun a b => b ∈ next a) y y :=
  visit_cycle_of_way n x y _ (fun v hv => by cases hv) h

/-! ## Fuel

Only a node that points somewhere is walked below, and the walk is inside of no node twice. -/

def untaken (nodes visiting : List α) : List α := nodes.filter (fun v => decide (v ∉ visiting))

theorem untaken_cons_lt {nodes visiting : List α} {x : α} (hx : x ∈ nodes) (hv : x ∉ visiting) :
    (untaken nodes (x :: visiting)).length < (untaken nodes visiting).length := by
  unfold untaken
  have hsub : nodes.filter (fun v => decide (v ∉ x :: visiting)) =
      (nodes.filter (fun v => decide (v ∉ visiting))).filter (fun v => decide (v ≠ x)) := by
    rw [List.filter_filter]
    refine List.filter_congr (fun v _ => ?_)
    simp [List.mem_cons, not_or]
  rw [hsub]
  apply List.length_filter_lt_length_iff_exists.2
  exact ⟨x, List.mem_filter.2 ⟨hx, by simpa using hv⟩, by simp⟩

theorem visitAll_fuel {n : Nat} {v : List α} (hn : ∀ x m, m.visiting = v → visit next n x m ≠ .error .fuel) :
    ∀ {xs : List α} {m : Marks α}, m.visiting = v → visitAll next n xs m ≠ .error .fuel
  | [], m, _, h => by cases h
  | x :: xs, m, hm, h => by
    rw [visitAll_cons] at h
    cases hx : visit next n x m with
    | error e =>
      rw [hx] at h
      cases h
      exact hn x m hm hx
    | ok m₁ =>
      rw [hx] at h
      exact visitAll_fuel hn (m := m₁) ((walked n x m m₁ hx).visiting.trans hm) h

theorem visit_fuel_of_untaken {nodes : List α} (hnodes : ∀ x, next x ≠ [] → x ∈ nodes) :
    ∀ (n : Nat) (x : α) (m : Marks α), (untaken nodes m.visiting).length < n → visit next n x m ≠ .error .fuel
  | 0, x, m, hn, _ => by omega
  | n + 1, x, m, hn, h => by
    rw [visit_succ] at h
    split at h
    · cases h
    · split at h
      · cases h
      · rename_i hv
        cases hb : visitAll next n (next x) { m with visiting := x :: m.visiting } with
        | ok m₁ => rw [hb] at h; cases h
        | error e =>
          rw [hb] at h
          cases h
          by_cases hx : next x = []
          · rw [hx] at hb
            cases hb
          · have hlt := untaken_cons_lt (hnodes x hx) hv
            refine visitAll_fuel (v := x :: m.visiting) (fun d m' hm' => ?_) rfl hb
            apply visit_fuel_of_untaken hnodes n d m'
            rw [hm']
            omega

/-- **A fuel above the number of nodes that point anywhere is enough.** -/
theorem visit_fuel {nodes : List α} (hnodes : ∀ x, next x ≠ [] → x ∈ nodes) {n : Nat} (hn : nodes.length < n) (x : α) :
    visit next n x Marks.none ≠ .error .fuel := by
  apply visit_fuel_of_untaken hnodes
  have : (untaken nodes (Marks.none : Marks α).visiting).length ≤ nodes.length := List.length_filter_le _ _
  omega

theorem visit_cases {nodes : List α} (hnodes : ∀ x, next x ≠ [] → x ∈ nodes) {n : Nat} (hn : nodes.length < n) (x : α) :
    (∃ m, visit next n x Marks.none = .ok m) ∨ ∃ y, visit next n x Marks.none = .error (.cycle y) := by
  cases h : visit next n x Marks.none with
  | ok m => exact Or.inl ⟨m, rfl⟩
  | error e =>
    cases e with
    | cycle y => exact Or.inr ⟨y, rfl⟩
    | fuel => exact absurd h (visit_fuel hnodes hn x)

/-- **A walk over a list with enough fuel ends, or reports a cycle there is.** -/
theorem visitAll_cases {nodes : List α} (hnodes : ∀ x, next x ≠ [] → x ∈ nodes) {n : Nat} (hn : nodes.length < n)
    (xs : List α) :
    (∃ m, visitAll next n xs Marks.none = .ok m) ∨
    ∃ y, visitAll next n xs Marks.none = .error (.cycle y) ∧ Relation.TransGen (fun a b => b ∈ next a) y y := by
  cases h : visitAll next n xs Marks.none with
  | ok m => exact Or.inl ⟨m, rfl⟩
  | error e =>
    cases e with
    | cycle y =>
      refine Or.inr ⟨y, rfl, visitAll_cycle (fun x m hw hx => visit_cycle_of_way n x y m hw hx) (fun x _ v hv => ?_) h⟩
      cases hv
    | fuel =>
      refine absurd h (visitAll_fuel (v := []) (fun x m hm => ?_) rfl)
      apply visit_fuel_of_untaken hnodes
      have : (untaken nodes m.visiting).length ≤ nodes.length := List.length_filter_le _ _
      omega

theorem visitAll_acc {n : Nat} {xs : List α} {m : Marks α} (h : visitAll next n xs Marks.none = .ok m) {x : α}
    (hx : x ∈ xs) : Acc (fun a b => a ∈ next b) x := by
  have hw := walked_all (walked n) h
  exact hw.acc (fun y hy => by cases hy) x (hw.reached x hx)

end Walk

/-! ## Descent and order -/

section Order
variable {β : Type} {R : β → β → Prop}

/-- No node without infinite descent lies on a cycle. -/
theorem not_cycle_of_acc {x : β} (h : Acc R x) : ¬ Relation.TransGen R x x := by
  have ht : Acc (Relation.TransGen R) x := h.transGen
  clear h
  induction ht with
  | intro x _ ih => exact fun hc => ih x hc hc

/-- **Without a cycle nothing descends forever**, where only finitely many nodes stand above another. -/
theorem acc_of_acyclic {s : Set β} (hs : s.Finite) (habove : ∀ x y, R x y → x ∈ s)
    (hacyclic : ∀ x, ¬ Relation.TransGen R x x) (x : β) : Acc R x := by
  have hwell : s.WellFoundedOn (Relation.TransGen R) := by
    have hirrefl : Std.Irrefl (Relation.TransGen R) := ⟨hacyclic⟩
    have htrans : IsTrans β (Relation.TransGen R) := ⟨fun _ _ _ => Relation.TransGen.trans⟩
    have horder : IsStrictOrder β (Relation.TransGen R) := ⟨⟩
    exact hs.wellFoundedOn
  have hmem : ∀ y ∈ s, Acc R y := fun y hy =>
    hwell.induction hy (fun z hz ih => Acc.intro z (fun w hw => ih w (habove w z hw) (Relation.TransGen.single hw)))
  exact Acc.intro x (fun y hy => hmem y (habove y x hy))

theorem exists_minimal {l : List β} {x : β} (h : Acc R x) (hx : x ∈ l) : ∃ y ∈ l, ∀ z ∈ l, ¬ R z y := by
  induction h with
  | intro x _ ih =>
    by_cases hz : ∃ z ∈ l, R z x
    · obtain ⟨z, hz, hzx⟩ := hz
      exact ih z hzx hz
    · exact ⟨x, hx, fun z hz' hzx => hz ⟨z, hz', hzx⟩⟩

/-- **A finite list without infinite descent has an order** in which nothing stands before what is below it. -/
theorem exists_order : ∀ (n : Nat) (l : List β), l.length = n → (∀ x ∈ l, Acc R x) →
    ∃ o : List β, o.Perm l ∧ o.Pairwise (fun a b => ¬ R b a)
  | 0, l, hl, _ => by
    obtain rfl := List.eq_nil_of_length_eq_zero hl
    exact ⟨[], List.Perm.refl [], List.Pairwise.nil⟩
  | n + 1, l, hl, hacc => by
    obtain ⟨x, hx⟩ := List.exists_mem_of_length_pos (l := l) (by omega)
    obtain ⟨y, hy, hmin⟩ := exists_minimal (hacc x hx) hx
    obtain ⟨s, t, rfl⟩ := List.append_of_mem hy
    have hp : (y :: (s ++ t)).Perm (s ++ y :: t) := List.perm_middle.symm
    obtain ⟨o, ho, hord⟩ := exists_order n (s ++ t)
      (by simp only [List.length_append, List.length_cons] at hl ⊢; omega)
      (fun z hz => hacc z (hp.subset (List.mem_cons_of_mem y hz)))
    refine ⟨y :: o, (ho.cons y).trans hp, List.pairwise_cons.2 ⟨fun z hz => ?_, hord⟩⟩
    exact hmin z (hp.subset (List.mem_cons_of_mem y (ho.subset hz)))

end Order
end Dfs
