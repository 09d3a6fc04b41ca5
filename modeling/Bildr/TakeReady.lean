import Mathlib.Data.List.Nodup
import Mathlib.Data.List.Perm.Basic
import Mathlib.Order.Lattice
/-!
# TakeReady — the first entry that is ready, again and again

Each entry needs some keys.  The first entry all of whose needs were taken is checked and taken, until none is left.  What
comes out has needs first, and no entry waits that could go before one with a larger key (`takeAll_ok`); the loop comes to
its end where needs are entries and nothing needs itself (`takeAll_isOk`).
-/
namespace TakeReady

variable {β κ ε : Type} [LinearOrder κ] (key : β → κ) (needs : β → List κ) (check : β → Except ε Unit) (stuck : ε)

def ready (taken : List κ) (e : β) : Bool := (needs e).all (fun n => decide (n ∈ taken))

def without (e : β) (pending : List β) : List β := pending.eraseP (fun f => decide (key f = key e))

/-- As many rounds as there are entries. -/
def takeAll : Nat → List β → List κ → Except ε (List β)
  | 0, _, _               => .ok []
  | n + 1, pending, taken =>
    match pending.find? (ready needs taken) with
    | none   => .error stuck
    | some e => do
      check e
      let rest ← takeAll n (without key e pending) (key e :: taken)
      return e :: rest

/-- Needs come first, and behind a larger key an entry waits for one of its needs. -/
def InOrder : List κ → List β → Prop
  | _, []         => True
  | taken, e :: l => (∀ n ∈ needs e, n ∈ taken) ∧ (∀ f ∈ l, key f < key e → ∃ n ∈ needs f, n ∉ taken) ∧
    InOrder (key e :: taken) l

/-- The entries by key, no key twice. -/
abbrev Sorted (l : List β) : Prop := l.Pairwise (fun e f => key e < key f)

variable {key needs check stuck} {pending l : List β} {taken : List κ} {e : β} {n : Nat}

theorem inOrder_split : ∀ {l : List β} {taken : List κ}, InOrder key needs taken l → ∀ pre e post, l = pre ++ e :: post →
    (∀ n ∈ needs e, n ∈ taken ∨ n ∈ pre.map key) ∧
      ∀ f ∈ post, key f < key e → ∃ n ∈ needs f, n ∉ taken ∧ n ∉ pre.map key
  | [], _, _, pre, e, post, h => by cases pre <;> cases h
  | a :: l, taken, ⟨hneeds, hfirst, ho⟩, [], e, post, h => by
    cases h
    refine ⟨fun n hn => Or.inl (hneeds n hn), fun f hf hlt => ?_⟩
    obtain ⟨n, hn, ht⟩ := hfirst f hf hlt
    exact ⟨n, hn, ht, List.not_mem_nil⟩
  | a :: l, taken, ⟨_, _, ho⟩, b :: pre, e, post, h => by
    obtain ⟨rfl, htail⟩ := List.cons.inj h
    obtain ⟨hneeds, hfirst⟩ := inOrder_split ho pre e post htail
    simp only [List.mem_cons, List.map_cons, not_or] at hneeds hfirst ⊢
    refine ⟨fun n hn => ?_, fun f hf hlt => ?_⟩
    · rcases hneeds n hn with (h | h) | h
      · exact Or.inr (Or.inl h)
      · exact Or.inl h
      · exact Or.inr (Or.inr h)
    · obtain ⟨n, hn, ⟨hne, ht⟩, hp⟩ := hfirst f hf hlt
      exact ⟨n, hn, ht, hne, hp⟩

/-! ## One round -/

theorem ready_iff : ready needs taken e = true ↔ ∀ n ∈ needs e, n ∈ taken := by
  unfold ready
  simp

theorem sorted_without (h : Sorted key pending) (e : β) : Sorted key (without key e pending) := h.sublist List.eraseP_sublist

theorem perm_without (h : Sorted key pending) (he : e ∈ pending) : pending.Perm (e :: without key e pending) := by
  have hself : decide (key e = key e) = true := decide_eq_true rfl
  obtain ⟨a, l₁, l₂, -, ha, hl, herase⟩ := @List.exists_of_eraseP β (fun f => decide (key f = key e)) pending e he hself
  have hnodup : (pending.map key).Nodup := List.pairwise_map.2 (h.imp (fun h => ne_of_lt h))
  obtain rfl := List.inj_on_of_nodup_map hnodup (hl ▸ List.mem_append_right l₁ List.mem_cons_self) he (of_decide_eq_true ha)
  rw [without, herase]
  nth_rewrite 1 [hl]
  exact List.perm_middle

theorem length_without (h : Sorted key pending) (he : e ∈ pending) (hn : pending.length = n + 1) :
    (without key e pending).length = n := by
  have hl := (perm_without h he).length_eq
  rw [hn, List.length_cons] at hl
  omega

/-- Entries with smaller keys than the one a round takes are not ready. -/
theorem find_least (h : Sorted key pending) (hf : pending.find? (ready needs taken) = some e) :
    ∀ f ∈ pending, key f < key e → ∃ n ∈ needs f, n ∉ taken := by
  obtain ⟨-, before, after, rfl, hbefore⟩ := List.find?_eq_some_iff_append.1 hf
  intro f hmem hlt
  rcases List.mem_append.1 hmem with hmem | hmem
  · have hnot := hbefore f hmem
    simp only [ready, Bool.not_eq_true', List.all_eq_false, decide_eq_true_eq] at hnot
    exact hnot
  · rcases List.mem_cons.1 hmem with rfl | hmem
    · exact absurd hlt (lt_irrefl _)
    · exact absurd hlt (lt_asymm ((List.pairwise_cons.1 (List.pairwise_append.1 h).2.1).1 f hmem))

/-! ## The loop -/

/-- **The loop returns its entries in order**, each of them checked. -/
theorem takeAll_ok : ∀ {n : Nat} {pending : List β} {taken : List κ} {l : List β}, pending.length = n → Sorted key pending →
    takeAll key needs check stuck n pending taken = .ok l →
      l.Perm pending ∧ InOrder key needs taken l ∧ ∀ e ∈ l, check e = .ok ()
  | 0, pending, taken, l, hn, _, h => by
    obtain rfl := List.length_eq_zero_iff.1 hn
    cases h
    exact ⟨List.Perm.refl _, trivial, by simp⟩
  | n + 1, pending, taken, l, hn, hs, h => by
    rw [takeAll] at h
    cases hf : pending.find? (ready needs taken) with
    | none =>
      rw [hf] at h
      cases h
    | some e =>
      rw [hf] at h
      have he := List.mem_of_find?_eq_some hf
      have hperm := perm_without hs he
      cases hc : check e with
      | error x =>
        simp only [hc] at h
        cases h
      | ok u =>
        cases hr : takeAll key needs check stuck n (without key e pending) (key e :: taken) with
        | error x =>
          simp only [hc, hr] at h
          cases h
        | ok rest =>
          simp only [hc, hr] at h
          cases h
          obtain ⟨hp, ho, hchecked⟩ := takeAll_ok (length_without hs he hn) (sorted_without hs e) hr
          refine ⟨(hp.cons e).trans hperm.symm, ⟨ready_iff.1 (List.find?_some hf), fun f hmem => ?_, ho⟩, fun f hmem => ?_⟩
          · exact find_least hs hf f (hperm.symm.subset (List.mem_cons_of_mem _ (hp.subset hmem)))
          · rcases List.mem_cons.1 hmem with rfl | hmem
            · exact hc
            · exact hchecked f hmem

/-- **The loop comes to its end** where every need is taken or an entry, and nothing descends forever along the needs. -/
theorem takeAll_isOk {R : β → β → Prop} : ∀ {n : Nat} {pending : List β} {taken : List κ}, pending.length = n →
    Sorted key pending → (∀ e ∈ pending, check e = .ok ()) →
    (∀ e ∈ pending, ∀ n ∈ needs e, n ∈ taken ∨ ∃ f ∈ pending, key f = n ∧ R f e) →
    (∀ l : List β, l ≠ [] → (∀ e ∈ l, e ∈ pending) → ∃ e ∈ l, ∀ f ∈ l, ¬ R f e) →
      ∃ l, takeAll key needs check stuck n pending taken = .ok l
  | 0, _, _, _, _, _, _, _ => ⟨[], rfl⟩
  | n + 1, pending, taken, hn, hs, hc, hclosed, hleast => by
    have hsome : (pending.find? (ready needs taken)).isSome = true := by
      rw [List.find?_isSome]
      obtain ⟨e, he, hmin⟩ := hleast pending (by rintro rfl; cases hn) (fun _ h => h)
      refine ⟨e, he, ready_iff.2 (fun n hn => ?_)⟩
      exact (hclosed e he n hn).resolve_right (fun ⟨f, hf, _, hR⟩ => hmin f hf hR)
    obtain ⟨e, hf⟩ := Option.isSome_iff_exists.1 hsome
    have he := List.mem_of_find?_eq_some hf
    have hsub : ∀ f ∈ without key e pending, f ∈ pending := fun f hf => List.mem_of_mem_eraseP hf
    have hrest : ∀ f ∈ without key e pending, ∀ n ∈ needs f,
        n ∈ key e :: taken ∨ ∃ g ∈ without key e pending, key g = n ∧ R g f := by
      intro f hf n hn
      rcases hclosed f (hsub f hf) n hn with h | ⟨g, hg, rfl, hR⟩
      · exact Or.inl (List.mem_cons_of_mem _ h)
      · rcases List.mem_cons.1 ((perm_without hs he).subset hg) with rfl | hg
        · exact Or.inl List.mem_cons_self
        · exact Or.inr ⟨g, hg, rfl, hR⟩
    obtain ⟨rest, hr⟩ := takeAll_isOk (length_without hs he hn) (sorted_without hs e) (fun f hf => hc f (hsub f hf)) hrest
      (fun l hl hl' => hleast l hl (fun g hg => hsub g (hl' g hg)))
    refine ⟨e :: rest, ?_⟩
    rw [takeAll, hf]
    simp only [hc e he, hr]
    rfl

end TakeReady
