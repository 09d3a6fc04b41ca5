import Mathlib.Data.List.Basic
/-!
# Lockstep — two fallible programs side by side

`Both R x y` says that two computations fail together or succeed with related values, whatever their errors are.  It is
kept by sequencing (`Both.bind`) and by folds over one list (`both_foldlM`).
-/
namespace Lockstep

variable {ε δ α β γ κ : Type}

def Both (R : α → β → Prop) : Except ε α → Except δ β → Prop
  | .ok a,    .ok b    => R a b
  | .error _, .error _ => True
  | _,        _        => False

theorem Both.bind {α' β' : Type} {R : α → β → Prop} {S : α' → β' → Prop} {x : Except ε α} {y : Except δ β}
    {f : α → Except ε α'} {g : β → Except δ β'} (h : Both R x y) (hfg : ∀ a b, R a b → Both S (f a) (g b)) :
    Both S (x >>= f) (y >>= g) := by
  cases x with
  | error e =>
    cases y with
    | error d => exact trivial
    | ok b => exact absurd h id
  | ok a =>
    cases y with
    | error d => exact absurd h id
    | ok b => exact hfg a b h

theorem Both.isOk {R : α → β → Prop} {x : Except ε α} {y : Except δ β} (h : Both R x y) : x.isOk = y.isOk := by
  cases x <;> cases y <;> first | rfl | exact absurd h id

/-- What the second computation did, the first did. -/
theorem Both.cases {R : α → β → Prop} {x : Except ε α} {y : Except δ β} (h : Both R x y) :
    (∃ e d, x = .error e ∧ y = .error d) ∨ ∃ a b, x = .ok a ∧ y = .ok b ∧ R a b := by
  cases x with
  | error e =>
    cases y with
    | error d => exact Or.inl ⟨e, d, rfl, rfl⟩
    | ok b => exact absurd h id
  | ok a =>
    cases y with
    | error d => exact absurd h id
    | ok b => exact Or.inr ⟨a, b, rfl, rfl, h⟩

/-- Folds over one list keep what their steps keep. -/
theorem both_foldlM {R : α → β → Prop} {f : α → κ → Except ε α} {g : β → κ → Except δ β} :
    ∀ (ks : List κ) {a : α} {b : β}, (∀ k ∈ ks, ∀ a b, R a b → Both R (f a k) (g b k)) → R a b →
      Both R (ks.foldlM f a) (ks.foldlM g b)
  | [], _, _, _, h => h
  | k :: ks, a, b, hfg, h => by
    rw [List.foldlM_cons, List.foldlM_cons]
    refine Both.bind (hfg k List.mem_cons_self a b h) (fun a' b' h' => ?_)
    exact both_foldlM ks (fun k' hk' => hfg k' (List.mem_cons_of_mem k hk')) h'

/-- A fallible fold whose steps succeed next to the steps of a plain fold. -/
theorem foldlM_next_to {R : α → β → Prop} {f : α → κ → Except ε α} {g : β → κ → β} :
    ∀ (ks : List κ) {a : α} {b : β}, (∀ k ∈ ks, ∀ a b, R a b → ∃ a', f a k = .ok a' ∧ R a' (g b k)) → R a b →
      ∃ a', ks.foldlM f a = .ok a' ∧ R a' (ks.foldl g b)
  | [], a, _, _, h => ⟨a, rfl, h⟩
  | k :: ks, a, b, hfg, h => by
    obtain ⟨a₁, h₁, hr⟩ := hfg k List.mem_cons_self a b h
    obtain ⟨a₂, h₂, hr₂⟩ := foldlM_next_to ks (fun k' hk' => hfg k' (List.mem_cons_of_mem k hk')) hr
    exact ⟨a₂, by rw [List.foldlM_cons, h₁]; exact h₂, hr₂⟩

end Lockstep
