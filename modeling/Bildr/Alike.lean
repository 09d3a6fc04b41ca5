import Bildr.SortBy
import Mathlib.Data.List.Forall2
/-!
# Alike — lists that agree element by element

What a run over one list does, the same run over a list that agrees with it does, as long as the run looks only at what
they agree in: filters and sorts keep lists alike, and maps and folds give equal results.
-/
namespace Alike

open List (Forall₂)
open SortBy (sortBy)

variable {α β γ σ κ : Type} {R : α → β → Prop} {l : List α} {m : List β}

theorem both {S : α → β → Prop} (h : Forall₂ R l m) (h' : Forall₂ S l m) : Forall₂ (fun a b => R a b ∧ S a b) l m := by
  induction h with
  | nil => exact .nil
  | cons hab hrest ih =>
    cases h' with
    | cons hab' hrest' => exact .cons ⟨hab, hab'⟩ (ih hrest')

theorem map_eq {f : α → γ} {g : β → γ} (hfg : ∀ a b, R a b → f a = g b) (h : Forall₂ R l m) : l.map f = m.map g := by
  induction h with
  | nil => rfl
  | cons hab hrest ih => rw [List.map_cons, List.map_cons, hfg _ _ hab, ih]

theorem filterMap_eq {f : α → Option γ} {g : β → Option γ} (hfg : ∀ a b, R a b → f a = g b) (h : Forall₂ R l m) :
    l.filterMap f = m.filterMap g := by
  induction h with
  | nil => rfl
  | cons hab hrest ih => rw [List.filterMap_cons, List.filterMap_cons, hfg _ _ hab, ih]

theorem flatMap_eq {f : α → List γ} {g : β → List γ} (hfg : ∀ a b, R a b → f a = g b) (h : Forall₂ R l m) :
    l.flatMap f = m.flatMap g := by
  induction h with
  | nil => rfl
  | cons hab hrest ih => rw [List.flatMap_cons, List.flatMap_cons, hfg _ _ hab, ih]

theorem any_eq {f : α → Bool} {g : β → Bool} (hfg : ∀ a b, R a b → f a = g b) (h : Forall₂ R l m) :
    l.any f = m.any g := by
  induction h with
  | nil => rfl
  | cons hab hrest ih => rw [List.any_cons, List.any_cons, hfg _ _ hab, ih]

theorem foldlM_eq {ε : Type} {f : σ → α → Except ε σ} {g : σ → β → Except ε σ} (hfg : ∀ a b, R a b → ∀ s, f s a = g s b)
    (h : Forall₂ R l m) : ∀ s, l.foldlM f s = m.foldlM g s := by
  induction h with
  | nil => exact fun _ => rfl
  | cons hab hrest ih =>
    intro s
    rw [List.foldlM_cons, List.foldlM_cons, hfg _ _ hab]
    exact congrArg _ (funext ih)

theorem forM_eq {ε : Type} {f : α → Except ε Unit} {g : β → Except ε Unit} (hfg : ∀ a b, R a b → f a = g b)
    (h : Forall₂ R l m) : l.forM f = m.forM g := by
  induction h with
  | nil => rfl
  | cons hab hrest ih =>
    show (f _ >>= fun _ => List.forM _ f) = (g _ >>= fun _ => List.forM _ g)
    rw [hfg _ _ hab, ih]

theorem mapM_eq {f : α → Option γ} {g : β → Option γ} (hfg : ∀ a b, R a b → f a = g b) (h : Forall₂ R l m) :
    l.mapM f = m.mapM g := by
  induction h with
  | nil => rfl
  | cons hab hrest ih => rw [List.mapM_cons, List.mapM_cons, hfg _ _ hab, ih]

theorem filter {f : α → Bool} {g : β → Bool} (hfg : ∀ a b, R a b → f a = g b) (h : Forall₂ R l m) :
    Forall₂ R (l.filter f) (m.filter g) := by
  induction h with
  | nil => exact .nil
  | cons hab hrest ih =>
    rw [List.filter_cons, List.filter_cons, hfg _ _ hab]
    split
    · exact .cons hab ih
    · exact ih

theorem sort [LinearOrder κ] {f : α → κ} {g : β → κ} (hfg : ∀ a b, R a b → f a = g b) (h : Forall₂ R l m) :
    Forall₂ R (sortBy f l) (sortBy g m) := by
  have hinsert : ∀ {a : α} {b : β} {l : List α} {m : List β}, R a b → Forall₂ R l m →
      Forall₂ R (l.orderedInsert (fun a b => f a ≤ f b) a) (m.orderedInsert (fun a b => g a ≤ g b) b) := by
    intro a b l m hab hlm
    induction hlm with
    | nil => exact .cons hab .nil
    | cons hcd hrest ih =>
      rw [List.orderedInsert_cons, List.orderedInsert_cons, hfg _ _ hab, hfg _ _ hcd]
      split
      · exact .cons hab (.cons hcd hrest)
      · exact .cons hcd ih
  unfold sortBy
  induction h with
  | nil => exact .nil
  | cons hab hrest ih => exact hinsert hab ih

end Alike
