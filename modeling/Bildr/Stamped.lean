import Mathlib.Order.Basic
/-!
# Stamped — answers kept under a stamp

What is kept was computed once and stands under the stamp of that moment; it answers again while the stamp is the same.
Such an answer is up to date if every write moves the stamp forward or leaves what is shown (`Accounts`), or if nothing
was kept under the stamp the write leaves standing.
-/
namespace Stamped

variable {σ κ ν : Type} [PartialOrder κ] {stamp : σ → κ} {view : σ → ν} {kept : List (κ × ν)} {s s' s'' : σ}

/-- A write that moves the stamp forward, or leaves both the stamp and the view. -/
structure Accounts (stamp : σ → κ) (view : σ → ν) (s s' : σ) : Prop where
  forward : stamp s ≤ stamp s'
  shown : stamp s' = stamp s → view s' = view s

theorem Accounts.refl (s : σ) : Accounts stamp view s s := ⟨le_rfl, fun _ => rfl⟩

theorem Accounts.trans (h : Accounts stamp view s s') (h' : Accounts stamp view s' s'') : Accounts stamp view s s'' := by
  refine ⟨h.forward.trans h'.forward, fun heq => ?_⟩
  -- a stamp that comes back has not moved in between
  have hback : stamp s' = stamp s := le_antisymm (heq ▸ h'.forward) h.forward
  rw [h'.shown (heq.trans hback.symm), h.shown hback]

theorem Accounts.of_lt (h : stamp s < stamp s') : Accounts stamp view s s' := ⟨h.le, fun heq => absurd heq h.ne'⟩

theorem Accounts.of_eq (hstamp : stamp s' = stamp s) (hview : view s' = view s) : Accounts stamp view s s' :=
  ⟨hstamp.ge, fun _ => hview⟩

/-- No kept answer is ahead, and one under the present stamp is the present view. -/
def Coherent (stamp : σ → κ) (view : σ → ν) (kept : List (κ × ν)) (s : σ) : Prop :=
  ∀ e ∈ kept, e.1 ≤ stamp s ∧ (e.1 = stamp s → e.2 = view s)

theorem coherent_nil (s : σ) : Coherent stamp view [] s := fun _ he => nomatch he

theorem Coherent.accounts (h : Coherent stamp view kept s) (ha : Accounts stamp view s s') :
    Coherent stamp view kept s' := by
  intro e he
  obtain ⟨hle, hview⟩ := h e he
  refine ⟨hle.trans ha.forward, fun heq => ?_⟩
  have hstill : stamp s' = stamp s := le_antisymm (heq ▸ hle) ha.forward
  rw [ha.shown hstill]
  exact hview (heq.trans hstill)

/-- **A write that nobody accounts for is harmless while nothing is kept under the present stamp.** -/
theorem Coherent.unaccounted (h : Coherent stamp view kept s) (hforward : stamp s ≤ stamp s')
    (hnone : ∀ e ∈ kept, e.1 ≠ stamp s) : Coherent stamp view kept s' := by
  intro e he
  have hle : e.1 ≤ stamp s := (h e he).1
  refine ⟨hle.trans hforward, fun heq => absurd ?_ (hnone e he)⟩
  exact le_antisymm hle (heq ▸ hforward)

theorem Coherent.keep (h : Coherent stamp view kept s) : Coherent stamp view (kept ++ [(stamp s, view s)]) s := by
  intro e he
  rcases List.mem_append.1 he with he | he
  · exact h e he
  · obtain rfl := List.mem_singleton.1 he
    exact ⟨le_rfl, fun _ => rfl⟩

end Stamped
