import Bildr.Trace
import Mathlib.Data.List.Induction
/-!
# Onset — where a run first makes something true

What holds after a run and not before it was made true by one of the steps (`onset`), and what is shown step by step
about a run and its state holds of every run (`run_induction`).
-/
namespace Trace

variable {σ ι : Type} {step : σ → ι → σ}

@[simp] theorem run_snoc (s : σ) (is : List ι) (i : ι) : run step s (is ++ [i]) = step (run step s is) i :=
  run_append step s is [i]

/-- **Induction on a run** from its end: the state stands beside the inputs that led there. -/
theorem run_induction {P : List ι → σ → Prop} {s : σ} (hnil : P [] s)
    (hsnoc : ∀ is i, P is (run step s is) → P (is ++ [i]) (step (run step s is) i)) : ∀ is, P is (run step s is) := by
  intro is
  induction is using List.reverseRecOn with
  | nil => exact hnil
  | append_singleton is i ih =>
    rw [run_snoc]
    exact hsnoc is i ih

/-- **The step that made it true.** -/
theorem onset {P : σ → Prop} {s : σ} (hs : ¬ P s) : ∀ {is : List ι}, P (run step s is) →
    ∃ pre i post, is = pre ++ i :: post ∧ ¬ P (run step s pre) ∧ P (step (run step s pre) i) := by
  intro is
  induction is using List.reverseRecOn with
  | nil => exact fun h => absurd h hs
  | append_singleton is i ih =>
    intro h
    by_cases hp : P (run step s is)
    · obtain ⟨pre, j, post, rfl, hpre, hj⟩ := ih hp
      exact ⟨pre, j, post ++ [i], by simp, hpre, hj⟩
    · rw [run_snoc] at h
      exact ⟨is, i, [], rfl, hp, h⟩

end Trace
