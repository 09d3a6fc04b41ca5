import Mathlib.Logic.Basic
/-!
# Keyed — a call that is recognised when it is repeated

A request carries a key.  The call checks it, looks for a row under the key, and either answers from that row or writes a
new one (`body_ok`).  A request whose row is found is answered from it wherever the check still passes (`body_repeat`).
-/
namespace Keyed

variable {ε σ χ ρ α : Type} {check : σ → Except ε χ} {lookup : σ → Option ρ} {answer : χ → ρ → σ → Except ε α}
  {write : χ → σ → Except ε (α × σ)}

/-- The body of a transaction: what it answers, and the state it leaves. -/
def body (check : σ → Except ε χ) (lookup : σ → Option ρ) (answer : χ → ρ → σ → Except ε α)
    (write : χ → σ → Except ε (α × σ)) (s : σ) : Except ε (α × σ) := do
  let c ← check s
  match lookup s with
  | some row => do
    let a ← answer c row s
    return (a, s)
  | none => write c s

/-- **What a body that succeeded did**: it answered from the row under its key and changed nothing, or no row was there
and it wrote. -/
theorem body_ok {s s' : σ} {a : α} (h : body check lookup answer write s = .ok (a, s')) :
    ∃ c, check s = .ok c ∧
      ((∃ row, lookup s = some row ∧ answer c row s = .ok a ∧ s' = s) ∨ (lookup s = none ∧ write c s = .ok (a, s'))) := by
  unfold body at h
  cases hc : check s with
  | error e =>
    rw [hc] at h
    cases h
  | ok c =>
    rw [hc] at h
    refine ⟨c, rfl, ?_⟩
    cases hl : lookup s with
    | none =>
      simp only [hl] at h
      exact Or.inr ⟨rfl, h⟩
    | some row =>
      simp only [hl] at h
      change (answer c row s >>= fun b => pure (b, s)) = _ at h
      cases ha : answer c row s with
      | error e =>
        rw [ha] at h
        cases h
      | ok b =>
        rw [ha] at h
        cases h
        exact Or.inl ⟨row, rfl, ha, rfl⟩

/-- **A request whose row is found is answered from it, and nothing changes.** -/
theorem body_repeat {s : σ} {c : χ} {row : ρ} {a : α} (hc : check s = .ok c) (hl : lookup s = some row)
    (ha : answer c row s = .ok a) : body check lookup answer write s = .ok (a, s) := by
  unfold body
  rw [hc]
  simp only [hl]
  change (answer c row s >>= fun b => pure (b, s)) = _
  rw [ha]
  rfl

end Keyed
