import Bildr.Trace
/-!
# Calls — concurrent calls over shared tables

A call is a value that remembers how far it has come; `next` is its next atomic step, which reads and writes the shared
tables.  A schedule is the list of the calls' indices in the order they step, so the runs of `step` are the
interleavings of the calls.
-/
namespace Calls

structure Pool (σ π : Type) where
  shared : σ
  calls : List π

variable {σ π : Type}

def Pool.call (p : Pool σ π) (k : Nat) : Option π := p.calls[k]?

variable (next : σ → π → σ × π)

/-- Call `k` takes its next step. -/
def step (p : Pool σ π) (k : Nat) : Pool σ π :=
  match p.call k with
  | none   => p
  | some c => ⟨(next p.shared c).1, p.calls.set k (next p.shared c).2⟩

variable {next}

theorem step_none {p : Pool σ π} {k : Nat} (h : p.call k = none) : step next p k = p := by
  unfold step
  rw [h]

theorem step_shared {p : Pool σ π} {k : Nat} {c : π} (h : p.call k = some c) :
    (step next p k).shared = (next p.shared c).1 := by
  unfold step
  rw [h]

/-- The stepped call moves on, the others wait. -/
theorem step_call {p : Pool σ π} {k : Nat} {c : π} (h : p.call k = some c) (j : Nat) :
    (step next p k).call j = if j = k then some (next p.shared c).2 else p.call j := by
  have hk : k < p.calls.length := (List.getElem?_eq_some_iff.1 h).1
  unfold step
  rw [h]
  simp only [Pool.call, List.getElem?_set, hk, if_true, eq_comm]

/-- **A call after a step** is the stepped call moved on, or a call that waited. -/
theorem step_call_cases {p : Pool σ π} {k : Nat} {c : π} (h : p.call k = some c) {j : Nat} {d : π}
    (hd : (step next p k).call j = some d) :
    (j = k ∧ d = (next p.shared c).2) ∨ (j ≠ k ∧ p.call j = some d) := by
  rw [step_call h] at hd
  by_cases hj : j = k
  · rw [if_pos hj] at hd
    cases hd
    exact Or.inl ⟨hj, rfl⟩
  · rw [if_neg hj] at hd
    exact Or.inr ⟨hj, hd⟩

/-- **A call that comes closer with each of its steps**: after its steps in a schedule it is that much closer. -/
theorem rank_run {rank : π → Nat} (hdown : ∀ s c, rank (next s c).2 ≤ rank c - 1) :
    ∀ (ks : List Nat) {p : Pool σ π} {k : Nat} {c : π}, p.call k = some c →
      ∃ d, (Trace.run (step next) p ks).call k = some d ∧ rank d ≤ rank c - ks.count k
  | [], p, k, c, h => ⟨c, h, Nat.le_refl _⟩
  | j :: ks, p, k, c, h => by
    rw [Trace.run_cons]
    by_cases hj : k = j
    · subst hj
      obtain ⟨d, hd, hle⟩ := rank_run hdown ks (p := step next p k) (k := k) (c := (next p.shared c).2)
        (by rw [step_call h, if_pos rfl])
      refine ⟨d, hd, ?_⟩
      have := hdown p.shared c
      rw [List.count_cons_self]
      omega
    · have hwaits : (step next p j).call k = some c := by
        cases hc : p.call j with
        | none => rw [step_none hc, h]
        | some b => rw [step_call hc, if_neg hj, h]
      obtain ⟨d, hd, hle⟩ := rank_run hdown ks hwaits
      exact ⟨d, hd, by rw [List.count_cons_of_ne (Ne.symm hj)]; exact hle⟩

end Calls
