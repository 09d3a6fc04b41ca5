import Mathlib.Data.List.Basic
/-!
# Trace — runs of a step function

`run step s is` is the state a list of inputs reaches, `Along step P s is` says that every input met `P` at the state
it was taken in.  An invariant that one step keeps under `P` holds after every run along `P` (`invariant_of_step`).
-/
namespace Trace

variable {σ ι : Type} (step : σ → ι → σ)

def run (s : σ) (is : List ι) : σ := is.foldl step s

/-- Every input of the run meets `P` at the state before it. -/
def Along (P : σ → ι → Prop) : σ → List ι → Prop
  | _, []      => True
  | s, i :: is => P s i ∧ Along P (step s i) is

instance decidableAlong (P : σ → ι → Prop) [∀ s i, Decidable (P s i)] :
    ∀ (s : σ) (is : List ι), Decidable (Along step P s is)
  | _, []      => isTrue trivial
  | s, i :: is => @instDecidableAnd _ _ _ (decidableAlong P (step s i) is)

@[simp] theorem run_nil (s : σ) : run step s [] = s := rfl

@[simp] theorem run_cons (s : σ) (i : ι) (is : List ι) : run step s (i :: is) = run step (step s i) is := rfl

theorem run_append (s : σ) (is js : List ι) : run step s (is ++ js) = run step (run step s is) js :=
  List.foldl_append

theorem along_append (P : σ → ι → Prop) : ∀ (s : σ) (is js : List ι),
    Along step P s (is ++ js) ↔ Along step P s is ∧ Along step P (run step s is) js
  | s, [], js => by simp [Along]
  | s, i :: is, js => by
    rw [List.cons_append, Along, Along, along_append P (step s i) is js, run_cons, and_assoc]

/-- A property along a run, input by input. -/
theorem along_iff (P : σ → ι → Prop) : ∀ (s : σ) (is : List ι),
    Along step P s is ↔ ∀ js i ks, is = js ++ i :: ks → P (run step s js) i
  | s, [] => by
    refine ⟨fun _ js i ks h => ?_, fun _ => trivial⟩
    cases js <;> cases h
  | s, i :: is => by
    rw [Along, along_iff P (step s i) is]
    refine ⟨fun ⟨hi, his⟩ js j ks h => ?_, fun h => ⟨h [] i is rfl, fun js j ks hs => ?_⟩⟩
    · cases js with
      | nil =>
        simp only [List.nil_append, List.cons.injEq] at h
        obtain ⟨rfl, rfl⟩ := h
        exact hi
      | cons k js =>
        simp only [List.cons_append, List.cons.injEq] at h
        obtain ⟨rfl, rfl⟩ := h
        exact his js j ks rfl
    · exact h (i :: js) j ks (by rw [hs]; rfl)

variable {step}

theorem along_and {P Q : σ → ι → Prop} : ∀ {s : σ} {is : List ι}, Along step P s is → Along step Q s is →
    Along step (fun s i => P s i ∧ Q s i) s is
  | _, [], _, _ => trivial
  | _, _ :: _, h, h' => ⟨⟨h.1, h'.1⟩, along_and h.2 h'.2⟩

theorem invariant_of_step {P : σ → ι → Prop} (Inv : σ → Prop)
    (hstep : ∀ s i, Inv s → P s i → Inv (step s i)) :
    ∀ {is : List ι} {s : σ}, Inv s → Along step P s is → Inv (run step s is)
  | [], _, hs, _ => hs
  | i :: is, s, hs, h => by
    rw [run_cons]
    exact invariant_of_step Inv hstep (hstep s i hs h.1) h.2

/-- What every step gives at an invariant state holds along the run. -/
theorem along_of_step {P Q : σ → ι → Prop} (Inv : σ → Prop)
    (hstep : ∀ s i, Inv s → P s i → Inv (step s i)) (hQ : ∀ s i, Inv s → P s i → Q s i) :
    ∀ {is : List ι} {s : σ}, Inv s → Along step P s is → Along step Q s is
  | [], _, _, _ => trivial
  | i :: _, s, hs, h => ⟨hQ s i hs h.1, along_of_step Inv hstep hQ (hstep s i hs h.1) h.2⟩

/-- Two properties that agree at invariant states hold along the same runs. -/
theorem along_congr {P Q : σ → ι → Prop} (Inv : σ → Prop) {V : ι → Prop}
    (hiff : ∀ s i, Inv s → V i → (P s i ↔ Q s i)) (hstep : ∀ s i, Inv s → V i → P s i → Inv (step s i)) :
    ∀ {is : List ι} {s : σ}, Inv s → (∀ i ∈ is, V i) → (Along step P s is ↔ Along step Q s is)
  | [], _, _, _ => Iff.rfl
  | i :: is, s, hs, hv => by
    have hi : V i := hv i List.mem_cons_self
    have his : ∀ j ∈ is, V j := fun j hj => hv j (List.mem_cons_of_mem i hj)
    rw [Along, Along, ← hiff s i hs hi]
    exact and_congr_right (fun h => along_congr Inv hiff hstep (hstep s i hs hi h) his)

/-- What every element of a fallible fold keeps, the fold keeps. -/
theorem foldlM_invariant {ε α β : Type} {f : α → β → Except ε α} (Inv : α → Prop) :
    ∀ {l : List β} {a a' : α}, (∀ b ∈ l, ∀ a a', Inv a → f a b = .ok a' → Inv a') → Inv a →
      l.foldlM f a = .ok a' → Inv a'
  | [], a, a', _, ha, h => by
    simp only [List.foldlM_nil] at h
    cases h
    exact ha
  | b :: l, a, a', hf, ha, h => by
    rw [List.foldlM_cons] at h
    cases hb : f a b with
    | error e => rw [hb] at h; cases h
    | ok a₁ =>
      rw [hb] at h
      exact foldlM_invariant Inv (fun b' hb' => hf b' (List.mem_cons_of_mem b hb'))
        (hf b List.mem_cons_self a a₁ ha hb) h

/-- A fold that fails fails at an element, in a state that keeps what the steps before it keep. -/
theorem foldlM_error {ε α β : Type} {f : α → β → Except ε α} (Inv : α → Prop) :
    ∀ {l : List β} {a : α} {e : ε}, (∀ b ∈ l, ∀ a a', Inv a → f a b = .ok a' → Inv a') → Inv a →
      l.foldlM f a = .error e → ∃ b ∈ l, ∃ a', Inv a' ∧ f a' b = .error e
  | [], a, e, _, _, h => by cases h
  | b :: l, a, e, hf, ha, h => by
    rw [List.foldlM_cons] at h
    cases hb : f a b with
    | error e' =>
      rw [hb] at h
      cases h
      exact ⟨b, List.mem_cons_self, a, ha, hb⟩
    | ok a' =>
      rw [hb] at h
      obtain ⟨c, hc, a₂, ha₂, he⟩ := foldlM_error Inv (fun c hc => hf c (List.mem_cons_of_mem b hc))
        (hf b List.mem_cons_self a a' ha hb) h
      exact ⟨c, List.mem_cons_of_mem b hc, a₂, ha₂, he⟩

end Trace
