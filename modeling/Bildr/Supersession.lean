import Mathlib.Data.List.Induction
import Mathlib.Data.List.Nodup
/-!
# Supersession — a log whose entries replace earlier ones

Entries have an id and name the entries they supersede.  `Coherent` logs are built by appending entries that supersede
only current heads: entries that are in the log and that nothing in it supersedes.  Then every target is earlier, is
superseded once, and the last entry is a head.
-/
namespace Supersession

variable {α ι : Type} (id : α → ι) (targets : α → List ι)

/-- Every entry superseded, when it was appended, only heads of the log before it. -/
inductive Coherent : List α → Prop
  | nil : Coherent []
  | append {l : List α} {a : α} (h : Coherent l) (known : ∀ t ∈ targets a, t ∈ l.map id)
      (heads : ∀ t ∈ targets a, t ∉ l.flatMap targets) : Coherent (l ++ [a])

variable {id targets}

theorem Coherent.earlier {l : List α} (h : Coherent id targets l) :
    ∀ {before : List α} {a : α} {after : List α}, l = before ++ a :: after → ∀ t ∈ targets a, t ∈ before.map id := by
  induction h with
  | nil =>
    intro before a after hl
    cases before <;> cases hl
  | @append l b _ known _ ih =>
    intro before a after hl t ht
    cases after using List.reverseRecOn with
    | nil =>
      obtain ⟨rfl, hab⟩ := List.append_inj' hl rfl
      obtain rfl : b = a := by simpa using hab
      exact known t ht
    | append_singleton after c _ =>
      have hl' : l ++ [b] = (before ++ a :: after) ++ [c] := by rw [hl, List.append_assoc, List.cons_append]
      exact ih (List.append_inj' hl' rfl).1 t ht

theorem Coherent.once {l : List α} (h : Coherent id targets l) :
    l.Pairwise (fun a b => ∀ t ∈ targets a, t ∉ targets b) := by
  induction h with
  | nil => exact List.Pairwise.nil
  | @append l b _ _ heads ih =>
    rw [List.pairwise_append]
    refine ⟨ih, List.pairwise_singleton _ _, fun a ha c hc t hta htc => ?_⟩
    obtain rfl := List.mem_singleton.1 hc
    exact heads t htc (List.mem_flatMap.2 ⟨a, ha, hta⟩)

theorem Coherent.head {l : List α} (h : Coherent id targets l) (hid : (l.map id).Nodup) (hl : l ≠ []) :
    ∃ a ∈ l, id a ∉ l.flatMap targets := by
  obtain ⟨before, a, rfl⟩ := List.eq_nil_or_concat l |>.resolve_left hl
  rw [List.concat_eq_append] at h hid ⊢
  refine ⟨a, List.mem_append_right _ List.mem_cons_self, fun hmem => ?_⟩
  obtain ⟨b, hb, hab⟩ := List.mem_flatMap.1 hmem
  obtain ⟨x, y, hxy⟩ := List.append_of_mem hb
  have hearly := h.earlier hxy _ hab
  -- the target would be an entry before the last one with the last one's id
  have hbefore : id a ∈ before.map id := by
    cases y using List.reverseRecOn with
    | nil =>
      obtain ⟨rfl, -⟩ := List.append_inj' hxy rfl
      exact hearly
    | append_singleton y c _ =>
      have hxy' : before ++ [a] = (x ++ b :: y) ++ [c] := by rw [hxy, List.append_assoc, List.cons_append]
      obtain ⟨rfl, -⟩ := List.append_inj' hxy' rfl
      rw [List.map_append]
      exact List.mem_append_left _ hearly
  rw [List.map_append, List.nodup_append] at hid
  exact hid.2.2 _ hbefore _ List.mem_cons_self rfl

end Supersession
