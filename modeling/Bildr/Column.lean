import Bildr.Table
import Mathlib.Algebra.BigOperators.Group.List.Basic
import Mathlib.Algebra.Order.Ring.Int
/-!
# Column — sums over the rows of a table

`sum(f)` of a query depends on what the table finds under each key, not on the order of its rows, and over some of the
rows it is at most the sum over all of them (`sum_le_of_subset`).  A join summed over the rows of one side is the sum
over the other side of the rows that find a partner (`sum_join`).
-/
namespace Table

variable {α β κ : Type} {key : α → κ}

theorem nodup_rows (t : Table key) : t.rows.Nodup := List.Nodup.of_map key t.nodup

def sum (f : α → Int) (t : Table key) : Int := (t.rows.map f).sum

theorem sum_congr_fun {t : Table key} {f g : α → Int} (h : ∀ r ∈ t.rows, f r = g r) : t.sum f = t.sum g := by
  rw [sum, sum, List.map_congr_left h]

theorem sum_le_of_sublist (f : α → Int) {l l' : List α} (h : l.Sublist l') (h0 : ∀ a ∈ l', 0 ≤ f a) :
    (l.map f).sum ≤ (l'.map f).sum := by
  induction h with
  | slnil => exact Int.le_refl _
  | cons a _ ih =>
    have h1 := ih (fun b hb => h0 b (List.mem_cons_of_mem a hb))
    have h2 := h0 a List.mem_cons_self
    simp only [List.map_cons, List.sum_cons]
    omega
  | cons_cons a _ ih =>
    have h1 := ih (fun b hb => h0 b (List.mem_cons_of_mem a hb))
    simp only [List.map_cons, List.sum_cons]
    omega

theorem sum_le_of_subset [DecidableEq α] (f : α → Int) {t u : Table key} (h : ∀ r ∈ t.rows, r ∈ u.rows)
    (h0 : ∀ r ∈ u.rows, 0 ≤ f r) : t.sum f ≤ u.sum f := by
  obtain ⟨l, hperm, hsub⟩ := List.subperm_of_subset t.nodup_rows h
  have heq : (t.rows.map f).sum = (l.map f).sum := (hperm.map f).symm.sum_eq
  rw [sum, sum, heq]
  exact sum_le_of_sublist f hsub h0

theorem sum_update (f : α → Int) (t : Table key) (p : α → Bool) (g : α → α) (hg)
    (h : ∀ r ∈ t.rows, p r = true → f (g r) = f r) : (t.update p g hg).sum f = t.sum f := by
  unfold sum update
  rw [List.map_map]
  refine congrArg List.sum (List.map_congr_left (fun r hr => ?_))
  simp only [Function.comp]
  split
  · rename_i hp
    exact h r hr hp
  · rfl

theorem sum_filter_map (p : β → Bool) (f : β → Int) :
    ∀ l : List β, ((l.filter p).map f).sum = (l.map (fun b => if p b then f b else 0)).sum
  | [] => rfl
  | b :: l => by
    have ih := sum_filter_map p f l
    cases hp : p b with
    | false => simp [hp, ih]
    | true => simp [hp, ih]

variable [DecidableEq κ]

theorem mem_iff_of_get {t u : Table key} (h : ∀ k, t.get k = u.get k) (r : α) : r ∈ t.rows ↔ r ∈ u.rows := by
  constructor
  · intro hr
    exact mem_of_get ((h (key r)).symm.trans (get_of_mem hr))
  · intro hr
    exact mem_of_get ((h (key r)).trans (get_of_mem hr))

theorem sum_congr {t u : Table key} (h : ∀ k, t.get k = u.get k) (f : α → Int) : t.sum f = u.sum f := by
  have hperm : t.rows.Perm u.rows :=
    (List.perm_ext_iff_of_nodup t.nodup_rows u.nodup_rows).2 (mem_iff_of_get h)
  exact (hperm.map f).sum_eq

theorem sum_insert (f : α → Int) {t u : Table key} {r : α} (h : t.insert r = some u) : u.sum f = t.sum f + f r := by
  rw [sum, sum, (insert_some h).2, List.map_append, List.sum_append]
  simp

/-- The rows a list of rows with distinct keys joins are counted once each. -/
theorem sum_join_rows (p : α → Bool) (link : β → κ) (f : β → Int) (l : List β) : ∀ rows : List α, (rows.map key).Nodup →
    ((rows.filter p).flatMap (fun q => (l.filter (fun b => link b == key q)).map f)).sum =
      (l.map (fun b => if (rows.find? (fun q => key q == link b)).any p then f b else 0)).sum
  | [], _ => by simp
  | q :: rows, h => by
    rw [List.map_cons, List.nodup_cons] at h
    have ih := sum_join_rows p link f l rows h.2
    -- what joins `q` joins no later row
    have hsplit : (l.map (fun b => if ((q :: rows).find? (fun q => key q == link b)).any p then f b else 0)).sum =
        (l.map (fun b => if link b == key q then (if p q then f b else 0) else 0)).sum +
          (l.map (fun b => if (rows.find? (fun q => key q == link b)).any p then f b else 0)).sum := by
      rw [← List.sum_map_add]
      refine congrArg List.sum (List.map_congr_left (fun b _ => ?_))
      by_cases hb : key q = link b
      · have hnone : rows.find? (fun q => key q == link b) = none := by
          rw [List.find?_eq_none]
          intro r hr hrb
          exact h.1 (List.mem_map.2 ⟨r, hr, by rw [hb]; simpa using hrb⟩)
        rw [hnone]
        simp [hb]
      · simp [hb, Ne.symm hb]
    rw [hsplit, ← ih]
    cases hp : p q with
    | false => simp [hp]
    | true =>
      rw [List.filter_cons_of_pos hp, List.flatMap_cons, List.sum_append, sum_filter_map]
      simp

theorem sum_join (t : Table key) (p : α → Bool) (link : β → κ) (f : β → Int) (l : List β) :
    ((t.rows.filter p).flatMap (fun q => (l.filter (fun b => link b == key q)).map f)).sum =
      (l.map (fun b => if (t.get (link b)).any p then f b else 0)).sum :=
  sum_join_rows p link f l t.rows t.nodup

end Table
