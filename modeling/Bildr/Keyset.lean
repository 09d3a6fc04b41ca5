import Bildr.SortBy
/-!
# Keyset — a table read page by page

Each page holds the first rows after a key, and one row more is asked for to see whether others follow; if so the next
page starts after the last key of this one.  Rows that differ in their keys are each read once, in the order of the keys
(`walk_eq`).
-/
namespace Keyset

open SortBy (sortBy)

variable {α κ : Type} [LinearOrder κ] (key : α → κ)

def after (rows : List α) : Option κ → List α
  | none   => sortBy key rows
  | some k => sortBy key (rows.filter (fun r => decide (k < key r)))

/-- Rows that were asked for, without the one too many, and the key to go on from. -/
def cut (limit : Nat) (probe : List α) : List α × Option κ :=
  if limit < probe.length then (probe.dropLast, probe.dropLast.getLast?.map key) else (probe, none)

def page (rows : List α) (limit : Nat) (start : Option κ) : List α × Option κ :=
  cut key limit ((after key rows start).take (limit + 1))

def walk (rows : List α) (limit : Nat) : Nat → Option κ → Option (List α)
  | 0, _ => none
  | n + 1, start =>
    match (page key rows limit start).2 with
    | none   => some (page key rows limit start).1
    | some k => (walk rows limit n (some k)).map (fun rest => (page key rows limit start).1 ++ rest)

variable {key}

/-- Sorting and leaving rows out go in either order. -/
theorem sortBy_filter (p : α → Bool) (rows : List α) : sortBy key (rows.filter p) = (sortBy key rows).filter p := by
  refine SortBy.sorted_ext (SortBy.sorted_sortBy key _) ((SortBy.sorted_sortBy key rows).filter p) (fun k => ?_)
  rw [SortBy.filter_sortBy, List.filter_comm, List.filter_comm (l := sortBy key rows), SortBy.filter_sortBy]

/-- Keys that differ are in strict order. -/
theorem strict_sortBy {rows : List α} (hkeys : (rows.map key).Nodup) :
    (sortBy key rows).Pairwise (fun a b => key a < key b) := by
  have hnodup : (sortBy key rows).Pairwise (fun a b => key a ≠ key b) :=
    List.pairwise_map.1 (((SortBy.perm_sortBy key rows).map key).nodup_iff.2 hkeys)
  exact (List.Pairwise.and (SortBy.sorted_sortBy key rows) hnodup).imp fun h => lt_of_le_of_ne h.1 h.2

/-- What comes after a row of a strictly ordered list. -/
theorem filter_after {before rest : List α} {a : α} (h : (before ++ a :: rest).Pairwise (fun x y => key x < key y)) :
    (before ++ a :: rest).filter (fun r => decide (key a < key r)) = rest := by
  obtain ⟨-, hrest, hbefore⟩ := List.pairwise_append.1 h
  rw [List.pairwise_cons] at hrest
  have hnone : before.filter (fun r => decide (key a < key r)) = [] :=
    List.filter_eq_nil_iff.2 fun b hb => by simpa using (hbefore b hb a List.mem_cons_self).le
  have hall : rest.filter (fun r => decide (key a < key r)) = rest :=
    List.filter_eq_self.2 fun b hb => by simpa using hrest.1 b hb
  rw [List.filter_append, hnone, List.nil_append, List.filter_cons_of_neg (by simp), hall]

/-- A page is the first rows of what is left, and its key that of the last. -/
theorem page_cases {rows : List α} {limit : Nat} {start : Option κ} (hlimit : 0 < limit) :
    (after key rows start).length ≤ limit ∧ page key rows limit start = (after key rows start, none) ∨
    ∃ front last extra rest, after key rows start = (front ++ [last]) ++ extra :: rest ∧
      (front ++ [last]).length = limit ∧ page key rows limit start = (front ++ [last], some (key last)) := by
  unfold page cut
  generalize after key rows start = left
  by_cases hle : left.length ≤ limit
  · refine Or.inl ⟨hle, ?_⟩
    rw [List.take_of_length_le (by omega), if_neg (by omega)]
  · refine Or.inr ?_
    have hlength : (left.take limit).length = limit := by
      rw [List.length_take]
      omega
    have hne : left.take limit ≠ [] := fun hnil => by
      rw [hnil] at hlength
      exact absurd hlength (Nat.ne_of_lt hlimit)
    have hprobe : (left.take (limit + 1)).dropLast = left.take limit := by
      rw [List.dropLast_eq_take, List.length_take, List.take_take]
      congr 1
      omega
    refine ⟨(left.take limit).dropLast, (left.take limit).getLast hne, left[limit], left.drop (limit + 1), ?_, ?_, ?_⟩
    · rw [List.dropLast_append_getLast, ← List.drop_eq_getElem_cons (by omega), List.take_append_drop]
    · rw [List.dropLast_append_getLast, hlength]
    · rw [if_pos (by rw [List.length_take]; omega), hprobe, List.dropLast_append_getLast, List.getLast?_eq_some_getLast hne]
      rfl

theorem walk_after {rows : List α} {limit : Nat} (hkeys : (rows.map key).Nodup) (hlimit : 0 < limit) :
    ∀ (n : Nat) {before : List α} {start : Option κ}, sortBy key rows = before ++ after key rows start →
      (after key rows start).length < n → walk key rows limit n start = some (after key rows start)
  | 0, _, _, _, hn => absurd hn (Nat.not_lt_zero _)
  | n + 1, before, start, hsorted, hn => by
    rcases @page_cases α κ _ key rows limit start hlimit with
      ⟨-, hpage⟩ | ⟨front, last, extra, rest, hafter, -, hpage⟩
    · unfold walk
      rw [hpage]
    · have hwhole : sortBy key rows = (before ++ front) ++ last :: extra :: rest := by
        rw [hsorted, hafter]
        simp
      have hrest : after key rows (some (key last)) = extra :: rest := by
        show sortBy key (rows.filter _) = extra :: rest
        rw [sortBy_filter, hwhole]
        exact filter_after (hwhole ▸ strict_sortBy hkeys)
      have hshort : (after key rows (some (key last))).length < n := by
        rw [hrest]
        rw [hafter] at hn
        simp only [List.length_append, List.length_cons] at hn ⊢
        omega
      have hagain : sortBy key rows = (before ++ (front ++ [last])) ++ after key rows (some (key last)) := by
        rw [hrest, hsorted, hafter, List.append_assoc before]
      have hnext := walk_after hkeys hlimit n hagain hshort
      unfold walk
      rw [hpage]
      show (walk key rows limit n (some (key last))).map _ = _
      rw [hnext, hrest, hafter]
      rfl

theorem walk_eq {rows : List α} {limit : Nat} (hkeys : (rows.map key).Nodup) (hlimit : 0 < limit) {n : Nat}
    (hn : rows.length < n) : walk key rows limit n none = some (sortBy key rows) :=
  have hall : sortBy key rows = [] ++ after key rows none := rfl
  walk_after hkeys hlimit n hall (by
    show (sortBy key rows).length < n
    rw [(SortBy.perm_sortBy key rows).length_eq]
    exact hn)

end Keyset
