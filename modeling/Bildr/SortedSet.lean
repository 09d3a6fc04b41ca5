import Mathlib.Data.List.Dedup
import Mathlib.Data.List.Sort
/-!
# SortedSet — a set as the sorted list of its elements

What iterating over an ordered set visits.  Two lists with the same elements give the same sorted set.
-/
namespace SortedSet

variable {α : Type} [LinearOrder α]

def ofList (l : List α) : List α := l.dedup.insertionSort (fun a b => a ≤ b)

@[simp] theorem mem_ofList {l : List α} {a : α} : a ∈ ofList l ↔ a ∈ l := by
  unfold ofList
  rw [List.mem_insertionSort, List.mem_dedup]

theorem nodup_ofList (l : List α) : (ofList l).Nodup :=
  (List.perm_insertionSort (fun a b : α => a ≤ b) l.dedup).nodup_iff.2 (List.nodup_dedup l)

theorem sorted_ofList (l : List α) : (ofList l).Pairwise (fun a b => a < b) := by
  have hle : (ofList l).Pairwise (fun a b => a ≤ b) := (List.sortedLE_insertionSort).pairwise
  exact (hle.and (nodup_ofList l)).imp (fun h => lt_of_le_of_ne h.1 h.2)

theorem ofList_congr {l l' : List α} (h : ∀ a, a ∈ l ↔ a ∈ l') : ofList l = ofList l' := by
  unfold ofList
  refine List.Perm.eq_of_sortedLE (List.sortedLE_insertionSort) (List.sortedLE_insertionSort) ?_
  refine (List.perm_insertionSort _ _).trans (List.Perm.trans ?_ (List.perm_insertionSort _ _).symm)
  refine (List.perm_ext_iff_of_nodup (List.nodup_dedup l) (List.nodup_dedup l')).2 (fun a => ?_)
  rw [List.mem_dedup, List.mem_dedup]
  exact h a

end SortedSet
