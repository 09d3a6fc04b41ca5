import Bildr.SortedSet
/-!
# Latest — the last element under each key

What a map by key holds after a list was inserted into it, in the order of the keys.
-/
namespace Latest

variable {α κ : Type} [LinearOrder κ] {key : α → κ} {l : List α} {a : α}

def find (key : α → κ) (l : List α) (k : κ) : Option α := l.reverse.find? (fun a => decide (key a = k))

def collect (key : α → κ) (l : List α) : List α := (SortedSet.ofList (l.map key)).filterMap (find key l)

theorem find_some {k : κ} (h : find key l k = some a) : a ∈ l ∧ key a = k :=
  ⟨List.mem_reverse.1 (List.mem_of_find?_eq_some h), by simpa using List.find?_some h⟩

theorem find_of_mem (ha : a ∈ l) (hone : ∀ b ∈ l, key b = key a → b = a) : find key l (key a) = some a := by
  cases h : find key l (key a) with
  | none => exact absurd (List.find?_eq_none.1 h a (List.mem_reverse.2 ha)) (by simp)
  | some b =>
    obtain ⟨hb, hk⟩ := find_some h
    rw [hone b hb hk]

theorem mem_collect : a ∈ collect key l ↔ find key l (key a) = some a := by
  unfold collect
  rw [List.mem_filterMap]
  constructor
  · rintro ⟨k, -, h⟩
    rw [(find_some h).2, h]
  · exact fun h => ⟨key a, SortedSet.mem_ofList.2 (List.mem_map_of_mem (find_some h).1), h⟩

theorem map_collect (key : α → κ) (l : List α) : (collect key l).map key = SortedSet.ofList (l.map key) := by
  unfold collect
  rw [List.map_filterMap]
  refine Eq.trans (List.filterMap_congr (g := some) (fun k hk => ?_)) List.filterMap_some
  obtain ⟨a, ha, rfl⟩ := List.mem_map.1 (SortedSet.mem_ofList.1 hk)
  cases h : find key l (key a) with
  | none => exact absurd (List.find?_eq_none.1 h a (List.mem_reverse.2 ha)) (by simp)
  | some b => rw [Option.map_some, (find_some h).2]

theorem sorted_collect (key : α → κ) (l : List α) : (collect key l).Pairwise (fun a b => key a < key b) := by
  refine List.pairwise_map.1 ?_
  rw [map_collect]
  exact SortedSet.sorted_ofList _

/-- **Elements under different keys are all kept.** -/
theorem perm_collect (h : (l.map key).Nodup) : (collect key l).Perm l := by
  have hcollect : ((collect key l).map key).Nodup := by
    rw [map_collect]
    exact SortedSet.nodup_ofList _
  refine (List.perm_ext_iff_of_nodup (List.Nodup.of_map _ hcollect) (List.Nodup.of_map _ h)).2 (fun a => ?_)
  rw [mem_collect]
  exact ⟨fun ha => (find_some ha).1, fun ha => find_of_mem ha (fun b hb hk => List.inj_on_of_nodup_map h hb ha hk)⟩

end Latest
