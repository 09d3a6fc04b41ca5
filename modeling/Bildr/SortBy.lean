import Mathlib.Data.List.Sort
/-!
# SortBy — a stable sort by a key

Elements with one key stay in the order they came in.  A list is sorted to the same list as another when the two hold the
same elements of each key in the same order (`sortBy_congr`), so the order of elements with different keys plays no part
(`sortBy_perm`).
-/
namespace SortBy

variable {α β κ : Type} [LinearOrder κ]

def sortBy (key : α → κ) (l : List α) : List α := l.insertionSort (fun a b => key a ≤ key b)

theorem perm_sortBy (key : α → κ) (l : List α) : (sortBy key l).Perm l := List.perm_insertionSort _ l

@[simp] theorem mem_sortBy {key : α → κ} {l : List α} {a : α} : a ∈ sortBy key l ↔ a ∈ l := List.mem_insertionSort _

theorem sorted_sortBy (key : α → κ) (l : List α) : (sortBy key l).Pairwise (fun a b => key a ≤ key b) := by
  have htotal : Std.Total (fun a b : α => key a ≤ key b) := ⟨fun a b => le_total (key a) (key b)⟩
  have htrans : IsTrans α (fun a b : α => key a ≤ key b) := ⟨fun _ _ _ => le_trans⟩
  exact List.pairwise_insertionSort (fun a b : α => key a ≤ key b) l

/-- Sorting changes no order among the elements of one key. -/
theorem filter_sortBy (key : α → κ) (l : List α) (k : κ) :
    (sortBy key l).filter (fun a => decide (key a = k)) = l.filter (fun a => decide (key a = k)) := by
  have hpairwise : (l.filter (fun a => decide (key a = k))).Pairwise (fun a b => key a ≤ key b) := by
    refine List.pairwise_of_forall_mem_list (fun a ha b hb => ?_)
    simp only [List.mem_filter, decide_eq_true_eq] at ha hb
    rw [ha.2, hb.2]
  have hsub := (List.sublist_insertionSort (r := fun a b => key a ≤ key b) hpairwise List.filter_sublist).filter
    (fun a => decide (key a = k))
  rw [List.filter_filter] at hsub
  simp only [Bool.and_self] at hsub
  exact (hsub.eq_of_length ((perm_sortBy key l).filter _).length_eq.symm).symm

/-- Two sorted lists with the same elements of each key are equal. -/
theorem sorted_ext {key : α → κ} : ∀ {l l' : List α}, l.Pairwise (fun a b => key a ≤ key b) →
    l'.Pairwise (fun a b => key a ≤ key b) →
    (∀ k, l.filter (fun a => decide (key a = k)) = l'.filter (fun a => decide (key a = k))) → l = l'
  | [], [], _, _, _ => rfl
  | [], b :: l', _, _, h => by
    have hb := h (key b)
    simp at hb
  | a :: l, [], _, _, h => by
    have ha := h (key a)
    simp at ha
  | a :: l, b :: l', hl, hl', h => by
    rw [List.pairwise_cons] at hl hl'
    have hmem : ∀ {x : α} {m m' : List α}, (∀ k, m.filter (fun a => decide (key a = k)) =
        m'.filter (fun a => decide (key a = k))) → x ∈ m → x ∈ m' := by
      intro x m m' heq hx
      have hfilter : x ∈ m.filter (fun a => decide (key a = key x)) := List.mem_filter.2 ⟨hx, by simp⟩
      rw [heq] at hfilter
      exact (List.mem_filter.1 hfilter).1
    have hab : key a ≤ key b := by
      rcases List.mem_cons.1 (hmem (fun k => (h k).symm) (List.mem_cons_self (a := b) (l := l'))) with hba | hba
      · rw [hba]
      · exact hl.1 b hba
    have hba : key b ≤ key a := by
      rcases List.mem_cons.1 (hmem h (List.mem_cons_self (a := a) (l := l))) with hab | hab
      · rw [hab]
      · exact hl'.1 a hab
    have hkey : key a = key b := le_antisymm hab hba
    have hhead := h (key a)
    rw [List.filter_cons_of_pos (by simp), List.filter_cons_of_pos (by simp [hkey])] at hhead
    obtain ⟨rfl, -⟩ := List.cons.inj hhead
    congr 1
    refine sorted_ext hl.2 hl'.2 (fun k => ?_)
    have hk := h k
    rw [List.filter_cons, List.filter_cons] at hk
    split at hk
    · exact (List.cons.inj hk).2
    · exact hk

/-- **Lists with the same elements of each key are sorted to one list.** -/
theorem sortBy_congr {key : α → κ} {l l' : List α}
    (h : ∀ k, l.filter (fun a => decide (key a = k)) = l'.filter (fun a => decide (key a = k))) :
    sortBy key l = sortBy key l' := by
  refine sorted_ext (sorted_sortBy key l) (sorted_sortBy key l') (fun k => ?_)
  rw [filter_sortBy, filter_sortBy]
  exact h k

/-- The elements of one key of a list whose keys differ. -/
theorem filter_of_nodup {key : α → κ} {l l' : List α} (hp : l.Perm l') (hn : (l.map key).Nodup) (k : κ) :
    l.filter (fun a => decide (key a = k)) = l'.filter (fun a => decide (key a = k)) := by
  have hfilter := hp.filter (fun a => decide (key a = k))
  have hlength : (l.filter (fun a => decide (key a = k))).length ≤ 1 := by
    rw [← List.countP_eq_length_filter]
    have hcount := List.nodup_iff_count_le_one.1 hn k
    rw [List.count, List.countP_map] at hcount
    refine le_trans (Nat.le_of_eq (List.countP_congr (fun a _ => ?_))) hcount
    simp
  match hl : l.filter (fun a => decide (key a = k)), hlength with
  | [], _ =>
    rw [hl] at hfilter
    exact hfilter.nil_eq
  | [a], _ =>
    rw [hl] at hfilter
    exact List.singleton_perm.1 hfilter

/-- **A list whose keys differ is sorted to the same list in any order.** -/
theorem sortBy_perm {key : α → κ} {l l' : List α} (hp : l.Perm l') (hn : (l.map key).Nodup) :
    sortBy key l = sortBy key l' := sortBy_congr (filter_of_nodup hp hn)

/-- Sorting images is taking images of what is sorted. -/
theorem sortBy_map (key : α → κ) (key' : β → κ) (f : α → β) (l : List α) (h : ∀ a ∈ l, key' (f a) = key a) :
    sortBy key' (l.map f) = (sortBy key l).map f := by
  unfold sortBy
  rw [List.map_insertionSort (fun a b => key a ≤ key b) (fun a b => key' a ≤ key' b)]
  intro a ha b hb
  rw [h a ha, h b hb]

/-! ## Groups -/

section Groups
variable {γ : Type} [DecidableEq γ] {f : α → Option γ}

/-- **The groups of different keys are the elements whose key is one of them.** -/
theorem flatMap_filter_perm (l : List α) : ∀ {keys : List γ}, keys.Nodup →
    (keys.flatMap (fun k => l.filter (fun a => decide (f a = some k)))).Perm
      (l.filter (fun a => decide (∃ k ∈ keys, f a = some k)))
  | [], _ => by simp
  | k :: keys, hn => by
    rw [List.nodup_cons] at hn
    have hhead : (l.filter (fun a => decide (∃ k' ∈ k :: keys, f a = some k'))).filter (fun a => decide (f a = some k)) =
        l.filter (fun a => decide (f a = some k)) := by
      rw [List.filter_filter]
      refine List.filter_congr (fun a _ => ?_)
      by_cases ha : f a = some k
      · simp [ha]
      · simp [ha]
    have htail : (l.filter (fun a => decide (∃ k' ∈ k :: keys, f a = some k'))).filter (fun a => !decide (f a = some k)) =
        l.filter (fun a => decide (∃ k' ∈ keys, f a = some k')) := by
      rw [List.filter_filter]
      refine List.filter_congr (fun a _ => ?_)
      by_cases ha : f a = some k
      · simp [ha, hn.1]
      · simp [ha]
    have hsplit := List.filter_append_perm (fun a => decide (f a = some k))
      (l.filter (fun a => decide (∃ k' ∈ k :: keys, f a = some k')))
    rw [hhead, htail] at hsplit
    rw [List.flatMap_cons]
    exact ((flatMap_filter_perm l hn.2).append_left _).trans hsplit

/-- Where every element has one of the keys, the groups are all elements. -/
theorem flatMap_filter_perm_all {l : List α} {keys : List γ} (hn : keys.Nodup)
    (hall : ∀ a ∈ l, ∃ k ∈ keys, f a = some k) :
    (keys.flatMap (fun k => l.filter (fun a => decide (f a = some k)))).Perm l := by
  have hperm := flatMap_filter_perm (f := f) l hn
  rw [List.filter_eq_self.2 (fun a ha => decide_eq_true (hall a ha))] at hperm
  exact hperm

end Groups

end SortBy
