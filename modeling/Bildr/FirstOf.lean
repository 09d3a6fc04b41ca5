import Bildr.SortBy
import Mathlib.Algebra.BigOperators.Group.List.Basic
import Mathlib.Algebra.GroupWithZero.Nat
import Mathlib.Data.List.Dedup
/-!
# FirstOf — the first element of each key

Which elements come first depends on the order of a list, and so does the sum of what they count, stopped at a largest
number.  It is the same for every order exactly when elements of one key count the same, or when even the least of each
key reach the largest number together (`sums_agree_iff`).
-/
namespace FirstOf

variable {α κ : Type} [DecidableEq κ] (key : α → κ)

def firstOf : List α → List α
  | []     => []
  | a :: l => a :: (firstOf l).filter (fun b => decide (key b ≠ key a))

theorem mem_of_mem_firstOf : ∀ {l : List α} {a : α}, a ∈ firstOf key l → a ∈ l
  | b :: l, a, h => by
    rw [firstOf] at h
    rcases List.mem_cons.1 h with rfl | h
    · exact List.mem_cons_self
    · exact List.mem_cons_of_mem b (mem_of_mem_firstOf (List.mem_filter.1 h).1)

theorem nodup_keys : ∀ l : List α, ((firstOf key l).map key).Nodup
  | []     => List.nodup_nil
  | a :: l => by
    rw [firstOf, List.map_cons, List.nodup_cons]
    refine ⟨fun hmem => ?_, (nodup_keys l).sublist (List.filter_sublist.map key)⟩
    obtain ⟨b, hb, hkey⟩ := List.mem_map.1 hmem
    exact of_decide_eq_true (List.mem_filter.1 hb).2 hkey

theorem exists_first : ∀ {l : List α} {a : α}, a ∈ l → ∃ b ∈ firstOf key l, key b = key a
  | b :: l, a, h => by
    rw [firstOf]
    by_cases hkey : key b = key a
    · exact ⟨b, List.mem_cons_self, hkey⟩
    · rcases List.mem_cons.1 h with rfl | h
      · exact absurd rfl hkey
      · obtain ⟨c, hc, hca⟩ := exists_first h
        refine ⟨c, List.mem_cons_of_mem b (List.mem_filter.2 ⟨hc, decide_eq_true ?_⟩), hca⟩
        rw [hca]
        exact Ne.symm hkey

/-- In a list that a relation orders, the first of a key comes before the others of it. -/
theorem first_rel {r : α → α → Prop} (hrefl : ∀ a, r a a) : ∀ {l : List α} {a b : α}, l.Pairwise r → a ∈ firstOf key l →
    b ∈ l → key a = key b → r a b
  | c :: l, a, b, hl, ha, hb, hkey => by
    rw [firstOf] at ha
    rw [List.pairwise_cons] at hl
    rcases List.mem_cons.1 ha with rfl | ha
    · rcases List.mem_cons.1 hb with rfl | hb
      · exact hrefl _
      · exact hl.1 b hb
    · obtain ⟨ha, hne⟩ := List.mem_filter.1 ha
      rcases List.mem_cons.1 hb with rfl | hb
      · exact absurd hkey (of_decide_eq_true hne)
      · exact first_rel hrefl hl.2 ha hb hkey

/-- A fold that skips the keys it has seen goes over the first of the others. -/
theorem firstOf_seen {a : α} {l : List α} {seen : List κ} (h : key a ∈ seen) :
    (firstOf key (a :: l)).filter (fun b => decide (key b ∉ seen)) =
      (firstOf key l).filter (fun b => decide (key b ∉ seen)) := by
  rw [firstOf, List.filter_cons_of_neg (by simpa using h), List.filter_filter]
  refine List.filter_congr (fun b _ => ?_)
  by_cases hb : key b ∈ seen
  · simp [hb]
  · have hne : key b ≠ key a := fun heq => hb (heq ▸ h)
    simp [hb, hne]

theorem firstOf_unseen {a : α} {l : List α} {seen : List κ} (h : key a ∉ seen) :
    (firstOf key (a :: l)).filter (fun b => decide (key b ∉ seen)) =
      a :: (firstOf key l).filter (fun b => decide (key b ∉ key a :: seen)) := by
  rw [firstOf, List.filter_cons_of_pos (by simpa using h), List.filter_filter]
  congr 1
  refine List.filter_congr (fun b _ => ?_)
  rw [Bool.eq_iff_iff]
  simp [and_comm]

/-! ## What they count together -/

variable (top : Nat) (f : α → Nat)

def total (l : List α) : Nat := ((firstOf key l).map f).sum

def least (k : κ) : List α → Nat
  | []     => top
  | a :: l => if key a = k then min (f a) (least k l) else least k l

def leastTotal (l : List α) : Nat := ((l.map key).dedup.map (fun k => least key top f k l)).sum

variable {key top f}

theorem least_le : ∀ {l : List α} {a : α}, a ∈ l → least key top f (key a) l ≤ f a
  | b :: l, a, h => by
    rw [least]
    rcases List.mem_cons.1 h with rfl | h
    · rw [if_pos rfl]
      exact Nat.min_le_left _ _
    · have ih := @least_le l a h
      split <;> omega

/-- What is below all of a key is below the least. -/
theorem le_least {n : Nat} {k : κ} (htop : n ≤ top) : ∀ {l : List α}, (∀ a ∈ l, key a = k → n ≤ f a) →
    n ≤ least key top f k l
  | [], _     => htop
  | a :: l, h => by
    have ih := @le_least n k htop l (fun b hb => h b (List.mem_cons_of_mem a hb))
    rw [least]
    split
    · rename_i hkey
      have ha := h a List.mem_cons_self hkey
      omega
    · exact ih

theorem sum_le_of_le {g : α → Nat} : ∀ {l : List α}, (∀ a ∈ l, g a ≤ f a) → (l.map g).sum ≤ (l.map f).sum
  | [], _     => Nat.le_refl 0
  | a :: l, h => by
    have ih := @sum_le_of_le g l (fun b hb => h b (List.mem_cons_of_mem a hb))
    have ha := h a List.mem_cons_self
    rw [List.map_cons, List.map_cons, List.sum_cons, List.sum_cons]
    omega

theorem eq_of_sum_eq {g : α → Nat} : ∀ {l : List α}, (∀ a ∈ l, g a ≤ f a) → (l.map f).sum ≤ (l.map g).sum →
    ∀ a ∈ l, f a = g a
  | [], _, _, b, hb     => by cases hb
  | a :: l, h, hsum, b, hb => by
    have htail := fun b hb => h b (List.mem_cons_of_mem a hb)
    have hle := sum_le_of_le htail
    have ha := h a List.mem_cons_self
    rw [List.map_cons, List.map_cons, List.sum_cons, List.sum_cons] at hsum
    rcases List.mem_cons.1 hb with rfl | hb
    · omega
    · exact eq_of_sum_eq htail (by omega) b hb

section Orders
variable {l m : List α} (h : m.Perm l)
include h

/-- The first elements have every key once, whatever their order. -/
theorem keys_perm : ((firstOf key m).map key).Perm (l.map key).dedup := by
  refine (List.perm_ext_iff_of_nodup (nodup_keys key m) (List.nodup_dedup _)).2 (fun k => ?_)
  rw [List.mem_dedup, List.mem_map, List.mem_map]
  constructor
  · rintro ⟨a, ha, rfl⟩
    exact ⟨a, h.mem_iff.1 (mem_of_mem_firstOf key ha), rfl⟩
  · rintro ⟨a, ha, rfl⟩
    exact exists_first key (h.mem_iff.2 ha)

theorem leastTotal_eq : leastTotal key top f l = ((firstOf key m).map (fun a => least key top f (key a) l)).sum := by
  have hperm := (@keys_perm _ _ _ key _ _ h).map (fun k => least key top f k l)
  unfold leastTotal
  rw [← hperm.sum_eq, List.map_map]
  rfl

theorem leastTotal_le : leastTotal key top f l ≤ total key f m := by
  rw [leastTotal_eq h]
  exact sum_le_of_le (fun a ha => least_le (h.mem_iff.1 (mem_of_mem_firstOf key ha)))

/-- An order that brings the least of every key first. -/
theorem total_sorted (htop : ∀ a ∈ l, f a ≤ top) (hsorted : m.Pairwise (fun a b => f a ≤ f b)) :
    total key f m = leastTotal key top f l := by
  refine Nat.le_antisymm ?_ (leastTotal_le h)
  rw [leastTotal_eq h]
  refine sum_le_of_le (fun a ha => ?_)
  have hmem := h.mem_iff.1 (mem_of_mem_firstOf key ha)
  exact le_least (htop a hmem) (fun b hb hkey =>
    first_rel key (fun _ => Nat.le_refl _) hsorted ha (h.mem_iff.2 hb) hkey.symm)

end Orders

/-- **When no order matters**: elements of one key count the same, or the least of each key reach the largest number. -/
theorem sums_agree_iff {l : List α} (htop : ∀ a ∈ l, f a ≤ top) :
    (∀ m, m.Perm l → min (total key f m) top = min (total key f l) top) ↔
      (∀ a ∈ l, ∀ b ∈ l, key a = key b → f a = f b) ∨ top ≤ leastTotal key top f l := by
  constructor
  · intro hall
    by_cases hfull : top ≤ leastTotal key top f l
    · exact .inr hfull
    · -- the ascending and the descending order count the same
      have hup := SortBy.sorted_sortBy f l
      have hupPerm := SortBy.perm_sortBy f l
      have hdown := List.pairwise_reverse.2 hup
      have hdownPerm := (List.reverse_perm (SortBy.sortBy f l)).trans hupPerm
      have heq := (hall _ hdownPerm).trans (hall _ hupPerm).symm
      rw [total_sorted hupPerm htop hup] at heq
      have hle : total key f (SortBy.sortBy f l).reverse ≤ leastTotal key top f l := by omega
      rw [leastTotal_eq hdownPerm] at hle
      have hfirst := eq_of_sum_eq (fun a ha => least_le (hdownPerm.mem_iff.1 (mem_of_mem_firstOf key ha))) hle
      have hconst : ∀ a ∈ l, f a = least key top f (key a) l := by
        intro a ha
        obtain ⟨b, hb, hkey⟩ := exists_first key (hdownPerm.mem_iff.2 ha)
        have hgreatest := first_rel key (fun _ => Nat.le_refl _) hdown hb (hdownPerm.mem_iff.2 ha) hkey
        have hleast := hfirst b hb
        have hmin := @least_le _ _ _ key top f l a ha
        rw [hkey] at hleast
        omega
      refine .inl (fun a ha b hb hkey => ?_)
      rw [hconst a ha, hconst b hb, hkey]
  · rintro (hconst | hfull) m hm
    · have hsame : ∀ {m : List α}, m.Perm l → total key f m = leastTotal key top f l := by
        intro m hm
        refine Nat.le_antisymm ?_ (leastTotal_le hm)
        rw [leastTotal_eq hm]
        refine sum_le_of_le (fun a ha => ?_)
        have hmem := hm.mem_iff.1 (mem_of_mem_firstOf key ha)
        exact le_least (htop a hmem) (fun b hb hkey => Nat.le_of_eq (hconst a hmem b hb hkey.symm))
      rw [hsame hm, hsame (List.Perm.refl l)]
    · have hm' := @leastTotal_le _ _ _ key top f _ _ hm
      have hl' := @leastTotal_le _ _ _ key top f _ _ (List.Perm.refl l)
      omega

end FirstOf
