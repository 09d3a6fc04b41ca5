import Mathlib.Algebra.Order.Group.Nat
import Mathlib.Data.Nat.Basic
import Mathlib.Tactic.Ring
/-!
# Rounding — division rounded half up

`halfUp h x` is `x / 2h` rounded to the nearest number, a half upwards.  It grows with `x`.  The rounded parts of a sum
add up to the rounded sum or miss it by one: they are above it when both remainders round up and their carry does not
(`halfUp_over`), and below it when both round down and their sum does not (`halfUp_under`).
-/
namespace Rounding

variable {h : Nat}

def halfUp (h x : Nat) : Nat := (x + h) / (2 * h)

theorem halfUp_mono {x y : Nat} (hxy : x ≤ y) : halfUp h x ≤ halfUp h y := Nat.div_le_div_right (by omega)

def Over (h x y : Nat) : Prop := h ≤ x % (2 * h) ∧ h ≤ y % (2 * h) ∧ x % (2 * h) + y % (2 * h) < 3 * h

def Under (h x y : Nat) : Prop := x % (2 * h) < h ∧ y % (2 * h) < h ∧ h ≤ x % (2 * h) + y % (2 * h)

instance (h x y : Nat) : Decidable (Over h x y) := inferInstanceAs (Decidable (_ ∧ _))

instance (h x y : Nat) : Decidable (Under h x y) := inferInstanceAs (Decidable (_ ∧ _))

/-- The rounded quotient is the quotient, and one more when the remainder is at least half. -/
theorem halfUp_eq (hpos : 0 < h) (x : Nat) : halfUp h x = x / (2 * h) + if h ≤ x % (2 * h) then 1 else 0 := by
  have hm : 0 < 2 * h := by omega
  have hr := Nat.mod_lt x hm
  have hx : x + h = (x % (2 * h) + h) + 2 * h * (x / (2 * h)) := by
    have := Nat.mod_add_div x (2 * h)
    omega
  unfold halfUp
  rw [hx, Nat.add_mul_div_left _ _ hm, Nat.add_comm]
  congr 1
  split
  · exact Nat.div_eq_of_lt_le (by omega) (by omega)
  · exact Nat.div_eq_of_lt (by omega)

/-- The rounded sum, from the quotients and the remainders of its parts. -/
theorem halfUp_add (hpos : 0 < h) (x y : Nat) : halfUp h (x + y) = x / (2 * h) + y / (2 * h) +
    if x % (2 * h) + y % (2 * h) < h then 0 else if x % (2 * h) + y % (2 * h) < 3 * h then 1 else 2 := by
  have hm : 0 < 2 * h := by omega
  have hrx := Nat.mod_lt x hm
  have hry := Nat.mod_lt y hm
  have hsum : x + y + h = (x % (2 * h) + y % (2 * h) + h) + 2 * h * (x / (2 * h) + y / (2 * h)) := by
    have hx := Nat.mod_add_div x (2 * h)
    have hy := Nat.mod_add_div y (2 * h)
    rw [Nat.mul_add]
    omega
  unfold halfUp
  rw [hsum, Nat.add_mul_div_left _ _ hm, Nat.add_comm]
  congr 1
  split
  · exact Nat.div_eq_of_lt (by omega)
  · split
    · exact Nat.div_eq_of_lt_le (by omega) (by omega)
    · exact Nat.div_eq_of_lt_le (by omega) (by omega)

theorem halfUp_parts (hpos : 0 < h) (x y : Nat) :
    (Over h x y ∧ halfUp h x + halfUp h y = halfUp h (x + y) + 1) ∨
    (Under h x y ∧ halfUp h x + halfUp h y + 1 = halfUp h (x + y)) ∨
    (¬ Over h x y ∧ ¬ Under h x y ∧ halfUp h x + halfUp h y = halfUp h (x + y)) := by
  have hm : 0 < 2 * h := by omega
  have hrx := Nat.mod_lt x hm
  have hry := Nat.mod_lt y hm
  rw [halfUp_eq hpos x, halfUp_eq hpos y, halfUp_add hpos x y]
  unfold Over Under
  generalize x % (2 * h) = r at *
  generalize y % (2 * h) = s at *
  generalize x / (2 * h) = q
  generalize y / (2 * h) = p
  by_cases hr : h ≤ r
  · by_cases hs : h ≤ s
    · by_cases hrs : r + s < 3 * h
      · refine Or.inl ⟨⟨hr, hs, hrs⟩, ?_⟩
        rw [if_pos hr, if_pos hs, if_neg (by omega), if_pos hrs]
        omega
      · refine Or.inr (Or.inr ⟨fun ho => hrs ho.2.2, fun hu => by omega, ?_⟩)
        rw [if_pos hr, if_pos hs, if_neg (by omega), if_neg hrs]
        omega
    · refine Or.inr (Or.inr ⟨fun ho => hs ho.2.1, fun hu => by omega, ?_⟩)
      rw [if_pos hr, if_neg hs, if_neg (by omega), if_pos (by omega)]
      omega
  · by_cases hs : h ≤ s
    · refine Or.inr (Or.inr ⟨fun ho => hr ho.1, fun hu => by omega, ?_⟩)
      rw [if_neg hr, if_pos hs, if_neg (by omega), if_pos (by omega)]
      omega
    · by_cases hrs : r + s < h
      · refine Or.inr (Or.inr ⟨fun ho => hr ho.1, fun hu => by omega, ?_⟩)
        rw [if_neg hr, if_neg hs, if_pos hrs]
        omega
      · refine Or.inr (Or.inl ⟨⟨by omega, by omega, by omega⟩, ?_⟩)
        rw [if_neg hr, if_neg hs, if_neg hrs, if_pos (by omega)]
        omega

end Rounding
