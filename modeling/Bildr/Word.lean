import Mathlib.Algebra.GroupWithZero.Nat
import Mathlib.Data.Nat.Basic
/-!
# Word — 64-bit arithmetic with its overflows

The sum and the difference of two words when there is one, the sum stopped at the largest word, and the sum as an
operator computes it: a build that checks for overflow panics where another wraps.
-/
namespace Word

def checkedAdd (a b : UInt64) : Option UInt64 := if a.toNat + b.toNat < UInt64.size then some (a + b) else none

def checkedSub (a b : UInt64) : Option UInt64 := if b ≤ a then some (a - b) else none

def saturatingAdd (a b : UInt64) : UInt64 := (checkedAdd a b).getD 18446744073709551615

def saturatingSub (a b : UInt64) : UInt64 := (checkedSub a b).getD 0

/-- `a + b`; none is a panic. -/
def add (overflowChecks : Bool) (a b : UInt64) : Option UInt64 :=
  if overflowChecks then checkedAdd a b else some (a + b)

theorem toNat_add {a b : UInt64} (h : a.toNat + b.toNat < UInt64.size) : (a + b).toNat = a.toNat + b.toNat := by
  rw [UInt64.toNat_add]
  exact Nat.mod_eq_of_lt h

/-- **What is above the lower of two words is what is added to it.** -/
theorem checkedSub_iff {a b c : UInt64} : checkedSub a b = some c ↔ checkedAdd b c = some a := by
  unfold checkedSub checkedAdd
  constructor
  · intro h
    by_cases hle : b ≤ a
    · rw [if_pos hle] at h
      cases h
      have hnat := UInt64.le_iff_toNat_le.1 hle
      have hsub := UInt64.toNat_sub_of_le a b hle
      have ha := a.toNat_lt
      rw [if_pos (by rw [hsub]; simp only [UInt64.size]; omega)]
      congr 1
      rw [UInt64.add_comm]
      exact UInt64.sub_add_cancel a b
    · rw [if_neg hle] at h
      cases h
  · intro h
    by_cases hfits : b.toNat + c.toNat < UInt64.size
    · rw [if_pos hfits] at h
      cases h
      have hle : b ≤ b + c := by
        rw [UInt64.le_iff_toNat_le, toNat_add hfits]
        omega
      rw [if_pos hle, UInt64.add_comm]
      congr 1
      exact UInt64.add_sub_cancel c b
    · rw [if_neg hfits] at h
      cases h

theorem toNat_saturatingAdd (a b : UInt64) : (saturatingAdd a b).toNat = min (a.toNat + b.toNat) 18446744073709551615 := by
  unfold saturatingAdd checkedAdd
  by_cases hfits : a.toNat + b.toNat < UInt64.size
  · rw [if_pos hfits, Option.getD_some, toNat_add hfits]
    simp only [UInt64.size] at hfits
    omega
  · rw [if_neg hfits]
    simp only [UInt64.size] at hfits
    show (18446744073709551615 : UInt64).toNat = _
    rw [show (18446744073709551615 : UInt64).toNat = 18446744073709551615 from rfl]
    omega

theorem toNat_saturatingSub (a b : UInt64) : (saturatingSub a b).toNat = a.toNat - b.toNat := by
  unfold saturatingSub checkedSub
  by_cases hle : b ≤ a
  · rw [if_pos hle, Option.getD_some]
    exact UInt64.toNat_sub_of_le a b hle
  · rw [if_neg hle]
    rw [UInt64.le_iff_toNat_le] at hle
    show 0 = _
    omega

/-- **A saturating sum is stopped once**: it is the exact sum, or the largest word if that is less. -/
theorem toNat_saturatingSum {α : Type} (f : α → UInt64) : ∀ (l : List α) (a : UInt64),
    (l.foldl (fun total x => saturatingAdd total (f x)) a).toNat =
      min (a.toNat + (l.map (fun x => (f x).toNat)).sum) 18446744073709551615
  | [], a => by
    have ha := a.toNat_lt
    rw [List.foldl_nil, List.map_nil, List.sum_nil]
    omega
  | x :: l, a => by
    rw [List.foldl_cons, toNat_saturatingSum f l, toNat_saturatingAdd, List.map_cons, List.sum_cons]
    omega

/-- A sum that fits is the same in both builds. -/
theorem add_fits {overflowChecks : Bool} {a b : UInt64} (h : a.toNat + b.toNat < UInt64.size) :
    add overflowChecks a b = some (a + b) := by
  unfold add checkedAdd
  rw [if_pos h]
  cases overflowChecks <;> rfl

/-- A sum that does not fit is a panic or wraps. -/
theorem add_overflows {overflowChecks : Bool} {a b c : UInt64} (h : UInt64.size ≤ a.toNat + b.toNat)
    (hc : add overflowChecks a b = some c) : c.toNat + UInt64.size = a.toNat + b.toNat := by
  have hn : ¬ a.toNat + b.toNat < UInt64.size := by omega
  unfold add checkedAdd at hc
  rw [if_neg hn] at hc
  cases overflowChecks with
  | true => simp at hc
  | false =>
    cases hc
    have ha := a.toNat_lt
    have hb := b.toNat_lt
    rw [UInt64.toNat_add]
    simp only [UInt64.size] at h ⊢
    omega

end Word
