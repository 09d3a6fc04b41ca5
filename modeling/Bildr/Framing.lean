import Mathlib.Algebra.GroupWithZero.Nat
import Mathlib.Data.List.Basic
import Mathlib.Data.Fin.Basic
/-!
# Framing — bytes after their number

A frame is eight bytes that say how many follow, and those.  What comes first of two streams is read back when both
start with frames (`frame_append_inj`).
-/
namespace Framing

abbrev Bytes : Type := List (Fin 256)

local instance neZero_byte : NeZero 256 := ⟨by decide⟩

/-- The last `k` digits to the base 256, the highest first. -/
def bigEndian : Nat → Nat → Bytes
  | 0, _     => []
  | k + 1, n => bigEndian k (n / 256) ++ [Fin.ofNat 256 n]

def frame (value : Bytes) : Bytes := bigEndian 8 value.length ++ value

example : frame [7, 9] = [0, 0, 0, 0, 0, 0, 0, 2, 7, 9] := by decide

@[simp] theorem length_bigEndian : ∀ k n : Nat, (bigEndian k n).length = k
  | 0, _     => rfl
  | k + 1, n => by rw [bigEndian, List.length_append, length_bigEndian k, List.length_singleton]

/-- **A number is read back from its digits** when there are enough of them. -/
theorem bigEndian_inj : ∀ {k m n : Nat}, m < 256 ^ k → n < 256 ^ k → bigEndian k m = bigEndian k n → m = n
  | 0, m, n, hm, hn, _     => by
    rw [Nat.pow_zero] at hm hn
    omega
  | k + 1, m, n, hm, hn, h => by
    rw [bigEndian, bigEndian] at h
    obtain ⟨hhigh, hlow⟩ := List.append_inj' h rfl
    rw [Nat.pow_succ] at hm hn
    have hdiv := bigEndian_inj (Nat.div_lt_of_lt_mul (by omega)) (Nat.div_lt_of_lt_mul (by omega)) hhigh
    have hmod : m % 256 = n % 256 := congrArg Fin.val (List.singleton_inj.1 hlow)
    omega

def Fits (value : Bytes) : Prop := value.length < 256 ^ 8

instance (value : Bytes) : Decidable (Fits value) := inferInstanceAs (Decidable (_ < _))

theorem fits_bigEndian (n : Nat) : Fits (bigEndian 8 n) := by
  unfold Fits
  rw [length_bigEndian]
  decide

theorem frame_append_inj {u v s t : Bytes} (hu : Fits u) (hv : Fits v) (h : frame u ++ s = frame v ++ t) :
    u = v ∧ s = t := by
  unfold frame at h
  rw [List.append_assoc, List.append_assoc] at h
  obtain ⟨hlength, hrest⟩ := List.append_inj h (by rw [length_bigEndian, length_bigEndian])
  exact List.append_inj hrest (bigEndian_inj hu hv hlength)

theorem frame_ne_nil (value : Bytes) : frame value ≠ [] := by
  intro h
  have hlength := congrArg List.length h
  unfold frame at hlength
  rw [List.length_append, length_bigEndian, List.length_nil] at hlength
  omega

end Framing
