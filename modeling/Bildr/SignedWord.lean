import Mathlib.Algebra.BigOperators.Group.List.Basic
import Mathlib.Algebra.Ring.Int.Defs
/-!
# SignedWord — signed 64-bit arithmetic with its overflows

A sum or a difference as an operator computes it: a build that checks for overflow panics where another wraps.  The
wrapped sum of a list is its exact sum, wrapped once (`toInt_sum`).
-/
namespace SignedWord

def wordSize : Nat := 18446744073709551616

def wrap (x : Int) : Int := x.bmod wordSize

def Fits (x : Int) : Prop := -9223372036854775808 ≤ x ∧ x ≤ 9223372036854775807

instance (x : Int) : Decidable (Fits x) := inferInstanceAs (Decidable (_ ∧ _))

/-- `a + b`; none is a panic. -/
def add (overflowChecks : Bool) (a b : Int64) : Option Int64 :=
  if overflowChecks ∧ ¬ Fits (a.toInt + b.toInt) then none else some (a + b)

/-- `a - b`; none is a panic. -/
def sub (overflowChecks : Bool) (a b : Int64) : Option Int64 :=
  if overflowChecks ∧ ¬ Fits (a.toInt - b.toInt) then none else some (a - b)

theorem wrap_fits {x : Int} (h : Fits x) : wrap x = x := by
  unfold wrap wordSize
  unfold Fits at h
  exact Int.bmod_eq_of_le (by omega) (by omega)

theorem toInt_add (a b : Int64) : (a + b).toInt = wrap (a.toInt + b.toInt) := Int64.toInt_add a b

theorem toInt_sub (a b : Int64) : (a - b).toInt = wrap (a.toInt - b.toInt) := Int64.toInt_sub a b

theorem wrap_add_wrap (x y : Int) : wrap (x + wrap y) = wrap (x + y) := Int.add_bmod_bmod

theorem wrap_wrap_add (x y : Int) : wrap (wrap x + y) = wrap (x + y) := Int.bmod_add_bmod

theorem add_eq {overflowChecks : Bool} {a b : Int64} (h : overflowChecks = true → Fits (a.toInt + b.toInt)) :
    add overflowChecks a b = some (a + b) := if_neg fun hover => hover.2 (h hover.1)

theorem sub_eq {overflowChecks : Bool} {a b : Int64} (h : overflowChecks = true → Fits (a.toInt - b.toInt)) :
    sub overflowChecks a b = some (a - b) := if_neg fun hover => hover.2 (h hover.1)

theorem add_panics {a b : Int64} (h : ¬ Fits (a.toInt + b.toInt)) : add true a b = none := if_pos ⟨rfl, h⟩

theorem sub_panics {a b : Int64} (h : ¬ Fits (a.toInt - b.toInt)) : sub true a b = none := if_pos ⟨rfl, h⟩

theorem toInt_sum (a : Int64) (l : List Int64) : (l.foldl (· + ·) a).toInt = wrap (a.toInt + (l.map Int64.toInt).sum) := by
  induction l generalizing a with
  | nil =>
    have ha : Fits a.toInt := ⟨a.le_toInt, a.toInt_le⟩
    simp [wrap_fits ha]
  | cons b l ih => rw [List.foldl_cons, ih, toInt_add, wrap_wrap_add, List.map_cons, List.sum_cons, Int.add_assoc]

end SignedWord
