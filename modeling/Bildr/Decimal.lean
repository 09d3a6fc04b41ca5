import Bildr.Texts
import Mathlib.Algebra.Group.Nat.Defs
import Mathlib.Data.List.Lex
/-!
# Decimal — numbered texts in the order of texts

Of two numbers followed by a character that comes after every digit, the lower one comes first exactly when it is less
than the leading digits of the higher one, as many of them as it has itself (`before_iff`).
-/
namespace Decimal

abbrev digits (n : Nat) : List Char := Nat.toDigits 10 n

/-- As many leading digits of the second number as the first has. -/
def leading (m n : Nat) : Nat := n / 10 ^ ((digits n).length - (digits m).length)

theorem digitChar_lt {m n : Nat} (h : m < n) (hn : n < 10) : m.digitChar < n.digitChar := by
  show m.digitChar.toNat < n.digitChar.toNat
  rw [Nat.toNat_digitChar_of_lt_ten (by omega), Nat.toNat_digitChar_of_lt_ten hn]
  omega

theorem digits_split {n : Nat} (h : 10 ≤ n) : digits n = digits (n / 10) ++ [(n % 10).digitChar] :=
  Nat.toDigits_of_base_le (by omega) h

theorem digits_small {n : Nat} (h : n < 10) : digits n = [n.digitChar] := Nat.toDigits_of_lt_base h

theorem length_small {n : Nat} (h : n < 10) : (digits n).length = 1 := by rw [digits_small h, List.length_singleton]

theorem length_split {n : Nat} (h : 10 ≤ n) : (digits n).length = (digits (n / 10)).length + 1 := by
  rw [digits_split h, List.length_append, List.length_singleton]

theorem length_pos (n : Nat) : 0 < (digits n).length := Nat.length_toDigits_pos

theorem length_mono : ∀ {m n : Nat}, m ≤ n → (digits m).length ≤ (digits n).length := by
  intro m n
  induction n using Nat.strongRecOn generalizing m with
  | _ n ih =>
    intro h
    by_cases hm : m < 10
    · rw [length_small hm]
      exact length_pos n
    · have hm' := Nat.le_of_not_lt hm
      rw [length_split hm', length_split (Nat.le_trans hm' h)]
      exact Nat.succ_le_succ (ih (n / 10) (by omega) (Nat.div_le_div_right h))

theorem append_lt_append_iff : ∀ (l : List Char) {x y : List Char}, l ++ x < l ++ y ↔ x < y
  | [], _, _     => Iff.rfl
  | c :: l, _, _ => by
    rw [List.cons_append, List.cons_append, List.cons_lt_cons_iff, append_lt_append_iff l]
    exact ⟨fun h => (h.resolve_left (Char.lt_irrefl c)).2, fun h => .inr ⟨rfl, h⟩⟩

/-- **Numbers with as many digits are in the order of their texts**, whatever follows. -/
theorem lt_of_length_eq {m n : Nat} (h : m < n) (hlength : (digits m).length = (digits n).length) (x y : List Char) :
    digits m ++ x < digits n ++ y := by
  induction n using Nat.strongRecOn generalizing m x y with
  | _ n ih =>
    by_cases hn : n < 10
    · rw [digits_small hn, digits_small (Nat.lt_trans h hn), List.singleton_append, List.singleton_append]
      exact List.cons_lt_cons_iff.2 (.inl (digitChar_lt h hn))
    · have hn' := Nat.le_of_not_lt hn
      have hm : 10 ≤ m := by
        by_contra hm
        rw [length_small (Nat.lt_of_not_le hm), length_split hn'] at hlength
        exact absurd (length_pos (n / 10)) (by omega)
      rw [length_split hm, length_split hn', Nat.add_right_cancel_iff] at hlength
      rw [digits_split hm, digits_split hn', List.append_assoc, List.append_assoc]
      by_cases heq : m / 10 = n / 10
      · rw [heq, append_lt_append_iff]
        exact List.cons_lt_cons_iff.2 (.inl (digitChar_lt (by omega) (by omega)))
      · exact ih (n / 10) (by omega) (by omega) hlength _ _

/-- A number is read back from before a character that is no digit. -/
theorem number_inj {m n : Nat} {c : Char} (hc : c.isDigit = false) {x y : List Char}
    (h : digits m ++ c :: x = digits n ++ c :: y) : m = n := by
  have hno : ∀ k : Nat, c ∉ digits k := by
    intro k hmem
    rw [Nat.isDigit_of_mem_toDigits (by omega) (by omega) hmem] at hc
    cases hc
  have hdigits : Nat.toDigits 10 m = Nat.toDigits 10 n := (Texts.separator_inj (hno m) (hno n) h).1
  rw [← Nat.ofDigitChars_ten_toDigits (n := m), hdigits, Nat.ofDigitChars_ten_toDigits]

/-- The digits after the leading ones. -/
theorem digits_leading (k : Nat) {n : Nat} (h : k < (digits n).length) :
    ∃ rest, digits n = digits (n / 10 ^ k) ++ rest ∧ rest.length = k ∧ ∀ c ∈ rest, c.isDigit = true := by
  induction k generalizing n with
  | zero => exact ⟨[], by rw [Nat.pow_zero, Nat.div_one, List.append_nil], rfl, by simp⟩
  | succ k ih =>
    have hn : 10 ≤ n := by
      by_contra hn
      rw [length_small (Nat.lt_of_not_le hn)] at h
      omega
    obtain ⟨rest, hrest, hlength, hdigit⟩ := ih (n := n / 10) (by rw [length_split hn] at h; omega)
    refine ⟨rest ++ [(n % 10).digitChar], ?_, by rw [List.length_append, hlength]; rfl, ?_⟩
    · rw [digits_split hn, hrest, List.append_assoc, Nat.div_div_eq_div_mul, Nat.pow_succ, Nat.mul_comm 10]
    · intro c hc
      rw [List.mem_append, List.mem_singleton] at hc
      rcases hc with hc | rfl
      · exact hdigit c hc
      · rw [Nat.isDigit_digitChar]
        exact decide_eq_true (by omega)

theorem length_leading {m n : Nat} (h : m ≤ n) : (digits (leading m n)).length = (digits m).length := by
  have hmono := length_mono h
  have hpos := length_pos m
  obtain ⟨rest, hrest, hlength, -⟩ := digits_leading ((digits n).length - (digits m).length) (n := n) (by omega)
  have hsum := congrArg List.length hrest
  rw [List.length_append, hlength] at hsum
  unfold leading
  omega

theorem before_iff {m n : Nat} {c : Char} (h : m < n) (hc : ∀ d : Char, d.isDigit = true → d < c) (x y : List Char) :
    digits m ++ c :: x < digits n ++ c :: y ↔ m < leading m n := by
  have hlength := length_leading (Nat.le_of_lt h)
  have hmono := length_mono (Nat.le_of_lt h)
  have hpos := length_pos m
  obtain ⟨rest, hrest, hcount, hdigit⟩ :=
    digits_leading ((digits n).length - (digits m).length) (n := n) (by omega)
  rw [hrest, List.append_assoc]
  show digits m ++ c :: x < digits (leading m n) ++ (rest ++ c :: y) ↔ m < leading m n
  rcases Nat.lt_trichotomy m (leading m n) with hlt | heq | hgt
  · exact iff_of_true (lt_of_length_eq hlt hlength.symm _ _) hlt
  · refine iff_of_false (fun hlt => ?_) (by omega)
    rw [← heq, append_lt_append_iff] at hlt
    cases rest with
    | nil =>
      -- nothing is cut off, so the numbers are the same
      have hsame : leading m n = n := by
        unfold leading
        rw [show (digits n).length - (digits m).length = 0 from hcount.symm, Nat.pow_zero, Nat.div_one]
      omega
    | cons d rest =>
      have hd := hc d (hdigit d List.mem_cons_self)
      rw [List.cons_append, List.cons_lt_cons_iff] at hlt
      rcases hlt with hlt | ⟨rfl, -⟩
      · exact absurd (Char.lt_trans hd hlt) (Char.lt_irrefl d)
      · exact absurd hd (Char.lt_irrefl c)
  · refine iff_of_false (fun hlt => ?_) (by omega)
    exact absurd hlt (List.lt_asymm (lt_of_length_eq hgt hlength _ _))

end Decimal
