import Bildr.Texts
import Mathlib.Data.List.Perm.Basic
import Mathlib.Data.Nat.Digits.Defs
import Mathlib.Data.String.Basic
import Mathlib.Order.Basic
/-!
# Consecutive — neighbours of a list, and numbers by their digits

The pairs of a list and its tail are the elements that stand side by side.  In a sorted list they are those with nothing
between them (`mem_zip_tail_iff`), and a list of different elements is known from its neighbours (`eq_of_zip_tail`).
Digits of one length are compared as the numbers they write (`value_lt`), and a shorter number without a leading zero is
the smaller one (`value_lt_of_length`).
-/
namespace Consecutive

/-! ## Neighbours -/

section Neighbours
variable {α κ : Type} [LinearOrder κ] {a b : α}

theorem mem_zip_tail : ∀ {l : List α}, (a, b) ∈ l.zip l.tail ↔ ∃ s t, l = s ++ a :: b :: t
  | [] => by simp
  | [c] => by
    refine ⟨fun h => (by cases h), fun ⟨s, t, h⟩ => ?_⟩
    have hlength := congrArg List.length h
    simp at hlength
    omega
  | c :: d :: l => by
    have hcons : (c :: d :: l).zip (c :: d :: l).tail = (c, d) :: (d :: l).zip (d :: l).tail := rfl
    rw [hcons, List.mem_cons, mem_zip_tail (l := d :: l), Prod.mk.injEq]
    constructor
    · rintro (⟨rfl, rfl⟩ | ⟨s, t, h⟩)
      · exact ⟨[], l, rfl⟩
      · exact ⟨c :: s, t, by rw [h, List.cons_append]⟩
    · rintro ⟨s, t, h⟩
      cases s with
      | nil =>
        obtain ⟨hc, h⟩ := List.cons.inj h
        exact Or.inl ⟨hc.symm, (List.cons.inj h).1.symm⟩
      | cons x s => exact Or.inr ⟨s, t, (List.cons.inj h).2⟩

theorem mem_zip_tail_iff {key : α → κ} {l : List α} (hl : l.Pairwise (fun x y => key x < key y)) :
    (a, b) ∈ l.zip l.tail ↔ a ∈ l ∧ b ∈ l ∧ key a < key b ∧ ∀ c ∈ l, ¬ (key a < key c ∧ key c < key b) := by
  rw [mem_zip_tail]
  constructor
  · rintro ⟨s, t, rfl⟩
    rw [List.pairwise_append] at hl
    obtain ⟨-, hpair, hbefore⟩ := hl
    rw [List.pairwise_cons, List.pairwise_cons] at hpair
    refine ⟨by simp, by simp, hpair.1 b List.mem_cons_self, fun c hc hbetween => ?_⟩
    rcases List.mem_append.1 hc with hc | hc
    · exact lt_asymm hbetween.1 (hbefore c hc a List.mem_cons_self)
    · rcases List.mem_cons.1 hc with rfl | hc
      · exact lt_irrefl _ hbetween.1
      · rcases List.mem_cons.1 hc with rfl | hc
        · exact lt_irrefl _ hbetween.2
        · exact lt_asymm hbetween.2 (hpair.2.1 c hc)
  · rintro ⟨ha, hb, hlt, hnone⟩
    obtain ⟨s, t, rfl⟩ := List.append_of_mem ha
    rw [List.pairwise_append, List.pairwise_cons] at hl
    obtain ⟨-, ⟨hafter, hpair⟩, hbefore⟩ := hl
    have hmem : b ∈ t := by
      rcases List.mem_append.1 hb with hb | hb
      · exact absurd hlt (lt_asymm (hbefore b hb a List.mem_cons_self))
      · rcases List.mem_cons.1 hb with rfl | hb
        · exact absurd hlt (lt_irrefl _)
        · exact hb
    cases t with
    | nil => cases hmem
    | cons c t =>
      rcases List.mem_cons.1 hmem with rfl | hmem
      · exact ⟨s, t, rfl⟩
      · -- otherwise the next one stands between
        exact absurd ⟨hafter c List.mem_cons_self, (List.pairwise_cons.1 hpair).1 b hmem⟩ (hnone c (by simp))

/-- Neighbours of a list that are neighbours of another one stand there as one piece. -/
theorem infix_of_zip_tail {l' : List α} (hn : l'.Nodup) : ∀ {l : List α} {a : α}, a ∈ l' →
    (∀ p ∈ (a :: l).zip (a :: l).tail, p ∈ l'.zip l'.tail) → ∃ s t, l' = s ++ (a :: l) ++ t
  | [], a, ha, _ => by
    obtain ⟨s, t, h⟩ := List.append_of_mem ha
    exact ⟨s, t, by rw [h, List.append_assoc]; rfl⟩
  | b :: l, a, _, hall => by
    have hab : (a, b) ∈ l'.zip l'.tail := hall (a, b) List.mem_cons_self
    obtain ⟨s, t, h⟩ := mem_zip_tail.1 hab
    have hb : b ∈ l' := by
      rw [h]
      simp
    obtain ⟨s', t', h'⟩ := infix_of_zip_tail hn hb (fun p hp => hall p (List.mem_cons_of_mem _ hp))
    have hsplit : l' = (s ++ [a]) ++ b :: t := by
      rw [h, List.append_assoc]
      rfl
    have hsplit' : l' = s' ++ b :: (l ++ t') := by
      rw [h', List.append_assoc]
      rfl
    -- the second element stands in one place
    have hnodup := hn
    rw [hsplit] at hnodup
    obtain ⟨-, hrest, hfresh⟩ := List.nodup_append.1 hnodup
    obtain ⟨rfl, -, rfl⟩ := (List.append_cons_inj_of_notMem (fun hin => hfresh b hin b List.mem_cons_self rfl)
      (List.nodup_cons.1 hrest).1).1 (hsplit.symm.trans hsplit')
    exact ⟨s, t', by rw [hsplit']; simp⟩

theorem eq_of_zip_tail {l l' : List α} (hn : l'.Nodup) (hp : l.Perm l') (hall : ∀ p ∈ l.zip l.tail, p ∈ l'.zip l'.tail) :
    l = l' := by
  cases l with
  | nil => exact hp.nil_eq
  | cons a l =>
    obtain ⟨s, t, h⟩ := infix_of_zip_tail hn (hp.mem_iff.1 List.mem_cons_self) hall
    have hlength := hp.length_eq
    rw [h, List.length_append, List.length_append] at hlength
    have hs : s = [] := List.length_eq_zero_iff.1 (by omega)
    have ht : t = [] := List.length_eq_zero_iff.1 (by omega)
    rw [h, hs, ht, List.nil_append, List.append_nil]

end Neighbours

/-! ## Digits -/

section Digits
variable {x y : List Char}

def digit (c : Char) : Nat := c.toNat - 48

def value (digits : List Char) : Nat := Nat.ofDigits 10 (digits.map digit).reverse

theorem value_cons (c : Char) (digits : List Char) : value (c :: digits) = value digits + 10 ^ digits.length * digit c := by
  unfold value
  rw [List.map_cons, Nat.ofDigits_reverse_cons, List.length_map]

theorem toNat_of_isDigit {c : Char} (h : c.isDigit = true) : 48 ≤ c.toNat ∧ c.toNat ≤ 57 := by
  unfold Char.isDigit at h
  rw [Bool.and_eq_true, decide_eq_true_eq, decide_eq_true_eq] at h
  exact ⟨UInt32.le_iff_toNat_le.1 h.1, UInt32.le_iff_toNat_le.1 h.2⟩

theorem digit_lt {c : Char} (h : c.isDigit = true) : digit c < 10 := by
  have hc := toNat_of_isDigit h
  unfold digit
  omega

theorem digit_pos {c : Char} (h : c.isDigit = true) (hzero : c ≠ '0') : 0 < digit c := by
  have hc := toNat_of_isDigit h
  have hne : c.toNat ≠ 48 := fun heq => hzero (Char.toNat_inj.1 heq)
  unfold digit
  omega

theorem digit_lt_digit {c d : Char} (hc : c.isDigit = true) (h : c < d) : digit c < digit d := by
  have hcode : c.toNat < d.toNat := h
  have hc := toNat_of_isDigit hc
  unfold digit
  omega

/-- Digits are one byte each. -/
theorem utf8ByteSize_of_isDigit {s : String} (h : ∀ c ∈ s.toList, c.isDigit = true) : s.utf8ByteSize = s.toList.length := by
  have hsize : ∀ c ∈ s.toList, c.utf8Size = 1 := fun c hc => Texts.utf8Size_of_hex (by rw [h c hc, Bool.true_or])
  have hs := Texts.utf8ByteSize_ofList hsize
  rw [String.ofList_toList] at hs
  exact hs

theorem value_lt_pow : ∀ {x : List Char}, (∀ c ∈ x, c.isDigit = true) → value x < 10 ^ x.length
  | [], _ => by decide
  | c :: x, h => by
    have hrest := value_lt_pow (fun d hd => h d (List.mem_cons_of_mem c hd))
    have hc := digit_lt (h c List.mem_cons_self)
    have hmul : 10 ^ x.length * digit c ≤ 10 ^ x.length * 9 := Nat.mul_le_mul_left _ (by omega)
    rw [value_cons, List.length_cons, pow_succ]
    omega

/-- **Digits of one length are compared as the numbers they write.** -/
theorem value_lt : ∀ {x y : List Char}, (∀ c ∈ x, c.isDigit = true) → x.length = y.length → x < y → value x < value y
  | [], [], _, _, hlt => absurd hlt (lt_irrefl _)
  | [], _ :: _, _, hlength, _ => (by cases hlength)
  | _ :: _, [], _, hlength, _ => (by cases hlength)
  | c :: x, d :: y, hx, hlength, hlt => by
    have hrest : ∀ c ∈ x, c.isDigit = true := fun e he => hx e (List.mem_cons_of_mem c he)
    have hlength' : x.length = y.length := Nat.succ.inj hlength
    rw [value_cons, value_cons, hlength']
    rcases List.cons_lt_cons_iff.1 hlt with hcd | ⟨rfl, hxy⟩
    · have hdigit := digit_lt_digit (hx c List.mem_cons_self) hcd
      have hbound := value_lt_pow hrest
      rw [hlength'] at hbound
      have hmul : 10 ^ y.length * digit c + 10 ^ y.length ≤ 10 ^ y.length * digit d := by
        rw [← Nat.mul_succ]
        exact Nat.mul_le_mul_left _ hdigit
      omega
    · exact Nat.add_lt_add_right (value_lt hrest hlength' hxy) _

/-- **A shorter number is smaller** than one that does not begin with a zero. -/
theorem value_lt_of_length (hx : ∀ c ∈ x, c.isDigit = true) (hy : ∀ c ∈ y, c.isDigit = true) (hzero : y.head? ≠ some '0')
    (hlength : x.length < y.length) : value x < value y := by
  cases y with
  | nil => exact absurd hlength (Nat.not_lt_zero _)
  | cons d y =>
    have hbound := value_lt_pow hx
    have hpow : 10 ^ x.length ≤ 10 ^ y.length := Nat.pow_le_pow_right (by decide) (Nat.lt_succ_iff.1 hlength)
    have hdigit := digit_pos (hy d List.mem_cons_self) (fun heq => hzero (congrArg some heq))
    have hmul : 10 ^ y.length * 1 ≤ 10 ^ y.length * digit d := Nat.mul_le_mul_left _ hdigit
    rw [value_cons]
    omega

end Digits

end Consecutive
