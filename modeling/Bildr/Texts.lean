import Mathlib.Data.List.Basic
/-!
# Texts — numbers in texts, and texts joined by commas

A number is read back from its text, and so is a list from its texts joined by commas when none of them has a comma.
Characters up to `f` are one byte each.
-/
namespace Texts

theorem utf8Size_of_le {c : Char} (h : c ≤ 'f') : c.utf8Size = 1 := by
  unfold Char.utf8Size
  exact if_pos (UInt32.le_trans (Char.le_def.1 h) (by decide))

/-- Hexadecimal digits are one byte each. -/
theorem utf8Size_of_hex {c : Char} (h : (c.isDigit || (decide ('a' ≤ c) && decide (c ≤ 'f'))) = true) :
    c.utf8Size = 1 := by
  simp only [Bool.or_eq_true, Bool.and_eq_true, decide_eq_true_eq, Char.isDigit] at h
  rcases h with hdigit | hletter
  · exact utf8Size_of_le (Char.le_def.2 (UInt32.le_trans hdigit.2 (by decide)))
  · exact utf8Size_of_le hletter.2

theorem utf8ByteSize_ofList : ∀ {l : List Char}, (∀ c ∈ l, c.utf8Size = 1) → (String.ofList l).utf8ByteSize = l.length
  | [], _ => rfl
  | c :: l, h => by
    have htail := utf8ByteSize_ofList (fun d hd => h d (List.mem_cons_of_mem c hd))
    rw [String.ofList_cons, String.utf8ByteSize_append, String.utf8ByteSize_singleton, h c List.mem_cons_self, htail,
      List.length_cons, Nat.add_comm]

theorem toList_toString (n : Nat) : (toString n).toList = Nat.toDigits 10 n := by
  show n.repr.toList = _
  rw [Nat.toList_repr]

theorem toString_number_inj {m n : Nat} (h : toString m = toString n) : m = n := by
  have h' := congrArg String.toList h
  rw [toList_toString, toList_toString] at h'
  rw [← Nat.ofDigitChars_ten_toDigits (n := m), h', Nat.ofDigitChars_ten_toDigits]

theorem toString_negSucc (n : Nat) : toString (Int.negSucc n) = "-" ++ toString (n + 1) := rfl

theorem digit_of_mem {n : Nat} {c : Char} (h : c ∈ (toString n).toList) : c.isDigit = true := by
  rw [toList_toString] at h
  exact Nat.isDigit_of_mem_toDigits (by omega) (by omega) h

/-- A natural number has no sign. -/
theorem number_ne_negative (m n : Nat) : toString m ≠ "-" ++ toString n := by
  intro h
  have hmem : '-' ∈ (toString m).toList := by
    rw [h, String.toList_append]
    exact List.mem_append_left _ (by decide)
  exact absurd (digit_of_mem hmem) (by decide)

theorem toString_integer_inj : ∀ {m n : Int}, toString m = toString n → m = n
  | .ofNat m, .ofNat n, h => congrArg Int.ofNat (toString_number_inj h)
  | .ofNat m, .negSucc n, h => absurd h (number_ne_negative m (n + 1))
  | .negSucc m, .ofNat n, h => absurd h.symm (number_ne_negative n (m + 1))
  | .negSucc m, .negSucc n, h => by
    rw [toString_negSucc, toString_negSucc] at h
    have hlist := congrArg String.toList h
    rw [String.toList_append, String.toList_append, List.append_right_inj] at hlist
    have hnumber := toString_number_inj (String.toList_inj.1 hlist)
    rw [Nat.succ.inj hnumber]

/-- The text of an integer has no comma. -/
theorem comma_not_mem_integer : ∀ n : Int, ',' ∉ (toString n).toList
  | .ofNat n, h => absurd (digit_of_mem h) (by decide)
  | .negSucc n, h => by
    rw [toString_negSucc, String.toList_append, List.mem_append] at h
    rcases h with h | h
    · exact absurd h (by decide)
    · exact absurd (digit_of_mem h) (by decide)

/-! ## Joined by commas -/

theorem takeWhile_separator {c : Char} {x : List Char} (hx : c ∉ x) (z : List Char) :
    (x ++ c :: z).takeWhile (fun d => d != c) = x := by
  rw [List.takeWhile_append_of_pos, List.takeWhile_cons_of_neg (by simp), List.append_nil]
  intro d hd
  simp only [bne_iff_ne, ne_eq]
  rintro rfl
  exact hx hd

/-- Texts that hold no separator are read back from before it. -/
theorem separator_inj {c : Char} {x y z z' : List Char} (hx : c ∉ x) (hy : c ∉ y) (h : x ++ c :: z = y ++ c :: z') :
    x = y ∧ z = z' := by
  have hxy : x = y := by rw [← takeWhile_separator hx z, h, takeWhile_separator hy z']
  subst hxy
  exact ⟨rfl, (List.cons.inj (List.append_cancel_left h)).2⟩

/-- What stands before the first comma is the first text. -/
theorem intercalate_head {a b : String} {l l' : List String} (ha : ',' ∉ a.toList) (hb : ',' ∉ b.toList)
    (h : String.intercalate "," (a :: l) = String.intercalate "," (b :: l')) :
    a = b ∧ (l = [] ↔ l' = []) ∧ String.intercalate "," l = String.intercalate "," l' := by
  have hcomma : ∀ (t u : String) (m : List String),
      (String.intercalate "," (t :: u :: m)).toList = t.toList ++ ',' :: (String.intercalate "," (u :: m)).toList := by
    intro t u m
    rw [String.intercalate_cons_cons, String.toList_append, String.toList_append, List.append_assoc]
    rfl
  cases l with
  | nil =>
    cases l' with
    | nil => exact ⟨by simpa using h, Iff.rfl, rfl⟩
    | cons u m =>
      rw [String.intercalate_singleton] at h
      rw [h, hcomma] at ha
      exact absurd (List.mem_append_right _ List.mem_cons_self) ha
  | cons t k =>
    cases l' with
    | nil =>
      rw [String.intercalate_singleton] at h
      rw [← h, hcomma] at hb
      exact absurd (List.mem_append_right _ List.mem_cons_self) hb
    | cons u m =>
      have hlist := congrArg String.toList h
      rw [hcomma, hcomma] at hlist
      have hab := congrArg (List.takeWhile (fun d => d != ',')) hlist
      rw [takeWhile_separator ha, takeWhile_separator hb] at hab
      rw [hab, List.append_right_inj] at hlist
      exact ⟨String.toList_inj.1 hab, by simp, String.toList_inj.1 (List.cons.inj hlist).2⟩

theorem intercalate_inj : ∀ {l l' : List String}, l ≠ [] → l' ≠ [] → (∀ t ∈ l, ',' ∉ t.toList) →
    (∀ t ∈ l', ',' ∉ t.toList) → String.intercalate "," l = String.intercalate "," l' → l = l'
  | [], _, hne, _, _, _, _ => absurd rfl hne
  | _ :: _, [], _, hne, _, _, _ => absurd rfl hne
  | a :: l, b :: l', _, _, hl, hl', h => by
    obtain ⟨hab, hnil, hrest⟩ := intercalate_head (hl a List.mem_cons_self) (hl' b List.mem_cons_self) h
    by_cases hempty : l = []
    · rw [hab, hempty, hnil.1 hempty]
    · rw [hab, intercalate_inj hempty (fun hn => hempty (hnil.2 hn)) (fun t ht => hl t (List.mem_cons_of_mem a ht))
        (fun t ht => hl' t (List.mem_cons_of_mem b ht)) hrest]

end Texts
