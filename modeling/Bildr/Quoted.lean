import Mathlib.Data.List.Basic
import Mathlib.Tactic.IntervalCases
/-!
# Quoted — lists of texts as JSON

A quoted text ends at the first quote that is not escaped, so what follows it is known (`quoted_append_inj`), and a list
of texts is known from its JSON (`array_inj`).
-/
namespace Quoted

def quote : Char := Char.ofNat 0x22

def backslash : Char := Char.ofNat 0x5c

/-! ## Escaped characters -/

def hexDigit (n : Nat) : Char := Char.ofNat (if n < 10 then 48 + n else 87 + n)

def hexValue (c : Char) : Nat := if c.toNat < 58 then c.toNat - 48 else c.toNat - 87

def control : Nat → List Char
  | 8  => ['b']
  | 9  => ['t']
  | 10 => ['n']
  | 12 => ['f']
  | 13 => ['r']
  | n  => ['u', '0', '0', hexDigit (n / 16), hexDigit (n % 16)]

def escape (c : Char) : List Char :=
  if c = quote ∨ c = backslash then [backslash, c]
  else if c.toNat < 32 then backslash :: control c.toNat
  else [c]

/-- The control character after a backslash, and what follows it. -/
def readControl : List Char → Option (Nat × List Char)
  | 'b' :: rest                        => some (8, rest)
  | 't' :: rest                        => some (9, rest)
  | 'n' :: rest                        => some (10, rest)
  | 'f' :: rest                        => some (12, rest)
  | 'r' :: rest                        => some (13, rest)
  | 'u' :: '0' :: '0' :: h :: l :: rest => some (16 * hexValue h + hexValue l, rest)
  | _                                  => none

def readEscaped : List Char → Option (Char × List Char)
  | []        => none
  | d :: rest =>
    if d = quote ∨ d = backslash then some (d, rest)
    else (readControl (d :: rest)).map (fun p => (Char.ofNat p.1, p.2))

/-- The first character of a text in quotes and what follows it; none at the closing quote. -/
def read : List Char → Option (Char × List Char)
  | []        => none
  | c :: rest => if c = quote then none else if c = backslash then readEscaped rest else some (c, rest)

theorem readControl_control {n : Nat} (hn : n < 32) (rest : List Char) :
    readControl (control n ++ rest) = some (n, rest) := by
  interval_cases n <;> rfl

/-- No control character is written as a quote or a backslash. -/
theorem control_cons {n : Nat} (hn : n < 32) :
    ∃ d ds, control n = d :: ds ∧ ¬ (d = quote ∨ d = backslash) := by
  interval_cases n <;> exact ⟨_, _, rfl, by decide⟩

theorem read_escape (c : Char) (rest : List Char) : read (escape c ++ rest) = some (c, rest) := by
  unfold escape
  by_cases hspecial : c = quote ∨ c = backslash
  · rw [if_pos hspecial, List.cons_append, List.singleton_append, read, if_neg (by decide), if_pos rfl, readEscaped,
      if_pos hspecial]
  · rw [if_neg hspecial]
    by_cases hcontrol : c.toNat < 32
    · obtain ⟨d, ds, hcons, hd⟩ := control_cons hcontrol
      have hread := readControl_control hcontrol rest
      rw [if_pos hcontrol, List.cons_append, read, if_neg (by decide), if_pos rfl]
      rw [hcons, List.cons_append] at hread ⊢
      rw [readEscaped, if_neg hd, hread, Option.map_some, Char.ofNat_toNat]
    · obtain ⟨hquote, hbackslash⟩ := not_or.1 hspecial
      rw [if_neg hcontrol, List.singleton_append, read, if_neg hquote, if_neg hbackslash]

theorem read_quote (rest : List Char) : read (quote :: rest) = none := by
  rw [read, if_pos rfl]

/-! ## Texts in quotes -/

theorem escaped_append_inj : ∀ {a b x y : List Char},
    a.flatMap escape ++ quote :: x = b.flatMap escape ++ quote :: y → a = b ∧ x = y
  | [], [], x, y, h => ⟨rfl, (List.cons.inj h).2⟩
  | [], d :: b, x, y, h => by
    have hread := congrArg read h
    rw [List.flatMap_cons, List.append_assoc, read_escape, List.flatMap_nil, List.nil_append, read_quote] at hread
    cases hread
  | c :: a, [], x, y, h => by
    have hread := congrArg read h
    rw [List.flatMap_cons, List.append_assoc, read_escape, List.flatMap_nil, List.nil_append, read_quote] at hread
    cases hread
  | c :: a, d :: b, x, y, h => by
    have hread := congrArg read h
    rw [List.flatMap_cons, List.flatMap_cons, List.append_assoc, List.append_assoc, read_escape, read_escape] at hread
    obtain ⟨hc, hrest⟩ := Prod.mk.inj (Option.some.inj hread)
    obtain ⟨hab, hxy⟩ := escaped_append_inj hrest
    exact ⟨by rw [hc, hab], hxy⟩

def quoted (a : List Char) : List Char := quote :: (a.flatMap escape ++ [quote])

theorem quoted_append_inj {a b x y : List Char} (h : quoted a ++ x = quoted b ++ y) : a = b ∧ x = y := by
  unfold quoted at h
  rw [List.cons_append, List.cons_append, List.append_assoc, List.append_assoc] at h
  exact escaped_append_inj (List.cons.inj h).2

/-! ## Lists of texts -/

def items : List (List Char) → List Char
  | []          => []
  | [a]         => quoted a
  | a :: b :: l => quoted a ++ ',' :: items (b :: l)

def array (l : List (List Char)) : List Char := '[' :: (items l ++ [']'])

theorem items_inj : ∀ {l l' : List (List Char)}, items l ++ [']'] = items l' ++ [']'] → l = l'
  | [], [], _ => rfl
  | [], [a], h => absurd (List.cons.inj h).1 (by decide)
  | [], a :: b :: l', h => absurd (List.cons.inj h).1 (by decide)
  | [a], [], h => absurd (List.cons.inj h).1 (by decide)
  | a :: b :: l, [], h => absurd (List.cons.inj h).1 (by decide)
  | [a], [b], h => by rw [(quoted_append_inj h).1]
  | [a], b :: c :: l', h => by
    rw [items, items, List.append_assoc] at h
    exact absurd (List.cons.inj (quoted_append_inj h).2).1 (by decide)
  | a :: c :: l, [b], h => by
    rw [items, items, List.append_assoc] at h
    exact absurd (List.cons.inj (quoted_append_inj h).2).1 (by decide)
  | a :: c :: l, b :: d :: l', h => by
    rw [items, items, List.append_assoc, List.append_assoc] at h
    obtain ⟨hab, hrest⟩ := quoted_append_inj h
    rw [hab, items_inj (List.cons.inj hrest).2]

theorem array_inj {l l' : List (List Char)} (h : array l = array l') : l = l' := items_inj (List.cons.inj h).2

end Quoted
