import Mathlib.Algebra.GroupWithZero.Nat
import Mathlib.Data.List.Basic
/-!
# Offsets — byte offsets in a text

Where a character comes first and last in a text, and the part of a text between two offsets.
-/
namespace Offsets

def size (text : List Char) : Nat := (text.map Char.utf8Size).sum

def find (c : Char) : List Char → Option Nat
  | []        => none
  | d :: text => if d = c then some 0 else (find c text).map (fun n => d.utf8Size + n)

def rfind (c : Char) : List Char → Option Nat
  | []        => none
  | d :: text =>
    match rfind c text with
    | some n => some (d.utf8Size + n)
    | none   => if d = c then some 0 else none

/-- The text after so many bytes; none when a character goes over them. -/
def dropBytes : Nat → List Char → Option (List Char)
  | 0, text          => some text
  | _ + 1, []        => none
  | n + 1, c :: text => if c.utf8Size ≤ n + 1 then dropBytes (n + 1 - c.utf8Size) text else none

def takeBytes : Nat → List Char → Option (List Char)
  | 0, _             => some []
  | _ + 1, []        => none
  | n + 1, c :: text => if c.utf8Size ≤ n + 1 then (takeBytes (n + 1 - c.utf8Size) text).map (c :: ·) else none

/-- `&text[start..stop]`; none is a panic. -/
def slice (text : List Char) (start stop : Nat) : Option (List Char) :=
  if start ≤ stop then (dropBytes start text).bind (takeBytes (stop - start)) else none

example : slice "aé\x7bb".toList 3 4 = some ['\x7b'] := by decide

@[simp] theorem size_cons (c : Char) (text : List Char) : size (c :: text) = c.utf8Size + size text := List.sum_cons

@[simp] theorem size_append (s t : List Char) : size (s ++ t) = size s + size t := by
  unfold size
  rw [List.map_append, List.sum_append]

theorem find_some {c : Char} : ∀ {before after : List Char}, c ∉ before →
    find c (before ++ c :: after) = some (size before)
  | [], after, _          => by
    rw [List.nil_append, find, if_pos rfl]
    rfl
  | d :: before, after, h => by
    rw [List.mem_cons, not_or] at h
    rw [List.cons_append, find, if_neg (Ne.symm h.1), find_some h.2, size_cons]
    rfl

theorem find_none {c : Char} : ∀ {text : List Char}, c ∉ text → find c text = none
  | [], _        => rfl
  | d :: text, h => by
    rw [List.mem_cons, not_or] at h
    rw [find, if_neg (Ne.symm h.1), find_none h.2]
    rfl

theorem rfind_none {c : Char} : ∀ {text : List Char}, c ∉ text → rfind c text = none
  | [], _        => rfl
  | d :: text, h => by
    rw [List.mem_cons, not_or] at h
    rw [rfind, rfind_none h.2]
    exact if_neg (Ne.symm h.1)

theorem rfind_some {c : Char} : ∀ {before after : List Char}, c ∉ after →
    rfind c (before ++ c :: after) = some (size before)
  | [], after, h          => by
    rw [List.nil_append, rfind, rfind_none h]
    exact if_pos rfl
  | d :: before, after, h => by
    rw [List.cons_append, rfind, rfind_some h, size_cons]

theorem dropBytes_append : ∀ (s t : List Char), dropBytes (size s) (s ++ t) = some t
  | [], t     => by
    show dropBytes 0 t = some t
    rw [dropBytes]
  | c :: s, t => by
    have hpos := Char.utf8Size_pos c
    obtain ⟨n, hn⟩ : ∃ n, size (c :: s) = n + 1 := ⟨size (c :: s) - 1, by rw [size_cons]; omega⟩
    have hsize : n + 1 = c.utf8Size + size s := by rw [← hn, size_cons]
    rw [hn, List.cons_append, dropBytes, if_pos (by omega), show n + 1 - c.utf8Size = size s by omega,
      dropBytes_append s t]

theorem takeBytes_append : ∀ (s t : List Char), takeBytes (size s) (s ++ t) = some s
  | [], t     => by
    show takeBytes 0 t = some []
    rw [takeBytes]
  | c :: s, t => by
    have hpos := Char.utf8Size_pos c
    obtain ⟨n, hn⟩ : ∃ n, size (c :: s) = n + 1 := ⟨size (c :: s) - 1, by rw [size_cons]; omega⟩
    have hsize : n + 1 = c.utf8Size + size s := by rw [← hn, size_cons]
    rw [hn, List.cons_append, takeBytes, if_pos (by omega), show n + 1 - c.utf8Size = size s by omega,
      takeBytes_append s t]
    rfl

theorem slice_append (s t u : List Char) : slice (s ++ (t ++ u)) (size s) (size s + size t) = some t := by
  unfold slice
  rw [if_pos (by omega), dropBytes_append, Option.bind_some, Nat.add_sub_cancel_left, takeBytes_append]

theorem slice_same (s t : List Char) : slice (s ++ t) (size s) (size s) = some [] := slice_append s [] t

theorem slice_backwards (text : List Char) {start stop : Nat} (h : stop < start) : slice text start stop = none :=
  if_neg (by omega)

end Offsets
