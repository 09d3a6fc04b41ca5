import Mathlib.Algebra.GroupWithZero.Nat
import Mathlib.Data.List.Basic
/-!
# Lossy — UTF-8 texts, and what is read from bytes that are none

Reading bytes as a text puts U+FFFD where they break off: once for every longest start of a character, or for a byte that
starts none.  A text is read back from its bytes (`chars_encode`), and the text read has at least as many bytes as were
read (`length_le`).
-/
namespace Lossy

def encode (text : List Char) : List UInt8 := text.flatMap String.utf8EncodeChar

def first (bytes : List UInt8) : Option Char := (bytes.take 4).toByteArray.utf8DecodeChar? 0

def within (low high b : UInt8) : Bool := decide (low ≤ b ∧ b ≤ high)

/-- Whether the second byte may stand after the first, of a character of three bytes or four. -/
def follows (b c : UInt8) : Bool :=
  if b = 0xE0 then within 0xA0 0xBF c
  else if b = 0xED then within 0x80 0x9F c
  else if b = 0xF0 then within 0x90 0xBF c
  else if b = 0xF4 then within 0x80 0x8F c
  else within 0xE1 0xF3 b && within 0x80 0xBF c

/-- How many of the bytes, which start no character, are replaced together. -/
def broken : List UInt8 → Nat
  | b :: c :: d :: _ => if follows b c then (if 0xF0 ≤ b ∧ within 0x80 0xBF d then 3 else 2) else 1
  | [b, c]           => if follows b c then 2 else 1
  | _                => 1

def charsFrom : Nat → List UInt8 → List Char
  | _, []            => []
  | n + 1, _ :: rest => charsFrom n rest
  | 0, b :: rest     =>
    match first (b :: rest) with
    | some c => c :: charsFrom (c.utf8Size - 1) rest
    | none   => '\uFFFD' :: charsFrom (broken (b :: rest) - 1) rest

def chars (bytes : List UInt8) : List Char := charsFrom 0 bytes

example : chars [0x61, 0xC3, 0xA9, 0xE2, 0x82, 0x62, 0xFF] = ['a', 'é', '\uFFFD', 'b', '\uFFFD'] := by decide +kernel

@[simp] theorem encode_cons (c : Char) (text : List Char) :
    encode (c :: text) = String.utf8EncodeChar c ++ encode text := List.flatMap_cons

theorem encode_append (s t : List Char) : encode (s ++ t) = encode s ++ encode t := List.flatMap_append

theorem length_encode_le : ∀ text : List Char, (encode text).length ≤ 4 * text.length
  | []        => Nat.le_refl 0
  | c :: text => by
    have h := length_encode_le text
    have hc := Char.utf8Size_le_four c
    rw [encode_cons, List.length_append, String.length_utf8EncodeChar, List.length_cons]
    omega

theorem charsFrom_skip : ∀ (l rest : List UInt8), charsFrom l.length (l ++ rest) = charsFrom 0 rest
  | [], _        => rfl
  | _ :: l, rest => charsFrom_skip l rest

theorem first_encode (c : Char) (rest : List UInt8) : first (String.utf8EncodeChar c ++ rest) = some c := by
  have hsize : (String.utf8EncodeChar c).length ≤ 4 := by
    rw [String.length_utf8EncodeChar]
    exact Char.utf8Size_le_four c
  unfold first
  rw [List.take_append, List.take_of_length_le hsize, List.toByteArray_append]
  exact ByteArray.utf8DecodeChar?_utf8EncodeChar_append

theorem chars_cons (c : Char) (rest : List UInt8) : chars (String.utf8EncodeChar c ++ rest) = c :: chars rest := by
  have hfirst := first_encode c rest
  have hlength := String.length_utf8EncodeChar c
  unfold chars
  cases hbytes : String.utf8EncodeChar c with
  | nil =>
    rw [hbytes] at hlength
    exact absurd hlength (by have := Char.utf8Size_pos c; simp; omega)
  | cons b l =>
    rw [hbytes] at hfirst hlength
    rw [List.cons_append] at hfirst ⊢
    have hskip : c.utf8Size - 1 = l.length := by
      rw [← hlength, List.length_cons]
      omega
    rw [charsFrom, hfirst]
    dsimp only
    rw [hskip, charsFrom_skip]

theorem chars_encode : ∀ text : List Char, chars (encode text) = text
  | []        => rfl
  | c :: text => by rw [encode_cons, chars_cons, chars_encode text]

theorem encode_inj {s t : List Char} (h : encode s = encode t) : s = t := by
  rw [← chars_encode s, h, chars_encode]

theorem broken_le : ∀ bytes : List UInt8, broken bytes ≤ 3
  | []              => by decide
  | [_]             => show 1 ≤ 3 by decide
  | [_, _]          => by
    rw [broken]
    split <;> omega
  | _ :: _ :: _ :: _ => by
    rw [broken]
    split
    · split <;> omega
    · omega

theorem length_le_from : ∀ (n : Nat) (bytes : List UInt8), bytes.length ≤ n + (encode (charsFrom n bytes)).length
  | _, []            => Nat.zero_le _
  | n + 1, _ :: rest => by
    have h := length_le_from n rest
    rw [charsFrom, List.length_cons]
    omega
  | 0, b :: rest     => by
    rw [charsFrom, List.length_cons]
    cases hfirst : first (b :: rest) with
    | some c =>
      have h := length_le_from (c.utf8Size - 1) rest
      have hpos := Char.utf8Size_pos c
      dsimp only
      rw [encode_cons, List.length_append, String.length_utf8EncodeChar]
      omega
    | none =>
      have h := length_le_from (broken (b :: rest) - 1) rest
      have hle := broken_le (b :: rest)
      dsimp only
      rw [encode_cons, List.length_append, String.length_utf8EncodeChar, show '\uFFFD'.utf8Size = 3 from by decide]
      omega

/-- Reading bytes loses none: what is read has at least as many. -/
theorem length_le (bytes : List UInt8) : bytes.length ≤ (encode (chars bytes)).length := by
  have h := length_le_from 0 bytes
  rwa [Nat.zero_add] at h

end Lossy
