import Bildr.Outcome
import Bildr.Projection
/-!
# ControlWire — the field checks of the operator control plane

Every record of the control plane checks its own fields and its own digest.  A failed check names the field and the
reason.  SHA-256 and the JSON texts are outside the repository: a `Wire` gives the digest of a text, the digest of a
JSON value's compact text, and how many bytes that text has.
-/
namespace Bildr
namespace Control

open Improvement (isLowerHex isSafeOperatorControlIdentifier)
open Json (Value)

/-- `hex::encode` of 32 bytes. -/
structure Digest where
  hex : String
  isHex : isLowerHex hex 64 = true

instance : DecidableEq Digest := fun a b =>
  decidable_of_iff (a.hex = b.hex) ⟨fun h => by cases a; cases b; cases h; rfl, fun h => h ▸ rfl⟩

theorem isLowerHex_ofList {l : List Char} {n : Nat}
    (h : (decide (l.length = n) && l.all (fun c => c.isDigit || (decide ('a' ≤ c) && decide (c ≤ 'f')))) = true) :
    isLowerHex (String.ofList l) n = true := by
  unfold isLowerHex
  rw [String.toList_ofList]
  exact h

structure Wire where
  sha256 : String → Digest
  digestJson : Value → Digest
  byteLength : Value → Nat

def Digest.take (d : Digest) (n : Nat) : String := String.ofList (d.hex.toList.take n)

/-! ## Digests as numbers -/

/-- The last `k` hexadecimal digits of a number, before a text. -/
def hexText : Nat → Nat → List Char → List Char
  | 0, _, text     => text
  | k + 1, n, text => hexText k (n / 16) (Nat.digitChar (n % 16) :: text)

theorem length_hexText : ∀ (k n : Nat) (text : List Char), (hexText k n text).length = k + text.length
  | 0, n, text => by simp [hexText]
  | k + 1, n, text => by
    rw [hexText, length_hexText k, List.length_cons]
    omega

theorem isHex_hexText : ∀ (k n : Nat) {text : List Char},
    (∀ c ∈ text, (c.isDigit || (decide ('a' ≤ c) && decide (c ≤ 'f'))) = true) →
      ∀ c ∈ hexText k n text, (c.isDigit || (decide ('a' ≤ c) && decide (c ≤ 'f'))) = true
  | 0, n, text, h => h
  | k + 1, n, text, h => isHex_hexText k (n / 16) (fun c hc => by
    rcases List.mem_cons.1 hc with rfl | hc
    · have hlt : n % 16 < 16 := Nat.mod_lt _ (by decide)
      generalize n % 16 = m at hlt
      revert m
      decide
    · exact h c hc)

def Digest.ofNat (n : Nat) : Digest where
  hex := String.ofList (hexText 64 n [])
  isHex := isLowerHex_ofList (by
    rw [length_hexText, Bool.and_eq_true, List.all_eq_true]
    exact ⟨rfl, isHex_hexText 64 n (fun c hc => by cases hc)⟩)

theorem take_ofNat (n k : Nat) : (Digest.ofNat n).take k = String.ofList ((hexText 64 n []).take k) := by
  unfold Digest.take Digest.ofNat
  rw [String.toList_ofList]

theorem take_ofNat_ne {m n k : Nat} (h : (hexText 64 m []).take k ≠ (hexText 64 n []).take k) :
    (Digest.ofNat m).take k ≠ (Digest.ofNat n).take k := by
  rw [take_ofNat, take_ofNat]
  exact fun heq => h (by rw [← String.toList_ofList (l := (hexText 64 m []).take k), heq, String.toList_ofList])

/-! ## Fields -/

def invalidField (field reason : String) : StoreError := .validation ("invalid " ++ field ++ ": " ++ reason)

def validateIdentifier (value field : String) : Except StoreError Unit :=
  ensure (isSafeOperatorControlIdentifier value) (invalidField field
    (if value == "" || decide (160 < value.utf8ByteSize) then "must be non-empty and bounded"
     else "contains a path-unsafe character"))

def validateText (value field : String) (maximum : Nat) : Except StoreError Unit :=
  ensure (!(Session.trim value == "") && decide (value.toList.length ≤ maximum))
    (invalidField field "must be non-empty and bounded")

def isHexDigit (c : Char) : Bool :=
  c.isDigit || (decide ('a' ≤ c) && decide (c ≤ 'f')) || (decide ('A' ≤ c) && decide (c ≤ 'F'))

def validateHex (value field : String) (length : Nat) : Except StoreError Unit :=
  ensure (decide (value.toList.length = length) && value.toList.all isHexDigit)
    (invalidField field "must be fixed-length hexadecimal")

def validateLowerHex (value field : String) (length : Nat) : Except StoreError Unit :=
  ensure (isLowerHex value length) (invalidField field "must be fixed-length lowercase hexadecimal")

def validateBoundedTexts (values : List String) (field : String) (maximumItems maximumLen : Nat) :
    Except StoreError Unit := do
  ensure (decide (values.length ≤ maximumItems)) (invalidField field "exceeds the bounded item limit")
  values.forM (fun v => validateText v field maximumLen)

def validateOptional (value : Option String) (field : String) : Except StoreError Unit :=
  match value with
  | none   => .ok ()
  | some v => validateIdentifier v field

def validateDigest (claimed : String) (actual : Digest) (field : String) : Except StoreError Unit := do
  validateLowerHex claimed field 64
  ensure (actual.hex == claimed) (invalidField field "does not match the canonical payload")

def maxConditionPayloadBytes : Nat := 262144

/-! ## JSON of a record -/

def ofInt (n : Int) : Value := if n < 0 then .num (.neg n.natAbs) else .num (.pos n.natAbs)

def ofNat (n : Nat) : Value := .num (.pos n)

def ofOption {α : Type} (f : α → Value) (o : Option α) : Value := (o.map f).getD .null

def ofTexts (l : List String) : Value := .arr (l.map Value.str)

/-- `i64::try_from`, for a `u64`. -/
def toI64 (n : Nat) (field : String) : Except StoreError Int :=
  if fitsI64 n then .ok n else .error (.validation (field ++ " exceeds SQLite integer range"))

/-! ## What the checks give -/

theorem ensure_bind_ok {ε α : Type} {b : Bool} {e : ε} {f : Unit → Except ε α} {a : α} :
    (ensure b e >>= f) = .ok a ↔ b = true ∧ f () = .ok a := by
  cases b with
  | false => simp
  | true => simp

theorem ensure_ok_iff {ε : Type} {b : Bool} {e : ε} : ensure b e = .ok () ↔ b = true := by
  cases b with
  | false => simp
  | true => simp

theorem bind_unit_ok {ε α : Type} {x : Except ε Unit} {f : Unit → Except ε α} {a : α} :
    (x >>= f) = .ok a ↔ x = .ok () ∧ f () = .ok a := by
  cases x with
  | error e => simp
  | ok u => simp

@[simp] theorem validateIdentifier_ok {value field : String} :
    validateIdentifier value field = .ok () ↔ isSafeOperatorControlIdentifier value = true := ensure_ok_iff

@[simp] theorem validateLowerHex_ok {value field : String} {length : Nat} :
    validateLowerHex value field length = .ok () ↔ isLowerHex value length = true := ensure_ok_iff

@[simp] theorem validateDigest_ok {claimed field : String} {actual : Digest} :
    validateDigest claimed actual field = .ok () ↔ actual.hex = claimed := by
  unfold validateDigest
  rw [bind_unit_ok, validateLowerHex_ok, ensure_ok_iff, beq_iff_eq]
  refine ⟨fun h => h.2, fun h => ⟨?_, h⟩⟩
  rw [← h]
  exact actual.isHex

theorem length_take (d : Digest) {n : Nat} (hn : n ≤ 64) : (d.take n).toList.length = n := by
  have h := d.isHex
  simp only [isLowerHex, Bool.and_eq_true, decide_eq_true_eq] at h
  simp only [Digest.take, String.toList_ofList, List.length_take, h.1]
  omega

theorem isLowerHex_take (d : Digest) {n : Nat} (hn : n ≤ 64) : isLowerHex (d.take n) n = true := by
  have h := d.isHex
  simp only [isLowerHex, Bool.and_eq_true, decide_eq_true_eq, List.all_eq_true] at h ⊢
  refine ⟨length_take d hn, fun c hc => ?_⟩
  simp only [Digest.take, String.toList_ofList] at hc
  exact h.2 c (List.mem_of_mem_take hc)

end Control
end Bildr
