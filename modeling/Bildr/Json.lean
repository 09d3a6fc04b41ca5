import Mathlib.Data.List.Basic
/-!
# Json — JSON values

A value as a parser hands it over: integers without loss, other numbers by their text, objects as fields in order.
-/
namespace Json

inductive Num
  | pos (n : Nat)
  | neg (n : Nat)
  | float (text : String)
deriving DecidableEq, Repr

inductive Value
  | null
  | bool (b : Bool)
  | num (n : Num)
  | str (s : String)
  | arr (items : List Value)
  | obj (fields : List (String × Value))
deriving Repr

mutual
def Value.decEq : (v w : Value) → Decidable (v = w)
  | .null, .null => isTrue rfl
  | .bool a, .bool b => if h : a = b then isTrue (h ▸ rfl) else isFalse (fun e => h (Value.bool.inj e))
  | .num a, .num b => if h : a = b then isTrue (h ▸ rfl) else isFalse (fun e => h (Value.num.inj e))
  | .str a, .str b => if h : a = b then isTrue (h ▸ rfl) else isFalse (fun e => h (Value.str.inj e))
  | .arr a, .arr b =>
    match decEqItems a b with
    | isTrue h => isTrue (h ▸ rfl)
    | isFalse h => isFalse (fun e => h (Value.arr.inj e))
  | .obj a, .obj b =>
    match decEqFields a b with
    | isTrue h => isTrue (h ▸ rfl)
    | isFalse h => isFalse (fun e => h (Value.obj.inj e))
  | .null, .bool _ | .null, .num _ | .null, .str _ | .null, .arr _ | .null, .obj _ => isFalse nofun
  | .bool _, .null | .bool _, .num _ | .bool _, .str _ | .bool _, .arr _ | .bool _, .obj _ => isFalse nofun
  | .num _, .null | .num _, .bool _ | .num _, .str _ | .num _, .arr _ | .num _, .obj _ => isFalse nofun
  | .str _, .null | .str _, .bool _ | .str _, .num _ | .str _, .arr _ | .str _, .obj _ => isFalse nofun
  | .arr _, .null | .arr _, .bool _ | .arr _, .num _ | .arr _, .str _ | .arr _, .obj _ => isFalse nofun
  | .obj _, .null | .obj _, .bool _ | .obj _, .num _ | .obj _, .str _ | .obj _, .arr _ => isFalse nofun

def decEqItems : (v w : List Value) → Decidable (v = w)
  | [], [] => isTrue rfl
  | v :: vs, w :: ws =>
    match Value.decEq v w, decEqItems vs ws with
    | isTrue h, isTrue h' => isTrue (h ▸ h' ▸ rfl)
    | isFalse h, _ => isFalse (fun e => h (List.cons.inj e).1)
    | _, isFalse h => isFalse (fun e => h (List.cons.inj e).2)
  | [], _ :: _ | _ :: _, [] => isFalse nofun

def decEqFields : (v w : List (String × Value)) → Decidable (v = w)
  | [], [] => isTrue rfl
  | (k, v) :: vs, (l, w) :: ws =>
    match decEq k l, Value.decEq v w, decEqFields vs ws with
    | isTrue h, isTrue h', isTrue h'' => isTrue (h ▸ h' ▸ h'' ▸ rfl)
    | isFalse h, _, _ => isFalse (fun e => h (congrArg Prod.fst (List.cons.inj e).1))
    | _, isFalse h, _ => isFalse (fun e => h (congrArg Prod.snd (List.cons.inj e).1))
    | _, _, isFalse h => isFalse (fun e => h (List.cons.inj e).2)
  | [], _ :: _ | _ :: _, [] => isFalse nofun
end

instance : DecidableEq Value := Value.decEq

def Value.get (v : Value) (key : String) : Option Value :=
  match v with
  | .obj fields => fields.lookup key
  | _           => none

def Value.asStr : Value → Option String
  | .str s => some s
  | _      => none

def Value.asU64 : Value → Option Nat
  | .num (.pos n) => if n ≤ 18446744073709551615 then some n else none
  | _             => none

def Value.asArray : Value → Option (List Value)
  | .arr items => some items
  | _          => none

def Value.find (v : Value) : List String → Option Value
  | []          => some v
  | key :: path => (v.get key).bind (fun w => w.find path)

def Value.findText (v : Value) (path : List String) : Option String := (v.find path).bind Value.asStr

def Value.findU64 (v : Value) (path : List String) : Option Nat := (v.find path).bind Value.asU64

/-- `insert` into fields that are sorted by key. -/
def insertField (key : String) (v : Value) : List (String × Value) → List (String × Value)
  | [] => [(key, v)]
  | (k, w) :: fields =>
    if key = k then (key, v) :: fields
    else if key < k then (key, v) :: (k, w) :: fields
    else (k, w) :: insertField key v fields

/-- `insert` into a value that is an object. -/
def Value.put (v : Value) (key : String) (w : Value) : Value :=
  match v with
  | .obj fields => .obj (insertField key w fields)
  | v           => v

/-! ## Text -/

def Num.text : Num → String
  | .pos n      => toString n
  | .neg n      => "-" ++ toString n
  | .float text => text

mutual
/-- The compact text of a value whose strings have nothing to escape. -/
def Value.text : Value → String
  | .null       => "null"
  | .bool b     => if b then "true" else "false"
  | .num n      => n.text
  | .str s      => "\"" ++ s ++ "\""
  | .arr items  => "[" ++ textItems items ++ "]"
  | .obj fields => "\x7b" ++ textFields fields ++ "\x7d"

def textItems : List Value → String
  | []           => ""
  | [v]          => v.text
  | v :: w :: vs => v.text ++ "," ++ textItems (w :: vs)

def textFields : List (String × Value) → String
  | []                => ""
  | [(k, v)]          => "\"" ++ k ++ "\":" ++ v.text
  | (k, v) :: f :: vs => "\"" ++ k ++ "\":" ++ v.text ++ "," ++ textFields (f :: vs)
end

end Json
