import Bildr.Json
/-!
# CanonicalJson — JSON with its keys in order

A value whose objects have their fields by key; two records that agree in their fields have one canonical text.
-/
namespace Json

mutual
def canonical : Value → Value
  | .obj fields => .obj (canonicalFields fields)
  | .arr items  => .arr (canonicalItems items)
  | v           => v

def canonicalItems : List Value → List Value
  | []      => []
  | v :: vs => canonical v :: canonicalItems vs

def canonicalFields : List (String × Value) → List (String × Value)
  | []           => []
  | (k, v) :: vs => insertField k (canonical v) (canonicalFields vs)
end

end Json
