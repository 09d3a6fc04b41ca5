import Bildr.CanonicalJson
import Bildr.Store
/-!
# Contracts — receipts and digests of the promotion contracts

A contract names other records by receipts and carries the digest of its own canonical JSON without that digest.
SHA-256 and the text of a JSON value are outside the repository: every digest is taken by a function of the value.
-/
namespace Bildr
namespace Promotion

open Json (Value canonical)

inductive ContractError
  | invalid | digest | hardGate | stageOrder | stopped | budget | stale | missing
deriving DecidableEq, Repr

/-! ## Canonical JSON -/

/-- `digest_without_self` of an object with these fields. -/
def digestWithoutSelf (digestJson : Value → String) (fields : List (String × Value)) : String :=
  digestJson (canonical (.obj (fields.filter (fun f => f.1 != "sha256"))))

def ofWord (n : UInt64) : Value := .num (.pos n.toNat)

/-! ## Names -/

def isDigest (value : String) : Bool :=
  value.utf8ByteSize == 64 && value.toList.all (fun c => c.isDigit || (decide ('a' ≤ c) && decide (c ≤ 'f')))

def isId (value : String) : Bool :=
  !value.isEmpty && decide (value.utf8ByteSize ≤ 128) &&
    value.toList.all (fun c => c.isAlphanum || ['_', '-', '.', ':'].contains c)

/-! ## Receipts -/

inductive ReceiptKind
  | offline | holdout | shadow | canary | rewardIntegrity | statistics | independentReview | operatorApproval | promotion
  | rollback | hardGate | isolationCustody | assignment | fallback | operatorStart | telemetry | candidate
  | championBundle | challengerBundle
deriving DecidableEq, Repr

def ReceiptKind.name : ReceiptKind → String
  | .offline           => "offline"
  | .holdout           => "holdout"
  | .shadow            => "shadow"
  | .canary            => "canary"
  | .rewardIntegrity   => "reward_integrity"
  | .statistics        => "statistics"
  | .independentReview => "independent_review"
  | .operatorApproval  => "operator_approval"
  | .promotion         => "promotion"
  | .rollback          => "rollback"
  | .hardGate          => "hard_gate"
  | .isolationCustody  => "isolation_custody"
  | .assignment        => "assignment"
  | .fallback          => "fallback"
  | .operatorStart     => "operator_start"
  | .telemetry         => "telemetry"
  | .candidate         => "candidate"
  | .championBundle    => "champion_bundle"
  | .challengerBundle  => "challenger_bundle"

structure Receipt where
  kind : ReceiptKind
  id : String
  digest : String
deriving DecidableEq, Repr

def Receipt.json (r : Receipt) : Value := .obj [("kind", .str r.kind.name), ("id", .str r.id), ("digest", .str r.digest)]

def Receipt.validAs (r : Receipt) (kind : ReceiptKind) : Bool := decide (r.kind = kind) && isId r.id && isDigest r.digest

end Promotion
end Bildr
