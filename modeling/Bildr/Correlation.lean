import Bildr.ControlWire
import Bildr.Dfs
import Bildr.SortedSet
import Mathlib.Data.String.Basic
/-!
# Correlation — causal links between records

A link says that one record led to another, under a trace.  The links of a trace form a graph whose nodes are the texts
`trace:kind:id`; a link is stored only if the graph with it has at most 8192 links, no link twice and no cycle
(`validateCausalLinks`).  The columns of a row are fields of its payload, so a row is the link.
-/
namespace Bildr
namespace Control

open Improvement (isLowerHex)

structure TraceContext where
  traceId : String
  spanId : String
  parentSpanId : Option String
deriving DecidableEq, Repr

def allZero (value : String) : Bool := value.toList.all (fun c => c == '0')

theorem allZero_ofNat (n k : Nat) :
    allZero ((Digest.ofNat n).take k) = ((hexText 64 n []).take k).all (fun c => c == '0') := by
  unfold allZero
  rw [take_ofNat, String.toList_ofList]

def TraceContext.validate (t : TraceContext) : Except StoreError Unit := do
  validateLowerHex t.traceId "trace id" 32
  validateLowerHex t.spanId "span id" 16
  ensure (!(allZero t.traceId || allZero t.spanId))
    (invalidField "trace context" "trace and span identifiers must not be all zeroes")
  match t.parentSpanId with
  | none => .ok ()
  | some parent => do
    validateLowerHex parent "parent span id" 16
    ensure (!(allZero parent || parent == t.spanId))
      (invalidField "parent span id" "must not be all zeroes or equal the current span id")

structure CorrelationLink where
  schema : String
  linkId : String
  trace : TraceContext
  fromKind : String
  fromId : String
  toKind : String
  toId : String
  relation : String
  createdAtMs : Int
deriving DecidableEq, Repr

def CorrelationLink.validate (l : CorrelationLink) : Except StoreError Unit := do
  ensure (l.schema == "harness.correlation-link.v1")
    (invalidField "correlation schema" "must be harness.correlation-link.v1")
  l.trace.validate
  validateIdentifier l.fromKind "correlation from kind"
  validateIdentifier l.fromId "correlation from id"
  validateIdentifier l.toKind "correlation to kind"
  validateIdentifier l.toId "correlation to id"
  validateIdentifier l.relation "correlation relation"
  ensure (!(l.fromKind == l.toKind && l.fromId == l.toId))
    (invalidField "correlation link" "must connect distinct source records")

/-! ## The graph of a trace -/

def node (trace kind id : String) : String := trace ++ ":" ++ kind ++ ":" ++ id

def CorrelationLink.source (l : CorrelationLink) : String := node l.trace.traceId l.fromKind l.fromId

def CorrelationLink.target (l : CorrelationLink) : String := node l.trace.traceId l.toKind l.toId

def CorrelationLink.causality (l : CorrelationLink) : String × String × String × String :=
  (l.trace.traceId, l.source, l.target, l.relation)

def adjacent (links : List CorrelationLink) (n : String) : List String :=
  SortedSet.ofList ((links.filter (fun l => l.source == n)).map CorrelationLink.target)

def nodes (links : List CorrelationLink) : List String :=
  SortedSet.ofList (links.map CorrelationLink.source ++ links.map CorrelationLink.target)

def admitLinks : List (String × String × String × String) → List CorrelationLink → Except StoreError Unit
  | _, [] => .ok ()
  | met, l :: links => do
    l.validate
    ensure (!met.contains l.causality) (.validation "invalid W3C traceparent: duplicate causal link")
    admitLinks (l.causality :: met) links

def walk (links : List CorrelationLink) : Except (Dfs.Stop String) (Dfs.Marks String) :=
  Dfs.visitAll (adjacent links) ((nodes links).length + 1) (nodes links) Dfs.Marks.none

def validateCausalLinks (links : List CorrelationLink) : Except StoreError Unit := do
  ensure (decide (links.length ≤ 8192)) (.validation "too many correlation links")
  admitLinks [] links
  match walk links with
  | .ok _             => .ok ()
  | .error (.cycle n) => .error (.validation ("correlation causal graph contains a cycle at " ++ n))
  | .error .fuel      => .error (.validation "") -- never taken, see `walk_cases`

/-! ## The table -/

abbrev Links := Table CorrelationLink.linkId

/-- `ORDER BY created_at,id`. -/
def linkBefore (a b : CorrelationLink) : Bool :=
  decide (a.createdAtMs < b.createdAtMs) || (decide (a.createdAtMs = b.createdAtMs) && decide (a.linkId ≤ b.linkId))

def linksOf (t : Links) (trace : String) : List CorrelationLink := t.rows.filter (fun l => l.trace.traceId == trace)

/-- `WHERE trace_id=… ORDER BY created_at,id LIMIT …`. -/
def linkPage (t : Links) (trace : String) (limit : Nat) : List CorrelationLink :=
  ((linksOf t trace).insertionSort (fun a b => linkBefore a b = true)).take limit

/-- The columns of `UNIQUE(trace_id,from_kind,from_id,to_kind,to_id,relation)`. -/
def CorrelationLink.columns (l : CorrelationLink) : List String :=
  [l.trace.traceId, l.fromKind, l.fromId, l.toKind, l.toId, l.relation]

/-- `checked_link_row`: a row whose payload fails its checks cannot be read. -/
def readLinks (rows : List CorrelationLink) : Except StoreError Unit :=
  ensure (rows.all (fun l => l.validate.isOk)) (.sqlite .fromSqlConversionFailure)

def recordCorrelationLinkInTransaction (t : Links) (l : CorrelationLink) : Except StoreError Links := do
  l.validate
  match t.get l.linkId with
  | some existing =>
    ensure (existing == l) (.conflict "correlation link id already has a different immutable payload")
    return t
  | none =>
    readLinks (linkPage t l.trace.traceId 8192)
    validateCausalLinks (linkPage t l.trace.traceId 8192 ++ [l])
    require (!t.rows.any (fun r => r.columns == l.columns))
    insertRow t l

def recordCorrelationLink (l : CorrelationLink) : Call Links CorrelationLink := fun t =>
  match l.validate with
  | .error e => (.error e, t)
  | .ok _ => transaction (fun t => recordCorrelationLinkInTransaction t l >>= fun t' => .ok (l, t')) t

def requireCorrelationLinkInTransaction (t : Links) (l : CorrelationLink) : Except StoreError Unit := do
  l.validate
  let existing ← okOr (t.get l.linkId)
    (.conflict "existing immutable record is missing its causal correlation link")
  readLinks [existing]
  ensure (existing == l) (.conflict "existing immutable record has a different causal correlation link")

def correlationLinks (traceId : String) (limit : Nat) (t : Links) : Except StoreError (List CorrelationLink) := do
  ensure (isLowerHex traceId 32 && !(limit == 0) && decide (limit ≤ 8192))
    (.validation "correlation trace id or page limit is invalid")
  readLinks (linkPage t traceId limit)
  validateCausalLinks (linkPage t traceId limit)
  return linkPage t traceId limit

end Control
end Bildr
