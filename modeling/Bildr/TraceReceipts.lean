import Bildr.CanonicalJson
import Bildr.Store
import Mathlib.Data.List.Infix
import Mathlib.Data.Prod.Lex
import Mathlib.Data.String.Basic
import Mathlib.Order.WithBot
/-!
# TraceReceipts — what the trace projector reads and writes

Raw protocol events, domain events and structural receipts go in; a manifest of nodes, edges, branches and diagnostics
comes out.  SHA-256 is outside the repository: `Hashes` gives the digest of a list of parts, each ended by a NUL, and of
a payload's text.
-/
namespace Bildr
namespace TraceDag

open Json (Value)

/-! ## Receipts -/

structure RawEventReceipt where
  id : Int
  executionScopeId : Option String
  lifecycleGroupId : Option String
  threadId : Option String
  turnId : Option String
  direction : String
  method : String
  requestId : Option String
  receivedAt : Int
  payload : Value
  payloadSha256 : String
  sourceSequence : Option String
  redactionClass : String
deriving DecidableEq

structure StructuralReceipt where
  id : String
  kind : String
  occurredAt : Option Int
  metadata : List (String × Value)
deriving DecidableEq

structure DomainEventReceipt where
  id : Int
  eventType : String
  occurredAt : Int
  payload : Value
  payloadSha256 : String
  redactionClass : String
deriving DecidableEq

inductive TraceRelationKind
  | next | contextParent | toolResultOf | spawnedBy | joinedInto | compactedFrom | retryOf | derivedFrom | supersedes
deriving DecidableEq, Repr

structure RelationInput where
  source : String
  target : String
  kind : TraceRelationKind
deriving DecidableEq, Repr

structure TraceInput where
  traceId : String
  runId : String
  taskAttemptId : Option String
  runtimeDigest : String
  redactionPolicyDigest : String
  sensitivity : String
  rawEvents : List RawEventReceipt
  domainEvents : List DomainEventReceipt
  structuralReceipts : List StructuralReceipt
  relations : List RelationInput
deriving DecidableEq

/-! ## Manifests -/

inductive SourceReceipt
  | rawEvent (id : Int)
  | domainEvent (id : Int)
  | structural (receiptId : String)
deriving DecidableEq, Repr

structure TraceNode where
  id : String
  kind : String
  contentSha256 : String
  sourceReceipts : List SourceReceipt
  redactionClass : String
  timestampMs : Option Int
  metadata : List (String × Value)
deriving DecidableEq

structure TraceEdge where
  source : String
  target : String
  kind : TraceRelationKind
deriving DecidableEq, Repr

structure TraceBranch where
  id : String
  rootNodeId : String
  leafNodeId : String
  nodeIds : List String
  metadata : List (String × Value)
deriving DecidableEq

structure ProjectionDiagnostic where
  code : String
  detail : String
  sourceReceipts : List SourceReceipt
deriving DecidableEq, Repr

structure SourceEventRange where
  firstId : Int
  lastId : Int
deriving DecidableEq, Repr

structure TraceManifest where
  schema : String
  traceId : String
  runId : String
  taskAttemptId : Option String
  sourceEventRange : Option SourceEventRange
  runtimeDigest : String
  redactionPolicyDigest : String
  sensitivity : String
  nodes : List TraceNode
  edges : List TraceEdge
  branches : List TraceBranch
  diagnostics : List ProjectionDiagnostic
  sha256 : String
deriving DecidableEq

inductive ProjectionError
  | emptyInput
  | duplicateRawReceipt (id : Int)
  | duplicateStructuralReceipt (id : String)
  | invalidInput (field value : String)
  | payloadDigestMismatch (receipt : String)
  | unknownRelationReceipt (key : String)
  | cycle (source target : String)
deriving DecidableEq, Repr

/-- How a call ends without a result: an error, or an expectation of the code that does not hold. -/
inductive Halt
  | error (e : ProjectionError)
  | panic
deriving DecidableEq, Repr

/-! ## Texts -/

/-- `strip_prefix`, `starts_with`. -/
def stripPrefix (lead : String) (value : String) : Option String :=
  if lead.toList <+: value.toList then some (String.ofList (value.toList.drop lead.toList.length)) else none

def containsText (value part : String) : Bool := decide (part.toList <:+: value.toList)

def isDigest (value : String) : Bool :=
  value.utf8ByteSize == 64 && value.toList.all (fun c => c.isDigit || (decide ('a' ≤ c) && decide (c ≤ 'f')))

def safeChar (c : Char) : Bool := c.isAlphanum || ['_', '-', '.', ':'].contains c

def safeTraceId (value : String) : Bool :=
  !value.isEmpty && decide (value.utf8ByteSize ≤ 128) && value.toList.all safeChar

def safeControllerId (value : String) : Bool :=
  !value.isEmpty && decide (value.utf8ByteSize ≤ 160) && value.toList.all safeChar

structure Hashes where
  /-- The hexadecimal SHA-256 of parts, each ended by a NUL. -/
  digest : List String → String
  payloadDigest : Value → String
  digestHex : ∀ parts, isDigest (digest parts) = true
  payloadHex : ∀ payload, isDigest (payloadDigest payload) = true

/-- `canonical_json` of a value whose strings have nothing to escape. -/
def canonicalJson (v : Value) : String := (Json.canonical v).text

/-! ## Source sequences -/

abbrev Sequence : Type := ℕ ×ₗ String

def validSequence (value : String) : Option Sequence :=
  let normalized := (stripPrefix "+" value).getD value
  if !normalized.isEmpty && normalized.toList.all Char.isDigit &&
      (normalized == "0" || normalized.toList.head? != some '0') then
    some (toLex (normalized.utf8ByteSize, normalized))
  else none

/-- `event.source_sequence` as a valid sequence. -/
def RawEventReceipt.sequence (e : RawEventReceipt) : Option Sequence := e.sourceSequence.bind validSequence

/-- A sequence or none, which comes first, then the time and the id. -/
abbrev EventOrder : Type := WithBot Sequence ×ₗ ℤ ×ₗ ℤ

def eventOrder (e : RawEventReceipt) : EventOrder := toLex (e.sequence, toLex (e.receivedAt, e.id))

/-! ## Redaction -/

def shape : Value → Value
  | .obj fields => .obj [("object_fields", .num (.pos fields.length))]
  | .arr items  => .obj [("array_items", .num (.pos items.length))]
  | .str _      => .str "[redacted]"
  | .num _      => .str "[number]"
  | .bool _     => .str "[boolean]"
  | .null       => .null

def reasoning (payload : Value) (inputClass : String) : Bool :=
  payload.findText ["item", "type"] == some "reasoning" || containsText inputClass "reasoning"

def outputClass (payload : Value) (inputClass : String) : String :=
  if reasoning payload inputClass then "private_reasoning_removed"
  else if containsText inputClass "secret" then "secret_removed"
  else if containsText inputClass "customer" then "customer_data_removed"
  else "content_withheld"

def redact (payload : Value) (inputClass : String) : Value × String :=
  (.obj [("redacted", .str (outputClass payload inputClass)), ("method_shape", shape payload)],
    outputClass payload inputClass)

end TraceDag
end Bildr
